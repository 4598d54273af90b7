import SqlCheck.Text

/-! White space is the White_Space property of Unicode. A text is blank when it holds nothing but white
space and the null character: such a document has no SQL in it. -/
namespace SqlCheck.Text

def isWhiteSpace (c : Char) : Bool :=
  let code := c.toNat
  (9 ≤ code && code ≤ 13) || code == 0x20 || code == 0x85 || code == 0xA0 || code == 0x1680
    || (0x2000 ≤ code && code ≤ 0x200A) || code == 0x2028 || code == 0x2029 || code == 0x202F
    || code == 0x205F || code == 0x3000

def isBlank (text : Text) : Bool := text.all fun c => isWhiteSpace c || c == '\x00'

end SqlCheck.Text
