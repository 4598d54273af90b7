import SqlCheck.Text
import SqlCheck.Text.Extending
import SqlCheck.Text.Unprintable

/-! A text between double quotes, written so that every character of it can be seen: the quote, the
backslash and four control characters have escapes of two characters, and whatever leaves no mark of its
own is given by its code point in hexadecimal. -/
namespace SqlCheck.Text

/-- The fillers of the Korean alphabet are letters that are not shown. -/
def isFiller (c : Char) : Bool := c == '\u115f' || c == '\u1160' || c == '\u3164' || c == '\uffa0'

/-- The narrow voicing marks of Japanese take a place of their own, although they count as extending. -/
def isSpacingMark (c : Char) : Bool := c == '\uff9e' || c == '\uff9f'

/-- Whether a character shown on its own can be made out. -/
def leavesMark (c : Char) : Bool :=
  !isUnprintable c && !isFiller c && (!isExtending c || isSpacingMark c)

def escaped (c : Char) : Text :=
  if c = '"' then ['\\', '"']
  else if c = '\\' then ['\\', '\\']
  else if c = '\n' then ['\\', 'n']
  else if c = '\r' then ['\\', 'r']
  else if c = '\t' then ['\\', 't']
  else if c = '\x00' then ['\\', '0']
  else if leavesMark c then [c]
  else ['\\', 'u', '\x7b'] ++ Nat.toDigits 16 c.toNat ++ ['\x7d']

def quoted (text : Text) : Text := '"' :: text.flatMap escaped ++ ['"']

end SqlCheck.Text
