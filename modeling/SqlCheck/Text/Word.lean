import SqlCheck.Text.Alphanumeric
import SqlCheck.Text.Blank

/-! The token that stands at an offset: a whole run of word characters, or one character that is neither
a word character nor white space, or nothing. -/
namespace SqlCheck.Text

def isWordChar (c : Char) : Bool := isAlphanumeric c || c == '_'

def leadingToken : Text → Text
  | [] => []
  | c :: rest =>
      if isWordChar c then c :: rest.takeWhile isWordChar else if isWhiteSpace c then [] else [c]

def tokenFrom (text : Text) (offset : Nat) : Text := ((text.after? offset).map leadingToken).getD []

end SqlCheck.Text
