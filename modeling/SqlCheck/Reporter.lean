import SqlCheck.Ink
import SqlCheck.Text.Visible

/-! How a run reports on its documents. The `text` form is for people: it announces each document, quotes
the offending token and says when all is well. The `emacs` form is for editors: a line per error that
begins with the place of the error, and nothing else; since its lines carry the document's name, the
reporter remembers the name it was last given. Each report is written as one piece. -/
namespace SqlCheck

inductive ReportForm where
  | text | emacs
  deriving Repr, DecidableEq

namespace ReportForm

def all : List ReportForm := [text, emacs]

def name : ReportForm → Text
  | text => "text".toList
  | emacs => "emacs".toList

def ofName? (name : Text) : Option ReportForm := all.find? fun form => form.name == name

end ReportForm

/-- Escape sequences are written where the reporter is to use colours and the terminal is to get any. -/
inductive Reporter where
  | text (inColour enabled : Bool)
  | emacs (document : Text)

namespace Reporter

def create (inColour enabled : Bool) : ReportForm → Reporter
  | .text => .text inColour enabled
  | .emacs => .emacs []

def decimal (n : Nat) : Text := Nat.toDigits 10 n

def flatten (message : Text) : Text := message.map fun c => if c = '\n' then ' ' else c

/-- Editors count columns from 1, in words of 64 bits. Line 0 stands for the document as a whole and has
column 0. -/
def editorColumn (line column : Nat) : Nat := if line = 0 then 0 else (column + 1) % UInt64.size

def turnTo (document : Text) : Reporter → Reporter
  | text inColour enabled => text inColour enabled
  | emacs _ => emacs document

def announcement (document : Text) : Reporter → Text
  | text _ _ => "Checking SQL syntax of ".toList ++ document ++ ['\n']
  | emacs _ => []

def complaint (message token : Text) (line column : Nat) : Reporter → Text
  | text inColour enabled =>
      " Line ".toList ++ decimal line ++ ", col ".toList ++ decimal column ++ " at \"".toList
        ++ token.visible ++ "\": ".toList
        ++ (if inColour then Ink.red.apply enabled message else message) ++ ['\n']
  | emacs document =>
      document ++ [':'] ++ decimal line ++ [':'] ++ decimal (editorColumn line column)
        ++ ": error: ".toList ++ flatten message ++ ['\n']

def approval : Reporter → Text
  | text inColour enabled =>
      [' '] ++ (if inColour then Ink.green.apply enabled "OK".toList else "OK".toList) ++ ['\n']
  | emacs _ => []

end Reporter
end SqlCheck
