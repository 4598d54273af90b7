import SqlCheck.Text

/-! A text without what a terminal would act on instead of showing. Tabs and line ends are kept; the other
controls are dropped, and so are escape sequences, also one that the text leaves unfinished. A control
sequence ends with its final letter, a command string with the bell, any other sequence with its one final
character. The strings that are meant for a device end at the byte 9C, the string terminator, even where
this byte is only part of the UTF-8 form of a character; that character is lost with them. -/
namespace SqlCheck.Text

/-- How far into an escape sequence a text has come. -/
inductive Escape where
  | outside | begun | midway | control | command
  | deviceBegun | deviceNumbers | deviceMidway | string
  deriving Repr, DecidableEq

namespace Escape

def isLayout (c : Char) : Bool := c == '\t' || c == '\n' || c == '\x0c' || c == '\r'

/-- Controls that belong to the layout are shown in the middle of these sequences, and end them. -/
def yieldsToLayout : Escape → Bool
  | begun | midway | control => true
  | _ => false

def within (first last c : Char) : Bool := first ≤ c && c ≤ last

def hasTerminator (c : Char) : Bool := (String.utf8EncodeChar c).contains 0x9c

def afterBegun (c : Char) : Escape :=
  if c = '[' then control
  else if c = ']' then command
  else if c = 'P' then deviceBegun
  else if c = 'X' ∨ c = '^' ∨ c = '_' then string
  else if within ' ' '/' c then midway
  else if within '0' '~' c then outside
  else begun

/-- Where an ASCII character leads in the middle of a sequence. -/
def next (c : Char) (escape : Escape) : Escape :=
  match escape with
  | outside => outside
  | begun => afterBegun c
  | midway => if within '0' '~' c then outside else midway
  | control => if within '@' '~' c then outside else control
  | command => if c = '\x07' then outside else command
  | deviceBegun =>
      if within ' ' '/' c then deviceMidway
      else if within '0' '?' c then deviceNumbers
      else if within '@' '~' c then string
      else deviceBegun
  | deviceNumbers =>
      if within ' ' '/' c then deviceMidway else if within '<' '~' c then string else deviceNumbers
  | deviceMidway => if within '0' '~' c then string else deviceMidway
  | string => string

/-- Whether the character is shown, and what comes after it. -/
def step (c : Char) (escape : Escape) : Bool × Escape :=
  if c = '\x1b' then (false, begun)
  else if c = '\x18' ∨ c = '\x1a' then (false, outside)
  else if escape = outside then (isLayout c || (' ' ≤ c && c ≠ '\x7f'), outside)
  else if isLayout c ∧ escape.yieldsToLayout = true then (true, outside)
  else if '\x7f' < c then (false, if escape = string ∧ hasTerminator c = true then outside else escape)
  else (false, next c escape)

def shown : Escape → Text → Text
  | _, [] => []
  | escape, c :: rest =>
      let (shows, after) := escape.step c
      if shows then c :: shown after rest else shown after rest

end Escape

def printed (text : Text) : Text := Escape.shown .outside text

end SqlCheck.Text
