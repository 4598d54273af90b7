import SqlCheck.Text

/-! The lines of a text and where each of them begins. Only the line feed ends a line, so a text has one
line more than it has line feeds. Lines count from 1. A column of a `Position` counts bytes from 0; a
column that is asked for by `offset?` counts characters, because that is how parsers report theirs. -/
namespace SqlCheck

structure Position where
  line : Nat
  column : Nat
  deriving Repr, DecidableEq

structure LineTable where
  starts : Array Nat

namespace LineTable

/-- The offsets behind the line feeds of a text that itself begins at `offset`. -/
def startsFrom (offset : Nat) : Text → List Nat
  | [] => []
  | c :: rest =>
      let next := offset + c.utf8Size
      if c = '\n' then next :: startsFrom next rest else startsFrom next rest

def ofText (text : Text) : LineTable := ⟨(0 :: startsFrom 0 text).toArray⟩

def lineCount (table : LineTable) : Nat := table.starts.size

/-- The first number from `low` on, and at most `high`, for which `holds` fails. The search halves the
interval, which is right as long as `holds` never comes back after it has failed. -/
def firstFailure (holds : Nat → Bool) (low high : Nat) : Nat :=
  if low < high then
    let middle := (low + high) / 2
    if holds middle then firstFailure holds (middle + 1) high else firstFailure holds low middle
  else low
termination_by high - low

def startsBy (table : LineTable) (offset index : Nat) : Bool :=
  table.starts[index]?.any fun start => decide (start ≤ offset)

/-- Offsets past the end of the text land on its last line. -/
def position (table : LineTable) (offset : Nat) : Position :=
  let line := firstFailure (table.startsBy offset) 0 table.lineCount
  ⟨line, offset - table.starts[line - 1]?.getD 0⟩

/-- Where a line begins; numbers outside the table stand for its first or its last line. -/
def lineStart (table : LineTable) (line : Nat) : Nat :=
  table.starts[max 1 (min line table.lineCount) - 1]?.getD 0

/-- The offset of a character of a line, or of the end of the line where it has fewer characters. The
table may have been made for another text; there is no answer when the line it names would begin inside
a character. -/
def offset? (table : LineTable) (text : Text) (line column : Nat) : Option Nat :=
  let start := min (table.lineStart line) text.size
  (text.after? start).map fun rest => start + Text.size (rest.line.take column)

end LineTable
end SqlCheck
