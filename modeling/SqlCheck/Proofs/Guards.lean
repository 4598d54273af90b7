import SqlCheck.Proofs.Documents
import SqlCheck.Proofs.Tokens

/-! The way from a violation to its report once more, with a guard in front of every step that has no answer for some
numbers: an entry that a list may not have, a cut that may fall into a character, a difference that may go below zero,
a sum that may need more than 64 bits. No guard stops the way for any violation, and what it comes to is the report
that is made without guards; so those steps are never taken where they have no answer. -/
namespace SqlCheck

inductive Trap where
  | emptyInterval | noEntry | splitCharacter | belowZero | overflow
  deriving Repr, DecidableEq

abbrev Guarded (Value : Type) := Except Trap Value

namespace Guarded
open Text

def clamp (low high n : Nat) : Guarded Nat :=
  if low ≤ high then .ok (max low (min n high)) else .error .emptyInterval

def plus (m n : Nat) : Guarded Nat := if m + n < UInt64.size then .ok (m + n) else .error .overflow

def minus (m n : Nat) : Guarded Nat := if n ≤ m then .ok (m - n) else .error .belowZero

def entry (list : Array Nat) (index : Nat) : Guarded Nat :=
  match list[index]? with
  | some value => .ok value
  | none => .error .noEntry

def after (text : Text) (offset : Nat) : Guarded Text :=
  match text.after? offset with
  | some rest => .ok rest
  | none => .error .splitCharacter

def before (text : Text) (offset : Nat) : Guarded Text :=
  match text.before? offset with
  | some front => .ok front
  | none => .error .splitCharacter

theorem bind_ok {Value Next : Type} (value : Value) (next : Value → Guarded Next) :
    ((.ok value : Guarded Value) >>= next) = next value := rfl

theorem clamp_ok {low high : Nat} (ordered : low ≤ high) (n : Nat) : clamp low high n = .ok (max low (min n high)) :=
  if_pos ordered

theorem plus_ok {m n : Nat} (fits : m + n < UInt64.size) : plus m n = .ok (m + n) := if_pos fits

theorem minus_ok {m n : Nat} (enough : n ≤ m) : minus m n = .ok (m - n) := if_pos enough

theorem entry_ok {list : Array Nat} {index value : Nat} (listed : list[index]? = some value) :
    entry list index = .ok value := by
  rw [entry, listed]

theorem after_ok (front back : Text) : after (front ++ back) front.size = .ok back := by
  rw [after, after_size_append]

theorem before_ok (front back : Text) : before (front ++ back) front.size = .ok front := by
  rw [before, before_size_append]

def startsFrom (offset : Nat) : Text → Guarded (List Nat)
  | [] => return []
  | c :: rest => do
      let next ← plus offset c.utf8Size
      let later ← startsFrom next rest
      return if c = '\n' then next :: later else later

def table (sql : Text) : Guarded LineTable := do
  let later ← startsFrom 0 sql
  return ⟨(0 :: later).toArray⟩

/-- The search of the line table, which may have to read an entry for each question. -/
def firstFailure (holds : Nat → Guarded Bool) (low high : Nat) : Guarded Nat :=
  if low < high then do
    let middle := (low + high) / 2
    if ← holds middle then firstFailure holds (middle + 1) high else firstFailure holds low middle
  else return low
termination_by high - low

def startsBy (table : LineTable) (offset index : Nat) : Guarded Bool := do
  let start ← entry table.starts index
  return decide (start ≤ offset)

def position (table : LineTable) (offset : Nat) : Guarded Position := do
  let line ← firstFailure (startsBy table offset) 0 table.lineCount
  let start ← entry table.starts (← minus line 1)
  return ⟨line, ← minus offset start⟩

def offset (table : LineTable) (text : Text) (line column : Nat) : Guarded Nat := do
  let number ← clamp 1 table.lineCount line
  let begun ← entry table.starts (← minus number 1)
  let start := min begun text.size
  let rest ← after text start
  plus start (size (rest.line.take column))

def leadingToken : Text → Guarded Text
  | [] => return []
  | c :: rest =>
      if isWordChar c then before (c :: rest) (size ((c :: rest).takeWhile isWordChar))
      else if isWhiteSpace c then return [] else before (c :: rest) c.utf8Size

def token (sql : Text) (violation : Violation) (offset : Nat) : Guarded Text :=
  match sql.slice? violation.start violation.stop with
  | some (c :: rest) => return c :: rest
  | _ => leadingToken ((sql.after? offset).getD [])

def finding (sql : Text) (table : LineTable) (violation : Violation) : Guarded Finding := do
  let offset ← offset table sql violation.line (violation.character - 1)
  let token ← token sql violation offset
  return ⟨violation.description, offset, token⟩

def editorColumn (line column : Nat) : Guarded Nat := if line = 0 then return 0 else plus column 1

def complaint (message token : Text) (line column : Nat) : Reporter → Guarded Text
  | .text inColour enabled => return (Reporter.text inColour enabled).complaint message token line column
  | .emacs document => do
      let shown ← editorColumn line column
      return document ++ [':'] ++ Reporter.decimal line ++ [':'] ++ Reporter.decimal shown ++ ": error: ".toList
        ++ Reporter.flatten message ++ ['\n']

def report (reporter : Reporter) (sql : Text) (violation : Violation) : Guarded Text := do
  let table ← table sql
  let finding ← finding sql table violation
  let place ← position table finding.offset
  complaint finding.message finding.token place.line place.column reporter

theorem startsFrom_eq {text : Text} {offset : Nat} (fits : offset + text.size < UInt64.size) :
    startsFrom offset text = .ok (LineTable.startsFrom offset text) := by
  induction text generalizing offset with
  | nil => rfl
  | cons c rest ih =>
      rw [size_cons] at fits
      have later := ih (show offset + c.utf8Size + size rest < UInt64.size by omega)
      rw [startsFrom, plus_ok (by omega), bind_ok, later, bind_ok, LineTable.startsFrom]
      rfl

theorem table_eq {sql : Text} (fits : sql.size < UInt64.size) : table sql = .ok (.ofText sql) := by
  rw [table, startsFrom_eq (by omega), bind_ok]
  rfl

theorem firstFailure_eq {holds : Nat → Guarded Bool} {total : Nat → Bool} {low high : Nat}
    (answered : ∀ index, index < high → holds index = .ok (total index)) :
    firstFailure holds low high = .ok (LineTable.firstFailure total low high) := by
  fun_induction LineTable.firstFailure total low high with
  | case1 low high wide middle held ih =>
      have answer : holds middle = .ok true := held ▸ answered middle (by omega)
      rw [firstFailure, if_pos wide]
      simp only [middle, answer, bind_ok, if_true]
      exact ih answered
  | case2 low high wide middle failed ih =>
      have answer : holds middle = .ok false := by
        rw [answered middle (by omega), Bool.eq_false_iff.mpr failed]
      rw [firstFailure, if_pos wide]
      simp only [middle, answer, bind_ok, if_false, Bool.false_eq_true]
      exact ih fun index below => answered index (by omega)
  | case3 low high narrow =>
      rw [firstFailure, if_neg narrow]
      rfl

theorem startsBy_eq {table : LineTable} {offset index : Nat} (known : index < table.lineCount) :
    startsBy table offset index = .ok (table.startsBy offset index) := by
  have listed : table.starts[index]? = some table.starts[index] := Array.getElem?_eq_getElem known
  rw [startsBy, entry_ok listed, bind_ok, LineTable.startsBy, listed]
  rfl

/-- Offset 0 has reached the first start, so the search never ends in front of it, and the start of the line that it
finds has been reached. -/
theorem position_eq (text : Text) (offset : Nat) :
    position (.ofText text) offset = .ok ((LineTable.ofText text).position offset) := by
  have one := LineTable.one_le_position_line text offset
  have listed := LineTable.starts_lineStart one (LineTable.position_line_le text offset)
  have begun := LineTable.lineStart_add_column text offset
  have searched : firstFailure (startsBy (.ofText text) offset) 0 (LineTable.ofText text).lineCount =
      .ok ((LineTable.ofText text).position offset).line := firstFailure_eq fun index below => startsBy_eq below
  have reached : (LineTable.ofText text).lineStart ((LineTable.ofText text).position offset).line ≤ offset := by omega
  have column : offset - (LineTable.ofText text).lineStart ((LineTable.ofText text).position offset).line =
      ((LineTable.ofText text).position offset).column := by omega
  rw [position, searched, bind_ok, minus_ok one, bind_ok, entry_ok listed, bind_ok, minus_ok reached, bind_ok, column]
  rfl

/-- A line of the text begins between two characters, and no column leads out of the text. -/
theorem offset_eq {text : Text} (fits : text.size < UInt64.size) (line column : Nat) :
    ∃ reached, (LineTable.ofText text).offset? text line column = some reached ∧
      offset (.ofText text) text line column = .ok reached := by
  obtain ⟨front, rest, rfl, begun, listed, -, -, reached⟩ := LineTable.offset_of_cut text line
  refine ⟨_, reached column, ?_⟩
  have one : 1 ≤ (LineTable.ofText (front ++ rest)).lineCount := by
    rw [LineTable.lineCount_ofText]
    exact Nat.le_add_left ..
  have within : min front.size (size (front ++ rest)) = front.size :=
    Nat.min_eq_left (size_prefix_le (List.prefix_append ..))
  have inside := (isBoundary_take front rest column).le_size
  rw [offset, clamp_ok one, LineTable.lineCount_ofText, bind_ok, minus_ok (Nat.le_max_left ..), bind_ok,
    entry_ok listed, bind_ok]
  simp only [within, after_ok, bind_ok]
  exact plus_ok (Nat.lt_of_le_of_lt inside fits)

/-- The table of another text can have a line begin inside a character. -/
example : offset (.ofText "a\nb".toList) "aé".toList 2 0 = .error .splitCharacter := by decide

theorem leadingToken_eq (text : Text) : leadingToken text = .ok text.leadingToken := by
  cases text with
  | nil => rfl
  | cons c rest =>
      by_cases word : isWordChar c = true
      · have run : (c :: rest).takeWhile isWordChar = c :: rest.takeWhile isWordChar := List.takeWhile_cons_of_pos word
        have cut := before_ok ((c :: rest).takeWhile isWordChar) ((c :: rest).dropWhile isWordChar)
        rw [List.takeWhile_append_dropWhile] at cut
        rw [leadingToken, if_pos word, cut, run, Text.leadingToken, if_pos word]
      · rw [leadingToken, if_neg word, Text.leadingToken, if_neg word]
        by_cases white : isWhiteSpace c = true
        · rw [if_pos white, if_pos white]
          rfl
        · rw [if_neg white, if_neg white]
          exact before_ok [c] rest

theorem token_eq (sql : Text) (table : LineTable) (violation : Violation) :
    token sql violation (Finding.ofViolation sql table violation).offset =
      .ok (Finding.ofViolation sql table violation).token := by
  have standing : leadingToken ((sql.after? (Finding.ofViolation sql table violation).offset).getD []) =
      .ok (sql.tokenFrom (Finding.ofViolation sql table violation).offset) := by
    rw [leadingToken_eq, tokenFrom]
    cases sql.after? (Finding.ofViolation sql table violation).offset <;> rfl
  cases cut : sql.slice? violation.start violation.stop with
  | none =>
      rw [token, cut, standing]
      simp only [Finding.ofViolation, cut]
  | some piece =>
      cases piece with
      | nil =>
          rw [token, cut, standing]
          simp only [Finding.ofViolation, cut]
      | cons c rest =>
          rw [token, cut]
          simp only [Finding.ofViolation, cut]
          rfl

theorem finding_eq {sql : Text} (fits : sql.size < UInt64.size) (violation : Violation) :
    finding sql (.ofText sql) violation = .ok (Finding.ofViolation sql (.ofText sql) violation) := by
  obtain ⟨reached, same, guarded⟩ := offset_eq fits violation.line (violation.character - 1)
  have placed : (Finding.ofViolation sql (.ofText sql) violation).offset = reached := by
    simp only [Finding.ofViolation, same, Option.getD_some]
  rw [finding, guarded, bind_ok, ← placed, token_eq, bind_ok]
  rfl

theorem editorColumn_eq {column : Nat} (fits : column + 1 < UInt64.size) (line : Nat) :
    editorColumn line column = .ok (Reporter.editorColumn line column) := by
  unfold editorColumn Reporter.editorColumn
  by_cases whole : line = 0
  · rw [if_pos whole, if_pos whole]
    rfl
  · rw [if_neg whole, if_neg whole, plus_ok fits, Nat.mod_eq_of_lt fits]

theorem complaint_eq {column : Nat} (fits : column + 1 < UInt64.size) (reporter : Reporter) (message token : Text)
    (line : Nat) : complaint message token line column reporter = .ok (reporter.complaint message token line column) := by
  cases reporter with
  | text => rfl
  | emacs document =>
      rw [complaint, editorColumn_eq fits, bind_ok]
      rfl

/-- Whatever numbers a violation has, it is located, resolved and reported without a step that has no answer. It stands
within the text, and editors are shown a column of the text or the one behind its end. -/
theorem any_violation_reported {sql : Text} (fits : sql.size + 1 < UInt64.size) (violation : Violation)
    (reporter : Reporter) :
    let finding := Finding.ofViolation sql (.ofText sql) violation
    let place := (LineTable.ofText sql).position finding.offset
    report reporter sql violation = .ok (Document.findingReport reporter (.ofText sql) finding) ∧
    finding.offset ≤ sql.size ∧
    1 ≤ Reporter.editorColumn place.line place.column ∧
    Reporter.editorColumn place.line place.column ≤ sql.size + 1 := by
  intro finding place
  have counted : sql.size < UInt64.size := Nat.lt_of_succ_lt fits
  have inside : finding.offset ≤ sql.size := (Finding.offset_isBoundary sql violation).le_size
  have short : place.column ≤ sql.size := Nat.le_trans (LineTable.position_column_le ..) inside
  have room : place.column + 1 < UInt64.size := by omega
  have shown : Reporter.editorColumn place.line place.column = place.column + 1 := by
    have one : 1 ≤ place.line := LineTable.one_le_position_line sql finding.offset
    unfold Reporter.editorColumn
    rw [if_neg (Nat.ne_of_gt one), Nat.mod_eq_of_lt room]
  refine ⟨?_, inside, ?_, ?_⟩
  · rw [report, table_eq counted, bind_ok, finding_eq counted, bind_ok, position_eq, bind_ok]
    exact complaint_eq room reporter finding.message finding.token place.line
  · rw [shown]
    exact Nat.le_add_left ..
  · rw [shown]
    exact Nat.succ_le_succ short

/-- A slice that runs backwards through a letter, a line and a character that no text has, and the largest numbers. -/
theorem largest_numbers_reported :
    let sql : Text := "SELECT é\nFROM t".toList
    let violation : Violation := ⟨UInt64.size - 1, UInt64.size - 1, 8, 7, "no\nend".toList⟩
    sql.size + 1 < UInt64.size ∧
    report (.emacs "q".toList) sql violation = .ok "q:2:7: error: no end\n".toList ∧
    report (.text false false) sql violation = .ok " Line 2, col 6 at \"\": no\nend\n".toList := by
  intro sql violation
  have fits : sql.size + 1 < UInt64.size := by decide
  refine ⟨fits, ?_, ?_⟩
  · rw [(any_violation_reported fits violation (.emacs "q".toList)).1]
    exact congrArg _ (by decide +kernel)
  · rw [(any_violation_reported fits violation (.text false false)).1]
    exact congrArg _ (by decide +kernel)

end Guarded
end SqlCheck
