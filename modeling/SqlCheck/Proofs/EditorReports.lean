import SqlCheck.Proofs.Positions
import SqlCheck.Proofs.ReportLines

/-! Reading back the lines that editors are given. Each is taken apart at its first three colons: a name has none,
and numbers are digits, so the fourth, which stands behind the word that marks an error, can be followed by
anything. What is read from a check is then what was found, document by document, in the name of the document
whose text it was found in; the line 0 is left for documents without any SQL. -/
namespace SqlCheck

structure EditorLine where
  document : Text
  line : Nat
  column : Nat
  message : Text
  deriving Repr, DecidableEq

namespace EditorLine
open Reporter

def number? (digits : Text) : Option Nat :=
  if digits ≠ [] ∧ digits.all Char.isDigit then some (Nat.ofDigitChars 10 digits 0) else none

/-- What stands in front of the first colon, and what stands behind it. -/
def field? (text : Text) : Option (Text × Text) :=
  match text.dropWhile (· ≠ ':') with
  | [] => none
  | _ :: behind => some (text.takeWhile (· ≠ ':'), behind)

def parse? (row : Text) : Option EditorLine := do
  let (document, behind) ← field? row
  let (line, behind) ← field? behind
  let (column, behind) ← field? behind
  let message ← behind.dropPrefix? " error: ".toList
  return ⟨document, ← number? line, ← number? column, message⟩

/-- The lines in some bytes. The last one has to be ended like the others, so that nothing is behind it. -/
def read? (bytes : List UInt8) : Option (List EditorLine) :=
  let pieces := bytes.splitOn 10
  if pieces.getLast? = some [] then
    pieces.dropLast.mapM fun piece => (Text.ofBytes? piece).bind parse?
  else none

def row (entry : EditorLine) : Text :=
  entry.document ++ [':'] ++ decimal entry.line ++ [':'] ++ decimal entry.column ++ ": error: ".toList
    ++ entry.message

/-- An entry that stays on its line, and whose name ends at the first colon. -/
structure Plain (entry : EditorLine) : Prop where
  named : ':' ∉ entry.document
  oneLine : '\n' ∉ entry.document
  message : '\n' ∉ entry.message

theorem number?_decimal (n : Nat) : number? (decimal n) = some n := by
  have digits : (decimal n).all Char.isDigit = true :=
    List.all_eq_true.mpr fun c member => Nat.isDigit_of_mem_toDigits (by decide) (by decide) member
  rw [number?, if_pos ⟨Nat.toDigits_ne_nil, digits⟩, decimal, Nat.ofDigitChars_ten_toDigits]

theorem field?_append {front : Text} (free : ':' ∉ front) (behind : Text) :
    field? (front ++ ':' :: behind) = some (front, behind) := by
  have all : ∀ c ∈ front, decide (c ≠ ':') = true := by
    intro c member
    exact decide_eq_true fun same => free (same ▸ member)
  rw [field?, List.dropWhile_append_of_pos all, List.takeWhile_append_of_pos all]
  simp

theorem parse?_row {entry : EditorLine} (named : ':' ∉ entry.document) : parse? entry.row = some entry := by
  have split : entry.row = entry.document ++ ':' :: (decimal entry.line ++ ':' :: (decimal entry.column ++ ':' ::
      (" error: ".toList ++ entry.message))) := by
    have mark : ": error: ".toList = ':' :: " error: ".toList := rfl
    simp only [row, mark, List.append_assoc, List.cons_append, List.nil_append]
  have tagged : (" error: ".toList ++ entry.message).dropPrefix? " error: ".toList = some entry.message :=
    List.dropPrefix?_eq_some_iff.mpr ⟨_, rfl, by simp⟩
  rw [parse?, split]
  have numbers (n : Nat) : ':' ∉ decimal n := not_mem_decimal (by decide) n
  simp only [field?_append named, field?_append (numbers _), tagged, number?_decimal, Option.bind_eq_bind,
    Option.bind_some, Option.pure_def]

theorem splitOn_append {row : List UInt8} (free : 10 ∉ row) (rest : List UInt8) :
    (row ++ 10 :: rest).splitOn 10 = row :: rest.splitOn 10 := by
  induction row with
  | nil => simp [List.splitOn_cons_eq_if_modifyHead]
  | cons byte others ih =>
      obtain ⟨other, later⟩ : 10 ≠ byte ∧ 10 ∉ others := by simpa using free
      simp [List.splitOn_cons_eq_if_modifyHead, Ne.symm other, ih later]

theorem Plain.row_free {entry : EditorLine} (plain : entry.Plain) : 10 ∉ entry.row.bytes := by
  rw [← List.count_eq_zero, Text.count_bytes, List.count_eq_zero]
  have mark : '\n' ∉ ": error: ".toList := by decide
  have numbers (n : Nat) : '\n' ∉ decimal n := not_mem_decimal (by decide) n
  simp only [row, List.mem_append, not_or]
  exact ⟨⟨⟨⟨⟨⟨plain.oneLine, by decide⟩, numbers _⟩, by decide⟩, numbers _⟩, mark⟩, plain.message⟩

def written (entries : List EditorLine) : Text := entries.flatMap fun entry => entry.row ++ ['\n']

theorem splitOn_written {entries : List EditorLine} (plain : ∀ entry ∈ entries, entry.Plain) :
    (written entries).bytes.splitOn 10 = entries.map (fun entry => entry.row.bytes) ++ [[]] := by
  induction entries with
  | nil => rfl
  | cons entry rest ih =>
      have feed : Text.bytes ['\n'] = [10] := by decide
      have others := ih fun other member => plain other (by simp [member])
      have first : (written (entry :: rest)).bytes = entry.row.bytes ++ 10 :: (written rest).bytes := by
        rw [written, List.flatMap_cons, Text.bytes_append, Text.bytes_append, feed, List.append_assoc]
        rfl
      rw [first, splitOn_append (plain entry (by simp)).row_free, others]
      rfl

theorem parse?_rows {entries : List EditorLine} (named : ∀ entry ∈ entries, ':' ∉ entry.document) :
    (entries.map fun entry => entry.row.bytes).mapM (fun piece => (Text.ofBytes? piece).bind parse?) =
      some entries := by
  induction entries with
  | nil => rfl
  | cons entry rest ih =>
      have others := ih fun other member => named other (by simp [member])
      rw [List.map_cons, List.mapM_cons, Text.ofBytes_bytes, Option.bind_some, parse?_row (named entry (by simp)),
        others]
      rfl

/-- Lines written one behind the other are read back as they were. -/
theorem read?_written {entries : List EditorLine} (plain : ∀ entry ∈ entries, entry.Plain) :
    read? (written entries).bytes = some entries := by
  rw [read?, splitOn_written plain, List.getLast?_concat, if_pos rfl, List.dropLast_concat]
  exact parse?_rows fun entry member => (plain entry member).named

end EditorLine

namespace Document
open Job
variable {Note : Type} {tree : FileTree} {engine : Engine Note} {console : Console Note}

def entriesOf (engine : Engine Note) (document sql : Text) : List EditorLine :=
  if sql.isBlank then [⟨document, 0, 0, emptyMessage⟩]
  else (engine.findings sql).value.map fun finding =>
    let place := (LineTable.ofText sql).position finding.offset
    ⟨document, place.line, place.column + 1, Reporter.flatten finding.message⟩

theorem entriesOf_eq_nil_iff (document sql : Text) :
    entriesOf engine document sql = [] ↔ passes engine sql = true := by
  by_cases blank : sql.isBlank = true <;> simp [entriesOf, passes, blank]

theorem mem_entriesOf {document sql : Text} {entry : EditorLine} (member : entry ∈ entriesOf engine document sql) :
    entry.document = document ∧ (entry.line = 0 ↔ sql.isBlank = true) ∧ '\n' ∉ entry.message := by
  by_cases blank : sql.isBlank = true
  · simp only [entriesOf, blank, if_true, List.mem_singleton] at member
    subst member
    exact ⟨rfl, by simp [blank], show '\n' ∉ emptyMessage from by decide⟩
  · rw [entriesOf, if_neg blank] at member
    obtain ⟨finding, -, rfl⟩ := List.mem_map.mp member
    have placed := LineTable.one_le_position_line sql finding.offset
    refine ⟨rfl, ?_, ?_⟩
    · simp only [blank, Bool.false_eq_true, iff_false]
      omega
    · intro kept
      obtain ⟨c, -, turned⟩ := List.mem_map.mp kept
      split at turned
      · cases turned
      · contradiction

/-- Editors are written the rows of the entries. A blank text is the one report on line 0. -/
theorem reportsOn_editor {document sql : Text}
    (counted : ∀ finding ∈ (engine.findings sql).value, finding.offset + 1 < UInt64.size) :
    (reportsOn engine (.emacs document) sql).flatten =
      EditorLine.written (entriesOf engine document sql) := by
  by_cases blank : sql.isBlank = true
  · have plain : Reporter.flatten emptyMessage = emptyMessage := by decide
    have report : (Reporter.emacs document).complaint emptyMessage [] 0 0 =
        document ++ [':'] ++ Reporter.decimal 0 ++ [':'] ++ Reporter.decimal (Reporter.editorColumn 0 0)
          ++ ": error: ".toList ++ Reporter.flatten emptyMessage ++ ['\n'] := rfl
    have first : Reporter.editorColumn 0 0 = 0 := if_pos rfl
    rw [reportsOn, if_pos blank, entriesOf, if_pos blank, EditorLine.written, List.flatten_singleton,
      List.flatMap_singleton, report, first, plain]
    rfl
  · by_cases clean : (engine.findings sql).value = []
    · simp [reportsOn, entriesOf, EditorLine.written, blank, clean, Reporter.approval]
    · rw [reportsOn, if_neg blank, if_neg clean, entriesOf, if_neg blank, EditorLine.written, List.flatMap_map,
        ← List.flatMap_def]
      refine List.flatMap_congr fun finding member => ?_
      have small := counted finding member
      have short := LineTable.position_column_le (.ofText sql) finding.offset
      exact editor_complaint document finding.message finding.token
        (LineTable.one_le_position_line sql finding.offset) (by omega)

theorem reportsOf_editor {previous : Text} {documents : List Text}
    (counted : ∀ document ∈ documents, ∀ finding ∈ (engine.findings (textOf tree document)).value,
      finding.offset + 1 < UInt64.size) :
    (documents.flatMap fun document => (reportsOf tree engine (.emacs previous) document).flatten) =
      EditorLine.written (documents.flatMap fun document => entriesOf engine document (textOf tree document)) := by
  rw [EditorLine.written, List.flatMap_assoc]
  refine List.flatMap_congr fun document member => ?_
  -- The banner for editors is empty, and turns the reporter to the document.
  have turned : (reportsOf tree engine (.emacs previous) document).flatten =
      (reportsOn engine (.emacs document) (textOf tree document)).flatten := rfl
  rw [turned, reportsOn_editor (counted document member)]
  rfl

/-- What editors read back from a check of documents is what was found in them, each finding at its place, counted
from 1, and in the name of its own document. -/
theorem editor_reports_read (tree : FileTree) (engine : Engine Note) {previous : Text}
    (editors : console.reporter = .emacs previous) (room : console.reports.room = none)
    (fresh : console.reports.written = []) {documents : List Text}
    (readable : ∀ document ∈ documents, Readable tree document)
    (named : ∀ document ∈ documents, ':' ∉ document ∧ '\n' ∉ document)
    (counted : ∀ document ∈ documents, ∀ finding ∈ (engine.findings (textOf tree document)).value,
      finding.offset + 1 < UInt64.size) :
    let ended := runOn (checkEach tree engine documents) console
    let entries := documents.flatMap fun document => entriesOf engine document (textOf tree document)
    ended.1 = .ok (documents.all fun document => passes engine (textOf tree document)) ∧
    EditorLine.read? ended.2.reports.written = some entries ∧
    (∀ entry ∈ entries, entry.document ∈ documents ∧
      (entry.line = 0 ↔ Text.isBlank (textOf tree entry.document) = true)) ∧
    ∀ document ∈ documents,
      entriesOf engine document (textOf tree document) = [] ↔ passes engine (textOf tree document) = true := by
  intro ended entries
  have whole : ended = _ := run_checkEach room readable
  have written : ended.2.reports.written = (EditorLine.written entries).bytes := by
    rw [whole, editors, reportsOf_editor counted]
    exact congrArg (· ++ _) fresh
  have attributed : ∀ entry ∈ entries, entry.document ∈ documents ∧
      (entry.line = 0 ↔ Text.isBlank (textOf tree entry.document) = true) ∧ '\n' ∉ entry.message := by
    intro entry member
    obtain ⟨document, given, found⟩ := List.mem_flatMap.mp member
    obtain ⟨rfl, placed⟩ := mem_entriesOf found
    exact ⟨given, placed⟩
  refine ⟨by rw [whole], ?_, fun entry member => ⟨(attributed entry member).1, (attributed entry member).2.1⟩,
    fun document _ => entriesOf_eq_nil_iff document _⟩
  rw [written]
  refine EditorLine.read?_written fun entry member => ?_
  obtain ⟨given, -, message⟩ := attributed entry member
  exact ⟨(named _ given).1, (named _ given).2, message⟩

def threeFiles : FileTree := .folder
  [("blank.sql".toList, .file (Text.bytes "\n".toList)), ("clean.sql".toList, .file (Text.bytes "ok".toList)),
    ("faulty.sql".toList, .file (Text.bytes "é\nno".toList))]

/-- An engine that says of any text that begins with a certain letter two things that are hard to read back. -/
def tricky : Engine Question :=
  .answering (fun sql => if sql.head? = some 'é' then
    [⟨"7:8: error: a\nb".toList, 4, []⟩, ⟨[], UInt64.size - 2, []⟩] else []) fun _ sql _ => .ok sql

theorem tricky_reports_read :
    let documents := ["faulty.sql".toList, "clean.sql".toList, "blank.sql".toList]
    let ended := runOn (checkEach threeFiles tricky documents) ⟨.emacs [], {}, {}, [], []⟩
    ended.1 = .ok false ∧
    EditorLine.read? ended.2.reports.written = some
      [⟨"faulty.sql".toList, 2, 2, "7:8: error: a b".toList⟩,
        ⟨"faulty.sql".toList, 2, UInt64.size - 4, []⟩, ⟨"blank.sql".toList, 0, 0, "SQL file empty".toList⟩] := by
  intro documents ended
  have readable : ∀ document ∈ documents, Readable threeFiles document := by
    simp only [documents, List.forall_mem_cons]
    refine ⟨⟨by decide, _, rfl⟩, ⟨by decide, _, rfl⟩, ⟨by decide, _, rfl⟩, by simp⟩
  have named : ∀ document ∈ documents, ':' ∉ document ∧ '\n' ∉ document := by decide
  have counted : ∀ document ∈ documents, ∀ finding ∈ (tricky.findings (textOf threeFiles document)).value,
      finding.offset + 1 < UInt64.size := by decide +kernel
  have decoded := editor_reports_read threeFiles tricky
    (show (⟨.emacs [], {}, {}, [], []⟩ : Console Question).reporter = .emacs [] from rfl) rfl rfl readable named counted
  constructor
  · exact decoded.1
  · rw [decoded.2.1]
    decide +kernel

end Document
end SqlCheck
