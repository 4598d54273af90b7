import SqlCheck.Proofs.Documents
import SqlCheck.Proofs.Lines

/-! From the numbers of a violation to the numbers of a report. A parser counts lines and characters from 1
and may give any numbers; a report counts bytes from 0 in one form and from 1 in the other. The place of a
violation is said here by the lines of the text alone, and every checked document is shown to report it. -/
namespace SqlCheck

namespace Violation

/-- The line that is meant: numbers outside the text stand for its first or its last line. -/
def placedLine (sql : Text) (violation : Violation) : Nat :=
  max 1 (min violation.line (sql.count '\n' + 1))

def placedText (sql : Text) (violation : Violation) : Text :=
  sql.lines[violation.placedLine sql - 1]?.getD []

/-- The bytes in front of the character that is meant, at most those of its line. -/
def placedColumn (sql : Text) (violation : Violation) : Nat :=
  Text.size ((violation.placedText sql).take
    (min (max violation.character 1 - 1) (violation.placedText sql).length))

def reportedToken (sql : Text) (violation : Violation) : Text :=
  (Finding.ofViolation sql (.ofText sql) violation).token

variable {sql : Text} {violation : Violation}

theorem one_le_placedLine : 1 ≤ violation.placedLine sql := Nat.le_max_left ..

theorem placedText_size_le : (violation.placedText sql).size ≤ sql.size := by
  unfold placedText
  cases found : sql.lines[violation.placedLine sql - 1]? with
  | none => simp
  | some own => exact Text.size_le_of_mem_lines (List.mem_of_getElem? found)

theorem placedColumn_le : violation.placedColumn sql ≤ sql.size :=
  Nat.le_trans (Text.size_take_le _ _) placedText_size_le

/-- The offset kept in the finding and the search for its line give back the place of the violation. -/
theorem position_of_finding (sql : Text) (violation : Violation) :
    (LineTable.ofText sql).position (Finding.ofViolation sql (.ofText sql) violation).offset =
      ⟨violation.placedLine sql, violation.placedColumn sql⟩ := by
  obtain ⟨own, offset, listed, found, resolved⟩ :=
    LineTable.position_offset sql violation.line (violation.character - 1)
  have text : violation.placedText sql = own := by simp [placedText, placedLine, listed]
  -- Taking more characters than the line has takes the whole line, as the bound says.
  have shortened : own.take (min (max violation.character 1 - 1) own.length) =
      own.take (violation.character - 1) := by
    rw [List.take_eq_take_iff]
    omega
  simp only [Finding.ofViolation, found, Option.getD_some, resolved, placedColumn, text, shortened]
  rfl

theorem placed_ascii (named : 1 ≤ violation.line) (inside : violation.line ≤ sql.count '\n' + 1)
    (ascii : ∀ c ∈ violation.placedText sql, c.toNat < 128) (first : 1 ≤ violation.character)
    (last : violation.character ≤ (violation.placedText sql).length + 1) :
    violation.placedLine sql = violation.line ∧
      violation.placedColumn sql + 1 = violation.character := by
  have narrow : ∀ c ∈ (violation.placedText sql).take
      (min (max violation.character 1 - 1) (violation.placedText sql).length), c.toNat < 128 :=
    fun c member => ascii c (List.mem_of_mem_take member)
  constructor
  · rw [placedLine]
    omega
  · rw [placedColumn, Text.size_eq_length narrow, List.length_take]
    omega

end Violation

namespace Document
open Job Violation
variable {parser : Parser} {sql : Text} {violations : List Violation} {tree : Option SyntaxTree}

theorem findingReport_of_violation (reporter : Reporter) (sql : Text) (violation : Violation) :
    findingReport reporter (.ofText sql) (Finding.ofViolation sql (.ofText sql) violation) =
      reporter.complaint violation.description (violation.reportedToken sql)
        (violation.placedLine sql) (violation.placedColumn sql) := by
  simp only [findingReport, position_of_finding]
  rfl

theorem editor_complaint {line column : Nat} (document message token : Text) (placed : 1 ≤ line)
    (small : column + 1 < UInt64.size) :
    (Reporter.emacs document).complaint message token line column =
      document ++ [':'] ++ Reporter.decimal line ++ [':'] ++ Reporter.decimal (column + 1)
        ++ ": error: ".toList ++ Reporter.flatten message ++ ['\n'] := by
  -- Rewriting with the column's definition in place would unfold the word size as well.
  have counted : Reporter.editorColumn line column = column + 1 := by
    unfold Reporter.editorColumn
    rw [if_neg (by omega)]
    exact Nat.mod_eq_of_lt small
  rw [← counted]
  rfl

theorem text_complaint (inColour enabled : Bool) (message token : Text) (line column : Nat) :
    (Reporter.text inColour enabled).complaint message token line column =
      " Line ".toList ++ Reporter.decimal line ++ ", col ".toList ++ Reporter.decimal column
        ++ " at \"".toList ++ token.visible ++ "\": ".toList
        ++ (if inColour then Ink.red.apply enabled message else message) ++ ['\n'] := rfl

/-- A checked text reports each violation once, in the order of the parser, with its own description, at the
line that is meant and at the bytes in front of the character that is meant. People are shown that column,
editors the one after it, which on a line of ASCII is the parser's own; editors' columns are words, so the
text has to be short enough for its bytes to be counted in one. -/
theorem violations_reported_in_place (coloursEnabled : Bool) (config : Text) (console : Console Call)
    (spoken : sql.isBlank = false) (parsed : parser.parse sql = .ok ⟨violations, tree⟩)
    (room : console.reports.room = none) :
    runOn (checkText (parser.engine coloursEnabled config).value sql) console =
      (.ok violations.isEmpty, (console.note [.parse sql]).report
        (if violations = [] then console.reporter.approval
          else violations.flatMap fun violation =>
            console.reporter.complaint violation.description (violation.reportedToken sql)
              (violation.placedLine sql) (violation.placedColumn sql))) ∧
    ∀ violation ∈ violations,
      (∀ inColour enabled token,
        " Line ".toList ++ Reporter.decimal (violation.placedLine sql) ++ ", col ".toList
            ++ Reporter.decimal (violation.placedColumn sql) ++ " at \"".toList <+:
          (Reporter.text inColour enabled).complaint violation.description token
            (violation.placedLine sql) (violation.placedColumn sql)) ∧
      (sql.size + 1 < UInt64.size → ∀ document token,
        (Reporter.emacs document).complaint violation.description token
            (violation.placedLine sql) (violation.placedColumn sql) =
          document ++ [':'] ++ Reporter.decimal (violation.placedLine sql) ++ [':']
            ++ Reporter.decimal (violation.placedColumn sql + 1) ++ ": error: ".toList
            ++ Reporter.flatten violation.description ++ ['\n']) ∧
      (sql.size + 1 < UInt64.size → 1 ≤ violation.line → violation.line ≤ sql.count '\n' + 1 →
        (∀ c ∈ violation.placedText sql, c.toNat < 128) →
        1 ≤ violation.character → violation.character ≤ (violation.placedText sql).length + 1 →
        ∀ document token,
          (Reporter.emacs document).complaint violation.description token
              (violation.placedLine sql) (violation.placedColumn sql) =
            document ++ [':'] ++ Reporter.decimal violation.line ++ [':']
              ++ Reporter.decimal violation.character ++ ": error: ".toList
              ++ Reporter.flatten violation.description ++ ['\n']) := by
  have asked : (parser.engine coloursEnabled config).value.findings sql =
      ⟨violations.map (Finding.ofViolation sql (.ofText sql)), [.parse sql]⟩ := Parser.findings_parsed parsed
  constructor
  · by_cases clean : violations = []
    · subst clean
      rw [run_checkText_clean room spoken (by simp [asked]), asked]
      rfl
    · rw [run_checkText_faulty room spoken (by simp [asked, clean]), asked]
      simp [clean, List.flatMap_map, findingReport_of_violation]
  · intro violation _
    have short : violation.placedColumn sql ≤ sql.size := placedColumn_le
    refine ⟨fun inColour enabled token => ?_, fun fits document token => ?_, ?_⟩
    · refine ⟨token.visible ++ "\": ".toList
        ++ (if inColour then Ink.red.apply enabled violation.description else violation.description)
        ++ ['\n'], ?_⟩
      rw [text_complaint]
      simp only [List.append_assoc]
    · exact editor_complaint document _ token one_le_placedLine (by omega)
    · intro fits named inside ascii first last document token
      obtain ⟨line, column⟩ := placed_ascii named inside ascii first last
      rw [editor_complaint document _ token one_le_placedLine (by omega), line, column]

def strangePlaces : List Violation :=
  [⟨2, 6, 0, 0, "a\nb".toList⟩, ⟨1, 9, 8, 7, "c".toList⟩, ⟨0, 0, 0, 0, []⟩, ⟨99, UInt64.size - 1, 0, 0, []⟩]

theorem strange_places_reported :
    Text.isBlank "SELECT é\nFROM t\n".toList = false ∧
    let ended := runOn (checkText ((Parser.steady (.ok ⟨strangePlaces, none⟩)).engine false []).value
      "SELECT é\nFROM t\n".toList) ⟨.emacs "q".toList, {}, {}, [], []⟩
    ended.1 = .ok false ∧ ended.2.notes = [.parse "SELECT é\nFROM t\n".toList] ∧
    ended.2.reports.written = Text.bytes
      "q:2:6: error: a b\nq:1:10: error: c\nq:1:1: error: \nq:3:1: error: \n".toList := by
  have spoken : Text.isBlank "SELECT é\nFROM t\n".toList = false := by decide
  have parsed : (Parser.steady (.ok ⟨strangePlaces, none⟩)).parse "SELECT é\nFROM t\n".toList =
      .ok ⟨strangePlaces, none⟩ := rfl
  have reported := (violations_reported_in_place false [] ⟨.emacs "q".toList, {}, {}, [], []⟩ spoken parsed rfl).1
  constructor
  · exact spoken
  · rw [reported]
    exact ⟨rfl, rfl, by decide +kernel⟩

end Document
end SqlCheck
