import SqlCheck.Parser
import SqlCheck.Proofs.Jobs

/-! The whole effect of checking and of formatting one text, where nothing that is written is refused: what
is asked, what is reported, what is printed and how it ends. A text is blank, clean or faulty, and each of
these has one equation; so has the way to the text, which a document that is announced and loaded takes, and
so have the turns of several documents. What an engine answers that was made from a parser is said first. -/
namespace SqlCheck

namespace Parser
variable {parser : Parser} {sql : Text}

def steady (answer : Except Text Parsed) : Parser := ⟨fun _ => answer, id⟩

/-- What is printed of a text in the colours of its tokens; without a tree it stays as it is. -/
def painted (parser : Parser) (coloursEnabled : Bool) (fixed : Text) : Text :=
  match (parser.tokens? fixed).value with
  | some tokens => Token.colourSource coloursEnabled fixed tokens
  | none => fixed

theorem engine_findings (parser : Parser) (coloursEnabled : Bool) (config : Text) :
    (parser.engine coloursEnabled config).value.findings = parser.findings := rfl

@[simp] theorem engine_format (parser : Parser) (coloursEnabled : Bool) (config : Text) :
    (parser.engine coloursEnabled config).value.format = parser.format coloursEnabled := rfl

theorem findings_parsed {violations : List Violation} {tree : Option SyntaxTree}
    (parsed : parser.parse sql = .ok ⟨violations, tree⟩) :
    parser.findings sql =
      ⟨violations.map (Finding.ofViolation sql (.ofText sql)), [.parse sql]⟩ := by
  simp only [findings, parseNoted, bind, Noted.andThen, parsed]
  rfl

theorem format_value (parser : Parser) (coloursEnabled : Bool) (document sql : Text) (finish : Finish) :
    (parser.format coloursEnabled document sql finish).value =
      if (parser.findings sql).value ≠ [] then
        .error (.unformattable document (parser.findings sql).value.length)
      else
        match finish with
        | .plain => .ok (parser.fix sql)
        | .decorated => .ok (parser.painted coloursEnabled (parser.fix sql)) := by
  -- A refusal names how many findings there were, so they are counted before the fixer is asked.
  by_cases clean : (parser.findings sql).value = []
  · cases finish with
    | plain => simp [format, bind, Noted.andThen, clean, fixNoted, pure]
    | decorated =>
        cases found : (parser.tokens? (parser.fix sql)).value <;>
          simp [format, bind, Noted.andThen, clean, fixNoted, pure, found, painted]
  · simp [format, bind, Noted.andThen, clean, pure]

theorem findings_notes (parser : Parser) (sql : Text) : (parser.findings sql).notes = [.parse sql] := by
  cases parsed : parser.parse sql <;> simp [findings, parseNoted, bind, Noted.andThen, parsed, pure]

theorem format_faulty (coloursEnabled : Bool) (document : Text) (finish : Finish)
    (faulty : (parser.findings sql).value ≠ []) :
    parser.format coloursEnabled document sql finish =
      ⟨.error (.unformattable document (parser.findings sql).value.length), [.parse sql]⟩ := by
  simp [format, bind, Noted.andThen, faulty, pure, findings_notes]

end Parser

namespace Document
open Job
variable {Note : Type} {console : Console Note}

def findingReport (reporter : Reporter) (table : LineTable) (finding : Finding) : Text :=
  let place := table.position finding.offset
  reporter.complaint finding.message finding.token place.line place.column

theorem run_complainAll (room : console.reports.room = none) (table : LineTable) (findings : List Finding) :
    runOn (complainAll table findings) console =
      (.ok (), console.report (findings.flatMap (findingReport console.reporter table))) := by
  induction findings generalizing console with
  | nil => simp [complainAll]
  | cons finding rest ih =>
      have first := run_complain room finding.message finding.token
        (table.position finding.offset).line (table.position finding.offset).column
      have others := ih (show (console.report (findingReport console.reporter table finding)).reports.room =
        none from room)
      simp only [complainAll]
      rw [run_bind_ok first]
      simpa [findingReport] using others

section Text
variable {engine : Engine Note} {sql : Text}

theorem run_checkText_blank (room : console.reports.room = none) (blank : sql.isBlank = true) :
    runOn (checkText engine sql) console =
      (.ok false, console.report (console.reporter.complaint emptyMessage [] 0 0)) := by
  rw [checkText, if_pos blank, run_bind_ok (run_complain room emptyMessage [] 0 0)]
  rfl

theorem run_checkText_clean (room : console.reports.room = none) (spoken : sql.isBlank = false)
    (clean : (engine.findings sql).value = []) :
    runOn (checkText engine sql) console =
      (.ok true, (console.note (engine.findings sql).notes).report console.reporter.approval) := by
  rw [checkText, if_neg (by simp [spoken]), run_bind_ok (run_ask _ _), if_pos clean,
    run_bind_ok (run_approve (by simpa using room))]
  rfl

theorem run_checkText_faulty (room : console.reports.room = none) (spoken : sql.isBlank = false)
    (faulty : (engine.findings sql).value ≠ []) :
    runOn (checkText engine sql) console =
      (.ok false, (console.note (engine.findings sql).notes).report
        ((engine.findings sql).value.flatMap (findingReport console.reporter (.ofText sql)))) := by
  rw [checkText, if_neg (by simp [spoken]), run_bind_ok (run_ask _ _), if_neg faulty,
    run_bind_ok (run_complainAll (by simpa using room) _ _)]
  rfl

variable {document : Text} {finish : Finish}

theorem run_formatText_blank (room : console.reports.room = none) (blank : sql.isBlank = true) :
    runOn (formatText engine document sql finish) console =
      (.ok false, console.report (console.reporter.complaint emptyMessage [] 0 0)) := by
  rw [formatText, if_pos blank, run_bind_ok (run_complain room emptyMessage [] 0 0)]
  rfl

theorem run_formatText_refused {failure : Failure} (spoken : sql.isBlank = false)
    (refused : (engine.format document sql finish).value = .error failure) :
    runOn (formatText engine document sql finish) console =
      (.error failure, console.note (engine.format document sql finish).notes) := by
  rw [formatText, if_neg (by simp [spoken]), run_bind_ok (run_ask _ _), refused]
  rfl

theorem run_formatText_formatted {formatted : Text} (room : console.output.room = none)
    (spoken : sql.isBlank = false)
    (accepted : (engine.format document sql finish).value = .ok formatted) :
    runOn (formatText engine document sql finish) console =
      (.ok true, (console.note (engine.format document sql finish).notes).print (closeLine formatted)) := by
  rw [formatText, if_neg (by simp [spoken]), run_bind_ok (run_ask _ _), accepted]
  change runOn (writeOutput (closeLine formatted) >>= fun _ => pure true) _ = _
  rw [run_bind_ok (run_writeOutput (by simpa using room) _)]
  rfl

end Text

section Loading
variable {tree : FileTree}

/-- What is read for a document while standard input still holds `input`. -/
def given (tree : FileTree) (input : List UInt8) (document : Text) : Except Failure Text :=
  if document = Inputs.standardInput then
    match Text.ofBytes? input with
    | some sql => .ok sql
    | none => .error (.unreadable document .notText)
  else
    match tree.readText document with
    | .ok sql => .ok sql
    | .error fault => .error (.unreadable document fault)

/-- What a document leaves of standard input. -/
def left (input : List UInt8) (document : Text) : List UInt8 :=
  if document = Inputs.standardInput then [] else input

def opened (document : Text) (console : Console Note) : Console Note :=
  { (console.turnTo document).report ((console.reporter.turnTo document).announcement document) with
    input := left console.input document }

theorem run_load_given (document : Text) :
    runOn (load tree document) console =
      (given tree console.input document, { console with input := left console.input document }) := by
  by_cases named : document = Inputs.standardInput
  · rw [load, if_pos named, run_bind_ok (run_readInput console), given, if_pos named, left, if_pos named]
    cases Text.ofBytes? console.input <;> rfl
  · rw [load, if_neg named, given, if_neg named, left, if_neg named]
    cases tree.readText document <;> rfl

/-- What is common to checking and formatting: a document is announced, loaded and then judged by its text. -/
theorem run_announced (room : console.reports.room = none) (document : Text) (judge : Text → Job Note Bool) :
    runOn (do announce document; judge (← load tree document)) console =
      match given tree console.input document with
      | .ok sql => runOn (judge sql) (opened document console)
      | .error failure => (.error failure, opened document console) := by
  have loaded : runOn (load tree document) ((console.turnTo document).report
      ((console.reporter.turnTo document).announcement document)) =
        (given tree console.input document, opened document console) := run_load_given document
  rw [run_bind_ok (run_announce room document), run_bind, loaded]
  cases given tree console.input document <;> rfl

end Loading

section InTurn
variable {work : Text → Job Note Bool} {document : Text} {rest : List Text} {after : Console Note}

theorem run_inTurn_error {failure : Failure} (ends : runOn (work document) console = (.error failure, after)) :
    runOn (inTurn work (document :: rest)) console = (.error failure, after) := by
  rw [inTurn, run_bind, ends]

theorem run_inTurn_ok {passed : Bool} (ends : runOn (work document) console = (.ok passed, after)) :
    runOn (inTurn work (document :: rest)) console =
      ((runOn (inTurn work rest) after).1.map (passed && ·), (runOn (inTurn work rest) after).2) := by
  rw [inTurn, run_bind_ok ends, run_bind]
  cases runOn (inTurn work rest) after with
  | mk result last => cases result <;> rfl

theorem inTurn_keeps {Seen : Type} {seen : Console Note → Seen} {documents : List Text}
    (each : ∀ document ∈ documents, Keeps seen (work document)) : Keeps seen (inTurn work documents) := by
  induction documents with
  | nil => exact keeps_pure _ _
  | cons document rest ih =>
      apply keeps_bind (each document (by simp))
      intro passed
      apply keeps_bind (ih fun other member => each other (by simp [member]))
      intro others
      exact keeps_pure _ _

end InTurn

end Document
end SqlCheck
