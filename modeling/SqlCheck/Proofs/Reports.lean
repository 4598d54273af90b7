import SqlCheck.Proofs.Documents

/-! The reports of a check, as a list of texts beside the job that writes them. A text gives one complaint if it
is blank, one for each finding if there are any, and an approval otherwise; a document that can be read is
announced and then gives those of its text. The reports of several documents stand one behind the other, each
in the words of a reporter turned to its own document, whatever it was turned to before. -/
namespace SqlCheck

namespace Reporter

@[simp] theorem turnTo_turnTo (first second : Text) (reporter : Reporter) :
    (reporter.turnTo first).turnTo second = reporter.turnTo second := by
  cases reporter <;> rfl

end Reporter

namespace Document
open Job Inputs
variable {Note : Type} {tree : FileTree} {engine : Engine Note} {console : Console Note}

def reportsOn (engine : Engine Note) (reporter : Reporter) (sql : Text) : List Text :=
  if sql.isBlank then [reporter.complaint emptyMessage [] 0 0]
  else if (engine.findings sql).value = [] then [reporter.approval]
  else (engine.findings sql).value.map (findingReport reporter (.ofText sql))

/-- What is noted of the questions about a text; a blank one raises none. -/
def askedAbout (engine : Engine Note) (sql : Text) : List Note :=
  if sql.isBlank then [] else (engine.findings sql).notes

def passes (engine : Engine Note) (sql : Text) : Bool :=
  !sql.isBlank && decide ((engine.findings sql).value = [])

theorem run_checkText (room : console.reports.room = none) (sql : Text) :
    runOn (checkText engine sql) console =
      (.ok (passes engine sql),
        (console.note (askedAbout engine sql)).report (reportsOn engine console.reporter sql).flatten) := by
  by_cases blank : sql.isBlank = true
  · rw [run_checkText_blank room blank]
    simp [passes, askedAbout, reportsOn, blank, Console.note]
  · have spoken : sql.isBlank = false := by simpa using blank
    by_cases clean : (engine.findings sql).value = []
    · rw [run_checkText_clean room spoken clean]
      simp [passes, askedAbout, reportsOn, spoken, clean]
    · rw [run_checkText_faulty room spoken clean]
      simp [passes, askedAbout, reportsOn, spoken, clean, List.flatMap_def]

/-- The text of a document; what cannot be read has none. -/
def textOf (tree : FileTree) (document : Text) : Text :=
  match tree.readText document with
  | .ok sql => sql
  | .error _ => []

/-- A document that is no standard input and can be read. -/
def Readable (tree : FileTree) (document : Text) : Prop :=
  document ≠ standardInput ∧ ∃ sql, tree.readText document = .ok sql

theorem Readable.given_eq {document : Text} (readable : Readable tree document) (input : List UInt8) :
    given tree input document = .ok (textOf tree document) := by
  obtain ⟨named, sql, read⟩ := readable
  rw [given, if_neg named, textOf, read]

theorem run_check_given (room : console.reports.room = none) (document : Text) :
    runOn (check tree engine document) console =
      match given tree console.input document with
      | .ok sql => (.ok (passes engine sql), ((opened document console).note (askedAbout engine sql)).report
          (reportsOn engine (console.reporter.turnTo document) sql).flatten)
      | .error failure => (.error failure, opened document console) := by
  rw [check, run_announced room]
  cases given tree console.input document with
  | error failure => rfl
  | ok sql => exact run_checkText (show (opened document console).reports.room = none from room) sql

def reportsOf (tree : FileTree) (engine : Engine Note) (reporter : Reporter) (document : Text) : List Text :=
  let turned := reporter.turnTo document
  turned.announcement document :: reportsOn engine turned (textOf tree document)

theorem run_check (room : console.reports.room = none) {document : Text} (readable : Readable tree document) :
    runOn (check tree engine document) console =
      (.ok (passes engine (textOf tree document)),
        ((console.turnTo document).note (askedAbout engine (textOf tree document))).report
          (reportsOf tree engine console.reporter document).flatten) := by
  rw [run_check_given room document, readable.given_eq]
  simp only [opened, left, if_neg readable.1, reportsOf, List.flatten_cons, ← Console.report_report]
  rfl

def turnThrough (documents : List Text) (console : Console Note) : Console Note :=
  { console with reporter := documents.foldl (fun reporter document => reporter.turnTo document) console.reporter }

theorem run_checkEach (room : console.reports.room = none) {documents : List Text}
    (readable : ∀ document ∈ documents, Readable tree document) :
    runOn (checkEach tree engine documents) console =
      (.ok (documents.all fun document => passes engine (textOf tree document)),
        ((turnThrough documents console).note
          (documents.flatMap fun document => askedAbout engine (textOf tree document))).report
            (documents.flatMap fun document => (reportsOf tree engine console.reporter document).flatten)) := by
  induction documents generalizing console with
  | nil => simp [checkEach, inTurn, turnThrough, Console.note]
  | cons document rest ih =>
      have begun : runOn (check tree engine document) console = _ := run_check room (readable document (by simp))
      have rest_readable : ∀ other ∈ rest, Readable tree other := fun other member =>
        readable other (by simp [member])
      -- The next document turns the reporter again, so what it was turned to makes no difference.
      have others := ih (show (((console.turnTo document).note (askedAbout engine (textOf tree document))).report
        (reportsOf tree engine console.reporter document).flatten).reports.room = none from room) rest_readable
      rw [checkEach] at others
      rw [checkEach, run_inTurn_ok begun, others]
      simp [turnThrough, Console.report, Console.note, Console.turnTo, reportsOf, Except.map]

end Document
end SqlCheck
