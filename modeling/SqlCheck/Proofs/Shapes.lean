import SqlCheck.Proofs.Documents
import SqlCheck.Session

/-! What the jobs of a session are made of. A check reports and asks and does nothing else, as long as no
document is standard input; formatting prints besides, but once and as its last act. What holds of the single
operations and is handed on from a job to the next holds of every step, so later proofs look at the
operations only and not at the documents; so a view of the console that no operation changes is the same behind
every step. -/
namespace SqlCheck

namespace Job
variable {Note : Type}

/-- Made of reports and questions: nothing is printed, and standard input is left alone. -/
inductive OnlyReports : {Value : Type} → Job Note Value → Prop
  | pure {Value : Type} (value : Value) : OnlyReports (pure value)
  | throw {Value : Type} (failure : Failure) : OnlyReports (throw failure : Job Note Value)
  | bind {Value Next : Type} {job : Job Note Value} {next : Value → Job Note Next}
      (first : OnlyReports job) (second : ∀ value, OnlyReports (next value)) : OnlyReports (job >>= next)
  | announce (document : Text) : OnlyReports (announce document)
  | complain (message token : Text) (line column : Nat) : OnlyReports (complain message token line column)
  | approve : OnlyReports approve
  | ask {Value : Type} (answer : Noted Note Value) : OnlyReports (ask answer)

/-- Reports and questions, and at the end of some of its ways one text that is printed. -/
inductive PrintsLast : {Value : Type} → Job Note Value → Prop
  | quiet {Value : Type} {job : Job Note Value} (reports : OnlyReports job) : PrintsLast job
  | print {Value : Type} (text : Text) (value : Value) :
      PrintsLast (do writeOutput text; return value : Job Note Value)
  | after {Value Next : Type} {job : Job Note Value} {next : Value → Job Note Next}
      (first : OnlyReports job) (second : ∀ value, PrintsLast (next value)) : PrintsLast (job >>= next)

theorem OnlyReports.map {Value Next : Type} {job : Job Note Value} (reports : OnlyReports job)
    (form : Value → Next) : OnlyReports (form <$> job) := by
  rw [map_eq_pure_bind]
  exact .bind reports fun value => .pure (form value)

theorem PrintsLast.map {Value Next : Type} {job : Job Note Value} (prints : PrintsLast job)
    (form : Value → Next) : PrintsLast (form <$> job) := by
  induction prints with
  | quiet reports => exact .quiet (reports.map form)
  | print text value =>
      rw [map_bind]
      simp only [map_pure]
      exact .print text (form value)
  | after first _ ih =>
      rw [map_bind]
      exact .after first fun value => ih value form

theorem OnlyReports.keeps_input {Value : Type} {job : Job Note Value} (reports : OnlyReports job) :
    Keeps Console.input job := by
  induction reports with
  | pure value => exact keeps_pure _ value
  | throw failure => exact keeps_throw _ failure
  | bind _ _ first second => exact keeps_bind first second
  | announce document => exact announce_keeps unwritten_input document
  | complain message token line column => exact complain_keeps unwritten_input message token line column
  | approve => exact approve_keeps unwritten_input
  | ask answer => exact ask_keeps_input answer

theorem PrintsLast.keeps_input {Value : Type} {job : Job Note Value} (prints : PrintsLast job) :
    Keeps Console.input job := by
  induction prints with
  | quiet reports => exact reports.keeps_input
  | print text value => exact keeps_bind (writeOutput_keeps unwritten_input text) fun _ => keeps_pure _ value
  | after first _ second => exact keeps_bind first.keeps_input second

end Job

namespace Document
open Job Inputs
variable {Note : Type}

theorem complainAll_onlyReports (table : LineTable) (findings : List Finding) :
    OnlyReports (complainAll table findings : Job Note Unit) := by
  induction findings with
  | nil => exact .pure ()
  | cons finding rest ih => exact .bind (.complain _ _ _ _) fun _ => ih

theorem load_onlyReports (tree : FileTree) {document : Text} (named : document ≠ standardInput) :
    OnlyReports (load tree document : Job Note Text) := by
  rw [load, if_neg named]
  cases tree.readText document with
  | error fault => exact .throw _
  | ok sql => exact .pure sql

theorem blank_onlyReports :
    OnlyReports (do complain emptyMessage [] 0 0; return false : Job Note Bool) :=
  .bind (.complain _ _ _ _) fun _ => .pure false

theorem checkText_onlyReports (engine : Engine Note) (sql : Text) : OnlyReports (checkText engine sql) := by
  by_cases blank : sql.isBlank = true
  · rw [checkText, if_pos blank]
    exact blank_onlyReports
  · rw [checkText, if_neg blank]
    refine .bind (.ask _) fun findings => ?_
    by_cases clean : findings = []
    · rw [if_pos clean]
      exact .bind .approve fun _ => .pure true
    · rw [if_neg clean]
      exact .bind (complainAll_onlyReports _ findings) fun _ => .pure false

theorem check_onlyReports (tree : FileTree) (engine : Engine Note) {document : Text}
    (named : document ≠ standardInput) : OnlyReports (check tree engine document) :=
  .bind (.announce document) fun _ =>
    .bind (load_onlyReports tree named) fun sql => checkText_onlyReports engine sql

theorem inTurn_onlyReports {work : Text → Job Note Bool} {documents : List Text}
    (each : ∀ document ∈ documents, OnlyReports (work document)) : OnlyReports (inTurn work documents) := by
  induction documents with
  | nil => exact .pure true
  | cons document rest ih =>
      refine .bind (each document (by simp)) fun passed => ?_
      refine .bind (ih fun other member => each other (by simp [member])) fun others => ?_
      exact .pure (passed && others)

theorem formatText_printsLast (engine : Engine Note) (document sql : Text) (finish : Finish) :
    PrintsLast (formatText engine document sql finish) := by
  by_cases blank : sql.isBlank = true
  · rw [formatText, if_pos blank]
    exact .quiet blank_onlyReports
  · rw [formatText, if_neg blank]
    refine .after (.ask _) fun answer => ?_
    cases answer with
    | error failure => exact .quiet (.throw failure)
    | ok formatted => exact .print (closeLine formatted) true

theorem format_printsLast (tree : FileTree) (engine : Engine Note) (finish : Finish) {document : Text}
    (named : document ≠ standardInput) : PrintsLast (format tree engine finish document) :=
  .after (.announce document) fun _ =>
    .after (load_onlyReports tree named) fun sql => formatText_printsLast engine document sql finish

section Keeps
variable {tree : FileTree} {Seen : Type} {seen : Console Note → Seen}

theorem complainAll_keeps (view : Unwritten seen) (table : LineTable) (findings : List Finding) :
    Keeps seen (complainAll table findings) := by
  induction findings with
  | nil => exact keeps_pure _ _
  | cons finding rest ih => exact keeps_bind (complain_keeps view _ _ _ _) fun _ => ih

theorem blank_keeps (view : Unwritten seen) :
    Keeps seen (do complain emptyMessage [] 0 0; return false : Job Note Bool) :=
  keeps_bind (complain_keeps view _ _ _ _) fun _ => keeps_pure _ _

theorem verdict_keeps (view : Unwritten seen) (table : LineTable) (findings : List Finding) :
    Keeps seen (do
      if findings = [] then
        approve
        return true
      complainAll table findings
      return false : Job Note Bool) := by
  by_cases clean : findings = []
  · rw [if_pos clean]
    exact keeps_bind (approve_keeps view) fun _ => keeps_pure _ _
  · rw [if_neg clean]
    exact keeps_bind (complainAll_keeps view _ _) fun _ => keeps_pure _ _

theorem checkText_keeps (view : Untouched seen) (engine : Engine Note) (sql : Text) :
    Keeps seen (checkText engine sql) := by
  by_cases blank : sql.isBlank = true
  · rw [checkText, if_pos blank]
    exact blank_keeps view.toUnwritten
  · rw [checkText, if_neg blank]
    exact keeps_bind (ask_keeps view _) fun findings => verdict_keeps view.toUnwritten _ findings

theorem formatText_keeps (view : Untouched seen) (engine : Engine Note) (document sql : Text) (finish : Finish) :
    Keeps seen (formatText engine document sql finish) := by
  by_cases blank : sql.isBlank = true
  · rw [formatText, if_pos blank]
    exact blank_keeps view.toUnwritten
  · rw [formatText, if_neg blank]
    refine keeps_bind (ask_keeps view _) fun answer => ?_
    cases answer with
    | error failure => exact keeps_throw _ failure
    | ok formatted => exact keeps_bind (writeOutput_keeps view.toUnwritten _) fun _ => keeps_pure _ _

theorem load_keeps (view : Untouched seen) (document : Text) : Keeps seen (load tree document) := by
  intro console
  rw [run_load_given]
  exact view.input console _

theorem announced_keeps (view : Untouched seen) {judge : Text → Job Note Bool}
    (judging : ∀ sql, Keeps seen (judge sql)) (document : Text) :
    Keeps seen (do announce document; judge (← load tree document)) :=
  keeps_bind (announce_keeps view.toUnwritten document) fun _ => keeps_bind (load_keeps view document) judging

theorem check_keeps (view : Untouched seen) (tree : FileTree) (engine : Engine Note) (document : Text) :
    Keeps seen (check tree engine document) :=
  announced_keeps view (checkText_keeps view engine) document

end Keeps

end Document

namespace Step
open Job Document
variable {Note : Type}

/-- The documents that a step has to load. -/
def loads : Step → List Text
  | check document => [document]
  | checkEach documents => documents
  | format document _ => [document]
  | _ => []

theorem perform_printsLast (tree : FileTree) (engine : Engine Note) {step : Step}
    (unasked : Inputs.standardInput ∉ step.loads) : PrintsLast (step.perform tree engine) := by
  cases step with
  | announce document => exact .quiet (.bind (.announce document) fun _ => .pure none)
  | complain message token line column =>
      exact .quiet (.bind (.complain message token line column) fun _ => .pure none)
  | approve => exact .quiet (.bind .approve fun _ => .pure none)
  | checkText sql => exact .quiet ((checkText_onlyReports engine sql).map some)
  | check document =>
      have named : document ≠ Inputs.standardInput := fun same => unasked (by simp [loads, same])
      exact .quiet ((check_onlyReports tree engine named).map some)
  | checkEach documents =>
      have each : ∀ document ∈ documents, OnlyReports (Document.check tree engine document) := by
        intro document member
        exact check_onlyReports tree engine fun same => unasked (same ▸ member)
      exact .quiet ((inTurn_onlyReports each).map some)
  | formatText document sql finish => exact (formatText_printsLast engine document sql finish).map some
  | format document finish =>
      have named : document ≠ Inputs.standardInput := fun same => unasked (by simp [loads, same])
      exact (format_printsLast tree engine finish named).map some

theorem perform_keeps {tree : FileTree} {engine : Engine Note} {Seen : Type} {seen : Console Note → Seen}
    (view : Untouched seen) (step : Step) : Keeps seen (step.perform tree engine) := by
  cases step with
  | announce document => exact keeps_bind (announce_keeps view.toUnwritten document) fun _ => keeps_pure _ _
  | complain message token line column =>
      exact keeps_bind (complain_keeps view.toUnwritten message token line column) fun _ => keeps_pure _ _
  | approve => exact keeps_bind (approve_keeps view.toUnwritten) fun _ => keeps_pure _ _
  | checkText sql => exact keeps_map (checkText_keeps view engine sql) some
  | check document => exact keeps_map (check_keeps view tree engine document) some
  | checkEach documents => exact keeps_map (inTurn_keeps fun document _ => check_keeps view tree engine document) some
  | formatText document sql finish => exact keeps_map (formatText_keeps view engine document sql finish) some
  | format document finish =>
      have judging (sql : Text) : Keeps seen (Document.formatText engine document sql finish) :=
        formatText_keeps view engine document sql finish
      exact keeps_map (announced_keeps view judging document) some

end Step
end SqlCheck
