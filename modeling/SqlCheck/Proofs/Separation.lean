import Mathlib.Data.List.Forall2
import SqlCheck.Proofs.Formatting
import SqlCheck.Proofs.Sessions

/-! The two streams of a session that formats. Two such sessions that differ in the reporter print the same and
come to the same results; two that differ in the engine and in the finish report the same. Each half is a relation
between the two consoles that one step keeps: in the first the reports may be different, in the second all but the
reports. -/
namespace SqlCheck

/-- The same step that formats, perhaps in another finish. -/
inductive Step.Refinished : Step → Step → Prop
  | text (document sql : Text) (finish other : Finish) :
      Refinished (.formatText document sql finish) (.formatText document sql other)
  | document (document : Text) (finish other : Finish) : Refinished (.format document finish) (.format document other)

def Step.Formats (step : Step) : Prop := step.Refinished step

namespace Session
open Job Document
variable {Note Other : Type} {tree : FileTree}

/-- Two consoles of the same work: at most the reporters and what they wrote are different. -/
structure SameWork (first second : Console Note) : Prop where
  output : first.output = second.output
  input : first.input = second.input
  notes : first.notes = second.notes
  free : first.Unlimited ∧ second.Unlimited

/-- Two consoles with the same reports: at most the output and the notes are different. -/
structure SameReports (first : Console Note) (second : Console Other) : Prop where
  reporter : first.reporter = second.reporter
  reports : first.reports = second.reports
  input : first.input = second.input
  free : first.Unlimited ∧ second.Unlimited

section Work
variable {first second : Console Note}

theorem SameWork.add (same : SameWork first second) (notes : List Note) (one two printed : Text) :
    SameWork (((first.note notes).report one).print printed) (((second.note notes).report two).print printed) where
  output := by simp [Console.print, Console.report, Console.note, same.output]
  input := same.input
  notes := congrArg (· ++ notes) same.notes
  free := ⟨((same.free.1.note notes).report one).print printed, ((same.free.2.note notes).report two).print printed⟩

theorem SameWork.finished (same : SameWork first second) (document : Text) (made : Formatted Note) :
    SameWork (finished tree document made first) (finished tree document made second) := by
  apply SameWork.add
  obtain ⟨one, two⟩ := same.free
  exact ⟨same.output, congrArg (left · document) same.input, same.notes, ⟨one.reports, one.output⟩,
    ⟨two.reports, two.output⟩⟩

theorem SameWork.perform (same : SameWork first second) (tree : FileTree) (engine : Engine Note) {step : Step}
    (formatting : step.Formats) :
    (runOn (step.perform tree engine) first).1 = (runOn (step.perform tree engine) second).1 ∧
      SameWork (runOn (step.perform tree engine) first).2 (runOn (step.perform tree engine) second).2 := by
  obtain ⟨one, two⟩ := same.free
  cases formatting with
  | text document sql finish =>
      -- What comes of the text is the engine's, so it is the same term in both runs.
      simp only [Step.perform, run_map, run_formatText one, run_formatText two]
      exact ⟨trivial, same.add ..⟩
  | document document finish =>
      simp only [Step.perform, run_map, run_format one, run_format two, same.input]
      exact ⟨trivial, same.finished ..⟩

theorem SameWork.cleared (same : SameWork first second) : SameWork (cleared first) (cleared second) where
  output := congrArg Stream.emptied same.output
  input := same.input
  notes := rfl
  free := ⟨⟨same.free.1.reports, same.free.1.output⟩, ⟨same.free.2.reports, same.free.2.output⟩⟩

theorem SameWork.play (same : SameWork first second) (engine : Engine Note) {steps : List Step}
    (formatting : ∀ step ∈ steps, step.Formats) :
    (play tree engine steps first).map (fun answer => (answer.result, answer.output, answer.notes)) =
      (play tree engine steps second).map (fun answer => (answer.result, answer.output, answer.notes)) := by
  induction steps generalizing first second with
  | nil => rfl
  | cons step rest ih =>
      obtain ⟨result, after⟩ := same.perform tree engine (formatting step (by simp))
      have others := ih after.cleared fun other member => formatting other (by simp [member])
      simp only [play_cons, List.map_cons, result, after.output, after.notes, others]

end Work

section Reports
variable {first : Console Note} {second : Console Other}

theorem SameReports.add (same : SameReports first second) (one : List Note) (two : List Other)
    (report firstPrint secondPrint : Text) :
    SameReports (((first.note one).report report).print firstPrint) (((second.note two).report report).print secondPrint)
    where
  reporter := same.reporter
  reports := by simp [Console.print, Console.report, Console.note, same.reports]
  input := same.input
  free := ⟨((same.free.1.note one).report report).print firstPrint,
    ((same.free.2.note two).report report).print secondPrint⟩

theorem SameReports.finished (same : SameReports first second) (document : Text) (made : Formatted Note)
    (madeOther : Formatted Other) :
    SameReports (finished tree document made first) (finished tree document madeOther second) := by
  have reports : formatReport tree first.reporter first.input document =
      formatReport tree second.reporter second.input document := by rw [same.reporter, same.input]
  unfold Document.finished
  rw [reports]
  apply SameReports.add
  obtain ⟨one, two⟩ := same.free
  exact ⟨congrArg (Reporter.turnTo document) same.reporter, same.reports, congrArg (left · document) same.input,
    ⟨one.reports, one.output⟩, ⟨two.reports, two.output⟩⟩

theorem SameReports.perform (same : SameReports first second) (tree : FileTree) (engine : Engine Note)
    (otherEngine : Engine Other) {step other : Step} (formatting : step.Refinished other) :
    SameReports (runOn (step.perform tree engine) first).2 (runOn (other.perform tree otherEngine) second).2 := by
  obtain ⟨one, two⟩ := same.free
  cases formatting with
  | text document sql finish =>
      simp only [Step.perform, run_map, run_formatText one, run_formatText two, same.reporter]
      exact same.add ..
  | document document finish =>
      simp only [Step.perform, run_map, run_format one, run_format two]
      exact same.finished ..

theorem SameReports.cleared (same : SameReports first second) : SameReports (cleared first) (cleared second) where
  reporter := same.reporter
  reports := congrArg Stream.emptied same.reports
  input := same.input
  free := ⟨⟨same.free.1.reports, same.free.1.output⟩, ⟨same.free.2.reports, same.free.2.output⟩⟩

theorem SameReports.play (same : SameReports first second) (engine : Engine Note) (otherEngine : Engine Other)
    {steps others : List Step} (formatting : List.Forall₂ Step.Refinished steps others) :
    (play tree engine steps first).map Answer.reports = (play tree otherEngine others second).map Answer.reports := by
  induction formatting generalizing first second with
  | nil => rfl
  | cons step rest ih =>
      -- A step that failed leaves as much of the input and the same reporter, so its result is not looked at.
      have after := same.perform tree engine otherEngine step
      simp only [play_cons, List.map_cons, after.reports, ih after.cleared]

end Reports

/-- In a session that only formats, what is printed, asked and answered does not depend on the reporter, and what is
reported depends neither on the engine nor on the finish. -/
theorem format_streams_separate (tree : FileTree) {steps : List Step} (formatting : ∀ step ∈ steps, step.Formats)
    (input : List UInt8) :
    (∀ (engine : Engine Note) (notes : List Note) (one two : Reporter),
      let session (reporter : Reporter) := play tree engine steps ⟨reporter, {}, {}, input, notes⟩
      (session one).map (fun answer => (answer.result, answer.output, answer.notes)) =
        (session two).map fun answer => (answer.result, answer.output, answer.notes)) ∧
    ∀ (engine : Engine Note) (otherEngine : Engine Other) (others : List Step),
      List.Forall₂ Step.Refinished steps others → ∀ (reporter : Reporter) (notes : List Note) (otherNotes : List Other),
        (play tree engine steps ⟨reporter, {}, {}, input, notes⟩).map Answer.reports =
          (play tree otherEngine others ⟨reporter, {}, {}, input, otherNotes⟩).map Answer.reports := by
  constructor
  · intro engine notes one two session
    have same : SameWork (⟨one, {}, {}, input, notes⟩ : Console Note) ⟨two, {}, {}, input, notes⟩ :=
      ⟨rfl, rfl, rfl, ⟨rfl, rfl⟩, ⟨rfl, rfl⟩⟩
    exact same.play engine formatting
  · intro engine otherEngine others refinished reporter notes otherNotes
    have same : SameReports (⟨reporter, {}, {}, input, notes⟩ : Console Note)
        (⟨reporter, {}, {}, input, otherNotes⟩ : Console Other) := ⟨rfl, rfl, rfl, ⟨rfl, rfl⟩, ⟨rfl, rfl⟩⟩
    exact same.play engine otherEngine refinished

def threeFormats (finish : Finish) : List Step :=
  [.format "gone.sql".toList finish, .formatText ['q'] ['\n'] finish, .formatText ['q'] "SELECT".toList finish]

def refusing : Engine Question := .answering (fun _ => []) fun document _ _ => .error (.unformattable document 3)

def copying : Engine Question := .answering (fun _ => []) fun _ sql _ => .ok sql

theorem three_formats_separate :
    let session (engine : Engine Question) (finish : Finish) (reporter : Reporter) :=
      play (.folder []) engine (threeFormats finish) ⟨reporter, {}, {}, [], []⟩
    (∀ step ∈ threeFormats .plain, step.Formats) ∧
    (session copying .plain (.text true true)).map (fun answer => (answer.result, answer.output, answer.notes)) =
      (session copying .plain (.emacs [])).map (fun answer => (answer.result, answer.output, answer.notes)) ∧
    (session copying .plain (.emacs [])).flatMap Answer.output = Text.bytes "SELECT\n".toList ∧
    (session copying .plain (.emacs [])).map Answer.reports =
      (session refusing .decorated (.emacs [])).map Answer.reports ∧
    (session refusing .decorated (.emacs [])).flatMap Answer.reports =
      Text.bytes "gone.sql:0:0: error: SQL file empty\n".toList := by
  intro session
  have formatting : ∀ step ∈ threeFormats .plain, step.Formats := by
    simp only [threeFormats, List.forall_mem_cons]
    exact ⟨.document .., .text .., .text .., by simp⟩
  have refinished : List.Forall₂ Step.Refinished (threeFormats .plain) (threeFormats .decorated) :=
    .cons (.document ..) (.cons (.text ..) (.cons (.text ..) .nil))
  obtain ⟨printed, reported⟩ := format_streams_separate (.folder []) formatting []
  exact ⟨formatting, printed copying [] (.text true true) (.emacs []), by decide +kernel,
    reported copying refusing _ refinished (.emacs []) [] [], by decide +kernel⟩

end Session
end SqlCheck
