import Mathlib.Data.List.Forall2
import Mathlib.Tactic.SplitIfs
import SqlCheck.Proofs.Places
import SqlCheck.Proofs.Reports
import SqlCheck.Proofs.Sessions

/-! The lines that reports to people take. A banner and an approval take one line each. The token of a complaint
is quoted in its visible form, but its message is written as it is, in colours or not, so a complaint takes one
line more for every line feed in its message. Only where no message has one are reports and lines as many. -/
namespace SqlCheck

namespace Ink

theorem count_reopen {start : Text} (free : '\n' ∉ start) (text : Text) :
    (reopen start text).count '\n' = text.count '\n' := by
  fun_induction reopen start text with
  | case1 rest ih => simp [clearing, List.count_eq_zero.mpr free, ih]
  | case2 c rest other ih => simp [List.count_cons, ih]
  | case3 => rfl

theorem count_apply (enabled : Bool) (ink : Ink) (text : Text) :
    (ink.apply enabled text).count '\n' = text.count '\n' := by
  have free : '\n' ∉ ink.opening := by cases ink <;> decide
  cases enabled with
  | false => rfl
  | true => simp [apply, List.count_append, List.count_eq_zero.mpr free, count_reopen free, clearing]

end Ink

/-- The text is made of so many lines, the last of which is ended as well. -/
structure Text.Spans (lines : Nat) (text : Text) : Prop where
  feeds : text.count '\n' = lines
  ended : ∃ front, text = front ++ ['\n']

/-- The bytes are one line: they end with a line feed and have no other. -/
def Stream.OneLine (bytes : List UInt8) : Prop := bytes.count 10 = 1 ∧ bytes.getLast? = some 10

instance (bytes : List UInt8) : Decidable (Stream.OneLine bytes) := inferInstanceAs (Decidable (_ ∧ _))

namespace Text.Spans
variable {lines : Nat} {text : Text}

theorem close {front : Text} (feeds : front.count '\n' = lines) : (front ++ ['\n']).Spans (lines + 1) where
  feeds := by simp [List.count_append, feeds]
  ended := ⟨front, rfl⟩

theorem getLast_bytes (spans : text.Spans lines) : text.bytes.getLast? = some 10 := by
  obtain ⟨front, rfl⟩ := spans.ended
  have feed : bytes ['\n'] = [10] := by decide
  rw [bytes_append, feed, List.getLast?_concat]

theorem oneLine_iff (spans : text.Spans (lines + 1)) : Stream.OneLine text.bytes ↔ lines = 0 := by
  rw [Stream.OneLine, count_bytes, spans.feeds, spans.getLast_bytes]
  simp

end Text.Spans

namespace Reporter
variable (inColour enabled : Bool)

theorem not_mem_decimal {c : Char} (noDigit : ¬c.isDigit) (n : Nat) : c ∉ decimal n := fun member =>
  noDigit (Nat.isDigit_of_mem_toDigits (by decide) (by decide) member)

theorem count_decimal (n : Nat) : (decimal n).count '\n' = 0 :=
  List.count_eq_zero.mpr (not_mem_decimal (by decide) n)

theorem announcement_spans {document : Text} (named : '\n' ∉ document) :
    ((text inColour enabled).announcement document).Spans 1 := by
  refine .close ?_
  have fixed : List.count '\n' "Checking SQL syntax of ".toList = 0 := by decide
  rw [List.count_append, fixed, List.count_eq_zero.mpr named]

theorem approval_spans : ((text inColour enabled).approval).Spans 1 := by
  refine .close ?_
  cases inColour with
  | false => rfl
  | true =>
      rw [List.count_append, if_pos rfl, Ink.count_apply]
      decide

/-- However it is coloured and whatever it quotes, a complaint takes one line more than its message has feeds. -/
theorem complaint_spans (message token : Text) (line column : Nat) :
    ((text inColour enabled).complaint message token line column).Spans (message.count '\n' + 1) := by
  have quoted : List.count '\n' token.visible = 0 := List.count_eq_zero.mpr (Text.not_mem_visible token (.inl rfl))
  have shown : List.count '\n' (if inColour then Ink.red.apply enabled message else message) =
      message.count '\n' := by
    cases inColour with
    | false => rfl
    | true => exact Ink.count_apply enabled _ message
  have fixed : List.count '\n' " Line ".toList = 0 ∧ List.count '\n' ", col ".toList = 0 ∧
      List.count '\n' " at \"".toList = 0 ∧ List.count '\n' "\": ".toList = 0 := by decide
  obtain ⟨first, second, third, last⟩ := fixed
  rw [Document.text_complaint]
  refine .close ?_
  rw [List.count_append, shown]
  simp only [List.count_append, count_decimal, quoted, first, second, third, last, Nat.add_zero, Nat.zero_add]

end Reporter

variable {Note : Type} {tree : FileTree} {engine : Engine Note} {console : Console Note} {inColour enabled : Bool}

namespace Step
open Job

/-- A step that is one report. The name in a banner has to be on one line itself. -/
inductive IsReport : Step → Prop
  | announce {document : Text} (named : '\n' ∉ document) : IsReport (.announce document)
  | complain (message token : Text) (line column : Nat) : IsReport (.complain message token line column)
  | approve : IsReport .approve

/-- The part of a report that is written as it is. -/
def message : Step → Text
  | complain message _ _ _ => message
  | _ => []

def reportBy (reporter : Reporter) : Step → Text
  | announce document => reporter.announcement document
  | complain message token line column => reporter.complaint message token line column
  | approve => reporter.approval
  | _ => []

theorem IsReport.spans {step : Step} (single : step.IsReport) :
    (step.reportBy (.text inColour enabled)).Spans (step.message.count '\n' + 1) := by
  cases single with
  | announce named => exact Reporter.announcement_spans inColour enabled named
  | complain message token line column => exact Reporter.complaint_spans inColour enabled message token line column
  | approve => exact Reporter.approval_spans inColour enabled

/-- Single reports one behind the other take a line each, and one for each line feed in a message. -/
theorem count_reports {steps : List Step} (single : ∀ step ∈ steps, step.IsReport) :
    List.count '\n' (steps.map (reportBy (.text inColour enabled))).flatten =
      steps.length + List.count '\n' (steps.flatMap message) := by
  induction steps with
  | nil => rfl
  | cons step rest ih =>
      have first : List.count '\n' (step.reportBy (.text inColour enabled)) = _ := (single step (by simp)).spans.feeds
      have others := ih fun other member => single other (by simp [member])
      simp only [List.map_cons, List.flatten_cons, List.flatMap_cons, List.count_append, first, others,
        List.length_cons]
      omega

/-- A reporter to people is not turned by a banner, so all that a report changes is the stream. -/
theorem IsReport.run {step : Step} (single : step.IsReport) (people : console.reporter = .text inColour enabled)
    (room : console.reports.room = none) :
    runOn (step.perform tree engine) console = (.ok none, console.report (step.reportBy console.reporter)) := by
  have unturned (document : Text) : console.turnTo document = console := by
    rw [Console.turnTo, people, Reporter.turnTo, ← people]
  cases single with
  | @announce document named =>
      have announced := run_announce room document
      rw [unturned, show console.reporter.turnTo document = console.reporter from
        congrArg Console.reporter (unturned document)] at announced
      rw [perform, run_bind_ok announced]
      rfl
  | complain message token line column =>
      rw [perform, run_bind_ok (run_complain room message token line column)]
      rfl
  | approve =>
      rw [perform, run_bind_ok (run_approve room)]
      rfl

end Step

namespace Session
open Job

theorem play_reports {steps : List Step} (single : ∀ step ∈ steps, step.IsReport)
    (people : console.reporter = .text inColour enabled) (room : console.reports.room = none)
    (fresh : console.reports.written = []) :
    List.Forall₂ (fun step (answer : Answer Note) =>
        step.IsReport ∧ answer.result = .ok none ∧ answer.reports = (step.reportBy console.reporter).bytes)
      steps (play tree engine steps console) := by
  induction steps generalizing console with
  | nil => exact .nil
  | cons step rest ih =>
      have first : runOn (step.perform tree engine) console = _ := (single step (by simp)).run people room
      have others : ∀ other ∈ rest, other.IsReport := fun other member => single other (by simp [member])
      rw [play_cons, first]
      refine .cons ⟨single step (by simp), rfl, by simp [Console.report, fresh]⟩ ?_
      exact ih others (show (cleared (console.report (step.reportBy console.reporter))).reporter =
        .text inColour enabled from people) room rfl

end Session

namespace Document
open Job Session

/-- The reports that a check of a text calls for. -/
def callsOn (engine : Engine Note) (sql : Text) : List Step :=
  if sql.isBlank then [.complain emptyMessage [] 0 0]
  else if (engine.findings sql).value = [] then [.approve]
  else (engine.findings sql).value.map fun finding =>
    let place := (LineTable.ofText sql).position finding.offset
    .complain finding.message finding.token place.line place.column

/-- The reports that a check of documents calls for; none are behind a document that cannot be read. -/
def callsOf (tree : FileTree) (engine : Engine Note) : List UInt8 → List Text → List Step
  | _, [] => []
  | input, document :: rest =>
      .announce document :: match given tree input document with
        | .ok sql => callsOn engine sql ++ callsOf tree engine (left input document) rest
        | .error _ => []

theorem reportsOn_eq (reporter : Reporter) (sql : Text) :
    reportsOn engine reporter sql = (callsOn engine sql).map (Step.reportBy reporter) := by
  unfold reportsOn callsOn
  split_ifs
  · rfl
  · rfl
  · rw [List.map_map]
    rfl

theorem callsOn_single {sql : Text} : ∀ call ∈ callsOn engine sql, call.IsReport := by
  unfold callsOn
  split_ifs
  · simp [Step.IsReport.complain]
  · simp [Step.IsReport.approve]
  · simp [Step.IsReport.complain]

theorem callsOf_single {documents : List Text} (named : ∀ document ∈ documents, '\n' ∉ document)
    (input : List UInt8) : ∀ call ∈ callsOf tree engine input documents, call.IsReport := by
  induction documents generalizing input with
  | nil => simp [callsOf]
  | cons document rest ih =>
      have others := ih fun other member => named other (by simp [member])
      intro call member
      rcases List.mem_cons.mp member with rfl | member
      · exact .announce (named document (by simp))
      · split at member
        · rcases List.mem_append.mp member with member | member
          · exact callsOn_single call member
          · exact others _ call member
        · cases member

theorem checkEach_written (people : console.reporter = .text inColour enabled)
    (room : console.reports.room = none) (documents : List Text) :
    (runOn (checkEach tree engine documents) console).2.reports.written =
      console.reports.written ++
        Text.bytes ((callsOf tree engine console.input documents).map (Step.reportBy console.reporter)).flatten := by
  induction documents generalizing console with
  | nil => simp [checkEach, inTurn, callsOf, Text.bytes]
  | cons document rest ih =>
      have unturned : console.reporter.turnTo document = console.reporter := by rw [people, Reporter.turnTo]
      have begun : runOn (check tree engine document) console = _ := run_check_given room document
      cases read : given tree console.input document with
      | error failure =>
          rw [read] at begun
          rw [checkEach, run_inTurn_error begun]
          simp [callsOf, read, opened, Console.report, Console.turnTo, Step.reportBy, unturned]
      | ok sql =>
          rw [read, unturned] at begun
          have others := ih (show (((opened document console).note (askedAbout engine sql)).report
            (reportsOn engine console.reporter sql).flatten).reporter = .text inColour enabled from
              unturned.trans people) room
          rw [checkEach] at others
          rw [checkEach, run_inTurn_ok begun, others]
          simp [callsOf, read, opened, Console.report, Console.note, Console.turnTo, Step.reportBy, unturned,
            reportsOn_eq]

end Document

namespace Session
open Job Document

theorem play_written {steps : List Step} (single : ∀ step ∈ steps, step.IsReport)
    (people : console.reporter = .text inColour enabled) (room : console.reports.room = none)
    (fresh : console.reports.written = []) :
    (play tree engine steps console).flatMap Answer.reports =
      Text.bytes (steps.map (Step.reportBy console.reporter)).flatten := by
  have answered : List.Forall₂ _ steps (play tree engine steps console) := play_reports single people room fresh
  generalize play tree engine steps console = answers at answered
  induction answered with
  | nil => rfl
  | cons first _ ih =>
      rw [List.flatMap_cons, first.2.2, ih fun other member => single other (by simp [member])]
      simp

/-- What a job reports is what a session of single reports does, and it has as many lines as they are
just where no message has a line feed. -/
structure Calls (tree : FileTree) (engine : Engine Note) (console : Console Note) (job : Job Note Bool)
    (calls : List Step) : Prop where
  single : ∀ call ∈ calls, call.IsReport
  written : (runOn job console).2.reports.written = (play tree engine calls console).flatMap Answer.reports
  lines_iff : (runOn job console).2.reports.written.count 10 = calls.length ↔
    ∀ call ∈ calls, '\n' ∉ call.message

theorem Calls.of_written (people : console.reporter = .text inColour enabled)
    (room : console.reports.room = none) (fresh : console.reports.written = []) {job : Job Note Bool}
    {calls : List Step} (single : ∀ call ∈ calls, call.IsReport)
    (written : (runOn job console).2.reports.written =
      Text.bytes (calls.map (Step.reportBy console.reporter)).flatten) :
    Calls tree engine console job calls where
  single := single
  written := by rw [written, play_written single people room fresh]
  lines_iff := by
    rw [written, Text.count_bytes, people, Step.count_reports single, Nat.add_eq_left, List.count_eq_zero]
    simp

theorem play_one_line_iff {steps : List Step} (single : ∀ step ∈ steps, step.IsReport)
    (people : console.reporter = .text inColour enabled) (room : console.reports.room = none)
    (fresh : console.reports.written = []) :
    (∀ answer ∈ play tree engine steps console, Stream.OneLine answer.reports) ↔
      ∀ step ∈ steps, '\n' ∉ step.message := by
  have answered : List.Forall₂ _ steps (play tree engine steps console) := play_reports single people room fresh
  clear single
  generalize play tree engine steps console = answers at answered
  induction answered with
  | nil => simp
  | @cons step answer others answers first _ ih =>
      obtain ⟨report, -, written⟩ := first
      have alone : Stream.OneLine answer.reports ↔ '\n' ∉ step.message := by
        rw [written, people, report.spans.oneLine_iff, List.count_eq_zero]
      rw [List.forall_mem_cons, List.forall_mem_cons]
      exact and_congr alone ih

/-- Each single report to people, in colours or not, ends with a line feed and takes a line for each feed in its
message and one more, whatever its token. So in sessions of reports and in checks there is one line for each
report exactly if no message has a line feed. -/
theorem one_line_per_report_iff (tree : FileTree) (engine : Engine Note)
    (people : console.reporter = .text inColour enabled) (room : console.reports.room = none)
    (fresh : console.reports.written = []) :
    (∀ {steps : List Step}, (∀ step ∈ steps, step.IsReport) →
      List.Forall₂ (fun step (answer : Answer Note) => answer.result = .ok none ∧
          answer.reports.getLast? = some 10 ∧ answer.reports.count 10 = step.message.count '\n' + 1)
        steps (play tree engine steps console) ∧
      ((∀ answer ∈ play tree engine steps console, Stream.OneLine answer.reports) ↔
        ∀ step ∈ steps, '\n' ∉ step.message)) ∧
    (∀ sql, Calls tree engine console (checkText engine sql) (callsOn engine sql)) ∧
    (∀ {documents : List Text}, (∀ document ∈ documents, '\n' ∉ document) →
      Calls tree engine console (checkEach tree engine documents)
        (callsOf tree engine console.input documents)) := by
  refine ⟨fun {steps} single => ⟨?_, play_one_line_iff single people room fresh⟩, fun sql => ?_,
    fun {documents} named => ?_⟩
  · refine (play_reports single people room fresh).imp ?_
    rintro step answer ⟨report, result, written⟩
    rw [written, people, Text.count_bytes, report.spans.feeds, report.spans.getLast_bytes]
    exact ⟨result, rfl, rfl⟩
  · refine .of_written people room fresh callsOn_single ?_
    rw [run_checkText room, reportsOn_eq]
    simp [Console.report, Console.note, fresh]
  · refine .of_written people room fresh (callsOf_single named _) ?_
    rw [checkEach_written people room, fresh, List.nil_append]

def twoLines : Engine Question :=
  .answering (fun _ => [⟨"a\nb".toList, 0, "x\ny".toList⟩]) fun _ sql _ => .ok sql

def threeReports : List Step := [.announce ['q'], .complain "no".toList "x\r\n".toList 3 7, .approve]

def inRed : Console Question := ⟨.text true true, {}, {}, "SELECT\n".toUTF8.toList, []⟩

/-- Three reports in colours take three lines, while the two reports on standard input take three. -/
theorem three_reports_three_lines :
    (∀ step ∈ threeReports, step.IsReport ∧ '\n' ∉ step.message) ∧
    (∀ answer ∈ play (.folder []) twoLines threeReports inRed, Stream.OneLine answer.reports) ∧
    Calls (.folder []) twoLines inRed (checkText twoLines ['1']) (callsOn twoLines ['1']) ∧
    Calls (.folder []) twoLines inRed (checkEach (.folder []) twoLines [['-']])
      (callsOf (.folder []) twoLines inRed.input [['-']]) ∧
    (runOn (checkEach (.folder []) twoLines [['-']]) inRed).2.reports.written.count 10 = 3 ∧
    (callsOf (.folder []) twoLines inRed.input [['-']]).length = 2 := by
  have single : ∀ step ∈ threeReports, step.IsReport := by
    simp only [threeReports, List.forall_mem_cons]
    exact ⟨.announce (by decide), .complain .., .approve, by simp⟩
  have quiet : ∀ step ∈ threeReports, '\n' ∉ step.message := by decide
  have lines := one_line_per_report_iff (.folder []) twoLines
    (show inRed.reporter = .text true true from rfl) rfl rfl
  refine ⟨fun step member => ⟨single step member, quiet step member⟩, (lines.1 single).2.mpr quiet, lines.2.1 _,
    lines.2.2 (by decide), by decide +kernel, by decide +kernel⟩

theorem two_lines_of_message :
    ∃ answer, play (.folder []) twoLines [.complain "a\nb".toList ['x'] 1 0]
        ⟨.text false false, {}, {}, [], []⟩ = [answer] ∧
      answer.reports = Text.bytes " Line 1, col 0 at \"x\": a\nb\n".toList ∧
      ¬Stream.OneLine answer.reports :=
  ⟨_, rfl, by decide +kernel, by decide +kernel⟩

end Session
end SqlCheck
