import SqlCheck.Proofs.Colours
import SqlCheck.Proofs.Formatting
import SqlCheck.Proofs.ReportLines

/-! Two runs of one session that differ in the colours of the reporter and in whether the terminal is to get any. What
is asked and what comes of a step does not depend on either, and the reports agree piece by piece: they are the same
bytes where no colours are enabled, and else the same once the escape sequences are taken out. Whatever way of agreeing
passes to reports that are put together is kept by a step, so both are one proof. -/
namespace SqlCheck

namespace Text

/-- What is left of the one without its escape sequences is the other, whatever stands behind it. -/
def Shades (shaded plain : Text) : Prop := ∀ back, unstyled (shaded ++ back) = plain ++ unstyled back

/-- A way for texts to agree that passes to texts put together, and is being the same where there is no colour. -/
structure Joins (level : Text → Text → Prop) : Prop where
  plain : ∀ {text : Text}, '\x1b' ∉ text → level text text
  append : ∀ {front otherFront back otherBack : Text}, level front otherFront → level back otherBack →
    level (front ++ back) (otherFront ++ otherBack)

theorem joins_eq : Joins Eq where
  plain _ := rfl
  append front back := by rw [front, back]

theorem joins_shades : Joins Shades where
  plain free := unstyled_append free
  append front back behind := by rw [List.append_assoc, front, back, List.append_assoc]

theorem Shades.unstyled_eq {shaded plain : Text} (shades : Shades shaded plain) : unstyled shaded = plain := by
  have alone := shades []
  rwa [List.append_nil, unstyled_free List.not_mem_nil, List.append_nil] at alone

theorem escape_not_mem_visible {token : Text} (free : '\x1b' ∉ token) : '\x1b' ∉ token.visible := by
  simp [visible, mem_replaceChar, free]

theorem escape_not_mem_flatten {message : Text} (free : '\x1b' ∉ message) : '\x1b' ∉ Reporter.flatten message := by
  intro member
  obtain ⟨c, own, shown⟩ := List.mem_map.mp member
  by_cases feed : c = '\n'
  · rw [if_pos feed] at shown
    exact absurd shown (by decide)
  · rw [if_neg feed] at shown
    exact free (shown ▸ own)

end Text

namespace Step

def words : Step → List Text
  | announce document => [document]
  | complain message token _ _ => [message, token]
  | _ => []

def EscapeFree (call : Step) : Prop := ∀ word ∈ call.words, '\x1b' ∉ word

instance (call : Step) : Decidable call.EscapeFree := inferInstanceAs (Decidable (∀ word ∈ call.words, '\x1b' ∉ word))

end Step

namespace Reporter
open Text

/-- Two reporters whose reports agree, as long as there is no escape character in what they quote. -/
inductive Tints (level : Text → Text → Prop) : Reporter → Reporter → Prop
  | people {inColour enabled otherColour otherEnabled : Bool}
      (shown : ∀ (ink : Ink) {text : Text}, '\x1b' ∉ text →
        level (if inColour then ink.apply enabled text else text)
          (if otherColour then ink.apply otherEnabled text else text)) :
      Tints level (.text inColour enabled) (.text otherColour otherEnabled)
  | editors {document : Text} (named : '\x1b' ∉ document) : Tints level (.emacs document) (.emacs document)

theorem tints_eq (enabled : Bool) (form : ReportForm) :
    Tints Eq (create true false form) (create false enabled form) := by
  cases form with
  | text => exact .people fun _ _ _ => rfl
  | emacs => exact .editors List.not_mem_nil

theorem tints_shades (enabled : Bool) (form : ReportForm) :
    Tints Shades (create true true form) (create false enabled form) := by
  cases form with
  | text => exact .people fun ink _ free => ink.unstyled_apply free
  | emacs => exact .editors List.not_mem_nil

namespace Tints
variable {level : Text → Text → Prop} {one other : Reporter}

theorem turnTo (tints : Tints level one other) {document : Text} (named : '\x1b' ∉ document) :
    Tints level (one.turnTo document) (other.turnTo document) := by
  cases tints with
  | people shown => exact .people shown
  | editors => exact .editors named

theorem announcement (tints : Tints level one other) (joins : Joins level) {document : Text}
    (named : '\x1b' ∉ document) : level (one.announcement document) (other.announcement document) := by
  cases tints with
  | people =>
      have free : '\x1b' ∉ "Checking SQL syntax of ".toList ++ document ++ ['\n'] := by
        simp only [List.mem_append, not_or]
        exact ⟨⟨by decide, named⟩, by decide⟩
      exact joins.plain free
  | editors => exact joins.plain List.not_mem_nil

theorem approval (tints : Tints level one other) (joins : Joins level) : level one.approval other.approval := by
  cases tints with
  | people shown =>
      apply joins.append
      · exact joins.append (joins.plain (by decide)) (shown .green (by decide))
      · exact joins.plain (by decide)
  | editors => exact joins.plain List.not_mem_nil

theorem complaint (tints : Tints level one other) (joins : Joins level) {message token : Text}
    (quoted : '\x1b' ∉ message) (cited : '\x1b' ∉ token) (line column : Nat) :
    level (one.complaint message token line column) (other.complaint message token line column) := by
  have numbers (n : Nat) : '\x1b' ∉ decimal n := not_mem_decimal (by decide) n
  cases tints with
  | people shown =>
      rw [Document.text_complaint, Document.text_complaint]
      apply joins.append
      · refine joins.append (joins.plain ?_) (shown .red quoted)
        simp [numbers, escape_not_mem_visible cited]
      · exact joins.plain (by decide)
  | @editors document named =>
      have free (shown : Nat) : '\x1b' ∉ document ++ [':'] ++ decimal line ++ [':'] ++ decimal shown
          ++ ": error: ".toList ++ Reporter.flatten message ++ ['\n'] := by
        simp only [List.mem_append, not_or]
        exact ⟨⟨⟨⟨⟨⟨⟨named, by decide⟩, numbers _⟩, by decide⟩, numbers _⟩, by decide⟩,
          escape_not_mem_flatten quoted⟩, by decide⟩
      exact joins.plain (free (editorColumn line column))

theorem reportBy (tints : Tints level one other) (joins : Joins level) {call : Step} (free : call.EscapeFree) :
    level (call.reportBy one) (call.reportBy other) := by
  cases call with
  | announce document => exact tints.announcement joins (free document (List.mem_singleton_self _))
  | complain message token line column =>
      exact tints.complaint joins (free message (by simp [Step.words])) (free token (by simp [Step.words])) line column
  | approve => exact tints.approval joins
  | _ => exact joins.plain List.not_mem_nil

/-- Reports without a banner do not turn the reporter, so they agree as a whole if each of them does. -/
theorem reportsBy (tints : Tints level one other) (joins : Joins level) {calls : List Step}
    (free : ∀ call ∈ calls, call.EscapeFree) :
    level (calls.map (Step.reportBy one)).flatten (calls.map (Step.reportBy other)).flatten := by
  induction calls with
  | nil => exact joins.plain List.not_mem_nil
  | cons call rest ih =>
      have others := ih fun later member => free later (by simp [member])
      rw [List.map_cons, List.flatten_cons, List.map_cons, List.flatten_cons]
      exact joins.append (tints.reportBy joins (free call (by simp))) others

end Tints
end Reporter

namespace Engine
variable {Note : Type}

/-- Engines that are asked the same and come to the same; what they print may be different. -/
structure Alike (one other : Engine Note) : Prop where
  findings : one.findings = other.findings
  asked : ∀ document sql finish, (one.format document sql finish).notes = (other.format document sql finish).notes
  verdict : ∀ document sql finish, (one.format document sql finish).value.map (fun _ => ()) =
    (other.format document sql finish).value.map fun _ => ()

/-- What an engine is where colours are enabled and where they are not: one and the same, or that of a parser, which
prints in colours only where they are enabled. -/
inductive Overridden : {Note : Type} → (Bool → Engine Note) → Prop
  | fixed {Note : Type} (engine : Engine Note) : Overridden fun _ => engine
  | parsing (parser : Parser) (config : Text) : Overridden fun enabled => (parser.engine enabled config).value

end Engine

namespace Parser

theorem format_notes (parser : Parser) (enabled otherwise : Bool) (document sql : Text) (finish : Finish) :
    (parser.format enabled document sql finish).notes = (parser.format otherwise document sql finish).notes := by
  by_cases clean : (parser.findings sql).value = []
  · cases finish with
    | plain => rfl
    | decorated =>
        -- The fixed text is parsed for its tokens in either case.
        cases found : (parser.tokens? (parser.fix sql)).value <;>
          simp [format, bind, Noted.andThen, clean, fixNoted, pure, found]
  · rw [parser.format_faulty enabled document finish clean, parser.format_faulty otherwise document finish clean]

theorem engine_alike (parser : Parser) (enabled otherwise : Bool) (config : Text) :
    (parser.engine enabled config).value.Alike (parser.engine otherwise config).value where
  findings := rfl
  asked document sql finish := parser.format_notes enabled otherwise document sql finish
  verdict document sql finish := by
    rw [engine_format, engine_format, format_value, format_value]
    by_cases clean : (parser.findings sql).value = []
    · cases finish <;> simp [clean, Except.map]
    · simp [clean]

end Parser

theorem Engine.Overridden.alike {Note : Type} {engines : Bool → Engine Note} (overridden : Overridden engines)
    (enabled otherwise : Bool) : (engines enabled).Alike (engines otherwise) := by
  cases overridden with
  | fixed engine => exact ⟨rfl, fun _ _ _ => rfl, fun _ _ _ => rfl⟩
  | parsing parser config => exact parser.engine_alike enabled otherwise config

namespace Document
open Job
variable {Note : Type} {engine other : Engine Note}

theorem checkText_alike (alike : engine.Alike other) (sql : Text) : checkText engine sql = checkText other sql := by
  simp only [checkText, alike.findings]

theorem check_alike (alike : engine.Alike other) (tree : FileTree) : check tree engine = check tree other := by
  funext document
  simp only [check, checkText_alike alike]

def blankCalls (sql : Text) : List Step := if sql.isBlank then [.complain emptyMessage [] 0 0] else []

theorem blankReport_eq (reporter : Reporter) (sql : Text) :
    blankReport reporter sql = ((blankCalls sql).map (Step.reportBy reporter)).flatten := by
  unfold blankReport blankCalls
  by_cases blank : sql.isBlank = true
  · simp [blank, Step.reportBy]
  · simp [blank]

theorem blankCalls_free (sql : Text) : ∀ call ∈ blankCalls sql, call.EscapeFree := by
  unfold blankCalls
  by_cases blank : sql.isBlank = true
  · rw [if_pos blank, List.forall_mem_singleton, Step.EscapeFree, Step.words, List.forall_mem_cons]
    exact ⟨by decide, by simp⟩
  · simp [blank]

/-- The reports that a document calls for, where `on` says what its text calls for. -/
def callsFor (tree : FileTree) (input : List UInt8) (document : Text) (on : Text → List Step) : List Step :=
  .announce document :: match given tree input document with
    | .ok sql => on sql
    | .error _ => []

theorem Formatted.ofText_alike (alike : engine.Alike other) (document sql : Text) (finish : Finish) :
    (ofText engine document sql finish).result = (ofText other document sql finish).result ∧
      (ofText engine document sql finish).notes = (ofText other document sql finish).notes := by
  have asked := alike.asked document sql finish
  have verdict := alike.verdict document sql finish
  by_cases blank : sql.isBlank = true
  · simp [ofText, blank]
  · cases one : (engine.format document sql finish).value <;>
      cases two : (other.format document sql finish).value <;>
        simp_all [ofText, Except.map]

end Document

/-- The single reports that a step is made of while standard input holds `input`. -/
def Step.calls {Note : Type} (tree : FileTree) (engine : Engine Note) (input : List UInt8) : Step → List Step
  | checkText sql => Document.callsOn engine sql
  | check document => Document.callsFor tree input document (Document.callsOn engine)
  | checkEach documents => Document.callsOf tree engine input documents
  | formatText _ sql _ => Document.blankCalls sql
  | format document _ => Document.callsFor tree input document Document.blankCalls
  | step => [step]

namespace Session
open Job Document Text
variable {Note : Type} {tree : FileTree} {level : Text → Text → Prop} {one other : Console Note}

/-- Two consoles with room for everything that differ in the reports at most, which agree, and in the output. -/
structure Tinted (level : Text → Text → Prop) (one other : Console Note) : Prop where
  reporter : one.reporter.Tints level other.reporter
  reports : ∃ shown plain : Text, level shown plain ∧
    one.reports.written = shown.bytes ∧ other.reports.written = plain.bytes
  input : one.input = other.input
  notes : one.notes = other.notes
  free : one.Unlimited ∧ other.Unlimited

/-- Two runs that end in the same way on such consoles. -/
def Tally {Value : Type} (level : Text → Text → Prop) (one other : Except Failure Value × Console Note) : Prop :=
  one.1 = other.1 ∧ Tinted level one.2 other.2

theorem Tally.map {Value Next : Type} {one other : Except Failure Value × Console Note} (tally : Tally level one other)
    (form : Value → Next) : Tally level (one.1.map form, one.2) (other.1.map form, other.2) :=
  ⟨congrArg (Except.map form) tally.1, tally.2⟩

theorem Tally.inTurn {work : Text → Job Note Bool} {document : Text} {rest : List Text}
    (first : Tally level (runOn (work document) one) (runOn (work document) other))
    (others : ∀ passed, (runOn (work document) other).1 = .ok passed →
      Tally level (runOn (inTurn work rest) (runOn (work document) one).2)
        (runOn (inTurn work rest) (runOn (work document) other).2)) :
    Tally level (runOn (inTurn work (document :: rest)) one) (runOn (inTurn work (document :: rest)) other) := by
  obtain ⟨result, after⟩ := first
  cases ends : (runOn (work document) other).1 with
  | error failure =>
      have begun : runOn (work document) one = (.error failure, (runOn (work document) one).2) :=
        Prod.ext (result.trans ends) rfl
      rw [run_inTurn_error begun, run_inTurn_error (Prod.ext ends rfl)]
      exact ⟨rfl, after⟩
  | ok passed =>
      have begun : runOn (work document) one = (.ok passed, (runOn (work document) one).2) :=
        Prod.ext (result.trans ends) rfl
      rw [run_inTurn_ok begun, run_inTurn_ok (Prod.ext ends rfl)]
      exact (others passed ends).map _

namespace Tinted

theorem report (tinted : Tinted level one other) (joins : Joins level) {shown plain : Text}
    (agree : level shown plain) : Tinted level (one.report shown) (other.report plain) where
  reporter := tinted.reporter
  reports := by
    obtain ⟨before, plainBefore, agreed, first, second⟩ := tinted.reports
    refine ⟨before ++ shown, plainBefore ++ plain, joins.append agreed agree, ?_, ?_⟩
    · rw [Console.report, first, bytes_append]
    · rw [Console.report, second, bytes_append]
  input := tinted.input
  notes := tinted.notes
  free := ⟨tinted.free.1.report shown, tinted.free.2.report plain⟩

theorem note (tinted : Tinted level one other) (notes : List Note) :
    Tinted level (one.note notes) (other.note notes) where
  reporter := tinted.reporter
  reports := tinted.reports
  input := tinted.input
  notes := congrArg (· ++ notes) tinted.notes
  free := ⟨tinted.free.1.note notes, tinted.free.2.note notes⟩

theorem print (tinted : Tinted level one other) (printed otherPrinted : Text) :
    Tinted level (one.print printed) (other.print otherPrinted) where
  reporter := tinted.reporter
  reports := tinted.reports
  input := tinted.input
  notes := tinted.notes
  free := ⟨tinted.free.1.print printed, tinted.free.2.print otherPrinted⟩

theorem turnTo (tinted : Tinted level one other) {document : Text} (named : '\x1b' ∉ document) :
    Tinted level (one.turnTo document) (other.turnTo document) where
  reporter := tinted.reporter.turnTo named
  reports := tinted.reports
  input := tinted.input
  notes := tinted.notes
  free := ⟨tinted.free.1.turnTo document, tinted.free.2.turnTo document⟩

theorem announced (tinted : Tinted level one other) (joins : Joins level) {document : Text}
    (named : '\x1b' ∉ document) :
    Tinted level ((one.turnTo document).report ((one.reporter.turnTo document).announcement document))
      ((other.turnTo document).report ((other.reporter.turnTo document).announcement document)) :=
  (tinted.turnTo named).report joins ((tinted.reporter.turnTo named).announcement joins named)

theorem opened (tinted : Tinted level one other) (joins : Joins level) {document : Text} (named : '\x1b' ∉ document) :
    Tinted level (Document.opened document one) (Document.opened document other) := by
  obtain ⟨reporter, reports, -, notes, ⟨first, second⟩⟩ := tinted.announced joins named
  exact ⟨reporter, reports, congrArg (left · document) tinted.input, notes,
    ⟨first.reports, first.output⟩, ⟨second.reports, second.output⟩⟩

theorem cleared (tinted : Tinted level one other) (joins : Joins level) :
    Tinted level (cleared one) (cleared other) where
  reporter := tinted.reporter
  reports := ⟨[], [], joins.plain List.not_mem_nil, rfl, rfl⟩
  input := tinted.input
  notes := rfl
  free := ⟨⟨tinted.free.1.reports, tinted.free.1.output⟩, ⟨tinted.free.2.reports, tinted.free.2.output⟩⟩

section Documents
variable {engine otherEngine : Engine Note}

theorem checkText (tinted : Tinted level one other) (joins : Joins level) {sql : Text}
    (free : ∀ call ∈ callsOn engine sql, call.EscapeFree) :
    Tally level (runOn (checkText engine sql) one) (runOn (checkText engine sql) other) := by
  rw [run_checkText tinted.free.1.reports, run_checkText tinted.free.2.reports, reportsOn_eq, reportsOn_eq]
  exact ⟨rfl, (tinted.note _).report joins (tinted.reporter.reportsBy joins free)⟩

theorem formatText (tinted : Tinted level one other) (joins : Joins level) (alike : engine.Alike otherEngine)
    (document sql : Text) (finish : Finish) :
    Tally level (runOn (formatText engine document sql finish) one)
      (runOn (formatText otherEngine document sql finish) other) := by
  obtain ⟨result, notes⟩ := Formatted.ofText_alike alike document sql finish
  have reported := tinted.reporter.reportsBy joins (blankCalls_free sql)
  rw [run_formatText tinted.free.1, run_formatText tinted.free.2, blankReport_eq, blankReport_eq]
  refine ⟨result, ?_⟩
  simp only [notes]
  exact ((tinted.note _).report joins reported).print _ _

theorem judged (tinted : Tinted level one other) (joins : Joins level) {document : Text} {on : Text → List Step}
    (free : ∀ call ∈ callsFor tree other.input document on, call.EscapeFree) {judge otherJudge : Text → Job Note Bool}
    (judges : ∀ {sql : Text} {one other : Console Note}, Tinted level one other →
      (∀ call ∈ on sql, call.EscapeFree) → Tally level (runOn (judge sql) one) (runOn (otherJudge sql) other)) :
    Tally level (runOn (do announce document; judge (← load tree document)) one)
      (runOn (do announce document; otherJudge (← load tree document)) other) := by
  rw [callsFor, List.forall_mem_cons] at free
  obtain ⟨named, quoted⟩ := free
  have begun : Tinted level (Document.opened document one) (Document.opened document other) :=
    tinted.opened joins (named document (List.mem_singleton_self _))
  rw [run_announced tinted.free.1.reports, run_announced tinted.free.2.reports, tinted.input]
  cases read : given tree other.input document with
  | error failure => exact ⟨rfl, begun⟩
  | ok sql =>
      rw [read] at quoted
      exact judges begun quoted

theorem check (tinted : Tinted level one other) (joins : Joins level) {document : Text}
    (free : ∀ call ∈ callsFor tree other.input document (callsOn engine), call.EscapeFree) :
    Tally level (runOn (check tree engine document) one) (runOn (check tree engine document) other) :=
  tinted.judged joins free fun begun quoted => begun.checkText joins quoted

theorem checkEach (tinted : Tinted level one other) (joins : Joins level) {documents : List Text}
    (free : ∀ call ∈ callsOf tree engine other.input documents, call.EscapeFree) :
    Tally level (runOn (checkEach tree engine documents) one) (runOn (checkEach tree engine documents) other) := by
  rw [Document.checkEach]
  induction documents generalizing one other with
  | nil => exact ⟨rfl, tinted⟩
  | cons document rest ih =>
      rw [callsOf, List.forall_mem_cons] at free
      obtain ⟨named, quoted⟩ := free
      cases read : given tree other.input document with
      | error failure =>
          refine Tally.inTurn (tinted.check joins (by simpa [callsFor, read] using named)) fun passed ended => ?_
          rw [run_check_given tinted.free.2.reports, read] at ended
          cases ended
      | ok sql =>
          rw [read] at quoted
          obtain ⟨here, later⟩ := List.forall_mem_append.mp quoted
          have first : ∀ call ∈ callsFor tree other.input document (callsOn engine), call.EscapeFree := by
            rw [callsFor, read, List.forall_mem_cons]
            exact ⟨named, here⟩
          refine Tally.inTurn (tinted.check joins first) fun passed _ => ih (tinted.check joins first).2 ?_
          rw [run_check_given tinted.free.2.reports, read]
          exact later

theorem perform (tinted : Tinted level one other) (joins : Joins level) (alike : engine.Alike otherEngine) {step : Step}
    (free : ∀ call ∈ step.calls tree otherEngine other.input, call.EscapeFree) :
    Tally level (runOn (step.perform tree engine) one) (runOn (step.perform tree otherEngine) other) := by
  have room := tinted.free.1.reports
  have otherRoom := tinted.free.2.reports
  cases step with
  | announce document =>
      have named := List.forall_mem_singleton.mp free document (List.mem_singleton_self _)
      rw [Step.perform, Step.perform, run_bind_ok (run_announce room document),
        run_bind_ok (run_announce otherRoom document)]
      exact ⟨rfl, tinted.announced joins named⟩
  | complain message token line column =>
      have agree := tinted.reporter.reportBy joins (List.forall_mem_singleton.mp free)
      rw [Step.perform, Step.perform, run_bind_ok (run_complain room message token line column),
        run_bind_ok (run_complain otherRoom message token line column)]
      exact ⟨rfl, tinted.report joins agree⟩
  | approve =>
      have agree := tinted.reporter.reportBy joins (List.forall_mem_singleton.mp free)
      rw [Step.perform, Step.perform, run_bind_ok (run_approve room), run_bind_ok (run_approve otherRoom)]
      exact ⟨rfl, tinted.report joins agree⟩
  | checkText sql =>
      rw [Step.perform, Step.perform, checkText_alike alike, run_map, run_map]
      exact (tinted.checkText joins free).map some
  | check document =>
      rw [Step.perform, Step.perform, check_alike alike, run_map, run_map]
      exact (tinted.check joins free).map some
  | checkEach documents =>
      rw [Step.perform, Step.perform, Document.checkEach, check_alike alike, run_map, run_map]
      exact (tinted.checkEach joins free).map some
  | formatText document sql finish =>
      rw [Step.perform, Step.perform, run_map, run_map]
      exact (tinted.formatText joins alike document sql finish).map some
  | format document finish =>
      rw [Step.perform, Step.perform, run_map, run_map]
      refine Tally.map ?_ some
      exact tinted.judged joins free fun begun _ => begun.formatText joins alike document _ finish

end Documents
end Tinted

/-- Two answers with the same result and the same questions, the reports of which agree. -/
structure Agree (level : Text → Text → Prop) (one other : Answer Note) : Prop where
  result : one.result = other.result
  notes : one.notes = other.notes
  reports : ∃ shown plain : Text, level shown plain ∧ one.reports = shown.bytes ∧ other.reports = plain.bytes

def reported (tree : FileTree) (engine : Engine Note) (steps : List Step) (console : Console Note) : List Step :=
  (visits tree engine steps console).flatMap fun visit => visit.1.calls tree engine visit.2.input

theorem Tinted.play {engine otherEngine : Engine Note} (tinted : Tinted level one other) (joins : Joins level)
    (alike : engine.Alike otherEngine) {steps : List Step}
    (free : ∀ call ∈ reported tree otherEngine steps other, call.EscapeFree) :
    List.Forall₂ (Agree level) (play tree engine steps one) (play tree otherEngine steps other) := by
  induction steps generalizing one other with
  | nil => exact .nil
  | cons step rest ih =>
      obtain ⟨here, later⟩ := List.forall_mem_append.mp free
      obtain ⟨result, after⟩ := tinted.perform joins alike here
      rw [play_cons, play_cons]
      exact .cons ⟨result, after.notes, after.reports⟩ (ih (after.cleared joins) later)

theorem agree_total {answers others : List (Answer Note)} (joins : Joins level)
    (agree : List.Forall₂ (Agree level) answers others) :
    ∃ shown plain : Text, level shown plain ∧ answers.flatMap Answer.reports = shown.bytes ∧
      others.flatMap Answer.reports = plain.bytes := by
  induction agree with
  | nil => exact ⟨[], [], joins.plain List.not_mem_nil, rfl, rfl⟩
  | cons first _ ih =>
      obtain ⟨front, plainFront, agreed, one, other⟩ := first.reports
      obtain ⟨back, plainBack, later, rest, otherRest⟩ := ih
      refine ⟨front ++ back, plainFront ++ plainBack, joins.append agreed later, ?_, ?_⟩
      · rw [List.flatMap_cons, one, rest, bytes_append]
      · rw [List.flatMap_cons, other, otherRest, bytes_append]

theorem agree_eq {answers others : List (Answer Note)} (agree : List.Forall₂ (Agree Eq) answers others) :
    answers.map (fun answer => (answer.result, answer.reports, answer.notes)) =
      others.map fun answer => (answer.result, answer.reports, answer.notes) := by
  induction agree with
  | nil => rfl
  | cons first _ ih =>
      obtain ⟨result, notes, shown, plain, rfl, reports, otherReports⟩ := first
      rw [List.map_cons, List.map_cons, ih, result, notes, reports, otherReports]

/-- In a session where nothing that is reported quotes an escape character, the colours of the reporter change no result
and no question. Where colours are enabled the reports are those of a reporter without colours once the escape
sequences are taken out, answer by answer and in one piece; where they are not, they are the same bytes. -/
theorem colour_changes_only_colour {engines : Bool → Engine Note} (overridden : Engine.Overridden engines)
    (tree : FileTree) (steps : List Step) (form : ReportForm) (input : List UInt8) (notes : List Note) (enabled : Bool)
    (free : ∀ call ∈ reported tree (engines enabled) steps ⟨.create false enabled form, {}, {}, input, notes⟩,
      call.EscapeFree) :
    let session (inColour enabled : Bool) :=
      play tree (engines enabled) steps ⟨.create inColour enabled form, {}, {}, input, notes⟩
    List.Forall₂ (Agree fun shown plain => unstyled shown = plain) (session true true) (session false enabled) ∧
    (∃ shown : Text, (session true true).flatMap Answer.reports = shown.bytes ∧
      (session false enabled).flatMap Answer.reports = (unstyled shown).bytes) ∧
    (session true false).map (fun answer => (answer.result, answer.reports, answer.notes)) =
      (session false enabled).map fun answer => (answer.result, answer.reports, answer.notes) := by
  intro session
  have start {level : Text → Text → Prop} (joins : Joins level) {one other : Reporter}
      (tints : one.Tints level other) :
      Tinted level (⟨one, {}, {}, input, notes⟩ : Console Note) ⟨other, {}, {}, input, notes⟩ :=
    ⟨tints, ⟨[], [], joins.plain List.not_mem_nil, rfl, rfl⟩, rfl, rfl, ⟨rfl, rfl⟩, ⟨rfl, rfl⟩⟩
  have shaded : List.Forall₂ (Agree Shades) (session true true) (session false enabled) :=
    (start joins_shades (Reporter.tints_shades enabled form)).play joins_shades (overridden.alike true enabled) free
  have same : List.Forall₂ (Agree Eq) (session true false) (session false enabled) :=
    (start joins_eq (Reporter.tints_eq enabled form)).play joins_eq (overridden.alike false enabled) free
  refine ⟨?_, ?_, agree_eq same⟩
  · refine shaded.imp ?_
    rintro one other ⟨result, notes, shown, plain, shades, reports⟩
    exact ⟨result, notes, shown, plain, shades.unstyled_eq, reports⟩
  · obtain ⟨shown, plain, shades, coloured, uncoloured⟩ := agree_total joins_shades shaded
    exact ⟨shown, coloured, by rw [uncoloured, shades.unstyled_eq]⟩

def tintedSteps : List Step :=
  [.complain "no".toList "x\t".toList 3 7, .checkEach ["sql".toList, "gone".toList, "sql".toList],
    .formatText ['q'] ['\n'] .plain, .formatText ['q'] "SELECT 1 -- x\n".toList .decorated]

theorem red_and_green_tinted :
    let tree : FileTree := .folder [("sql".toList, .file (Text.bytes "SELECT 1".toList))]
    let engines (enabled : Bool) :=
      ((Parser.steady (.ok ⟨[], some (commentTree "-- x".toList ['\n'])⟩)).engine enabled []).value
    let session (inColour enabled : Bool) :=
      play tree (engines enabled) tintedSteps ⟨.create inColour enabled .text, {}, {}, [], []⟩
    (∀ call ∈ reported tree (engines true) tintedSteps ⟨.create false true .text, {}, {}, [], []⟩, call.EscapeFree) ∧
    (session true true).flatMap Answer.reports = Text.bytes (" Line 3, col 7 at \"x\\t\": \x1b[31mno\x1b[0m\n" ++
      "Checking SQL syntax of sql\n \x1b[32mOK\x1b[0m\nChecking SQL syntax of gone\n" ++
      " Line 0, col 0 at \"\": \x1b[31mSQL file empty\x1b[0m\n").toList ∧
    (∃ shown : Text, (session true true).flatMap Answer.reports = shown.bytes ∧
      (session false true).flatMap Answer.reports = (unstyled shown).bytes) ∧
    (session true false).map (fun answer => (answer.result, answer.reports, answer.notes)) =
      (session false true).map (fun answer => (answer.result, answer.reports, answer.notes)) ∧
    (session true true).flatMap Answer.output ≠ (session false false).flatMap Answer.output := by
  intro tree engines session
  have free : ∀ call ∈ reported tree (engines true) tintedSteps ⟨.create false true .text, {}, {}, [], []⟩,
      call.EscapeFree := by decide +kernel
  obtain ⟨-, stripped, same⟩ :=
    colour_changes_only_colour (.parsing _ []) tree tintedSteps .text [] [] true free
  exact ⟨free, by decide +kernel, stripped, same, by decide +kernel⟩

end Session
end SqlCheck
