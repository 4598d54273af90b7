import SqlCheck.Program
import SqlCheck.Proofs.Expansion
import SqlCheck.Proofs.Formatting
import SqlCheck.Proofs.Preferences
import SqlCheck.Proofs.Reports

/-! The exit code of a run, from the texts of its documents alone. Each document has a verdict of its own, and
the worst of them is the run's: a run that is ended by a document would have been ended wherever that document
had stood, and one that goes on is failed by any document that fails. What standard input is to a document
depends on the documents before it, so verdicts are counted on the bytes that each document gets. -/
namespace SqlCheck

namespace FileTree
variable {tree : FileTree} {path : Text}

def content (tree : FileTree) (path : Text) : List UInt8 :=
  match tree.find path with
  | .ok ⟨.file content, _⟩ => content
  | _ => []

theorem readText_of_isFile (proper : tree.isFile path = true) :
    tree.readText path =
      match Text.ofBytes? (tree.content path) with
      | some sql => .ok sql
      | none => .error .notText := by
  unfold isFile at proper
  cases found : tree.find path with
  | error fault => simp [found] at proper
  | ok place =>
      obtain ⟨bytes | entries, around⟩ := place
      · cases decoded : Text.ofBytes? bytes <;> simp [readText, content, found, decoded]
      · simp [found, Node.isBranch] at proper

end FileTree

/-- What comes of a document, and of a run: it passes, it fails, or it is ended by an error. -/
inductive Verdict where
  | passed | failed | ended
  deriving Repr, DecidableEq

namespace Verdict

def ofResult : Except Failure Bool → Verdict
  | .ok true => passed
  | .ok false => failed
  | .error _ => ended

def code : Verdict → Nat
  | passed => 0
  | failed => 10
  | ended => 1

def worse : Verdict → Verdict → Verdict
  | ended, _ => ended
  | _, ended => ended
  | failed, _ => failed
  | passed, other => other

def worst : List Verdict → Verdict
  | [] => passed
  | first :: rest => first.worse (worst rest)

theorem exitCode_eq (result : Except Failure Bool) : Program.exitCode result = (ofResult result).code := by
  cases result with
  | error failure => rfl
  | ok passed => cases passed <;> rfl

theorem worst_eq_ended_iff (verdicts : List Verdict) : worst verdicts = ended ↔ ended ∈ verdicts := by
  induction verdicts with
  | nil => simp [worst]
  | cons first rest ih =>
      rw [List.mem_cons, ← ih, worst]
      cases first <;> cases worst rest <;> simp [worse]

theorem worst_eq_passed_iff (verdicts : List Verdict) :
    worst verdicts = passed ↔ ∀ verdict ∈ verdicts, verdict = passed := by
  induction verdicts with
  | nil => simp [worst]
  | cons first rest ih =>
      rw [List.forall_mem_cons, ← ih, worst]
      cases first <;> cases worst rest <;> simp [worse]

theorem worst_eq_failed_iff (verdicts : List Verdict) :
    worst verdicts = failed ↔ ended ∉ verdicts ∧ failed ∈ verdicts := by
  constructor
  · intro fails
    have running : ended ∉ verdicts := by
      rw [← worst_eq_ended_iff, fails]
      decide
    have notAll : ¬∀ verdict ∈ verdicts, verdict = passed := by
      rw [← worst_eq_passed_iff, fails]
      decide
    obtain ⟨verdict, member, other⟩ : ∃ verdict ∈ verdicts, verdict ≠ passed := by simpa using notAll
    constructor
    · exact running
    · cases verdict with
      | passed => exact absurd rfl other
      | failed => exact member
      | ended => exact absurd member running
  · -- With a failure in the list the worst is not a pass, and nothing ended the run.
    rintro ⟨running, member⟩
    cases found : worst verdicts with
    | passed => exact absurd ((worst_eq_passed_iff verdicts).mp found failed member) (by decide)
    | failed => rfl
    | ended => exact absurd ((worst_eq_ended_iff verdicts).mp found) running

variable (task : Task) (parser : Parser)

def Blank (bytes : List UInt8) : Prop := ∃ sql, Text.ofBytes? bytes = some sql ∧ sql.isBlank = true

def Faulty (bytes : List UInt8) : Prop :=
  ∃ sql, Text.ofBytes? bytes = some sql ∧ (parser.findings sql).value ≠ []

/-- A blank text fails. A text with syntax errors is failed by a check, while formatting ends there. -/
def ofText (sql : Text) : Verdict :=
  if sql.isBlank then failed
  else if (parser.findings sql).value = [] then passed
  else match task with
    | .check => failed
    | .format => ended

def ofBytes (bytes : List UInt8) : Verdict :=
  match Text.ofBytes? bytes with
  | some sql => ofText task parser sql
  | none => ended

theorem ofBytes_eq_ended_iff (bytes : List UInt8) :
    ofBytes task parser bytes = ended ↔
      Text.ofBytes? bytes = none ∨ (task = .format ∧ ¬Blank bytes ∧ Faulty parser bytes) := by
  cases decoded : Text.ofBytes? bytes with
  | none => simp [ofBytes, decoded]
  | some sql =>
      by_cases blank : sql.isBlank = true
      · simp [ofBytes, ofText, decoded, blank, Blank]
      · by_cases clean : (parser.findings sql).value = []
        · simp [ofBytes, ofText, decoded, blank, clean, Faulty]
        · cases task <;> simp [ofBytes, ofText, decoded, blank, clean, Blank, Faulty]

theorem ofBytes_eq_failed_iff (bytes : List UInt8) :
    ofBytes task parser bytes = failed ↔ Blank bytes ∨ (task = .check ∧ Faulty parser bytes) := by
  cases decoded : Text.ofBytes? bytes with
  | none => simp [ofBytes, decoded, Blank, Faulty]
  | some sql =>
      by_cases blank : sql.isBlank = true
      · simp [ofBytes, ofText, decoded, blank, Blank]
      · by_cases clean : (parser.findings sql).value = []
        · simp [ofBytes, ofText, decoded, blank, clean, Blank, Faulty]
        · cases task <;> simp [ofBytes, ofText, decoded, blank, clean, Blank, Faulty]

end Verdict

namespace Document
open Job Inputs
variable {tree : FileTree} {parser : Parser} {task : Task} {console : Console Call}

/-- The bytes that a document gets while standard input still holds `input`. -/
def offered (tree : FileTree) (input : List UInt8) (document : Text) : List UInt8 :=
  if document = standardInput then input else tree.content document

/-- The bytes of each document in turn: all of standard input for the first that asks, nothing for others. -/
def contents (tree : FileTree) : List UInt8 → List Text → List (List UInt8)
  | _, [] => []
  | input, document :: rest => offered tree input document :: contents tree (left input document) rest

/-- How a job ended: with this verdict, on streams that take everything, and with this much input left. -/
structure Ended (verdict : Verdict) (input : List UInt8) (ends : Except Failure Bool × Console Call) :
    Prop where
  verdict : Verdict.ofResult ends.1 = verdict
  free : ends.2.Unlimited
  input : ends.2.input = input

theorem given_of_valid (valid : document = standardInput ∨ tree.isFile document = true) (input : List UInt8) :
    given tree input document =
      match Text.ofBytes? (offered tree input document) with
      | some sql => .ok sql
      | none => .error (.unreadable document .notText) := by
  by_cases named : document = standardInput
  · cases decoded : Text.ofBytes? input <;> simp [given, offered, named, decoded]
  · have read := FileTree.readText_of_isFile (valid.resolve_left named)
    cases decoded : Text.ofBytes? (tree.content document) <;> simp [given, offered, named, read, decoded]

theorem checkText_ended (free : console.Unlimited) (inColour : Bool) (config sql : Text) :
    Ended (.ofText .check parser sql) console.input
      (runOn (checkText (parser.engine inColour config).value sql) console) := by
  rw [run_checkText free.reports]
  refine ⟨?_, (free.note _).report _, rfl⟩
  by_cases blank : sql.isBlank = true
  · simp [Verdict.ofText, Verdict.ofResult, passes, blank]
  · have asked := parser.engine_findings inColour config
    by_cases clean : (parser.findings sql).value = [] <;>
      simp [Verdict.ofText, Verdict.ofResult, passes, asked, blank, clean]

theorem formatText_ended (free : console.Unlimited) (inColour : Bool) (config document sql : Text)
    (finish : Finish) :
    Ended (.ofText .format parser sql) console.input
      (runOn (formatText (parser.engine inColour config).value document sql finish) console) := by
  rw [run_formatText free]
  refine ⟨?_, ((free.note _).report _).print _, rfl⟩
  simp only [Formatted.ofText_result]
  by_cases blank : sql.isBlank = true
  · simp [Verdict.ofText, Verdict.ofResult, blank]
  · by_cases clean : (parser.findings sql).value = [] <;>
      simp [Verdict.ofText, Verdict.ofResult, blank, clean]

theorem announced_ended (free : console.Unlimited) {document : Text}
    (valid : document = standardInput ∨ tree.isFile document = true) {judge : Text → Job Call Bool}
    (each : ∀ {console : Console Call} sql, console.Unlimited →
      Ended (.ofText task parser sql) console.input (runOn (judge sql) console)) :
    Ended (.ofBytes task parser (offered tree console.input document)) (left console.input document)
      (runOn (do announce document; judge (← load tree document)) console) := by
  have loaded : (opened document console).Unlimited := ⟨free.reports, free.output⟩
  rw [run_announced free.reports, given_of_valid valid, Verdict.ofBytes]
  cases decoded : Text.ofBytes? (offered tree console.input document) with
  | none => exact ⟨rfl, loaded, rfl⟩
  | some sql => exact each sql loaded

theorem inTurn_ended (free : console.Unlimited) {work : Text → Job Call Bool} {documents : List Text}
    (each : ∀ {console : Console Call}, ∀ document ∈ documents, console.Unlimited →
      Ended (.ofBytes task parser (offered tree console.input document)) (left console.input document)
        (runOn (work document) console)) :
    Verdict.ofResult (runOn (inTurn work documents) console).1 =
      .worst ((contents tree console.input documents).map (.ofBytes task parser)) := by
  induction documents generalizing console with
  | nil => rfl
  | cons document rest ih =>
      have first := each document (by simp) free
      rw [contents, List.map_cons, Verdict.worst, ← first.verdict]
      cases ends : runOn (work document) console with
      | mk result after =>
          rw [ends] at first
          cases result with
          | error failure =>
              rw [run_inTurn_error ends]
              rfl
          | ok passed =>
              -- The rest has its turn on what is left of standard input.
              have others := ih first.free fun other member => each other (by simp [member])
              rw [first.input] at others
              rw [run_inTurn_ok ends, ← others]
              cases (runOn (inTurn work rest) after).1 with
              | error failure => cases passed <;> rfl
              | ok othersPassed => cases passed <;> cases othersPassed <;> rfl

theorem work_ended (task : Task) (parser : Parser) (inColour : Bool) (config : Text)
    (free : console.Unlimited) {documents : List Text}
    (valid : ∀ document ∈ documents, document = standardInput ∨ tree.isFile document = true) :
    Verdict.ofResult (runOn (Program.work tree (parser.engine inColour config).value task inColour documents)
      console).1 = .worst ((contents tree console.input documents).map (.ofBytes task parser)) := by
  cases task with
  | check =>
      exact inTurn_ended free fun document member free =>
        announced_ended free (valid document member) fun sql free => checkText_ended free inColour config sql
  | format =>
      exact inTurn_ended free fun document member free =>
        announced_ended free (valid document member) fun sql free =>
          formatText_ended free inColour config document sql _

theorem contents_perm {documents others : List Text} (same : documents.Perm others) (input : List UInt8) :
    (contents tree input documents).Perm (contents tree input others) := by
  induction same generalizing input with
  | nil => exact .refl _
  | cons document _ ih => exact (ih _).cons _
  | swap first second rest =>
      -- Of two documents that are standard input the earlier gets all of it in either order.
      by_cases firstNamed : first = standardInput
      · by_cases secondNamed : second = standardInput
        · simp [contents, offered, left, firstNamed, secondNamed]
        · simpa [contents, offered, left, firstNamed, secondNamed] using .swap _ _ _
      · by_cases secondNamed : second = standardInput
        · simpa [contents, offered, left, firstNamed, secondNamed] using .swap _ _ _
        · simpa [contents, offered, left, firstNamed, secondNamed] using .swap _ _ _
  | trans _ _ first second => exact (first input).trans (second input)

theorem empty_mem_contents {documents : List Text} (named : standardInput ∈ documents) :
    [] ∈ contents tree [] documents := by
  induction documents with
  | nil => cases named
  | cons document rest ih =>
      have drained : left [] document = [] := by simp [left]
      rw [contents, drained]
      by_cases here : document = standardInput
      · simp [offered, here]
      · rcases List.mem_cons.mp named with same | later
        · exact absurd same.symm here
        · exact List.mem_cons_of_mem _ (ih later)

theorem empty_mem_of_second {documents : List Text} (input : List UInt8)
    (twice : 2 ≤ documents.count standardInput) : [] ∈ contents tree input documents := by
  induction documents generalizing input with
  | nil => simp at twice
  | cons document rest ih =>
      rw [contents]
      apply List.mem_cons_of_mem
      by_cases here : document = standardInput
      · have second : 0 < rest.count standardInput := by
          rw [here, List.count_cons_self] at twice
          omega
        rw [left, if_pos here]
        exact empty_mem_contents (List.count_pos_iff.mp second)
      · rw [List.count_cons_of_ne here] at twice
        exact ih _ twice

end Document

namespace Program
open Document Inputs
variable {surroundings : Surroundings} {options : Options}

def Unprepared (tree : FileTree) (options : Options) : Prop :=
  (∃ failure, expand tree options.documents = .error failure) ∨
    (∃ documents failure, expand tree options.documents = .ok documents ∧
      validate tree documents = .error failure) ∨
    ∃ failure, readConfig tree options.config = .error failure

def inputs (surroundings : Surroundings) (options : Options) : List (List UInt8) :=
  match expand surroundings.tree options.documents with
  | .ok documents => contents surroundings.tree surroundings.input documents
  | .error _ => []

theorem unprepared_iff (tree : FileTree) (options : Options) :
    Unprepared tree options ↔ ∃ failure, prepare tree options = .error failure := by
  cases expanded : expand tree options.documents with
  | error failure => simp [Unprepared, prepare, expanded, bind, Except.bind]
  | ok documents =>
      cases validated : validate tree documents with
      | error failure => simp [Unprepared, prepare, expanded, validated, bind, Except.bind]
      | ok _ =>
          cases configured : readConfig tree options.config <;>
            simp [Unprepared, prepare, expanded, validated, configured, bind, Except.bind, pure, Except.pure]

theorem prepare_eq_ok {tree : FileTree} {documents : List Text} {config : Text}
    (prepared : prepare tree options = .ok (documents, config)) :
    expand tree options.documents = .ok documents ∧ validate tree documents = .ok () := by
  cases expanded : expand tree options.documents with
  | error failure => simp [prepare, expanded, bind, Except.bind] at prepared
  | ok found =>
      cases validated : validate tree found with
      | error failure => simp [prepare, expanded, validated, bind, Except.bind] at prepared
      | ok _ =>
          cases configured : readConfig tree options.config with
          | error failure => simp [prepare, expanded, validated, configured, bind, Except.bind] at prepared
          | ok source =>
              simp [prepare, expanded, validated, configured, bind, Except.bind, pure, Except.pure] at prepared
              obtain ⟨rfl, rfl⟩ := prepared
              exact ⟨rfl, validated⟩

theorem ending_code (task : Task) (result : Except Failure Bool) (console : Console Call) :
    (ending task result console).code = exitCode result := by
  cases task <;> rfl

theorem run_unprepared (plain : options.listForms = false)
    (unprepared : Unprepared surroundings.tree options) : (run surroundings options).code = 1 := by
  obtain ⟨failure, refused⟩ := (unprepared_iff _ _).mp unprepared
  simp [run, plain, refused]

def opening (surroundings : Surroundings) (options : Options) (config : Text) : Console Call :=
  let inColour := options.wantsColour surroundings.onTerminal
  ⟨.create inColour inColour options.form, {}, {}, surroundings.input,
    (surroundings.parser.engine inColour config).notes⟩

theorem opening_unlimited (surroundings : Surroundings) (options : Options) (config : Text) :
    (opening surroundings options config).Unlimited := ⟨rfl, rfl⟩

theorem run_ready (plain : options.listForms = false) {documents : List Text} {config : Text}
    (ready : prepare surroundings.tree options = .ok (documents, config)) :
    run surroundings options =
      let inColour := options.wantsColour surroundings.onTerminal
      let ends := Job.runOn (work surroundings.tree (surroundings.parser.engine inColour config).value
        options.task inColour documents) (opening surroundings options config)
      ending options.task ends.1 ends.2 := by
  simp only [run, plain, Bool.false_eq_true, if_false, ready]
  rfl

theorem run_prepared (plain : options.listForms = false)
    (prepared : ¬Unprepared surroundings.tree options) :
    (run surroundings options).code =
      (Verdict.worst ((inputs surroundings options).map
        (.ofBytes options.task surroundings.parser))).code := by
  rw [unprepared_iff] at prepared
  cases ready : prepare surroundings.tree options with
  | error failure => exact absurd ⟨failure, ready⟩ prepared
  | ok both =>
      obtain ⟨documents, config⟩ := both
      obtain ⟨expanded, validated⟩ := prepare_eq_ok ready
      have worked := work_ended options.task surroundings.parser
        (options.wantsColour surroundings.onTerminal) config (opening_unlimited surroundings options config)
        (validate_eq_ok_iff.mp validated)
      rw [run_ready plain ready, ending_code, Verdict.exitCode_eq, inputs, expanded]
      exact congrArg Verdict.code worked

/-- What ends a run early: a mistake in its arguments, an input that is no text, or one with syntax errors that
was to be formatted. -/
def Ends (surroundings : Surroundings) (options : Options) : Prop :=
  Unprepared surroundings.tree options ∨
    ∃ bytes ∈ inputs surroundings options, Text.ofBytes? bytes = none ∨
      (options.task = .format ∧ ¬Verdict.Blank bytes ∧ Verdict.Faulty surroundings.parser bytes)

/-- What fails a run that comes to its end: an input that is blank, or one with syntax errors that was to be
checked. -/
def Fails (surroundings : Surroundings) (options : Options) : Prop :=
  ∃ bytes ∈ inputs surroundings options, Verdict.Blank bytes ∨
    (options.task = .check ∧ Verdict.Faulty surroundings.parser bytes)

theorem run_verdict (surroundings : Surroundings) (plain : options.listForms = false) :
    ∃ verdict : Verdict, (run surroundings options).code = verdict.code ∧
      (verdict = .ended ↔ Ends surroundings options) ∧
      (verdict = .failed ↔ ¬Ends surroundings options ∧ Fails surroundings options) := by
  by_cases unprepared : Unprepared surroundings.tree options
  · -- Without documents there are no verdicts to count.
    have ends : Ends surroundings options := Or.inl unprepared
    exact ⟨.ended, run_unprepared plain unprepared, by simp [ends], by simp [ends]⟩
  · let judge := Verdict.ofBytes options.task surroundings.parser
    have ended : Ends surroundings options ↔ .ended ∈ (inputs surroundings options).map judge := by
      simp only [Ends, unprepared, false_or, List.mem_map, judge, Verdict.ofBytes_eq_ended_iff]
    have failed : Fails surroundings options ↔ .failed ∈ (inputs surroundings options).map judge := by
      simp only [Fails, List.mem_map, judge, Verdict.ofBytes_eq_failed_iff]
    refine ⟨_, run_prepared plain unprepared, ?_, ?_⟩
    · rw [ended, Verdict.worst_eq_ended_iff]
    · rw [ended, failed, Verdict.worst_eq_failed_iff]

theorem run_code_iff (surroundings : Surroundings) (plain : options.listForms = false) :
    ((run surroundings options).code = 1 ↔ Ends surroundings options) ∧
      ((run surroundings options).code = 10 ↔ ¬Ends surroundings options ∧ Fails surroundings options) ∧
      ((run surroundings options).code = 0 ↔
        ¬Ends surroundings options ∧ ¬Fails surroundings options) := by
  obtain ⟨verdict, coded, ends, fails⟩ := run_verdict surroundings plain
  rw [coded]
  cases verdict with
  | passed =>
      have running : ¬Ends surroundings options := fun ended => by cases ends.mpr ended
      have sound : ¬Fails surroundings options := fun failed => by cases fails.mpr ⟨running, failed⟩
      simp [Verdict.code, running, sound]
  | failed =>
      obtain ⟨running, failed⟩ := fails.mp rfl
      simp [Verdict.code, running, failed]
  | ended =>
      have ended := ends.mp rfl
      simp [Verdict.code, ended]

def Reordered (first second : Options) : Prop :=
  ∃ documents, first.documents.Perm documents ∧ second = { first with documents }

theorem Reordered.symm {first second : Options} (same : Reordered first second) : Reordered second first := by
  obtain ⟨documents, order, rfl⟩ := same
  exact ⟨first.documents, order.symm, rfl⟩

theorem Reordered.task {first second : Options} (same : Reordered first second) :
    first.task = second.task := by
  obtain ⟨documents, -, rfl⟩ := same
  rfl

section Order
variable {other : Options} (same : Reordered options other)

include same

theorem unprepared_reordered {tree : FileTree} (unprepared : Unprepared tree other) :
    Unprepared tree options := by
  obtain ⟨documents, order, rfl⟩ := same
  cases expanded : expand tree options.documents with
  | error failure => exact Or.inl ⟨failure, expanded⟩
  | ok found =>
      obtain ⟨reordered, otherwise, behind⟩ := expand_perm expanded order
      -- One order expands as well as the other, so what was refused is refused in both.
      rcases unprepared with ⟨failure, refused⟩ | ⟨others, failure, listed, refused⟩ | unconfigured
      · rw [show expand tree documents = .ok reordered from otherwise] at refused
        cases refused
      · have listedSame : others = reordered := Except.ok.inj (listed.symm.trans otherwise)
        cases validated : validate tree found with
        | error fault => exact Or.inr (Or.inl ⟨found, fault, expanded, validated⟩)
        | ok _ =>
            have each := validate_eq_ok_iff.mp validated
            have valid : validate tree reordered = .ok () :=
              validate_eq_ok_iff.mpr fun document member => each document (behind.mem_iff.mpr member)
            rw [listedSame, valid] at refused
            cases refused
      · exact Or.inr (Or.inr unconfigured)

theorem inputs_reordered : (inputs surroundings options).Perm (inputs surroundings other) := by
  obtain ⟨documents, order, rfl⟩ := same
  unfold inputs
  cases expanded : expand surroundings.tree options.documents with
  | ok found =>
      obtain ⟨reordered, otherwise, behind⟩ := expand_perm expanded order
      rw [otherwise]
      exact contents_perm behind _
  | error failure =>
      cases otherwise : expand surroundings.tree documents with
      | error fault => exact .refl _
      | ok reordered =>
          obtain ⟨found, ends, -⟩ := expand_perm otherwise order.symm
          rw [expanded] at ends
          cases ends

theorem ends_reordered (ends : Ends surroundings other) : Ends surroundings options := by
  rcases ends with unprepared | ⟨bytes, member, ending⟩
  · exact Or.inl (unprepared_reordered same unprepared)
  · refine Or.inr ⟨bytes, (inputs_reordered same).mem_iff.mpr member, ?_⟩
    rwa [same.task]

theorem fails_reordered (fails : Fails surroundings other) : Fails surroundings options := by
  obtain ⟨bytes, member, failing⟩ := fails
  refine ⟨bytes, (inputs_reordered same).mem_iff.mpr member, ?_⟩
  rwa [same.task]

theorem code_reordered (plain : options.listForms = false) :
    (run surroundings other).code = (run surroundings options).code := by
  have plainOther : other.listForms = false := by
    obtain ⟨documents, -, rfl⟩ := same
    exact plain
  have ends : Ends surroundings other ↔ Ends surroundings options :=
    ⟨ends_reordered same, ends_reordered same.symm⟩
  have fails : Fails surroundings other ↔ Fails surroundings options :=
    ⟨fails_reordered same, fails_reordered same.symm⟩
  obtain ⟨one, ten, zero⟩ := run_code_iff surroundings plain
  obtain ⟨otherOne, otherTen, otherZero⟩ := run_code_iff surroundings plainOther
  by_cases ended : Ends surroundings options
  · rw [one.mpr ended, otherOne.mpr (ends.mpr ended)]
  · have running : ¬Ends surroundings other := fun ended' => ended (ends.mp ended')
    by_cases failed : Fails surroundings options
    · rw [ten.mpr ⟨ended, failed⟩, otherTen.mpr ⟨running, fails.mpr failed⟩]
    · rw [zero.mpr ⟨ended, failed⟩, otherZero.mpr ⟨running, fun failed' => failed (fails.mp failed')⟩]

end Order

theorem parse_documents {arguments : List Text} (parsed : CommandLine.parse arguments = .ok options)
    (plain : options.listForms = false) : options.documents ≠ [] := by
  obtain ⟨last, -, -, needed⟩ := CommandLine.parse_read parsed
  exact fun absent => needed ⟨absent, plain⟩

theorem inputs_ne_nil (given : options.documents ≠ [])
    (prepared : ¬Unprepared surroundings.tree options) : inputs surroundings options ≠ [] := by
  cases expanded : expand surroundings.tree options.documents with
  | error failure => exact absurd (Or.inl ⟨failure, expanded⟩) prepared
  | ok documents =>
      obtain ⟨document, rest, rfl⟩ := List.exists_cons_of_ne_nil (expand_ne_nil expanded given)
      simp [inputs, expanded, contents]

theorem fails_of_second {documents : List Text}
    (expanded : expand surroundings.tree options.documents = .ok documents)
    (twice : 2 ≤ documents.count standardInput) : Fails surroundings options := by
  refine ⟨[], ?_, Or.inl ⟨[], by decide +kernel, rfl⟩⟩
  rw [inputs, expanded]
  exact empty_mem_of_second _ twice

/-- The exit code of every run that has documents, whatever the order of its documents. A file that is there can be
read, so its bytes alone decide: one that exists and may not be opened is outside of this law. -/
theorem exit_code_law {arguments : List Text} (parsed : CommandLine.parse arguments = .ok options)
    (plain : options.listForms = false) (surroundings : Surroundings) :
    ((start surroundings arguments).code = 1 ↔ Ends surroundings options) ∧
      ((start surroundings arguments).code = 10 ↔
        ¬Ends surroundings options ∧ Fails surroundings options) ∧
      ((start surroundings arguments).code = 0 ↔
        ¬Ends surroundings options ∧ ¬Fails surroundings options) ∧
      ((start surroundings arguments).code = 0 → inputs surroundings options ≠ []) ∧
      (∀ others other, CommandLine.parse others = .ok other → Reordered options other →
        (start surroundings others).code = (start surroundings arguments).code) ∧
      ∀ documents, expand surroundings.tree options.documents = .ok documents →
        2 ≤ documents.count standardInput → (start surroundings arguments).code ≠ 0 := by
  have started : start surroundings arguments = run surroundings options := by rw [start, parsed]
  rw [started]
  obtain ⟨one, ten, zero⟩ := run_code_iff surroundings plain
  refine ⟨one, ten, zero, ?_, ?_, ?_⟩
  · intro passed
    exact inputs_ne_nil (parse_documents parsed plain) fun unprepared => (zero.mp passed).1 (Or.inl unprepared)
  · intro others other otherParsed same
    have otherStarted : start surroundings others = run surroundings other := by rw [start, otherParsed]
    rw [otherStarted, code_reordered same plain]
  · intro documents expanded twice passed
    exact (zero.mp passed).2 (fails_of_second expanded twice)

def threeDocuments : FileTree :=
  .folder [("sound.sql".toList, .file (Text.bytes "SELECT 1;".toList)), ("blank.sql".toList, .file [0x0A]),
    ("latin.sql".toList, .file [0xE9])]

def plainSurroundings : Surroundings :=
  ⟨threeDocuments, Text.bytes "SELECT 1;".toList, .steady (.ok ⟨[], none⟩), false⟩

/-- A pass, a failure, a run that is ended by a document wherever it stands, and standard input asked for twice. -/
theorem four_runs_coded :
    ((start plainSurroundings ["sound.sql".toList]).code = 0 ∧
        inputs plainSurroundings { documents := ["sound.sql".toList] } ≠ []) ∧
      ((start plainSurroundings ["sound.sql".toList, "blank.sql".toList]).code = 10 ∧
        Fails plainSurroundings { documents := ["sound.sql".toList, "blank.sql".toList] }) ∧
      ((start plainSurroundings ["blank.sql".toList, "latin.sql".toList]).code = 1 ∧
        (start plainSurroundings ["latin.sql".toList, "blank.sql".toList]).code = 1) ∧
      CommandLine.parse [['-'], ['-']] = .ok { documents := [['-'], ['-']] } ∧
      (start plainSurroundings [['-'], ['-']]).code ≠ 0 := by
  refine ⟨?_, ?_, ?_, ?_⟩
  · have parsed : CommandLine.parse ["sound.sql".toList] = .ok { documents := ["sound.sql".toList] } := rfl
    obtain ⟨-, -, -, given, -⟩ := exit_code_law parsed rfl plainSurroundings
    have passed : (start plainSurroundings ["sound.sql".toList]).code = 0 := by decide +kernel
    exact ⟨passed, given passed⟩
  · have parsed : CommandLine.parse ["sound.sql".toList, "blank.sql".toList] =
        .ok { documents := ["sound.sql".toList, "blank.sql".toList] } := rfl
    obtain ⟨-, ten, -⟩ := exit_code_law parsed rfl plainSurroundings
    have failed : (start plainSurroundings ["sound.sql".toList, "blank.sql".toList]).code = 10 := by decide +kernel
    exact ⟨failed, (ten.mp failed).2⟩
  · have parsed : CommandLine.parse ["blank.sql".toList, "latin.sql".toList] =
        .ok { documents := ["blank.sql".toList, "latin.sql".toList] } := rfl
    obtain ⟨one, -, -, -, reordered, -⟩ := exit_code_law parsed rfl plainSurroundings
    have ended : Ends plainSurroundings { documents := ["blank.sql".toList, "latin.sql".toList] } :=
      Or.inr ⟨[0xE9], by decide +kernel, Or.inl (by decide +kernel)⟩
    refine ⟨one.mpr ended, ?_⟩
    rw [reordered ["latin.sql".toList, "blank.sql".toList]
      { documents := ["latin.sql".toList, "blank.sql".toList] } rfl ⟨_, .swap _ _ _, rfl⟩]
    exact one.mpr ended
  · have parsed : CommandLine.parse [['-'], ['-']] = .ok { documents := [['-'], ['-']] } := rfl
    obtain ⟨-, -, -, -, -, second⟩ := exit_code_law parsed rfl plainSurroundings
    exact ⟨parsed, second [['-'], ['-']] rfl (by decide)⟩

end Program
end SqlCheck
