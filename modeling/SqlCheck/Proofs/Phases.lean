import SqlCheck.Proofs.ExitCode

/-! The two phases of a run. First the arguments are expanded, then the documents are looked at, then the
configuration is read; the first mistake of the first of these that has one is reported, and nothing else is
written or asked. A run that gets past this goes to work on documents which are all there, so only what they
hold can still end it: bytes that are no text, or syntax errors in what was to be formatted. -/
namespace SqlCheck

/-- The first name of a list that is at fault, and with what. -/
inductive FirstFault (faulty : Text → Failure → Prop) : List Text → Failure → Prop
  | here {name : Text} {rest : List Text} {failure : Failure} (fault : faulty name failure) :
      FirstFault faulty (name :: rest) failure
  | later {name : Text} {rest : List Text} {failure : Failure} (sound : ∀ fault, ¬faulty name fault)
      (behind : FirstFault faulty rest failure) : FirstFault faulty (name :: rest) failure

namespace FirstFault
variable {faulty : Text → Failure → Prop} {name : Text} {rest names : List Text} {failure : Failure}

/-- Where the fault is that of a check, the first fault of a list is what the checks end with, taken in order. -/
theorem cons_iff {Value : Type} {checked : Text → Except Failure Value}
    (exact : ∀ name failure, checked name = .error failure ↔ faulty name failure) :
    FirstFault faulty (name :: rest) failure ↔
      match checked name with
      | .error fault => fault = failure
      | .ok _ => FirstFault faulty rest failure := by
  cases ends : checked name with
  | error fault =>
      constructor
      · rintro (again | ⟨sound, -⟩)
        · have both := (exact name failure).mpr again
          rw [ends] at both
          exact Except.error.inj both
        · exact absurd ((exact name fault).mp ends) (sound fault)
      · rintro rfl
        exact here ((exact name fault).mp ends)
  | ok value =>
      have sound : ∀ fault, ¬faulty name fault := by
        intro fault wrong
        rw [(exact name fault).mpr wrong] at ends
        cases ends
      constructor
      · rintro (fault | ⟨-, behind⟩)
        · exact absurd fault (sound failure)
        · exact behind
      · exact later sound

theorem iff_split :
    FirstFault faulty names failure ↔
      ∃ front name back, names = front ++ name :: back ∧
        (∀ early ∈ front, ∀ fault, ¬faulty early fault) ∧ faulty name failure := by
  constructor
  · intro first
    induction first with
    | @here name rest failure fault => exact ⟨[], name, rest, rfl, by simp, fault⟩
    | @later name rest failure sound _ ih =>
        obtain ⟨front, other, back, rfl, early, fault⟩ := ih
        exact ⟨name :: front, other, back, rfl, List.forall_mem_cons.mpr ⟨sound, early⟩, fault⟩
  · rintro ⟨front, name, back, rfl, early, fault⟩
    induction front with
    | nil => exact .here fault
    | cons first rest ih =>
        obtain ⟨sound, others⟩ := List.forall_mem_cons.mp early
        exact .later sound (ih others)

theorem exists_iff :
    (∃ failure, FirstFault faulty names failure) ↔ ∃ name ∈ names, ∃ failure, faulty name failure := by
  constructor
  · rintro ⟨failure, first⟩
    obtain ⟨front, name, back, rfl, -, fault⟩ := iff_split.mp first
    exact ⟨name, by simp, failure, fault⟩
  · rintro ⟨name, member, failure, fault⟩
    induction names with
    | nil => cases member
    | cons first rest ih =>
        by_cases early : ∃ failure, faulty first failure
        · obtain ⟨failure, fault⟩ := early
          exact ⟨failure, here fault⟩
        · rcases List.mem_cons.mp member with rfl | later
          · exact absurd ⟨failure, fault⟩ early
          · obtain ⟨failure, behind⟩ := ih later
            exact ⟨failure, .later (fun fault at_fault => early ⟨fault, at_fault⟩) behind⟩

end FirstFault

namespace Inputs
variable {tree : FileTree} {argument document : Text} {arguments documents : List Text} {failure : Failure}

/-- Why an argument stands for nothing: it has to be read as a pattern, and is none or has no match. -/
inductive Refused (tree : FileTree) (argument : Text) : Failure → Prop
  | badPattern {place : Nat} {fault : PatternFault} (named : argument ≠ standardInput)
      (wild : looksLikePattern argument = true) (absent : tree.contains argument = false)
      (unread : Pattern.ofText? argument = .error (place, fault)) :
      Refused tree argument (.badPattern argument place fault)
  | noMatch {pattern : Pattern} (reads : ReadAs tree argument pattern)
      (unmatched : Pattern.walk tree pattern = []) : Refused tree argument (.noMatch argument)

inductive Unfit (tree : FileTree) (document : Text) : Failure → Prop
  | missing (named : document ≠ standardInput) (absent : tree.contains document = false) :
      Unfit tree document (.noSuchFile document)
  | notAFile (named : document ≠ standardInput) (present : tree.contains document = true)
      (other : tree.isFile document = false) : Unfit tree document (.notAFile document)

theorem expandOne_eq_error_iff (argument : Text) (failure : Failure) :
    expandOne tree argument = .error failure ↔ Refused tree argument failure := by
  constructor
  · intro ends
    by_cases taken : argument = standardInput ∨ looksLikePattern argument = false ∨
        tree.contains argument = true
    · rw [expandOne, if_pos taken] at ends
      cases ends
    · obtain ⟨named, wild, absent⟩ : argument ≠ standardInput ∧ looksLikePattern argument = true ∧
          tree.contains argument = false := by simpa using taken
      rw [expandOne, if_neg taken] at ends
      cases read : Pattern.ofText? argument with
      | error wrong =>
          rw [read] at ends
          cases ends
          exact .badPattern named wild absent read
      | ok pattern =>
          cases walked : Pattern.walk tree pattern with
          | nil =>
              simp only [read, walked] at ends
              cases ends
              exact .noMatch ⟨named, wild, absent, read⟩ walked
          | cons first rest =>
              simp only [read, walked] at ends
              cases ends
  · rintro (⟨named, wild, absent, unread⟩ | ⟨⟨named, wild, absent, read⟩, unmatched⟩)
    · simp [expandOne, named, wild, absent, unread]
    · simp [expandOne, named, wild, absent, read, unmatched]

theorem expand_eq_error_iff :
    expand tree arguments = .error failure ↔ FirstFault (Refused tree) arguments failure := by
  induction arguments with
  | nil => exact ⟨nofun, nofun⟩
  | cons argument rest ih =>
      rw [FirstFault.cons_iff expandOne_eq_error_iff, ← ih]
      cases first : expandOne tree argument with
      | error fault => simp [expand, first, bind, Except.bind]
      | ok own => cases others : expand tree rest <;> simp [expand, first, others, bind, Except.bind, pure, Except.pure]

theorem validateOne_eq_error_iff (document : Text) (failure : Failure) :
    validateOne tree document = .error failure ↔ Unfit tree document failure := by
  constructor
  · intro ends
    by_cases named : document = standardInput
    · rw [validateOne, if_pos named] at ends
      cases ends
    · rw [validateOne, if_neg named] at ends
      by_cases absent : tree.contains document = false
      · rw [if_pos absent] at ends
        cases ends
        exact .missing named absent
      · by_cases other : tree.isFile document = false
        · rw [if_neg absent, if_pos other] at ends
          cases ends
          exact .notAFile named (by simpa using absent) other
        · rw [if_neg absent, if_neg other] at ends
          cases ends
  · rintro (⟨named, absent⟩ | ⟨named, present, other⟩)
    · simp [validateOne, named, absent]
    · simp [validateOne, named, present, other]

theorem validate_eq_error_iff :
    validate tree documents = .error failure ↔ FirstFault (Unfit tree) documents failure := by
  induction documents with
  | nil => exact ⟨nofun, nofun⟩
  | cons document rest ih =>
      rw [FirstFault.cons_iff validateOne_eq_error_iff, ← ih]
      cases first : validateOne tree document with
      | error fault => simp [validate, first, bind, Except.bind]
      | ok _ => simp [validate, first, bind, Except.bind]

theorem exists_unfit_iff (document : Text) :
    (∃ failure, Unfit tree document failure) ↔ document ≠ standardInput ∧ tree.isFile document = false := by
  have fit : (∃ failure, Unfit tree document failure) ↔ validateOne tree document ≠ .ok () := by
    simp only [← validateOne_eq_error_iff]
    cases validateOne tree document <;> simp
  rw [fit, Ne, validateOne_eq_ok_iff, not_or, Bool.not_eq_true]

end Inputs

namespace Document
open Job Inputs
variable {tree : FileTree} {parser : Parser} {task : Task} {console : Console Call} {failure : Failure}

/-- What ends a run at a document with these bytes: they are no text, or one with syntax errors that was to be
formatted. -/
inductive Interrupts (task : Task) (parser : Parser) (document : Text) (bytes : List UInt8) : Failure → Prop
  | unreadable (unread : Text.ofBytes? bytes = none) :
      Interrupts task parser document bytes (.unreadable document .notText)
  | unformattable {sql : Text} (formatting : task = .format) (read : Text.ofBytes? bytes = some sql)
      (spoken : sql.isBlank = false) (faulty : (parser.findings sql).value ≠ []) :
      Interrupts task parser document bytes (.unformattable document (parser.findings sql).value.length)

theorem checkText_never_fails (room : console.reports.room = none) (engine : Engine Call) (sql : Text) :
    (runOn (checkText engine sql) console).1 ≠ .error failure := by
  rw [run_checkText room]
  exact nofun

theorem formatText_fails (free : console.Unlimited) {inColour : Bool} {config document sql : Text}
    {finish : Finish} (fails : (runOn (formatText (parser.engine inColour config).value document sql finish)
      console).1 = .error failure) :
    sql.isBlank = false ∧ (parser.findings sql).value ≠ [] ∧
      failure = .unformattable document (parser.findings sql).value.length := by
  simp only [run_formatText free, Formatted.ofText_result] at fails
  by_cases blank : sql.isBlank = true
  · simp [blank] at fails
  · by_cases clean : (parser.findings sql).value = []
    · simp [blank, clean] at fails
    · rw [if_neg blank, if_neg clean] at fails
      exact ⟨by simpa using blank, clean, (Except.error.inj fails).symm⟩

theorem announced_fails (free : console.Unlimited) {document : Text}
    (valid : document = standardInput ∨ tree.isFile document = true) {judge : Text → Job Call Bool}
    (fails : (runOn (do announce document; judge (← load tree document)) console).1 = .error failure) :
    (Text.ofBytes? (offered tree console.input document) = none ∧ failure = .unreadable document .notText) ∨
      ∃ sql loaded, Text.ofBytes? (offered tree console.input document) = some sql ∧
        Console.Unlimited loaded ∧ (runOn (judge sql) loaded).1 = .error failure := by
  rw [run_announced free.reports, given_of_valid valid] at fails
  cases decoded : Text.ofBytes? (offered tree console.input document) with
  | none =>
      rw [decoded] at fails
      exact Or.inl ⟨rfl, (Except.error.inj fails).symm⟩
  | some sql =>
      rw [decoded] at fails
      exact Or.inr ⟨sql, opened document console, rfl, ⟨free.reports, free.output⟩, fails⟩

/-- The documents before the one that ends a run have passed standard input on as far as they left it. -/
theorem inTurn_fails (free : console.Unlimited) {work : Text → Job Call Bool} {documents : List Text}
    (each : ∀ {console : Console Call}, ∀ document ∈ documents, console.Unlimited →
      Ended (.ofBytes task parser (offered tree console.input document)) (left console.input document)
        (runOn (work document) console))
    (interrupts : ∀ {console : Console Call}, ∀ document ∈ documents, console.Unlimited →
      (runOn (work document) console).1 = .error failure →
        Interrupts task parser document (offered tree console.input document) failure)
    (fails : (runOn (inTurn work documents) console).1 = .error failure) :
    ∃ document bytes, (document, bytes) ∈ documents.zip (contents tree console.input documents) ∧
      Interrupts task parser document bytes failure := by
  induction documents generalizing console with
  | nil => cases fails
  | cons document rest ih =>
      rw [contents, List.zip_cons_cons]
      cases ends : runOn (work document) console with
      | mk result after =>
          cases result with
          | error first =>
              rw [run_inTurn_error ends] at fails
              cases fails
              exact ⟨document, _, List.mem_cons_self, interrupts document (by simp) free (by rw [ends])⟩
          | ok passed =>
              have first := each document (by simp) free
              rw [ends] at first
              have others : (runOn (inTurn work rest) after).1 = .error failure := by
                rw [run_inTurn_ok ends] at fails
                cases later : (runOn (inTurn work rest) after).1 with
                | error fault => simpa [later, Except.map] using fails
                | ok others => simp [later, Except.map] at fails
              obtain ⟨other, bytes, member, interrupted⟩ := ih first.free
                (fun other member => each other (by simp [member]))
                (fun other member => interrupts other (by simp [member])) others
              rw [first.input] at member
              exact ⟨other, bytes, List.mem_cons_of_mem _ member, interrupted⟩

theorem work_fails (inColour : Bool) (config : Text) (free : console.Unlimited) {documents : List Text}
    (valid : ∀ document ∈ documents, document = standardInput ∨ tree.isFile document = true)
    (fails : (runOn (Program.work tree (parser.engine inColour config).value task inColour documents)
      console).1 = .error failure) :
    ∃ document bytes, (document, bytes) ∈ documents.zip (contents tree console.input documents) ∧
      Interrupts task parser document bytes failure := by
  cases task with
  | check =>
      refine inTurn_fails free (fun document member free => announced_ended free (valid document member)
        fun sql free => checkText_ended free inColour config sql) ?_ fails
      intro console document member free fails
      rcases announced_fails free (valid document member) fails with
        ⟨unread, rfl⟩ | ⟨sql, loaded, -, unlimited, refused⟩
      · exact .unreadable unread
      · exact absurd refused (checkText_never_fails unlimited.reports _ sql)
  | format =>
      refine inTurn_fails free (fun document member free => announced_ended free (valid document member)
        fun sql free => formatText_ended free inColour config document sql _) ?_ fails
      intro console document member free fails
      rcases announced_fails free (valid document member) fails with
        ⟨unread, rfl⟩ | ⟨sql, loaded, read, unlimited, refused⟩
      · exact .unreadable unread
      · obtain ⟨spoken, faulty, rfl⟩ := formatText_fails unlimited refused
        exact .unformattable rfl read spoken faulty

end Document

namespace Program
open Inputs Job Document
variable {tree : FileTree} {options : Options} {failure : Failure}

/-- Something is wrong with what a run was asked to do: an argument, a document it stands for, or the
configuration. -/
def AtFault (tree : FileTree) (options : Options) : Prop :=
  (∃ argument ∈ options.documents, ∃ failure, Refused tree argument failure) ∨
    (∃ argument ∈ options.documents, ∃ document ∈ found tree argument,
      document ≠ standardInput ∧ tree.isFile document = false) ∨
    ∃ path fault, options.config = some path ∧ tree.readText path = .error fault

/-- What is reported of that: the first argument at fault, else the first document, else the configuration. -/
inductive Mistake (tree : FileTree) (options : Options) : Failure → Prop
  | argument {failure : Failure} (first : FirstFault (Refused tree) options.documents failure) :
      Mistake tree options failure
  | document {documents : List Text} {failure : Failure} (expanded : expand tree options.documents = .ok documents)
      (first : FirstFault (Unfit tree) documents failure) : Mistake tree options failure
  | config {documents : List Text} {path : Text} {fault : ReadFault}
      (expanded : expand tree options.documents = .ok documents)
      (fit : ∀ document ∈ documents, document = standardInput ∨ tree.isFile document = true)
      (given : options.config = some path) (unread : tree.readText path = .error fault) :
      Mistake tree options (.unreadableConfig path fault)

theorem readConfig_eq_error_iff (config : Option Text) :
    readConfig tree config = .error failure ↔
      ∃ path fault, config = some path ∧ tree.readText path = .error fault ∧
        failure = .unreadableConfig path fault := by
  cases config with
  | none => simp [readConfig]
  | some path => cases read : tree.readText path <;> simp [readConfig, read, eq_comm]

theorem prepare_eq_error_iff : prepare tree options = .error failure ↔ Mistake tree options failure := by
  constructor
  · intro refused
    cases expanded : expand tree options.documents with
    | error fault =>
        simp only [prepare, expanded, bind, Except.bind] at refused
        cases refused
        exact .argument (expand_eq_error_iff.mp expanded)
    | ok documents =>
        cases validated : validate tree documents with
        | error fault =>
            simp only [prepare, expanded, validated, bind, Except.bind] at refused
            cases refused
            exact .document expanded (validate_eq_error_iff.mp validated)
        | ok _ =>
            cases configured : readConfig tree options.config with
            | error fault =>
                simp only [prepare, expanded, validated, configured, bind, Except.bind] at refused
                cases refused
                obtain ⟨path, fault, given, unread, rfl⟩ := (readConfig_eq_error_iff _).mp configured
                exact .config expanded (validate_eq_ok_iff.mp validated) given unread
            | ok source =>
                simp only [prepare, expanded, validated, configured, bind, Except.bind] at refused
                cases refused
  · rintro (first | ⟨expanded, first⟩ | ⟨expanded, fit, given, unread⟩)
    · have refused := expand_eq_error_iff.mpr first
      simp [prepare, refused, bind, Except.bind]
    · have refused := validate_eq_error_iff.mpr first
      simp [prepare, expanded, refused, bind, Except.bind]
    · have refused : readConfig tree options.config = .error _ :=
        (readConfig_eq_error_iff _).mpr ⟨_, _, given, unread, rfl⟩
      simp [prepare, expanded, validate_eq_ok_iff.mpr fit, refused, bind, Except.bind]

/-- Whatever is at fault, there is a mistake to report, and one mistake only. -/
theorem exists_mistake_iff : (∃ failure, Mistake tree options failure) ↔ AtFault tree options := by
  constructor
  · rintro ⟨failure, first | ⟨expanded, first⟩ | ⟨-, -, given, unread⟩⟩
    · exact Or.inl (FirstFault.exists_iff.mp ⟨failure, first⟩)
    · obtain ⟨document, member, unfit⟩ := FirstFault.exists_iff.mp ⟨failure, first⟩
      obtain ⟨argument, given, stands⟩ := (mem_expand expanded).mp member
      exact Or.inr (Or.inl ⟨argument, given, document, stands, (exists_unfit_iff document).mp unfit⟩)
    · exact Or.inr (Or.inr ⟨_, _, given, unread⟩)
  · intro atFault
    cases expanded : expand tree options.documents with
    | error failure => exact ⟨failure, .argument (expand_eq_error_iff.mp expanded)⟩
    | ok documents =>
        cases validated : validate tree documents with
        | error failure => exact ⟨failure, .document expanded (validate_eq_error_iff.mp validated)⟩
        | ok _ =>
            have fit := validate_eq_ok_iff.mp validated
            rcases atFault with ⟨argument, given, refused⟩ | ⟨argument, given, document, stands, unfit⟩ |
              ⟨path, fault, given, unread⟩
            · obtain ⟨failure, first⟩ := FirstFault.exists_iff.mpr ⟨argument, given, refused⟩
              rw [← expand_eq_error_iff, expanded] at first
              cases first
            · rcases fit document ((mem_expand expanded).mpr ⟨argument, given, stands⟩) with named | isFile
              · exact absurd named unfit.1
              · rw [isFile] at unfit
                cases unfit.2
            · exact ⟨_, .config expanded fit given unread⟩

theorem run_refused {surroundings : Surroundings} (plain : options.listForms = false)
    (refused : prepare surroundings.tree options = .error failure) :
    run surroundings options = ⟨1, [], Text.bytes (complaint (.error failure)), []⟩ := by
  rw [run, if_neg (by simp [plain]), refused]

/-- A run with a mistake in what it was asked reports the first one and does nothing else. Any other run goes to
work on its documents, and what ends it there lies in the bytes of one of them, since a file that is there can be
read: one that exists and may not be opened is not considered. -/
theorem run_in_two_phases {arguments : List Text} (parsed : CommandLine.parse arguments = .ok options)
    (plain : options.listForms = false) (surroundings : Surroundings) :
    (AtFault surroundings.tree options → ∃ failure, Mistake surroundings.tree options failure) ∧
      (∀ failure, Mistake surroundings.tree options failure →
        start surroundings arguments = ⟨1, [], Text.bytes (complaint (.error failure)), []⟩) ∧
      (¬AtFault surroundings.tree options → ∃ documents config,
        prepare surroundings.tree options = .ok (documents, config) ∧
        let inColour := options.wantsColour surroundings.onTerminal
        let ends := runOn (work surroundings.tree (surroundings.parser.engine inColour config).value options.task
          inColour documents) (opening surroundings options config)
        start surroundings arguments = ending options.task ends.1 ends.2 ∧
          ∀ failure, ends.1 = .error failure →
            ∃ document bytes, (document, bytes) ∈ documents.zip
                (contents surroundings.tree surroundings.input documents) ∧
              Interrupts options.task surroundings.parser document bytes failure) := by
  have started : start surroundings arguments = run surroundings options := by rw [start, parsed]
  rw [started]
  refine ⟨exists_mistake_iff.mpr, ?_, ?_⟩
  · intro failure mistake
    exact run_refused plain (prepare_eq_error_iff.mpr mistake)
  · intro sound
    cases prepared : prepare surroundings.tree options with
    | error failure => exact absurd (exists_mistake_iff.mp ⟨failure, prepare_eq_error_iff.mp prepared⟩) sound
    | ok both =>
        obtain ⟨documents, config⟩ := both
        refine ⟨documents, config, rfl, run_ready plain prepared, ?_⟩
        intro failure fails
        exact work_fails _ config (opening_unlimited surroundings options config)
          (validate_eq_ok_iff.mp (prepare_eq_ok prepared).2) fails

def oneDocument : FileTree := .folder [("a.sql".toList, .file (Text.bytes "SELECT 1;".toList))]

/-- The second of two documents is missing, so the first is not touched either. -/
theorem missing_document_stops_all :
    CommandLine.parse ["a.sql".toList, "b.sql".toList] =
        .ok { documents := ["a.sql".toList, "b.sql".toList] } ∧
      start ⟨oneDocument, [], .steady (.ok ⟨[], none⟩), false⟩ ["a.sql".toList, "b.sql".toList] =
        ⟨1, [], Text.bytes "Error: File does not exist: b.sql\n".toList, []⟩ := by
  have parsed : CommandLine.parse ["a.sql".toList, "b.sql".toList] =
      .ok { documents := ["a.sql".toList, "b.sql".toList] } := rfl
  have isFile : oneDocument.isFile "a.sql".toList = true := by decide +kernel
  have sound : ∀ fault, ¬Unfit oneDocument "a.sql".toList fault := by
    intro fault unfit
    have other := ((exists_unfit_iff _).mp ⟨fault, unfit⟩).2
    rw [isFile] at other
    cases other
  have mistake : Mistake oneDocument { documents := ["a.sql".toList, "b.sql".toList] }
      (.noSuchFile "b.sql".toList) :=
    .document rfl (.later sound (.here (.missing (by decide) (by decide +kernel))))
  constructor
  · exact parsed
  · exact (run_in_two_phases parsed rfl ⟨oneDocument, [], .steady (.ok ⟨[], none⟩), false⟩).2.1 _ mistake

end Program
end SqlCheck
