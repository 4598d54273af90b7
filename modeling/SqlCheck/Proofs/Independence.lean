import SqlCheck.Proofs.Reports

/-! Documents that are checked one after the other beside the same documents checked each on its own. All of
them share a reporter, and the reporter remembers the document it was last turned to; but every check begins by
turning it, so nothing of an earlier check shows in a later one. What is written, asked and answered is put
together from the single checks, up to the first that ends in a failure. -/
namespace SqlCheck

namespace Console
variable {Note : Type}

/-- The console with the reports and notes of another one behind its own, and with the other's reporter. -/
def continued (console later : Console Note) : Console Note :=
  { console with
    reporter := later.reporter
    reports := { console.reports with written := console.reports.written ++ later.reports.written }
    notes := console.notes ++ later.notes }

end Console

namespace Document
open Job Inputs
variable {Note : Type} {tree : FileTree} {engine : Engine Note} {console : Console Note} {fresh : Reporter}
  {previous document : Text}

def checkAlone (tree : FileTree) (engine : Engine Note) (fresh : Reporter) (document : Text) :
    Except Failure Bool × Console Note :=
  runOn (check tree engine document) ⟨fresh, {}, {}, [], []⟩

/-- The documents that have their turn: all of them, or those up to the first that ends in a failure. -/
def reached (ends : Text → Except Failure Bool) (documents : List Text) : List Text :=
  documents.take (documents.findIdx (fun document => !(ends document).isOk) + 1)

/-- The first failure among the documents or, if there is none, whether all of them passed. -/
def verdictOn (ends : Text → Except Failure Bool) (documents : List Text) : Except Failure Bool :=
  (documents.mapM ends).map fun verdicts => verdicts.all id

section Reached
variable {ends : Text → Except Failure Bool} {rest documents : List Text} {failure : Failure} {passed : Bool}

theorem reached_cons_ok (goesOn : ends document = .ok passed) :
    reached ends (document :: rest) = document :: reached ends rest := by
  simp [reached, List.findIdx_cons, goesOn, Except.isOk, Except.toBool]

theorem reached_cons_error (fails : ends document = .error failure) :
    reached ends (document :: rest) = [document] := by
  simp [reached, List.findIdx_cons, fails, Except.isOk, Except.toBool]

theorem verdictOn_cons_ok (goesOn : ends document = .ok passed) :
    verdictOn ends (document :: rest) = (verdictOn ends rest).map (passed && ·) := by
  rw [verdictOn, List.mapM_cons, goesOn, verdictOn]
  cases rest.mapM ends <;> rfl

theorem verdictOn_cons_error (fails : ends document = .error failure) :
    verdictOn ends (document :: rest) = .error failure := by
  rw [verdictOn, List.mapM_cons, fails]
  rfl

theorem reached_of_verdict (verdict : verdictOn ends documents = .ok passed) : reached ends documents = documents := by
  induction documents generalizing passed with
  | nil => rfl
  | cons document rest ih =>
      cases own : ends document with
      | error failure =>
          rw [verdictOn_cons_error own] at verdict
          cases verdict
      | ok first =>
          rw [verdictOn_cons_ok own] at verdict
          cases others : verdictOn ends rest with
          | error failure =>
              rw [others] at verdict
              cases verdict
          | ok second => rw [reached_cons_ok own, ih others]

end Reached

theorem run_check_alone (turned : console.reporter = fresh.turnTo previous) (room : console.reports.room = none)
    (named : document ≠ standardInput) :
    runOn (check tree engine document) console =
      ((checkAlone tree engine fresh document).1, console.continued (checkAlone tree engine fresh document).2) := by
  have reporter : console.reporter.turnTo document = fresh.turnTo document := by
    rw [turned, Reporter.turnTo_turnTo]
  have alone : checkAlone tree engine fresh document = _ := run_check_given rfl document
  -- A document that is no standard input is read from the tree, whatever is left of the input.
  have same : given tree console.input document = given tree [] document := by
    rw [given, if_neg named, given, if_neg named]
  rw [alone, run_check_given room, same]
  cases given tree [] document with
  | error failure =>
      simp [opened, Console.continued, Console.report, Console.turnTo, left, named, reporter]
  | ok sql =>
      simp [opened, Console.continued, Console.report, Console.turnTo, Console.note, left, named, reporter]

theorem checkAlone_reporter (document : Text) :
    (checkAlone tree engine fresh document).2.reporter = fresh.turnTo document := by
  have alone : checkAlone tree engine fresh document = _ := run_check_given rfl document
  rw [alone]
  cases given tree [] document <;> rfl

theorem run_checkEach_alone (turned : console.reporter = fresh.turnTo previous) (room : console.reports.room = none)
    {documents : List Text} (unasked : standardInput ∉ documents) :
    let own := checkAlone tree engine fresh
    let ends := fun document => (own document).1
    runOn (checkEach tree engine documents) console =
      (verdictOn ends documents,
        ((reached ends documents).map fun document => (own document).2).foldl Console.continued console) := by
  intro own ends
  induction documents generalizing console previous with
  | nil => rfl
  | cons document rest ih =>
      have named : document ≠ standardInput := fun same => unasked (by simp [same])
      have begun : runOn (check tree engine document) console =
          (ends document, console.continued (own document).2) := run_check_alone turned room named
      cases verdict : ends document with
      | error failure =>
          rw [verdict] at begun
          rw [checkEach, run_inTurn_error begun, verdictOn_cons_error verdict, reached_cons_error verdict]
          rfl
      | ok passed =>
          rw [verdict] at begun
          -- The reporter is the one that the document has left, which the next check turns again.
          have others := ih (show (console.continued (own document).2).reporter = _ from checkAlone_reporter document)
            (show (console.continued (own document).2).reports.room = none from room)
            fun member => unasked (List.mem_cons_of_mem document member)
          rw [checkEach] at others
          rw [checkEach, run_inTurn_ok begun, others, verdictOn_cons_ok verdict, reached_cons_ok verdict]
          rfl

theorem foldl_continued (parts : List (Console Note)) (console : Console Note) :
    (parts.foldl Console.continued console).reports.written =
        console.reports.written ++ parts.flatMap (fun part => part.reports.written) ∧
      (parts.foldl Console.continued console).notes = console.notes ++ parts.flatMap (fun part => part.notes) := by
  induction parts generalizing console with
  | nil => simp
  | cons part rest ih =>
      obtain ⟨written, noted⟩ := ih (console.continued part)
      rw [List.foldl_cons, written, noted]
      simp [Console.continued]

/-- Documents checked in turn are checked each as on its own: the reports and notes of the single checks stand one
behind the other, up to the first that fails, and the run ends with that failure or with all the verdicts. -/
theorem checks_independent (tree : FileTree) (engine : Engine Note) (form : ReportForm) (inColour enabled : Bool)
    (turned : console.reporter = (Reporter.create inColour enabled form).turnTo previous)
    (room : console.reports.room = none) {documents : List Text} (unasked : standardInput ∉ documents) :
    let own := checkAlone tree engine (.create inColour enabled form)
    let had := reached (fun document => (own document).1) documents
    let ended := runOn (checkEach tree engine documents) console
    ended.1 = verdictOn (fun document => (own document).1) documents ∧
    ended.2.reports.written =
      console.reports.written ++ had.flatMap (fun document => (own document).2.reports.written) ∧
    ended.2.notes = console.notes ++ had.flatMap (fun document => (own document).2.notes) ∧
    ∀ passed, ended.1 = .ok passed → had = documents := by
  intro own had ended
  have whole : ended = _ := run_checkEach_alone turned room unasked
  obtain ⟨written, noted⟩ := foldl_continued (had.map fun document => (own document).2) console
  rw [List.flatMap_map] at written noted
  rw [whole]
  exact ⟨rfl, written, noted, fun _ verdict => reached_of_verdict verdict⟩

def mixedFiles : FileTree := .folder
  [("faulty.sql".toList, .file (Text.bytes "SELEC".toList)), ("blank.sql".toList, .file (Text.bytes "\n".toList)),
    ("clean.sql".toList, .file (Text.bytes "SELECT 1".toList))]

def picky : Engine Question :=
  .answering (fun sql => if sql = "SELEC".toList then [⟨"no".toList, 0, sql⟩] else []) fun _ sql _ => .ok sql

/-- A reporter for editors that comes from another document. The run goes on behind the faulty document and the blank
one, and the missing one ends it before the clean one has its turn. -/
theorem missing_document_ends_checks :
    let documents := ["faulty.sql".toList, "blank.sql".toList, "gone.sql".toList, "clean.sql".toList]
    let console : Console Question := ⟨.emacs "old.sql".toList, {}, {}, [], []⟩
    let ended := runOn (checkEach mixedFiles picky documents) console
    console.reporter = (Reporter.create false false .emacs).turnTo "old.sql".toList ∧ standardInput ∉ documents ∧
    ended.1 = .error (.unreadable "gone.sql".toList .notFound) ∧
    ended.2.reports.written = Text.bytes
      "faulty.sql:1:1: error: no\nblank.sql:0:0: error: SQL file empty\n".toList ∧
    ended.2.notes = [.findings "SELEC".toList] := by
  intro documents console ended
  have turned : console.reporter = (Reporter.create false false .emacs).turnTo "old.sql".toList := rfl
  have unasked : standardInput ∉ documents := by decide
  obtain ⟨verdict, written, noted, -⟩ := checks_independent mixedFiles picky .emacs false false turned rfl unasked
  refine ⟨turned, unasked, ?_, ?_, ?_⟩
  · rw [show ended.1 = _ from verdict]
    rfl
  · rw [show ended.2.reports.written = _ from written]
    decide +kernel
  · rw [show ended.2.notes = _ from noted]
    decide +kernel

end Document
end SqlCheck
