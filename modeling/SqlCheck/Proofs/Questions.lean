import SqlCheck.Proofs.Formatting
import SqlCheck.Proofs.Reports
import SqlCheck.Proofs.Sessions

/-! What an engine is asked in a session, on streams of any room. A text that is judged is asked about once, in its
own words, unless it is blank; a document is judged if its banner could be written and its text could be read. So
the questions of a session can be listed from the texts that it comes to judge, and no blank one is among them.
What a blank text gets instead is one report. -/
namespace SqlCheck

theorem Text.exists_of_isBlank_eq_false {text : Text} (spoken : text.isBlank = false) :
    ∃ c ∈ text, isWhiteSpace c = false ∧ c ≠ '\x00' := by
  simpa [isBlank] using spoken

def Question.sql : Question → Text
  | findings sql => sql
  | format _ sql _ => sql

namespace Document
open Job
variable {Note : Type} {tree : FileTree}

theorem checkText_notes (engine : Engine Note) (sql : Text) (console : Console Note) :
    (runOn (checkText engine sql) console).2.notes = console.notes ++ askedAbout engine sql := by
  by_cases blank : sql.isBlank = true
  · rw [checkText, if_pos blank, askedAbout, if_pos blank, List.append_nil]
    exact blank_keeps unwritten_notes console
  · rw [checkText, if_neg blank, run_bind_ok (run_ask _ _), askedAbout, if_neg blank]
    exact verdict_keeps unwritten_notes _ _ _

theorem formatText_notes (engine : Engine Note) (document sql : Text) (finish : Finish) (console : Console Note) :
    (runOn (formatText engine document sql finish) console).2.notes =
      console.notes ++ if sql.isBlank then [] else (engine.format document sql finish).notes := by
  by_cases blank : sql.isBlank = true
  · rw [formatText, if_pos blank, if_pos blank, List.append_nil]
    exact blank_keeps unwritten_notes console
  · rw [formatText, if_neg blank, run_bind_ok (run_ask _ _), if_neg blank]
    cases (engine.format document sql finish).value with
    | error failure => rfl
    | ok formatted => exact keeps_bind (writeOutput_keeps unwritten_notes _) (fun _ => keeps_pure _ _) _

/-- The text that a document comes to be judged by, once its banner is written and as far as it can be read. -/
def heard (tree : FileTree) (document : Text) (console : Console Note) : Option Text :=
  match (runOn (announce document) console).1, given tree console.input document with
  | .ok _, .ok sql => some sql
  | _, _ => none

theorem announced_notes {judge : Text → Job Note Bool} {asked : Text → List Note}
    (judged : ∀ sql console, (runOn (judge sql) console).2.notes = console.notes ++ asked sql) (document : Text)
    (console : Console Note) :
    (runOn (do announce document; judge (← load tree document)) console).2.notes =
      console.notes ++ ((heard tree document console).map asked).getD [] := by
  have quiet := announce_keeps unwritten_notes document console
  have unread := announce_keeps unwritten_input document console
  cases begun : runOn (announce document) console with
  | mk result after =>
      rw [begun] at quiet unread
      cases result with
      | error failure =>
          rw [run_bind, begun]
          simpa [heard, begun] using quiet
      | ok _ =>
          rw [run_bind_ok begun, run_bind, run_load_given, unread]
          cases read : given tree console.input document with
          | error failure => simpa [heard, begun, read] using quiet
          | ok sql =>
              have last := judged sql { after with input := left console.input document }
              simpa [heard, begun, read] using last.trans (congrArg (· ++ asked sql) quiet)

/-- The documents that have their turn at being checked, each with the console that it finds: all of them, or those up
to the first that ends in a failure. -/
def turns (tree : FileTree) (engine : Engine Note) : List Text → Console Note → List (Step × Console Note)
  | [], _ => []
  | document :: rest, console =>
      (.check document, console) ::
        match runOn (check tree engine document) console with
        | (.ok _, after) => turns tree engine rest after
        | (.error _, _) => []

theorem turns_keep {Seen : Type} {seen : Console Note → Seen} (view : Untouched seen) {engine : Engine Note}
    {documents : List Text} {console : Console Note} {turn : Step × Console Note}
    (member : turn ∈ turns tree engine documents console) : seen turn.2 = seen console := by
  induction documents generalizing console with
  | nil => cases member
  | cons document rest ih =>
      rcases List.mem_cons.mp member with first | later
      · rw [first]
      · have before := check_keeps view tree engine document console
        cases begun : runOn (check tree engine document) console with
        | mk result after =>
            rw [begun] at later before
            cases result with
            | error failure => cases later
            | ok passed => exact (ih later).trans before

end Document

namespace Step
open Job Document
variable {Note : Type}

def judged (tree : FileTree) (console : Console Note) : Step → Option Text
  | checkText sql => some sql
  | formatText _ sql _ => some sql
  | check document => heard tree document console
  | format document _ => heard tree document console
  | _ => none

def questionOn (sql : Text) : Step → Option Question
  | checkText _ => some (.findings sql)
  | check _ => some (.findings sql)
  | formatText document _ finish => some (.format document sql finish)
  | format document finish => some (.format document sql finish)
  | _ => none

/-- One question about a text that is not blank, and none about a blank one. -/
def asks (tree : FileTree) (step : Step) (console : Console Note) : Option Question :=
  match step.judged tree console with
  | some sql => if sql.isBlank then none else step.questionOn sql
  | none => none

/-- What a step is made of, each part with the console that it finds: a check for each document that has its turn
where there are several, and otherwise the step itself. -/
def turns (tree : FileTree) (engine : Engine Note) (console : Console Note) : Step → List (Step × Console Note)
  | checkEach documents => Document.turns tree engine documents console
  | step => [(step, console)]

def questions (tree : FileTree) (turns : List (Step × Console Note)) : List Question :=
  turns.filterMap fun turn => turn.1.asks tree turn.2

/-- The document whose banner a step writes before it judges the text of it. -/
def titled : Step → Option Text
  | check document => some document
  | format document _ => some document
  | _ => none

/-- The console on which a step judges its text: the banner, if it has one, is written and the text is read. -/
def ready (step : Step) (console : Console Note) : Console Note :=
  match step.titled with
  | some document => opened document console
  | none => console

section Turns
variable {tree : FileTree}

theorem turns_keep {Seen : Type} {seen : Console Note → Seen} (view : Untouched seen) {engine : Engine Note}
    {step : Step} {console : Console Note} {turn : Step × Console Note}
    (member : turn ∈ step.turns tree engine console) : seen turn.2 = seen console := by
  cases step with
  | checkEach documents => exact Document.turns_keep view member
  | _ => rw [List.mem_singleton.mp member]

theorem single_of_judged {step : Step} {console : Console Note} {sql : Text}
    (heard : step.judged tree console = some sql) : ∀ documents, step ≠ .checkEach documents := by
  rintro documents rfl
  cases heard

theorem questionOn_of_judged {step : Step} {console : Console Note} {sql : Text}
    (heard : step.judged tree console = some sql) : ∃ question, step.questionOn sql = some question := by
  cases step with
  | checkText _ => exact ⟨_, rfl⟩
  | check _ => exact ⟨_, rfl⟩
  | formatText _ _ _ => exact ⟨_, rfl⟩
  | format _ _ => exact ⟨_, rfl⟩
  | _ => cases heard

theorem given_of_heard {document : Text} {console : Console Note} {sql : Text}
    (heard : Document.heard tree document console = some sql) : given tree console.input document = .ok sql := by
  unfold Document.heard at heard
  split at heard
  · next read => rw [read, Option.some.inj heard]
  · cases heard

/-- A blank text fails, and nothing comes of it but one report that there is no SQL. -/
theorem run_blank {engine : Engine Note} {step : Step} {console : Console Note} {sql : Text}
    (room : console.reports.room = none) (heard : step.judged tree console = some sql) (blank : sql.isBlank = true) :
    runOn (step.perform tree engine) console =
      (.ok (some false),
        (step.ready console).report ((step.ready console).reporter.complaint emptyMessage [] 0 0)) := by
  cases step with
  | checkText text =>
      cases heard
      rw [perform, run_map, run_checkText_blank room blank]
      rfl
  | check document =>
      rw [perform, run_map, Document.check, run_announced room, given_of_heard heard]
      simp only [run_checkText_blank (show (opened document console).reports.room = none from room) blank]
      rfl
  | formatText document text finish =>
      cases heard
      rw [perform, run_map, run_formatText_blank room blank]
      rfl
  | format document finish =>
      rw [perform, run_map, Document.format, run_announced room, given_of_heard heard]
      simp only [run_formatText_blank (show (opened document console).reports.room = none from room) blank]
      rfl
  | _ => cases heard

end Turns

variable {tree : FileTree} {findings : Text → List Finding}
  {format : Text → Text → Finish → Except Failure Text}

theorem questions_cons (turn : Step × Console Note) (rest : List (Step × Console Note)) :
    questions tree (turn :: rest) = (turn.1.asks tree turn.2).toList ++ questions tree rest := by
  cases asked : turn.1.asks tree turn.2 <;> simp [questions, asked]

theorem questions_append (front back : List (Step × Console Note)) :
    questions tree (front ++ back) = questions tree front ++ questions tree back := by
  simp [questions]

@[simp] theorem questions_nil : questions tree ([] : List (Step × Console Note)) = [] := rfl

theorem turns_single {step : Step} (single : ∀ documents, step ≠ .checkEach documents) (engine : Engine Note)
    (console : Console Note) : step.turns tree engine console = [(step, console)] := by
  cases step with
  | checkEach documents => exact absurd rfl (single documents)
  | _ => rfl

theorem asks_toList (step : Step) (console : Console Note) :
    (step.asks tree console).toList =
      ((step.judged tree console).map fun sql => if sql.isBlank then [] else (step.questionOn sql).toList).getD [] := by
  cases heard : step.judged tree console with
  | none => simp [asks, heard]
  | some sql => by_cases blank : sql.isBlank = true <;> simp [asks, heard, blank]

theorem sql_of_questionOn {step : Step} {sql : Text} {question : Question} (put : step.questionOn sql = some question) :
    question.sql = sql := by
  cases step <;> cases put <;> rfl

theorem question_of_asks {step : Step} {console : Console Note} {question : Question}
    (asked : step.asks tree console = some question) :
    step.judged tree console = some question.sql ∧ question.sql.isBlank = false := by
  unfold asks at asked
  cases heard : step.judged tree console with
  | none => simp [heard] at asked
  | some sql =>
      rw [heard] at asked
      by_cases blank : sql.isBlank = true
      · simp [blank] at asked
      · have about : question.sql = sql := sql_of_questionOn (by simpa [blank] using asked)
        rw [about]
        exact ⟨rfl, by simpa using blank⟩

theorem single_notes {step : Step} (single : ∀ documents, step ≠ .checkEach documents)
    (console : Console Question) :
    (runOn (step.perform tree (.answering findings format)) console).2.notes =
      console.notes ++ (step.asks tree console).toList := by
  rw [asks_toList]
  cases step with
  | announce document =>
      have quiet : Keeps Console.notes ((announce document).perform tree (.answering findings format)) :=
        keeps_bind (announce_keeps unwritten_notes document) fun _ => keeps_pure _ _
      simpa [judged] using quiet console
  | complain message token line column =>
      have quiet : Keeps Console.notes
          ((complain message token line column).perform tree (.answering findings format)) :=
        keeps_bind (complain_keeps unwritten_notes message token line column) fun _ => keeps_pure _ _
      simpa [judged] using quiet console
  | approve =>
      have quiet : Keeps Console.notes (approve.perform tree (.answering findings format)) :=
        keeps_bind (approve_keeps unwritten_notes) fun _ => keeps_pure _ _
      simpa [judged] using quiet console
  | checkText sql =>
      rw [perform, run_map]
      exact checkText_notes _ sql console
  | check document =>
      rw [perform, run_map]
      exact announced_notes (checkText_notes _) document console
  | checkEach documents => exact absurd rfl (single documents)
  | formatText document sql finish =>
      rw [perform, run_map]
      exact formatText_notes _ document sql finish console
  | format document finish =>
      rw [perform, run_map]
      exact announced_notes (fun sql => formatText_notes _ document sql finish) document console

theorem checkEach_notes (documents : List Text) (console : Console Question) :
    (runOn (Document.checkEach tree (.answering findings format) documents) console).2.notes =
      console.notes ++ questions tree (Document.turns tree (.answering findings format) documents console) := by
  induction documents generalizing console with
  | nil => simp [Document.checkEach, inTurn, Document.turns]
  | cons document rest ih =>
      have first : (runOn (Document.check tree (.answering findings format) document) console).2.notes =
          console.notes ++ ((check document).asks tree console).toList := by
        rw [asks_toList]
        exact announced_notes (checkText_notes _) document console
      rw [Document.checkEach] at ih ⊢
      rw [Document.turns, questions_cons, ← List.append_assoc, ← first]
      cases begun : runOn (Document.check tree (.answering findings format) document) console with
      | mk result after =>
          cases result with
          | error failure => rw [run_inTurn_error begun, questions_nil, List.append_nil]
          | ok passed => rw [run_inTurn_ok begun, ih]

theorem perform_notes (step : Step) (console : Console Question) :
    (runOn (step.perform tree (.answering findings format)) console).2.notes =
      console.notes ++ questions tree (step.turns tree (.answering findings format) console) := by
  by_cases many : ∃ documents, step = .checkEach documents
  · obtain ⟨documents, rfl⟩ := many
    rw [perform, run_map]
    exact checkEach_notes documents console
  · have single : ∀ documents, step ≠ .checkEach documents := fun documents same => many ⟨documents, same⟩
    rw [single_notes single, turns_single single, questions_cons, questions_nil, List.append_nil]

end Step

namespace Session
open Job Document
variable {Note : Type} {tree : FileTree} {findings : Text → List Finding}
  {format : Text → Text → Finish → Except Failure Text}

/-- What a session is made of, with several documents taken apart. -/
def performed (tree : FileTree) (engine : Engine Note) (steps : List Step) (console : Console Note) :
    List (Step × Console Note) :=
  (visits tree engine steps console).flatMap fun visit => visit.1.turns tree engine visit.2

theorem performed_cons (engine : Engine Note) (step : Step) (rest : List Step) (console : Console Note) :
    performed tree engine (step :: rest) console =
      step.turns tree engine console ++
        performed tree engine rest (cleared (runOn (step.perform tree engine) console).2) := by
  rw [performed, visits, List.flatMap_cons]
  rfl

theorem play_notes (steps : List Step) (console : Console Question) (unasked : console.notes = []) :
    (play tree (.answering findings format) steps console).flatMap Answer.notes =
      Step.questions tree (performed tree (.answering findings format) steps console) := by
  induction steps generalizing console with
  | nil => rfl
  | cons step rest ih =>
      have first : (runOn (step.perform tree (.answering findings format)) console).2.notes =
          Step.questions tree (step.turns tree (.answering findings format) console) := by
        rw [step.perform_notes, unasked, List.nil_append]
      rw [play_cons, List.flatMap_cons, ih _ rfl, performed_cons, Step.questions_append]
      exact congrArg (· ++ _) first

section Keeps
variable {Seen : Type} {seen : Console Note → Seen} {engine : Engine Note} {steps : List Step} {console : Console Note}

theorem visits_keep (view : Untouched seen) (emptied : ∀ console, seen (cleared console) = seen console)
    {visit : Step × Console Note} (member : visit ∈ visits tree engine steps console) :
    seen visit.2 = seen console := by
  induction steps generalizing console with
  | nil => cases member
  | cons step rest ih =>
      rcases List.mem_cons.mp member with rfl | later
      · rfl
      · exact (ih later).trans ((emptied _).trans (Step.perform_keeps view step console))

theorem performed_keeps (view : Untouched seen) (emptied : ∀ console, seen (cleared console) = seen console)
    {turn : Step × Console Note} (member : turn ∈ performed tree engine steps console) :
    seen turn.2 = seen console := by
  obtain ⟨visit, visited, taken⟩ := List.mem_flatMap.mp member
  exact (Step.turns_keep view taken).trans (visits_keep view emptied visited)

end Keeps

/-- In a session on streams of any room the engine is asked what the checks and formats ask, in their order, and never
about a text of nothing but white space and null characters. Each of them asks once about the text that it comes to
judge; if that is blank, it fails, and all that it leaves is one report behind its banner. -/
theorem asked_once_unless_blank (tree : FileTree) (findings : Text → List Finding)
    (format : Text → Text → Finish → Except Failure Text) (steps : List Step) (reporter : Reporter)
    (reports output : Stream) (input : List UInt8) :
    let engine := Engine.answering findings format
    let console : Console Question := ⟨reporter, reports, output, input, []⟩
    let asked := (play tree engine steps console).flatMap Answer.notes
    (∀ question ∈ asked, ∃ c ∈ question.sql, Text.isWhiteSpace c = false ∧ c ≠ '\x00') ∧
    asked = Step.questions tree (performed tree engine steps console) ∧
    ∀ step found, (step, found) ∈ performed tree engine steps console →
      ∀ sql, step.judged tree found = some sql →
      (sql.isBlank = false → ∃ question, step.questionOn sql = some question ∧
        (runOn (step.perform tree engine) found).2.notes = found.notes ++ [question]) ∧
      (sql.isBlank = true → reports.room = none → runOn (step.perform tree engine) found =
        (.ok (some false), (step.ready found).report
          ((step.ready found).reporter.complaint "SQL file empty".toList [] 0 0))) := by
  intro engine console asked
  have listed : asked = Step.questions tree (performed tree engine steps console) := play_notes steps console rfl
  refine ⟨?_, listed, ?_⟩
  · intro question member
    rw [listed, Step.questions, List.mem_filterMap] at member
    obtain ⟨⟨step, found⟩, -, asking⟩ := member
    exact Text.exists_of_isBlank_eq_false (Step.question_of_asks asking).2
  · intro step found member sql judged
    constructor
    · intro spoken
      obtain ⟨question, put⟩ := Step.questionOn_of_judged judged
      refine ⟨question, put, ?_⟩
      rw [Step.single_notes (Step.single_of_judged judged), Step.asks, judged]
      simp [spoken, put]
    · intro blank room
      have limit := performed_keeps untouched_limit (fun _ => rfl) member
      exact Step.run_blank (by simpa [console, room] using limit) judged blank

def spacedFiles : FileTree := .folder
  [("blank.sql".toList, .file (Text.bytes "\x00\u2003\n".toList)), ("sql".toList, .file (Text.bytes "SELECT 1".toList))]

def sixTexts : List Step :=
  [.check "blank.sql".toList, .checkEach ["sql".toList, "gone".toList, "sql".toList],
    .formatText ['q'] "\n\x00 ".toList .plain, .formatText ['q'] "SELECT 2".toList .decorated]

theorem two_of_six_asked :
    let engine := Engine.answering (fun _ => []) fun _ sql _ => .ok sql
    let console : Console Question := ⟨.emacs [], {}, ⟨some 3, []⟩, [], []⟩
    let behind := cleared (runOn ((Step.check "blank.sql".toList).perform spacedFiles engine) console).2
    (play spacedFiles engine sixTexts console).flatMap Answer.notes =
      [.findings "SELECT 1".toList, .format ['q'] "SELECT 2".toList .decorated] ∧
    (runOn ((Step.check "blank.sql".toList).perform spacedFiles engine) console).2.reports.written =
      Text.bytes "blank.sql:0:0: error: SQL file empty\n".toList ∧
    ∃ question, (Step.check "sql".toList).questionOn "SELECT 1".toList = some question ∧
      (runOn ((Step.check "sql".toList).perform spacedFiles engine) behind).2.notes = [question] := by
  intro engine console behind
  obtain ⟨-, listed, turns⟩ :=
    asked_once_unless_blank spacedFiles (fun _ => []) (fun _ sql _ => .ok sql) sixTexts (.emacs []) {}
      ⟨some 3, []⟩ []
  have blank := (turns (.check "blank.sql".toList) console (List.mem_append_left _ (List.mem_singleton_self _))
    "\x00\u2003\n".toList (by decide +kernel)).2 (by decide) rfl
  have spoken := (turns (.check "sql".toList) behind
    (List.mem_append_right _ (List.mem_append_left _ (List.mem_cons_self ..))) "SELECT 1".toList (by decide +kernel)).1
      (by decide)
  refine ⟨listed.trans (by decide +kernel), ?_, spoken⟩
  rw [blank]
  decide +kernel

end Session
end SqlCheck
