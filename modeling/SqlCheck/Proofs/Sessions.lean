import SqlCheck.Proofs.Truncation

/-! Sessions on streams that fill up, beside the same sessions with room for everything. One step at a time
the two consoles stay comparable, so the whole of what a limited stream got is the first part of what the free
one did, and the steps whose results differ are those that added something which no longer fitted. -/
namespace SqlCheck.Session
open Job
variable {Note : Type}

/-- A step of a free session adds something to a stream and leaves more there than the limit. -/
def Overruns (part : Answer Note → List UInt8) (limit : Nat) (whole : List (Answer Note)) (index : Nat) : Prop :=
  ∃ answer, whole[index]? = some answer ∧ part answer ≠ [] ∧
    limit < ((whole.take (index + 1)).flatMap part).length

/-- A free session and the same session with room for so many bytes of reports. -/
structure ReportsCut (limit : Nat) (whole cut : List (Answer Note)) : Prop where
  total : cut.flatMap Answer.reports = (whole.flatMap Answer.reports).take limit
  length : cut.length = whole.length
  refused : ∀ {index : Nat} {free tight : Answer Note}, whole[index]? = some free → cut[index]? = some tight →
    Overruns Answer.reports limit whole index →
      tight.result = .error .sinkFull ∧ tight.notes <+: free.notes
  alike : ∀ {index : Nat} {free tight : Answer Note}, whole[index]? = some free → cut[index]? = some tight →
    ¬Overruns Answer.reports limit whole index → tight.result = free.result ∧
      tight.reports = free.reports ∧ tight.output = free.output ∧ tight.notes = free.notes

/-- A free session and the same session with room for so many bytes of output. -/
structure OutputCut (limit : Nat) (whole cut : List (Answer Note)) : Prop where
  total : cut.flatMap Answer.output = (whole.flatMap Answer.output).take limit
  length : cut.length = whole.length
  alike : ∀ {index : Nat} {free tight : Answer Note}, whole[index]? = some free → cut[index]? = some tight →
    tight.reports = free.reports ∧ tight.notes = free.notes
  refused : ∀ {index : Nat} {free tight : Answer Note}, whole[index]? = some free → cut[index]? = some tight →
    (tight.result ≠ free.result ↔ Overruns Answer.output limit whole index) ∧
      (tight.result ≠ free.result → tight.result = .error .sinkFull)

section Overruns
variable {part : Answer Note → List UInt8} {limit : Nat} {first : Answer Note} {rest : List (Answer Note)}

theorem overruns_zero_iff : Overruns part limit (first :: rest) 0 ↔ limit < (part first).length := by
  constructor
  · rintro ⟨answer, -, -, excess⟩
    simpa using excess
  · intro excess
    refine ⟨first, rfl, List.ne_nil_of_length_pos (by omega), ?_⟩
    simpa using excess

theorem overruns_succ_iff (index : Nat) :
    Overruns part limit (first :: rest) (index + 1) ↔ Overruns part (limit - (part first).length) rest index := by
  have whole : ((first :: rest).take (index + 1 + 1)).flatMap part =
      part first ++ (rest.take (index + 1)).flatMap part := by simp
  simp only [Overruns, List.getElem?_cons_succ, whole, List.length_append]
  refine exists_congr fun answer => and_congr_right fun listed => and_congr_right fun added => ?_
  -- The step itself added something, so the rest is not empty where the limit was passed before.
  have member : answer ∈ rest.take (index + 1) :=
    List.mem_of_getElem? (by rw [List.getElem?_take_of_lt (Nat.lt_succ_self index)]; exact listed)
  have some_bytes : 0 < ((rest.take (index + 1)).flatMap part).length := by
    obtain ⟨byte, present⟩ := List.exists_mem_of_ne_nil _ added
    exact List.length_pos_of_mem (List.mem_flatMap.mpr ⟨answer, member, present⟩)
  omega

end Overruns

section Cons
variable {limit : Nat} {free tight : Answer Note} {whole cut : List (Answer Note)}

theorem ReportsCut.nil (limit : Nat) : ReportsCut limit ([] : List (Answer Note)) [] :=
  ⟨by simp, rfl, by simp, by simp⟩

theorem OutputCut.nil (limit : Nat) : OutputCut limit ([] : List (Answer Note)) [] :=
  ⟨by simp, rfl, by simp, by simp⟩

theorem ReportsCut.cons (later : ReportsCut (limit - free.reports.length) whole cut)
    (reports : tight.reports = free.reports.take limit)
    (excess : limit < free.reports.length → tight.result = .error .sinkFull ∧ tight.notes <+: free.notes)
    (within : free.reports.length ≤ limit →
      tight.result = free.result ∧ tight.output = free.output ∧ tight.notes = free.notes) :
    ReportsCut limit (free :: whole) (tight :: cut) where
  total := by
    rw [List.flatMap_cons, List.flatMap_cons, List.take_append, reports, later.total]
  length := by simp [later.length]
  refused {index first second} listed cutListed overruns := by
    cases index with
    | zero =>
        cases listed
        cases cutListed
        exact excess (overruns_zero_iff.mp overruns)
    | succ index => exact later.refused listed cutListed ((overruns_succ_iff index).mp overruns)
  alike {index first second} listed cutListed room := by
    cases index with
    | zero =>
        cases listed
        cases cutListed
        have fits : free.reports.length ≤ limit :=
          Nat.le_of_not_lt fun excess => room (overruns_zero_iff.mpr excess)
        obtain ⟨result, output, notes⟩ := within fits
        exact ⟨result, reports.trans (List.take_of_length_le fits), output, notes⟩
    | succ index =>
        exact later.alike listed cutListed fun overruns => room ((overruns_succ_iff index).mpr overruns)

theorem OutputCut.cons (later : OutputCut (limit - free.output.length) whole cut)
    (output : tight.output = free.output.take limit) (reports : tight.reports = free.reports)
    (notes : tight.notes = free.notes) (differs : tight.result ≠ free.result ↔ limit < free.output.length)
    (full : tight.result ≠ free.result → tight.result = .error .sinkFull) :
    OutputCut limit (free :: whole) (tight :: cut) where
  total := by
    rw [List.flatMap_cons, List.flatMap_cons, List.take_append, output, later.total]
  length := by simp [later.length]
  alike {index first second} listed cutListed := by
    cases index with
    | zero =>
        cases listed
        cases cutListed
        exact ⟨reports, notes⟩
    | succ index => exact later.alike listed cutListed
  refused {index first second} listed cutListed := by
    cases index with
    | zero =>
        cases listed
        cases cutListed
        rw [overruns_zero_iff]
        exact ⟨differs, full⟩
    | succ index =>
        rw [overruns_succ_iff]
        exact later.refused listed cutListed

end Cons

variable {tree : FileTree} {engine : Engine Note}

theorem play_cons (step : Step) (rest : List Step) (console : Console Note) :
    play tree engine (step :: rest) console =
      let ends := runOn (step.perform tree engine) console
      ⟨ends.1, ends.2.reports.written, ends.2.output.written, ends.2.notes⟩
        :: play tree engine rest (cleared ends.2) := rfl

def visits (tree : FileTree) (engine : Engine Note) : List Step → Console Note → List (Step × Console Note)
  | [], _ => []
  | step :: rest, console =>
      (step, console) :: visits tree engine rest (cleared (runOn (step.perform tree engine) console).2)

theorem cleared_follows {room : Nat} {free tight : Console Note} (follows : Follows room free tight) :
    Follows room (cleared free) (cleared tight) where
  unlimited := ⟨follows.unlimited.reports, follows.unlimited.output⟩
  reports := by simp [cleared, Stream.emptied, follows.reports]
  output := congrArg Stream.emptied follows.output
  notes := rfl
  reporter := follows.reporter

/-- A console whose reports are full follows a free one whatever both have written. -/
theorem cleared_follows_full {free tight : Console Note} (unlimited : free.Unlimited)
    (reports : tight.reports.room = some 0) (output : tight.output.room = none)
    (reporter : tight.reporter.Alike free.reporter) : Follows 0 (cleared free) (cleared tight) where
  unlimited := ⟨unlimited.reports, unlimited.output⟩
  reports := by simp [cleared, Stream.emptied, reports]
  output := by simp [cleared, Stream.emptied, output, unlimited.output]
  notes := rfl
  reporter := Or.inr ⟨rfl, reporter⟩

theorem play_reportsCut {steps : List Step} (unasked : ∀ step ∈ steps, Inputs.standardInput ∉ step.loads)
    {room : Nat} {free tight : Console Note} (follows : Follows room free tight)
    (fresh : free.reports.written = []) :
    ReportsCut room (play tree engine steps free) (play tree engine steps tight) := by
  induction steps generalizing room free tight with
  | nil => exact .nil room
  | cons step rest ih =>
      have truncates := (step.perform_printsLast tree engine (unasked step (by simp))).truncates
      have others : ∀ step ∈ rest, Inputs.standardInput ∉ step.loads :=
        fun other member => unasked other (by simp [member])
      rw [play_cons, play_cons]
      cases truncates.follows follows with
      | fitted added written fits same still =>
          rw [fresh, List.nil_append] at written
          refine .cons ?_ ?_ ?_ ?_
          · rw [written]
            exact ih others (cleared_follows still) rfl
          · simp [still.reports, written, List.take_of_length_le fits]
          · simp only [written]
            omega
          · intro _
            exact ⟨same, by rw [still.output], still.notes⟩
      | ended added written excess refused reports output notes reporter =>
          rw [fresh, List.nil_append] at written reports
          have unlimited := (truncates.onward follows.unlimited).unlimited
          refine .cons ?_ ?_ ?_ ?_
          · simp only [written, Nat.sub_eq_zero_of_le (Nat.le_of_lt excess)]
            exact ih others (cleared_follows_full unlimited (by rw [reports]) output reporter) rfl
          · simp [reports, written]
          · intro _
            exact ⟨refused, notes⟩
          · simp only [written]
            omega

theorem play_outputCut {steps : List Step} (unasked : ∀ step ∈ steps, Inputs.standardInput ∉ step.loads)
    (room : Nat) (console : Console Note) :
    OutputCut room (play tree engine steps { console with output := ⟨none, []⟩ })
      (play tree engine steps { console with output := ⟨some room, []⟩ }) := by
  induction steps generalizing room console with
  | nil => exact .nil room
  | cons step rest ih =>
      have printing := (step.perform_printsLast tree engine (unasked step (by simp))).printing console
      have others : ∀ step ∈ rest, Inputs.standardInput ∉ step.loads :=
        fun other member => unasked other (by simp [member])
      rw [play_cons, play_cons]
      cases printing with
      | nothing result after runs =>
          rw [runs, runs]
          exact .cons (ih others room (cleared after)) (by simp) rfl rfl (by simp) (by simp)
      | last text value after runs =>
          rw [runs, runs]
          refine .cons (ih others _ (cleared after)) rfl rfl rfl ?_ ?_
          · by_cases fits : text.bytes.length ≤ room
            · simp [Stream.write, fits]
            · simp [Stream.write, fits, Nat.lt_of_not_le fits]
          · by_cases fits : text.bytes.length ≤ room <;> simp [Stream.write, fits]

/-- A session on limited reports writes the first bytes of what the free session reports. A step that would
add to them and pass the limit ends there, after some of its questions; every other step is as it was. On a
limited output the steps that would pass the limit with their print fail, and nothing else is different. -/
theorem limited_session_cut (tree : FileTree) (engine : Engine Note) {steps : List Step}
    (unasked : ∀ step ∈ steps, Inputs.standardInput ∉ step.loads) (reporter : Reporter) (input : List UInt8)
    (notes : List Note) (limit : Nat) :
    let session (reports output : Option Nat) :=
      play tree engine steps ⟨reporter, ⟨reports, []⟩, ⟨output, []⟩, input, notes⟩
    ReportsCut limit (session none none) (session (some limit) none) ∧
      OutputCut limit (session none none) (session none (some limit)) := by
  intro session
  constructor
  · exact play_reportsCut unasked ⟨⟨rfl, rfl⟩, rfl, rfl, rfl, Or.inl rfl⟩ rfl
  · exact play_outputCut unasked limit ⟨reporter, ⟨none, []⟩, ⟨none, []⟩, input, notes⟩

def fourSteps : List Step :=
  [.announce ['q'], .checkText "SELECT".toList, .formatText ['q'] "SELECT 1".toList .plain,
    .formatText ['q'] "SELECT 2".toList .plain]

def fourAnswers (reports output : Option Nat) : List (Answer Question) :=
  play (.folder []) (.answering (fun _ => [⟨"no".toList, 0, "SELECT".toList⟩]) (fun _ sql _ => .ok sql)) fourSteps
    ⟨.text false false, ⟨reports, []⟩, ⟨output, []⟩, [], []⟩

/-- With room for thirty bytes the banner fits and the finding does not; of the output the first text and two
bytes of the second fit into eleven. -/
theorem four_steps_cut :
    (∀ step ∈ fourSteps, Inputs.standardInput ∉ step.loads) ∧
      ReportsCut 30 (fourAnswers none none) (fourAnswers (some 30) none) ∧
      OutputCut 11 (fourAnswers none none) (fourAnswers none (some 11)) ∧
      (fourAnswers (some 30) none).map (fun answer => answer.result.toOption) =
        [some none, none, some (some true), some (some true)] ∧
      (fourAnswers (some 30) none).flatMap Answer.reports = Text.bytes "Checking SQL syntax of q\n Line".toList ∧
      (fourAnswers none (some 11)).map (fun answer => answer.result.toOption) =
        [some none, some (some false), some (some true), none] ∧
      (fourAnswers none (some 11)).flatMap Answer.output = Text.bytes "SELECT 1\nSE".toList := by
  have unasked : ∀ step ∈ fourSteps, Inputs.standardInput ∉ step.loads := by decide
  refine ⟨unasked, ?_, ?_, by decide +kernel, by decide +kernel, by decide +kernel, by decide +kernel⟩
  · exact (limited_session_cut _ _ unasked _ _ _ 30).1
  · exact (limited_session_cut _ _ unasked _ _ _ 11).2

end SqlCheck.Session
