import SqlCheck.Proofs.Shapes

/-! Sessions on streams that fill up. With room for fewer bytes than a session would write, a stream gets
exactly the first of them: each step behaves as it would have done until a write does not fit, and that write
ends the step. Nothing is lost in the middle and nothing is written behind a gap, although a step that was cut
short may leave the reporter turned to an earlier document than the free run does. Where reports are cut the
rest of the step is not done; where the output is cut there is no rest, because printing comes last. -/
namespace SqlCheck

theorem Text.bytes_ne_nil {text : Text} (spoken : text ≠ []) : text.bytes ≠ [] := by
  cases text with
  | nil => exact absurd rfl spoken
  | cons c rest => simp [Text.bytes, String.utf8EncodeChar_ne_nil]

theorem Stream.write_limited (room : Nat) (written bytes : List UInt8) :
    (⟨some room, written⟩ : Stream).write bytes =
      (⟨some (room - bytes.length), written ++ bytes.take room⟩, decide (bytes.length ≤ room)) := rfl

namespace Reporter

/-- Reporters that become the same once they are turned to a document: at most a name sets them apart. -/
def Alike (first second : Reporter) : Prop := ∀ document, first.turnTo document = second.turnTo document

theorem Alike.refl (reporter : Reporter) : reporter.Alike reporter := fun _ => rfl

theorem turnTo_alike (document : Text) (reporter : Reporter) : (reporter.turnTo document).Alike reporter := by
  intro other
  cases reporter <;> rfl

theorem Alike.trans {first second third : Reporter} (before : first.Alike second)
    (after : second.Alike third) : first.Alike third := fun document =>
  (before document).trans (after document)

theorem Alike.approval {first second : Reporter} (alike : first.Alike second) :
    first.approval = second.approval := by
  have turned : ∀ reporter : Reporter, reporter.approval = (reporter.turnTo []).approval := by
    intro reporter
    cases reporter <;> rfl
  rw [turned first, turned second, alike []]

theorem complaint_ne_nil (message token : Text) (line column : Nat) (reporter : Reporter) :
    reporter.complaint message token line column ≠ [] := by
  cases reporter with
  | text inColour enabled => exact List.append_ne_nil_of_right_ne_nil _ (List.cons_ne_nil _ _)
  | emacs document => exact List.append_ne_nil_of_right_ne_nil _ (List.cons_ne_nil _ _)

end Reporter

namespace Job
variable {Note Value Next : Type}

/-- What becomes of a console whose streams take everything: it is only added to. -/
structure Onward (before after : Console Note) : Prop where
  reporter : after.reporter.Alike before.reporter
  reports : before.reports.written <+: after.reports.written
  notes : before.notes <+: after.notes
  unlimited : after.Unlimited

/-- A console with room for so many more bytes of reports beside one with room for everything. The names that
the reporters remember can be different only where there is no room to write one. -/
structure Follows (room : Nat) (free tight : Console Note) : Prop where
  unlimited : free.Unlimited
  reports : tight.reports = ⟨some room, free.reports.written⟩
  output : tight.output = free.output
  notes : tight.notes = free.notes
  reporter : tight.reporter = free.reporter ∨ room = 0 ∧ tight.reporter.Alike free.reporter

/-- How a run on limited reports compares with the free run that began with the same bytes written: all that
was added fits and the runs are alike, or it does not and the limited run ended where it was full. -/
inductive Truncated (room : Nat) (before : List UInt8) (whole cut : Except Failure Value × Console Note) :
    Prop
  | fitted (added : List UInt8) (written : whole.2.reports.written = before ++ added)
      (fits : added.length ≤ room) (same : cut.1 = whole.1)
      (follows : Follows (room - added.length) whole.2 cut.2)
  | ended (added : List UInt8) (written : whole.2.reports.written = before ++ added)
      (excess : room < added.length) (refused : cut.1 = .error .sinkFull)
      (reports : cut.2.reports = ⟨some 0, before ++ added.take room⟩) (output : cut.2.output.room = none)
      (notes : cut.2.notes <+: whole.2.notes) (reporter : cut.2.reporter.Alike whole.2.reporter)

structure Truncates (job : Job Note Value) : Prop where
  onward : ∀ {console}, console.Unlimited → Onward console (runOn job console).2
  follows : ∀ {room free tight}, Follows room free tight →
    Truncated room free.reports.written (runOn job free) (runOn job tight)

section Consoles
variable {room : Nat} {free tight : Console Note}

theorem Onward.refl (unlimited : free.Unlimited) : Onward free free :=
  ⟨.refl _, List.prefix_rfl, List.prefix_rfl, unlimited⟩

theorem Onward.trans {first second third : Console Note} (before : Onward first second)
    (after : Onward second third) : Onward first third where
  reporter := after.reporter.trans before.reporter
  reports := before.reports.trans after.reports
  notes := before.notes.trans after.notes
  unlimited := after.unlimited

theorem Onward.report (unlimited : free.Unlimited) (text : Text) : Onward free (free.report text) :=
  ⟨.refl _, List.prefix_append .., List.prefix_rfl, unlimited.report text⟩

theorem Follows.alike (follows : Follows room free tight) : tight.reporter.Alike free.reporter := by
  rcases follows.reporter with same | ⟨-, alike⟩
  · rw [same]
    exact .refl _
  · exact alike

theorem Follows.output_room (follows : Follows room free tight) : tight.output.room = none := by
  rw [follows.output]
  exact follows.unlimited.output

theorem Truncated.silent {before : List UInt8} {whole cut : Except Failure Value × Console Note}
    (kept : whole.2.reports.written = before) (same : cut.1 = whole.1) (follows : Follows room whole.2 cut.2) :
    Truncated room before whole cut :=
  .fitted [] (by simp [kept]) (Nat.zero_le room) same (by simpa using follows)

theorem Truncated.after {before added : List UInt8} {middle : List UInt8}
    {whole cut : Except Failure Value × Console Note}
    (later : Truncated (room - added.length) middle whole cut) (began : middle = before ++ added)
    (fits : added.length ≤ room) : Truncated room before whole cut := by
  cases later with
  | fitted more written room_left same follows =>
      refine .fitted (added ++ more) ?_ ?_ same ?_
      · rw [written, began, List.append_assoc]
      · rw [List.length_append]
        omega
      · rw [List.length_append, ← Nat.sub_sub]
        exact follows
  | ended more written excess refused reports output notes reporter =>
      refine .ended (added ++ more) ?_ ?_ refused ?_ output notes reporter
      · rw [written, began, List.append_assoc]
      · rw [List.length_append]
        omega
      · rw [reports, began, List.take_append, List.take_of_length_le fits, List.append_assoc]

/-- The two runs may have different texts to report, where there is no room for either. -/
theorem truncated_report (follows : Follows room free tight) {whole cut : Text}
    (level : cut = whole ∨ room = 0 ∧ whole ≠ [] ∧ cut ≠ []) :
    Truncated room free.reports.written (runOn (writeReport whole) free) (runOn (writeReport cut) tight) := by
  rw [run_writeReport follows.unlimited.reports, run_writeReport_any, follows.reports, Stream.write_limited]
  have reporter : ∀ {left : Nat}, left ≤ room →
      tight.reporter = free.reporter ∨ left = 0 ∧ tight.reporter.Alike free.reporter := by
    intro left less
    rcases follows.reporter with same | ⟨full, alike⟩
    · exact Or.inl same
    · exact Or.inr ⟨by omega, alike⟩
  rcases level with rfl | ⟨rfl, spoken, also⟩
  · by_cases fits : cut.bytes.length ≤ room
    · refine .fitted cut.bytes rfl fits (by simp [fits]) ?_
      refine ⟨follows.unlimited.report _, ?_, follows.output, follows.notes, reporter (Nat.sub_le ..)⟩
      simp [Console.report, List.take_of_length_le fits]
    · have full : room - cut.bytes.length = 0 := by omega
      exact .ended cut.bytes rfl (Nat.lt_of_not_le fits) (by simp [fits]) (by simp [full]) follows.output_room
        (by simp [Console.report, follows.notes]) follows.alike
  · have refused : ¬cut.bytes.length ≤ 0 := by simpa using Text.bytes_ne_nil also
    have excess : 0 < whole.bytes.length := List.length_pos_iff.mpr (Text.bytes_ne_nil spoken)
    exact .ended whole.bytes rfl excess (by simp [refused]) (by simp) follows.output_room
      (by simp [Console.report, follows.notes]) follows.alike

end Consoles

theorem truncates_pure (value : Value) : Truncates (pure value : Job Note Value) where
  onward unlimited := .refl unlimited
  follows follows := .silent rfl rfl follows

theorem truncates_throw (failure : Failure) : Truncates (throw failure : Job Note Value) where
  onward unlimited := .refl unlimited
  follows follows := .silent rfl rfl follows

theorem truncates_ask (answer : Noted Note Value) : Truncates (ask answer) where
  onward unlimited := ⟨.refl _, List.prefix_rfl, List.prefix_append .., unlimited.note _⟩
  follows follows :=
    .silent rfl rfl ⟨follows.unlimited.note _, follows.reports, follows.output,
      congrArg (· ++ answer.notes) follows.notes, follows.reporter⟩

theorem truncates_print (text : Text) (value : Value) :
    Truncates (do writeOutput text; return value : Job Note Value) where
  onward unlimited := by
    rw [run_bind_ok (run_writeOutput unlimited.output text)]
    exact ⟨.refl _, List.prefix_rfl, List.prefix_rfl, unlimited.print text⟩
  follows follows := by
    rw [run_bind_ok (run_writeOutput follows.unlimited.output text),
      run_bind_ok (run_writeOutput follows.output_room text)]
    refine .silent rfl rfl ⟨follows.unlimited.print text, follows.reports, ?_, follows.notes, follows.reporter⟩
    exact congrArg (fun stream : Stream => { stream with written := stream.written ++ text.bytes })
      follows.output

theorem truncates_announce (document : Text) : Truncates (announce document : Job Note Unit) where
  onward {console} unlimited := by
    rw [run_announce unlimited.reports]
    exact ⟨Reporter.turnTo_alike document _, List.prefix_append .., List.prefix_rfl,
      (unlimited.turnTo document).report _⟩
  follows {room free tight} follows := by
    -- Turned to the same document the reporters are one, whatever set them apart.
    have turned : tight.reporter.turnTo document = free.reporter.turnTo document := follows.alike document
    have together : Follows room (free.turnTo document) (tight.turnTo document) :=
      ⟨follows.unlimited.turnTo document, follows.reports, follows.output, follows.notes, Or.inl turned⟩
    exact truncated_report together (Or.inl (congrArg (Reporter.announcement document) turned))

theorem truncates_complain (message token : Text) (line column : Nat) :
    Truncates (complain message token line column : Job Note Unit) where
  onward unlimited := by
    rw [run_complain unlimited.reports]
    exact .report unlimited _
  follows follows := by
    refine truncated_report follows ?_
    rcases follows.reporter with same | ⟨full, -⟩
    · exact Or.inl (by rw [same])
    · exact Or.inr ⟨full, Reporter.complaint_ne_nil _ _ _ _ _, Reporter.complaint_ne_nil _ _ _ _ _⟩

theorem truncates_approve : Truncates (approve : Job Note Unit) where
  onward unlimited := by
    rw [run_approve unlimited.reports]
    exact .report unlimited _
  follows follows := truncated_report follows (Or.inl follows.alike.approval)

theorem truncates_bind {job : Job Note Value} {next : Value → Job Note Next} (first : Truncates job)
    (second : ∀ value, Truncates (next value)) : Truncates (job >>= next) where
  onward {console} unlimited := by
    have began := first.onward unlimited
    cases ends : (runOn job console).1 with
    | error failure =>
        rw [run_bind_of_error ends]
        exact began
    | ok value =>
        rw [run_bind_of_ok ends]
        exact began.trans ((second value).onward began.unlimited)
  follows {room free tight} follows := by
    cases first.follows follows with
    | fitted added written fits same still =>
        cases ends : (runOn job free).1 with
        | error failure =>
            rw [run_bind_of_error ends, run_bind_of_error (same.trans ends)]
            exact .fitted added written fits rfl still
        | ok value =>
            rw [run_bind_of_ok ends, run_bind_of_ok (same.trans ends)]
            exact ((second value).follows still).after written fits
    | ended added written excess refused reports output notes reporter =>
        rw [run_bind_of_error refused]
        -- The free run goes on alone, and what it adds stands behind what was too much already.
        have onward : Onward (runOn job free).2 (runOn (job >>= next) free).2 := by
          have unlimited := (first.onward follows.unlimited).unlimited
          cases ends : (runOn job free).1 with
          | error failure =>
              rw [run_bind_of_error ends]
              exact .refl unlimited
          | ok value =>
              rw [run_bind_of_ok ends]
              exact (second value).onward unlimited
        obtain ⟨more, longer⟩ := onward.reports
        refine .ended (added ++ more) ?_ ?_ rfl ?_ output (notes.trans onward.notes) ?_
        · rw [← longer, written, List.append_assoc]
        · rw [List.length_append]
          omega
        · rw [reports, List.take_append_of_le_length (Nat.le_of_lt excess)]
        · intro document
          exact (reporter document).trans (onward.reporter document).symm

theorem OnlyReports.truncates {job : Job Note Value} (reports : OnlyReports job) : Truncates job := by
  induction reports with
  | pure value => exact truncates_pure value
  | throw failure => exact truncates_throw failure
  | bind _ _ first second => exact truncates_bind first second
  | announce document => exact truncates_announce document
  | complain message token line column => exact truncates_complain message token line column
  | approve => exact truncates_approve
  | ask answer => exact truncates_ask answer

theorem PrintsLast.truncates {job : Job Note Value} (prints : PrintsLast job) : Truncates job := by
  induction prints with
  | quiet reports => exact reports.truncates
  | print text value => exact truncates_print text value
  | after first _ second => exact truncates_bind first.truncates second

theorem writeReport_indifferent (text : Text) (console : Console Note) (output : Stream) :
    runOn (writeReport text) { console with output } =
      ((runOn (writeReport text) console).1, { (runOn (writeReport text) console).2 with output }) := by
  rw [run_writeReport_any, run_writeReport_any]

theorem OnlyReports.indifferent {job : Job Note Value} (reports : OnlyReports job) (console : Console Note)
    (output : Stream) :
    runOn job { console with output } =
      ((runOn job console).1, { (runOn job console).2 with output }) := by
  induction reports generalizing console with
  | pure value => rfl
  | throw failure => rfl
  | bind _ _ first second =>
      rw [run_bind, first console, run_bind]
      cases runOn _ console with
      | mk result after =>
          cases result with
          | ok value => exact second value after
          | error failure => rfl
  | announce document => exact writeReport_indifferent _ (console.turnTo document) output
  | complain message token line column => exact writeReport_indifferent _ console output
  | approve => exact writeReport_indifferent _ console output
  | ask answer => rfl

/-- What a run prints, said for outputs of any room at once: nothing, or one text behind all else. -/
inductive Printing (job : Job Note Value) (console : Console Note) : Prop
  | nothing (result : Except Failure Value) (after : Console Note)
      (runs : ∀ output, runOn job { console with output } = (result, { after with output }))
  | last (text : Text) (value : Value) (after : Console Note)
      (runs : ∀ output, runOn job { console with output } =
        (if (output.write text.bytes).2 then .ok value else .error .sinkFull,
          { after with output := (output.write text.bytes).1 }))

theorem PrintsLast.printing {job : Job Note Value} (prints : PrintsLast job) (console : Console Note) :
    Printing job console := by
  induction prints generalizing console with
  | quiet reports => exact .nothing _ _ (reports.indifferent console)
  | print text value =>
      refine .last text value console fun output => ?_
      rw [run_bind, run_writeOutput_any]
      cases (output.write text.bytes).2 <;> rfl
  | @after _ _ job next first _ second =>
      have began := first.indifferent console
      cases ends : runOn job console with
      | mk result between =>
          simp only [ends] at began
          cases result with
          | error failure =>
              refine .nothing (.error failure) between fun output => ?_
              rw [run_bind, began]
          | ok value =>
              cases second value between with
              | nothing result after runs =>
                  refine .nothing result after fun output => ?_
                  rw [run_bind_ok (began output), runs]
              | last text value after runs =>
                  refine .last text value after fun output => ?_
                  rw [run_bind_ok (began output), runs]

end Job
end SqlCheck
