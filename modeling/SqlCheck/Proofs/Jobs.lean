import SqlCheck.Document

/-! What a job does to the console it is run on. Reports and output with room for everything are extended by
exactly what was written, so each operation has an equation for its whole effect there. A part of the
console that no operation of a job touches is kept by the job, on streams of any room. What a stream was given
as text can be read back from its bytes as that text. -/
namespace SqlCheck

namespace Text

theorem ofBytes_bytes (text : Text) : ofBytes? text.bytes = some text := by
  have encoded : (⟨text.bytes.toArray⟩ : ByteArray) = (String.ofList text).toByteArray := by
    rw [String.toByteArray_ofList]
    exact ByteArray.ext List.data_toByteArray.symm
  have valid : (⟨text.bytes.toArray⟩ : ByteArray).IsValidUTF8 := encoded ▸ (String.ofList text).isValidUTF8
  have decoded : String.fromUTF8 ⟨text.bytes.toArray⟩ valid = String.ofList text := by
    rw [← String.toByteArray_inj]
    exact encoded
  rw [ofBytes?, String.fromUTF8?, dif_pos valid, decoded, Option.map_some, String.toList_ofList]

end Text

namespace Console
variable {Note : Type}

def report (text : Text) (console : Console Note) : Console Note :=
  { console with reports := { console.reports with written := console.reports.written ++ text.bytes } }

def print (text : Text) (console : Console Note) : Console Note :=
  { console with output := { console.output with written := console.output.written ++ text.bytes } }

def note (notes : List Note) (console : Console Note) : Console Note :=
  { console with notes := console.notes ++ notes }

def turnTo (document : Text) (console : Console Note) : Console Note :=
  { console with reporter := console.reporter.turnTo document }

structure Unlimited (console : Console Note) : Prop where
  reports : console.reports.room = none
  output : console.output.room = none

@[simp] theorem report_nil (console : Console Note) : console.report [] = console := by
  simp [report, Text.bytes]

@[simp] theorem print_nil (console : Console Note) : console.print [] = console := by
  simp [print, Text.bytes]

@[simp] theorem note_nil (console : Console Note) : console.note [] = console := by
  simp [note]

@[simp] theorem report_report (first second : Text) (console : Console Note) :
    (console.report first).report second = console.report (first ++ second) := by
  simp [report]

@[simp] theorem report_reporter (text : Text) (console : Console Note) :
    (console.report text).reporter = console.reporter := rfl

@[simp] theorem note_room (notes : List Note) (console : Console Note) :
    (console.note notes).reports.room = console.reports.room := rfl

@[simp] theorem note_output (notes : List Note) (console : Console Note) :
    (console.note notes).output = console.output := rfl

namespace Unlimited
variable {console : Console Note}

theorem report (free : console.Unlimited) (text : Text) : (console.report text).Unlimited :=
  ⟨free.reports, free.output⟩

theorem print (free : console.Unlimited) (text : Text) : (console.print text).Unlimited :=
  ⟨free.reports, free.output⟩

theorem note (free : console.Unlimited) (notes : List Note) : (console.note notes).Unlimited :=
  ⟨free.reports, free.output⟩

theorem turnTo (free : console.Unlimited) (document : Text) : (console.turnTo document).Unlimited :=
  ⟨free.reports, free.output⟩

end Unlimited
end Console

namespace Job
variable {Note Value Next Seen : Type}

/-- How a job ends on a console, and the console that it leaves. -/
def runOn (job : Job Note Value) (console : Console Note) : Except Failure Value × Console Note :=
  job.run.run console

def printout (job : Job Note Value) (console : Console Note) : List UInt8 :=
  (runOn job { console with output := {} }).2.output.written

@[simp] theorem run_pure (value : Value) (console : Console Note) :
    runOn (pure value : Job Note Value) console = (.ok value, console) := rfl

@[simp] theorem run_throw (failure : Failure) (console : Console Note) :
    runOn (throw failure : Job Note Value) console = (.error failure, console) := rfl

theorem run_bind (job : Job Note Value) (next : Value → Job Note Next) (console : Console Note) :
    runOn (job >>= next) console =
      match runOn job console with
      | (.ok value, after) => runOn (next value) after
      | (.error failure, after) => (.error failure, after) := by
  have unfolded : runOn (job >>= next) console =
      ExceptT.bindCont next (job console).1 (job console).2 := rfl
  -- What comes next is decided by how the first job ended, so that is all to look at.
  rw [unfolded, runOn, ExceptT.run, StateT.run]
  cases ends : job console with
  | mk result after =>
      cases result with
      | ok value => rfl
      | error failure => rfl

theorem run_bind_ok {job : Job Note Value} {console after : Console Note} {value : Value}
    (ends : runOn job console = (.ok value, after)) (next : Value → Job Note Next) :
    runOn (job >>= next) console = runOn (next value) after := by
  rw [run_bind, ends]

theorem run_map (form : Value → Next) (job : Job Note Value) (console : Console Note) :
    runOn (form <$> job) console = ((runOn job console).1.map form, (runOn job console).2) := by
  rw [map_eq_pure_bind, run_bind]
  cases runOn job console with
  | mk result after => cases result <;> rfl

theorem run_bind_of_ok {job : Job Note Value} {console : Console Note} {value : Value}
    (ends : (runOn job console).1 = .ok value) (next : Value → Job Note Next) :
    runOn (job >>= next) console = runOn (next value) (runOn job console).2 :=
  run_bind_ok (Prod.ext ends rfl) next

theorem run_bind_of_error {job : Job Note Value} {console : Console Note} {failure : Failure}
    (ends : (runOn job console).1 = .error failure) (next : Value → Job Note Next) :
    runOn (job >>= next) console = (.error failure, (runOn job console).2) := by
  rw [run_bind, show runOn job console = (.error failure, (runOn job console).2) from Prod.ext ends rfl]

theorem run_bind_eq_ok {job : Job Note Value} {next : Value → Job Note Next} {console after : Console Note}
    {result : Next} (ends : runOn (job >>= next) console = (.ok result, after)) :
    ∃ value between, runOn job console = (.ok value, between) ∧
      runOn (next value) between = (.ok result, after) := by
  rw [run_bind] at ends
  cases first : runOn job console with
  | mk answer between =>
      rw [first] at ends
      cases answer with
      | ok value => exact ⟨value, between, rfl, ends⟩
      | error failure => cases ends

/-- On streams of any room a report is written as far as it fits, and the job ends there if not all of it did. -/
theorem run_writeReport_any (text : Text) (console : Console Note) :
    runOn (writeReport text) console =
      (if (console.reports.write text.bytes).2 then .ok () else .error .sinkFull,
        { console with reports := (console.reports.write text.bytes).1 }) := by
  simp only [writeReport, run_bind]
  change runOn (if (console.reports.write text.bytes).2 then pure () else throw .sinkFull)
    { console with reports := (console.reports.write text.bytes).1 } = _
  split <;> rfl

theorem run_writeOutput_any (text : Text) (console : Console Note) :
    runOn (writeOutput text) console =
      (if (console.output.write text.bytes).2 then .ok () else .error .sinkFull,
        { console with output := (console.output.write text.bytes).1 }) := by
  simp only [writeOutput, run_bind]
  change runOn (if (console.output.write text.bytes).2 then pure () else throw .sinkFull)
    { console with output := (console.output.write text.bytes).1 } = _
  split <;> rfl

section Unlimited
variable {console : Console Note}

-- A write that is sure to fit leaves a choice on a closed condition, which computes.
theorem run_writeReport (room : console.reports.room = none) (text : Text) :
    runOn (writeReport text) console = (.ok (), console.report text) := by
  have written : console.reports.write text.bytes =
      ({ console.reports with written := console.reports.written ++ text.bytes }, true) := by
    simp [Stream.write, room]
  rw [run_writeReport_any, written]
  rfl

theorem run_writeOutput (room : console.output.room = none) (text : Text) :
    runOn (writeOutput text) console = (.ok (), console.print text) := by
  have written : console.output.write text.bytes =
      ({ console.output with written := console.output.written ++ text.bytes }, true) := by
    simp [Stream.write, room]
  rw [run_writeOutput_any, written]
  rfl

theorem run_announce (room : console.reports.room = none) (document : Text) :
    runOn (announce document) console =
      (.ok (), (console.turnTo document).report ((console.reporter.turnTo document).announcement document)) :=
  run_writeReport (show (console.turnTo document).reports.room = none from room) _

theorem run_complain (room : console.reports.room = none) (message token : Text) (line column : Nat) :
    runOn (complain message token line column) console =
      (.ok (), console.report (console.reporter.complaint message token line column)) :=
  run_writeReport room _

theorem run_approve (room : console.reports.room = none) :
    runOn approve console = (.ok (), console.report console.reporter.approval) :=
  run_writeReport room _

end Unlimited

theorem run_ask (answer : Noted Note Value) (console : Console Note) :
    runOn (ask answer) console = (.ok answer.value, console.note answer.notes) := rfl

theorem run_readInput (console : Console Note) :
    runOn readInput console = (.ok console.input, { console with input := [] }) := rfl

/-- A job that may fail and may write, but leaves what is seen of the console as it was. -/
def Keeps (seen : Console Note → Seen) (job : Job Note Value) : Prop :=
  ∀ console, seen (runOn job console).2 = seen console

theorem keeps_pure (seen : Console Note → Seen) (value : Value) :
    Keeps seen (pure value : Job Note Value) := fun _ => rfl

theorem keeps_throw (seen : Console Note → Seen) (failure : Failure) :
    Keeps seen (throw failure : Job Note Value) := fun _ => rfl

theorem keeps_bind {seen : Console Note → Seen} {job : Job Note Value} {next : Value → Job Note Next}
    (first : Keeps seen job) (second : ∀ value, Keeps seen (next value)) : Keeps seen (job >>= next) := by
  intro console
  have kept := first console
  rw [run_bind]
  cases ends : runOn job console with
  | mk result after =>
      rw [ends] at kept
      cases result with
      | ok value => exact (second value after).trans kept
      | error failure => exact kept

theorem keeps_map {seen : Console Note → Seen} {job : Job Note Value} (kept : Keeps seen job) (form : Value → Next) :
    Keeps seen (form <$> job) := by
  intro console
  rw [run_map]
  exact kept console

/-- A view that no write changes, nor does who reports. -/
structure Unwritten (seen : Console Note → Seen) : Prop where
  reports : ∀ console bytes, seen { console with reports := (console.reports.write bytes).1 } = seen console
  output : ∀ console bytes, seen { console with output := (console.output.write bytes).1 } = seen console
  reporter : ∀ console reporter, seen { console with reporter } = seen console

/-- A view that no operation changes. -/
structure Untouched (seen : Console Note → Seen) : Prop extends Unwritten seen where
  input : ∀ console input, seen { console with input } = seen console
  notes : ∀ console notes, seen { console with notes } = seen console

theorem unwritten_input : Unwritten (Console.input : Console Note → List UInt8) :=
  ⟨fun _ _ => rfl, fun _ _ => rfl, fun _ _ => rfl⟩

theorem unwritten_notes : Unwritten (Console.notes : Console Note → List Note) :=
  ⟨fun _ _ => rfl, fun _ _ => rfl, fun _ _ => rfl⟩

theorem untouched_limit : Untouched fun console : Console Note => console.reports.room.isNone where
  reports console bytes := by cases room : console.reports.room <;> simp [Stream.write, room]
  output _ _ := rfl
  reporter _ _ := rfl
  input _ _ := rfl
  notes _ _ := rfl

section Unwritten
variable {seen : Console Note → Seen} (view : Unwritten seen)
include view

theorem writeReport_keeps (text : Text) : Keeps seen (writeReport text : Job Note Unit) := by
  intro console
  rw [run_writeReport_any]
  exact view.reports console _

theorem writeOutput_keeps (text : Text) : Keeps seen (writeOutput text : Job Note Unit) := by
  intro console
  rw [run_writeOutput_any]
  exact view.output console _

theorem announce_keeps (document : Text) : Keeps seen (announce document : Job Note Unit) := fun console =>
  (writeReport_keeps view _ (console.turnTo document)).trans (view.reporter console _)

theorem complain_keeps (message token : Text) (line column : Nat) :
    Keeps seen (complain message token line column : Job Note Unit) := fun console =>
  writeReport_keeps view _ console

theorem approve_keeps : Keeps seen (approve : Job Note Unit) := fun console => writeReport_keeps view _ console

end Unwritten

theorem ask_keeps_input (answer : Noted Note Value) : Keeps Console.input (ask answer) := fun _ => rfl

theorem ask_keeps {seen : Console Note → Seen} (view : Untouched seen) (answer : Noted Note Value) :
    Keeps seen (ask answer) := fun console => view.notes console _

end Job
end SqlCheck
