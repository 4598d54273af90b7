import SqlCheck.Engine
import SqlCheck.Reporter
import SqlCheck.Stream

/-! What a run does to the world around it: it reports, it writes formatted SQL, it uses up standard input
and it asks the engine. Reports and SQL have a stream each. A job that fails leaves what it has done so
far in place; in particular a reporter that was turned to a document stays with it. -/
namespace SqlCheck

structure Console (Note : Type) where
  reporter : Reporter
  reports : Stream
  output : Stream
  /-- What standard input still holds. -/
  input : List UInt8
  notes : List Note

abbrev Job (Note : Type) := ExceptT Failure (StateM (Console Note))

namespace Job

variable {Note Value : Type}

def writeReport (text : Text) : Job Note Unit := do
  let console ← get
  let (reports, fitted) := console.reports.write text.bytes
  set { console with reports }
  if fitted then return () else throw .sinkFull

def writeOutput (text : Text) : Job Note Unit := do
  let console ← get
  let (output, fitted) := console.output.write text.bytes
  set { console with output }
  if fitted then return () else throw .sinkFull

def announce (document : Text) : Job Note Unit := do
  modify fun console => { console with reporter := console.reporter.turnTo document }
  writeReport ((← get).reporter.announcement document)

def complain (message token : Text) (line column : Nat) : Job Note Unit := do
  writeReport ((← get).reporter.complaint message token line column)

def approve : Job Note Unit := do
  writeReport (← get).reporter.approval

def ask (answer : Noted Note Value) : Job Note Value := do
  modify fun console => { console with notes := console.notes ++ answer.notes }
  return answer.value

/-- Standard input is read to its end, so it is empty for whoever reads it next. -/
def readInput : Job Note (List UInt8) := do
  let console ← get
  set { console with input := [] }
  return console.input

end Job
end SqlCheck
