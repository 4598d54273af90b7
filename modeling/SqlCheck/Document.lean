import SqlCheck.Inputs
import SqlCheck.Job
import SqlCheck.LineTable
import SqlCheck.Text.Blank

/-! Checking and formatting documents. A blank document is reported and fails without a question to the
engine. To check a document is to report its findings, to format one is to write it set out anew; that a
document has findings is a verdict for the former and a failure for the latter. Among several documents a
verdict does not keep the later ones from their turn, a failure does. -/
namespace SqlCheck.Document

variable {Note : Type}

def emptyMessage : Text := "SQL file empty".toList

def load (tree : FileTree) (document : Text) : Job Note Text := do
  if document = Inputs.standardInput then
    match Text.ofBytes? (← Job.readInput) with
    | some sql => return sql
    | none => throw (.unreadable document .notText)
  else
    match tree.readText document with
    | .ok sql => return sql
    | .error fault => throw (.unreadable document fault)

def complainAll (table : LineTable) : List Finding → Job Note Unit
  | [] => return ()
  | finding :: rest => do
      let place := table.position finding.offset
      Job.complain finding.message finding.token place.line place.column
      complainAll table rest

/-- Answers whether the text is free of syntax errors. -/
def checkText (engine : Engine Note) (sql : Text) : Job Note Bool := do
  if sql.isBlank then
    Job.complain emptyMessage [] 0 0
    return false
  let findings ← Job.ask (engine.findings sql)
  if findings = [] then
    Job.approve
    return true
  complainAll (.ofText sql) findings
  return false

def isLineEnd (c : Char) : Bool := c == '\n' || c == '\r'

/-- The text with exactly one line end behind it. -/
def closeLine (text : Text) : Text := (text.reverse.dropWhile isLineEnd).reverse ++ ['\n']

def formatText (engine : Engine Note) (document sql : Text) (finish : Finish) : Job Note Bool := do
  if sql.isBlank then
    Job.complain emptyMessage [] 0 0
    return false
  match ← Job.ask (engine.format document sql finish) with
  | .error failure => throw failure
  | .ok formatted =>
      Job.writeOutput (closeLine formatted)
      return true

def check (tree : FileTree) (engine : Engine Note) (document : Text) : Job Note Bool := do
  Job.announce document
  checkText engine (← load tree document)

def format (tree : FileTree) (engine : Engine Note) (finish : Finish) (document : Text) :
    Job Note Bool := do
  Job.announce document
  formatText engine document (← load tree document) finish

def inTurn (work : Text → Job Note Bool) : List Text → Job Note Bool
  | [] => return true
  | document :: rest => do
      let passed ← work document
      let others ← inTurn work rest
      return passed && others

def checkEach (tree : FileTree) (engine : Engine Note) : List Text → Job Note Bool :=
  inTurn (check tree engine)

def formatEach (tree : FileTree) (engine : Engine Note) (finish : Finish) : List Text → Job Note Bool :=
  inTurn (format tree engine finish)

end SqlCheck.Document
