import SqlCheck.Document

/-! A session is a list of steps around one console: single reports, texts and documents to check, texts
and documents to format. Each step is answered by its result and by what it added to the two streams and
to the notes. A step that fails does not end the session. -/
namespace SqlCheck

inductive Step where
  | announce (document : Text)
  | complain (message token : Text) (line column : Nat)
  | approve
  | checkText (sql : Text)
  | check (document : Text)
  | checkEach (documents : List Text)
  | formatText (document sql : Text) (finish : Finish)
  | format (document : Text) (finish : Finish)
  deriving Repr, DecidableEq

structure Answer (Note : Type) where
  /-- The verdict, where the step comes to one. -/
  result : Except Failure (Option Bool)
  reports : List UInt8
  output : List UInt8
  notes : List Note

namespace Step

variable {Note : Type}

def perform (tree : FileTree) (engine : Engine Note) : Step → Job Note (Option Bool)
  | announce document => do Job.announce document; return none
  | complain message token line column => do Job.complain message token line column; return none
  | approve => do Job.approve; return none
  | checkText sql => some <$> Document.checkText engine sql
  | check document => some <$> Document.check tree engine document
  | checkEach documents => some <$> Document.checkEach tree engine documents
  | formatText document sql finish => some <$> Document.formatText engine document sql finish
  | format document finish => some <$> Document.format tree engine finish document

end Step

namespace Session

variable {Note : Type}

def cleared (console : Console Note) : Console Note :=
  { console with reports := console.reports.emptied, output := console.output.emptied, notes := [] }

def play (tree : FileTree) (engine : Engine Note) : List Step → Console Note → List (Answer Note)
  | [], _ => []
  | step :: rest, console =>
      let (result, after) := ((step.perform tree engine).run).run console
      ⟨result, after.reports.written, after.output.written, after.notes⟩
        :: play tree engine rest (cleared after)

end Session
end SqlCheck
