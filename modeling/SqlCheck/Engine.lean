import SqlCheck.Failure

/-! What a run asks of the program that knows SQL: the syntax errors of a document, and a document set out
anew. An answer comes with notes of what was done to obtain it, in order, so that a run can show which
questions it asked; the kind of note is the engine's own affair. -/
namespace SqlCheck

/-- A value and the notes made on the way to it. -/
structure Noted (Note Value : Type) where
  value : Value
  notes : List Note

namespace Noted

variable {Note Value Other : Type}

def andThen (first : Noted Note Value) (next : Value → Noted Note Other) : Noted Note Other :=
  let second := next first.value
  ⟨second.value, first.notes ++ second.notes⟩

instance : Monad (Noted Note) where
  pure value := ⟨value, []⟩
  bind := andThen

end Noted

/-- A syntax error: where it is, and the token that stands there. -/
structure Finding where
  message : Text
  offset : Nat
  token : Text
  deriving Repr, DecidableEq

inductive Finish where
  | plain | decorated
  deriving Repr, DecidableEq

structure Engine (Note : Type) where
  findings : Text → Noted Note (List Finding)
  format : (document sql : Text) → Finish → Noted Note (Except Failure Text)

inductive Question where
  | findings (sql : Text)
  | format (document sql : Text) (finish : Finish)
  deriving Repr, DecidableEq

namespace Engine

def answering (findings : Text → List Finding)
    (format : Text → Text → Finish → Except Failure Text) : Engine Question where
  findings sql := ⟨findings sql, [.findings sql]⟩
  format document sql finish := ⟨format document sql finish, [.format document sql finish]⟩

end Engine
end SqlCheck
