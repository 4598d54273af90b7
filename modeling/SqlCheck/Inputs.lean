import SqlCheck.Failure
import SqlCheck.Pattern.Walk

/-! From the arguments of a command line to the documents of a run. An argument that names something that
exists is taken as it is even where it could be read as a pattern; a pattern stands for all its matches in
order and must have one. The name `-` is standard input wherever it comes from. Names are text to begin with, so a
match is passed on as it is written. -/
namespace SqlCheck.Inputs

def standardInput : Text := ['-']

def looksLikePattern (argument : Text) : Bool :=
  argument.any fun c => c == '*' || c == '?' || c == '['

def expandOne (tree : FileTree) (argument : Text) : Except Failure (List Text) :=
  if argument = standardInput ∨ looksLikePattern argument = false ∨ tree.contains argument = true then
    .ok [argument]
  else
    match Pattern.ofText? argument with
    | .error (place, fault) => .error (.badPattern argument place fault)
    | .ok pattern =>
        match Pattern.walk tree pattern with
        | [] => .error (.noMatch argument)
        | found => .ok (Path.sort found)

def expand (tree : FileTree) : List Text → Except Failure (List Text)
  | [] => .ok []
  | argument :: rest => do
      let first ← expandOne tree argument
      return first ++ (← expand tree rest)

def validateOne (tree : FileTree) (name : Text) : Except Failure Unit :=
  if name = standardInput then .ok ()
  else if tree.contains name = false then .error (.noSuchFile name)
  else if tree.isFile name = false then .error (.notAFile name)
  else .ok ()

/-- Every document but standard input has to be a file; the first that is not one is reported. -/
def validate (tree : FileTree) : List Text → Except Failure Unit
  | [] => .ok ()
  | name :: rest => do
      validateOne tree name
      validate tree rest

end SqlCheck.Inputs
