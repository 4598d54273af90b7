import SqlCheck.Text

/-! Paths as they are written: pieces with a slash between each two of them. Two spellings can have the
same components, since doubled slashes and inner `.` pieces say nothing; paths are put in order by their
components and not by their spelling, so that a folder's contents stay together. -/
namespace SqlCheck.Path

def pieces : Text → List Text
  | [] => [[]]
  | c :: rest =>
      if c = '/' then [] :: pieces rest
      else match pieces rest with
        | [] => [[c]]
        | first :: others => (c :: first) :: others

def here : Text := ['.']

def up : Text := ['.', '.']

def isAbsolute (path : Text) : Bool := path.head? == some '/'

/-- The path of `piece` seen from `base`. An empty piece leaves a slash at the end. -/
def join (base piece : Text) : Text :=
  if base.getLast? = some '/' then base ++ piece else base ++ '/' :: piece

inductive Component where
  | root | here | up | name (name : Text)
  deriving Repr, DecidableEq

namespace Component

/-- The root comes first, then `.`, then `..`, then the names by their code points, which is also their
order by bytes. -/
def key : Component → List Nat
  | root => [0]
  | here => [1]
  | up => [2]
  | name text => 3 :: text.map Char.toNat

def ofPiece? (piece : Text) : Option Component :=
  if piece = [] ∨ piece = Path.here then none
  else if piece = Path.up then some up
  else some (name piece)

end Component

def components (path : Text) : List Component :=
  let inner := (pieces path).filterMap Component.ofPiece?
  if isAbsolute path then .root :: inner
  else if (pieces path).head? = some Path.here then .here :: inner
  else inner

/-- Is this a spelling of the working directory itself? -/
def isHere (path : Text) : Bool := components path == [.here]

def lexicographic : List Nat → List Nat → Bool
  | [], _ => true
  | _ :: _, [] => false
  | a :: as, b :: bs => if a = b then lexicographic as bs else decide (a < b)

def componentwise : List Component → List Component → Bool
  | [], _ => true
  | _ :: _, [] => false
  | a :: as, b :: bs =>
      if a = b then componentwise as bs else lexicographic a.key b.key

/-- The order in which the matches of a pattern are listed. Different spellings of the same components
are level with each other. -/
def ordered (first second : Text) : Bool := componentwise (components first) (components second)

def sort (paths : List Text) : List Text := paths.mergeSort ordered

end SqlCheck.Path
