import SqlCheck.FileTree
import SqlCheck.Pattern

/-! The paths of a file tree that a pattern stands for, in the order in which they are found. The walk
starts at the working directory, whose entries are written as bare names, or at the root. A name to be
taken as it is need only exist; a name to be looked for is compared with each entry of the folder, and
with `.` and `..` only if the pattern asks for the dot outright.

What an entry is can be seen in the list of its folder, so a folder that is found there counts as one even
where its own path is too long to be used. What it holds is then out of reach. -/
namespace SqlCheck.Pattern

structure Stop where
  path : Text
  isFolder : Bool
  deriving Repr, DecidableEq

def enter (path name : Text) : Text := if Path.isHere path then name else Path.join path name

/-- An entry as the list of its folder shows it. -/
def listed (path name : Text) (node : FileTree.Node) : Stop := ⟨enter path name, node.isBranch⟩

/-- The dot names that a piece stands for, parent first. -/
def dotNames (glyphs : List Glyph) : List Text :=
  if glyphs.head? = some (.char '.') then [Path.up, Path.here].filter (fits glyphs) else []

mutual

/-- Everything below a folder, each folder before what it holds, with the name of each. -/
def below (path : Text) : FileTree.Node → List (Stop × Text)
  | .file _ => []
  | .folder entries => if FileTree.tooLong path then [] else belowAll path entries

def belowAll (path : Text) : List (Text × FileTree.Node) → List (Stop × Text)
  | [] => []
  | (name, node) :: rest =>
      (listed path name node, name) :: below (enter path name) node ++ belowAll path rest

end

variable (tree : FileTree)

def asked (path : Text) : Stop := ⟨path, tree.isFolder path⟩

/-- Whether a name can be taken as it is. The dot names are there in every folder. -/
def takes (stop : Stop) (name : Text) : Bool :=
  if name = Path.here ∨ name = Path.up then stop.isFolder else tree.contains (enter stop.path name)

def reach : List Piece → Stop → List Stop
  | [], stop => [stop]
  | .literal name :: rest, stop =>
      if takes tree stop name then reach rest (asked tree (enter stop.path name)) else []
  | .wild glyphs :: rest, stop =>
      if tree.isFolder stop.path then
        (dotNames glyphs).flatMap (fun name => reach rest (asked tree (Path.join stop.path name)))
          ++ (tree.entriesAt stop.path).flatMap fun entry =>
              if fits glyphs entry.1 then reach rest (listed stop.path entry.1 entry.2) else []
      else []
  | .folders :: rest, stop =>
      let found := below stop.path (.folder (tree.entriesAt stop.path))
      match rest with
      | [] => (found.map Prod.fst).filter Stop.isFolder
      | next :: others =>
          found.flatMap fun entry => if next.fits entry.2 then reach others entry.1 else []

def walk (pattern : Pattern) : List Text :=
  let start := asked tree (if pattern.absolute then ['/'] else Path.here)
  ((reach tree pattern.pieces start).filter fun stop =>
    !pattern.foldersOnly || stop.isFolder).map Stop.path

end SqlCheck.Pattern
