import SqlCheck.Path

/-! The file system as it stands for the length of a run: a root with all that is below it, and the way from there
down to the working directory. A path leads from place to place, piece by piece, from the root or from the working
directory; `.` and the empty piece stay at a place but need a folder there, and `..` goes back to the folder around
it, which for the root is the root itself. Names are text, so a name is shown as it is. There are no links, and
whatever is there can be opened: a file that may not be read is not in the model. -/
namespace SqlCheck

namespace FileTree

inductive Node where
  | file (content : List UInt8)
  | folder (entries : List (Text × Node))

end FileTree

structure FileTree where
  root : FileTree.Node
  /-- The pieces that lead from the root to the working directory. -/
  base : List Text

inductive ReadFault where
  | notFound | isFolder | notFolder | nameTooLong | nullInName | notText
  deriving Repr, DecidableEq

def ReadFault.message : ReadFault → Text
  | notFound => "No such file or directory (os error 2)".toList
  | isFolder => "Is a directory (os error 21)".toList
  | notFolder => "Not a directory (os error 20)".toList
  | nameTooLong => "File name too long (os error 36)".toList
  | nullInName => "file name contained an unexpected NUL byte".toList
  | notText => "stream did not contain valid UTF-8".toList

namespace FileTree

namespace Node

def isBranch : Node → Bool
  | file _ => false
  | folder _ => true

def entries : Node → List (Text × Node)
  | file _ => []
  | folder entries => entries

@[simp] theorem entries_file (content : List UInt8) : (file content).entries = [] := rfl

@[simp] theorem entries_folder (entries : List (Text × Node)) : (folder entries).entries = entries := rfl

/-- Changes what stands at the end of a list of names, with folders made on the way. -/
def alter (change : Node → Node) : List Text → Node → Node
  | [], node => change node
  | name :: rest, node =>
      match node.entries.lookup name with
      | some found =>
          folder (node.entries.map fun entry =>
            if entry.1 = name then (name, alter change rest found) else entry)
      | none => folder (node.entries ++ [(name, alter change rest (folder []))])

end Node

/-- What stands at a place, and the folders around it from the inside out. -/
structure Place where
  node : Node
  around : List Node

/-- Lengths of names and paths are counted in bytes. -/
def longestName : Nat := 255

def longestPath : Nat := 4095

/-- Nothing can be asked about a path that is too long, even if all its names are there. -/
def tooLong (path : Text) : Bool := decide (longestPath < path.size)

/-- The folder around a place. There is none around the root. -/
def Place.outer : Place → Place
  | ⟨node, []⟩ => ⟨node, []⟩
  | ⟨_, outer :: others⟩ => ⟨outer, others⟩

def Place.follow (piece : Text) (place : Place) : Except ReadFault Place :=
  match place.node with
  | .file _ => .error .notFolder
  | .folder entries =>
      if piece = [] ∨ piece = Path.here then .ok place
      else if piece = Path.up then .ok place.outer
      else if longestName < piece.size then .error .nameTooLong
      else
        match entries.lookup piece with
        | some found => .ok ⟨found, place.node :: place.around⟩
        | none => .error .notFound

def Place.followAll (place : Place) (pieces : List Text) : Except ReadFault Place :=
  pieces.foldlM (fun place piece => place.follow piece) place

/-- A working directory at the end of a way down on which there is nothing else. -/
def under (base : List Text) (node : Node) : FileTree :=
  ⟨base.foldr (fun name inner => .folder [(name, inner)]) node, base⟩

/-- The name of a working directory about which nothing else is known. -/
def home : Text := ['w', 'o', 'r', 'k']

def alone (node : Node) : FileTree := under [home] node

def folder (entries : List (Text × Node)) : FileTree := alone (.folder entries)

def names (pieces : List Text) : List Text := pieces.filter fun piece => piece ≠ [] ∧ piece ≠ Path.here

variable (tree : FileTree)

/-- The pieces from the root to the end of a path. -/
def route (path : Text) : List Text :=
  if Path.isAbsolute path then Path.pieces path else tree.base ++ Path.pieces path

def withFile (path : Text) (content : List UInt8) : FileTree :=
  { tree with root := tree.root.alter (fun _ => .file content) (names (tree.route path)) }

def withFolder (path : Text) : FileTree :=
  { tree with root := tree.root.alter id (names (tree.route path)) }

/-- The place at the end of a path, however long the path is. -/
def lead (path : Text) : Except ReadFault Place := Place.followAll ⟨tree.root, []⟩ (tree.route path)

def find (path : Text) : Except ReadFault Place :=
  if '\x00' ∈ path then .error .nullInName
  else if path = [] then .error .notFound
  else if tooLong path then .error .nameTooLong
  else tree.lead path

def contains (path : Text) : Bool :=
  match tree.find path with
  | .ok _ => true
  | .error _ => false

def isFile (path : Text) : Bool :=
  match tree.find path with
  | .ok place => !place.node.isBranch
  | .error _ => false

def isFolder (path : Text) : Bool :=
  match tree.find path with
  | .ok place => place.node.isBranch
  | .error _ => false

def entriesAt (path : Text) : List (Text × Node) :=
  match tree.find path with
  | .ok place => place.node.entries
  | .error _ => []

def readText (path : Text) : Except ReadFault Text :=
  match tree.find path with
  | .error fault => .error fault
  | .ok ⟨.folder _, _⟩ => .error .isFolder
  | .ok ⟨.file content, _⟩ =>
      match Text.ofBytes? content with
      | some text => .ok text
      | none => .error .notText

end FileTree
end SqlCheck
