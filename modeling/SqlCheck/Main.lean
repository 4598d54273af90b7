import SqlCheck.Program

/-! The command line program. It takes a picture of the working directory, reads standard input and leaves
the rest to `Program.start`. Of the folders around the working directory the picture has only the way down, so
a document elsewhere counts as missing. No parser of SQL is built in: every text counts as parsed and as well
set out. -/
namespace SqlCheck

def acceptingParser : Parser where
  parse _ := .ok ⟨[], none⟩
  fix sql := sql

/-- A byte that no text has, so what cannot be read fails to be read in the picture too. -/
def unreadable : List UInt8 := [0xFF]

partial def picture (entry : IO.FS.DirEntry) : IO (Text × FileTree.Node) := do
  let name := entry.fileName.toList
  if ← entry.path.isDir then
    let inner ← try entry.path.readDir catch _ => pure #[]
    return (name, .folder (← inner.toList.mapM picture))
  else
    try
      let content ← IO.FS.readBinFile entry.path
      return (name, .file content.toList)
    catch _ => return (name, .file unreadable)

partial def readAll (stream : IO.FS.Stream) : IO ByteArray := do
  let chunk ← stream.read 65536
  if chunk.isEmpty then return chunk else return chunk ++ (← readAll stream)

/-- Standard input is left alone unless an argument names it or is a pattern that might. -/
def readInput (arguments : List Text) : IO ByteArray := do
  if arguments.any fun text => text == Inputs.standardInput || Inputs.looksLikePattern text then
    readAll (← IO.getStdin)
  else return .empty

end SqlCheck

open SqlCheck in
def main (arguments : List String) : IO UInt32 := do
  let directory ← IO.currentDir
  let base := (directory.components.map String.toList).filter fun name => name ≠ []
  let entries ← (← directory.readDir).toList.mapM picture
  let tree := FileTree.under base (.folder entries)
  let arguments := arguments.map String.toList
  let input ← readInput arguments
  let onTerminal ← (← IO.getStdout).isTty
  let ending := Program.start ⟨tree, input.toList, acceptingParser, onTerminal⟩ arguments
  (← IO.getStdout).write ⟨ending.output.toArray⟩
  (← IO.getStderr).write ⟨ending.errors.toArray⟩
  return ending.code.toUInt32
