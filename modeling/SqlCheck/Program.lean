import SqlCheck.CommandLine
import SqlCheck.Document
import SqlCheck.Parser

/-! The whole program as a function of what it finds when it starts. A run first makes sure of its
documents and its configuration, and only then makes an engine and goes to work, so a mistake in an
argument is known before anything was written. Reports of a check are the program's output; reports of
formatting go to the error stream, because the output is the formatted SQL. -/
namespace SqlCheck

structure Surroundings where
  tree : FileTree
  input : List UInt8
  parser : Parser
  onTerminal : Bool

structure Ending where
  code : Nat
  output : List UInt8
  errors : List UInt8
  calls : List Call

namespace Program

def readConfig (tree : FileTree) : Option Text → Except Failure Text
  | none => .ok Parser.defaultConfig
  | some path =>
      match tree.readText path with
      | .ok source => .ok source
      | .error fault => .error (.unreadableConfig path fault)

def prepare (tree : FileTree) (options : Options) : Except Failure (List Text × Text) := do
  let documents ← Inputs.expand tree options.documents
  Inputs.validate tree documents
  let config ← readConfig tree options.config
  return (documents, config)

def work (tree : FileTree) (engine : Engine Call) (task : Task) (inColour : Bool)
    (documents : List Text) : Job Call Bool :=
  match task with
  | .check => Document.checkEach tree engine documents
  | .format => Document.formatEach tree engine (if inColour then .decorated else .plain) documents

def exitCode : Except Failure Bool → Nat
  | .ok true => 0
  | .ok false => 10
  | .error _ => 1

def complaint : Except Failure Bool → Text
  | .ok _ => []
  | .error failure => "Error: ".toList ++ failure.message ++ ['\n']

def ending (task : Task) (result : Except Failure Bool) (console : Console Call) : Ending :=
  match task with
  | .check => ⟨exitCode result, console.reports.written, (complaint result).bytes, console.notes⟩
  | .format =>
      ⟨exitCode result, console.output.written,
        console.reports.written ++ (complaint result).bytes, console.notes⟩

def run (surroundings : Surroundings) (options : Options) : Ending :=
  if options.listForms then
    ⟨0, Text.bytes (ReportForm.all.flatMap fun form => form.name ++ ['\n']), [], []⟩
  else
    match prepare surroundings.tree options with
    | .error failure => ⟨1, [], (complaint (.error failure)).bytes, []⟩
    | .ok (documents, config) =>
        let inColour := options.wantsColour surroundings.onTerminal
        let engine := surroundings.parser.engine inColour config
        let console : Console Call :=
          ⟨.create inColour inColour options.form, {}, {}, surroundings.input, engine.notes⟩
        let (result, console) :=
          ((work surroundings.tree engine.value options.task inColour documents).run).run console
        ending options.task result console

def withoutMark (text : Text) : Text :=
  match text with
  | 'e' :: 'r' :: 'r' :: 'o' :: 'r' :: ':' :: ' ' :: rest => withoutMark rest
  | _ => text
termination_by text.length

def refuse (refusal : CommandLine.Refusal) : Ending :=
  match refusal with
  | .help | .version => ⟨0, refusal.message.bytes, [], []⟩
  | _ => ⟨1, [], Text.bytes ("Error: ".toList ++ withoutMark refusal.message ++ ['\n']), []⟩

def start (surroundings : Surroundings) (arguments : List Text) : Ending :=
  match CommandLine.parse arguments with
  | .error refusal => refuse refusal
  | .ok options => run surroundings options

end Program
end SqlCheck
