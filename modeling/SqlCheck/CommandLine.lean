import SqlCheck.Reporter
import SqlCheck.Text.Printed

/-! The command line. Options and documents may be mixed freely until `--`, and are read from left to
right; the first mistake counts. A setting that still waits for its value takes the next argument that is
no option; whether it got one, and whether it was given before, is settled only when the next option or
document comes, while a value written into the same argument is settled at once. `--color` and `--nocolor`
each take the other back. -/
namespace SqlCheck

inductive Task where
  | check | format
  deriving Repr, DecidableEq

structure Options where
  form : ReportForm := .text
  format : Bool := false
  colour : Bool := false
  noColour : Bool := false
  config : Option Text := none
  listForms : Bool := false
  documents : List Text := []
  deriving Repr, DecidableEq

namespace Options

def task (options : Options) : Task := if options.format then .format else .check

/-- Without a word about colours, a terminal gets them and nothing else does. -/
def wantsColour (options : Options) (onTerminal : Bool) : Bool :=
  if options.colour then true else if options.noColour then false else onTerminal

end Options

namespace CommandLine

inductive Switch where
  | format | colour | noColour | listForms
  deriving Repr, DecidableEq

inductive Setting where
  | form | config
  deriving Repr, DecidableEq

inductive Choice where
  | switch (which : Switch)
  | setting (which : Setting)
  | help
  | version
  deriving Repr, DecidableEq

inductive Refusal where
  | help
  | version
  | unknownArgument (shown : Text)
  | unwantedValue (value : Text) (choice : Choice)
  | missingValue (setting : Setting)
  | badForm (value : Text)
  | repeated (choice : Choice)
  | noDocuments
  deriving Repr, DecidableEq

def Choice.display : Choice → Text
  | switch .format => "--format".toList
  | switch .colour => "--color".toList
  | switch .noColour => "--nocolor".toList
  | switch .listForms => "--list-renderers".toList
  | setting .form => "--renderer <RENDERER>".toList
  | setting .config => "--config <CONFIG>".toList
  | help => "--help".toList
  | version => "--version".toList

def helpText : Text :=
  ("sqllint checks SQL files for syntax errors or reformats them\n\n"
    ++ "Usage: sqllint [OPTIONS] [SQL_FILES]...\n\n"
    ++ "Arguments:\n"
    ++ "  [SQL_FILES]...  SQL files, \"-\" for stdin. Glob patterns are expanded\n\n"
    ++ "Options:\n"
    ++ "  -r, --renderer <RENDERER>  Output mode for diagnostics [default: text] "
    ++ "[possible values: text, emacs]\n"
    ++ "  -f, --format               Reformat the SQL instead of checking it\n"
    ++ "      --color                Force colored output\n"
    ++ "      --nocolor              Disable colored output\n"
    ++ "      --config <CONFIG>      Path to a sqruff configuration file\n"
    ++ "      --list-renderers       List the available renderers and exit\n"
    ++ "  -h, --help                 Print help\n"
    ++ "  -V, --version              Print version\n").toList

def versionText : Text := "sqllint 0.1.0\n".toList

/-- A message up to its first line end, which may be a carriage return and a line feed together. -/
def firstLine (message : Text) : Text :=
  let line := message.line
  if line.length < message.length ∧ line.getLast? = some '\r' then line.dropLast else line

/-- Arguments are quoted as a terminal would show each on its own. -/
def Refusal.message : Refusal → Text
  | help => helpText
  | version => versionText
  | unknownArgument shown =>
      firstLine ("error: unexpected argument '".toList ++ shown.printed ++ "' found".toList)
  | unwantedValue value choice =>
      firstLine ("error: unexpected value '".toList ++ value.printed ++ "' for '".toList ++ choice.display
        ++ "' found; no more were expected".toList)
  | missingValue setting =>
      "error: a value is required for '".toList ++ (Choice.setting setting).display
        ++ "' but none was supplied".toList
  | badForm value =>
      firstLine ("error: invalid value '".toList ++ value.printed ++ "' for '".toList
        ++ (Choice.setting .form).display ++ ['\''])
  | repeated choice =>
      "error: the argument '".toList ++ choice.display ++ "' cannot be used multiple times".toList
  | noDocuments => "error: the following required arguments were not provided:".toList

/-- What an argument says: a choice that stands alone, a setting that brings a value or waits for one, a
document or a waited-for value, or a mistake. -/
inductive Item where
  | choose (choice : Choice)
  | assign (setting : Setting) (value : Text)
  | plain (text : Text)
  | mistake (refusal : Refusal)
  deriving Repr, DecidableEq

def longChoice? (name : Text) : Option Choice :=
  if name = "renderer".toList then some (.setting .form)
  else if name = "format".toList then some (.switch .format)
  else if name = "color".toList then some (.switch .colour)
  else if name = "nocolor".toList then some (.switch .noColour)
  else if name = "config".toList then some (.setting .config)
  else if name = "list-renderers".toList ∨ name = "list-renderer".toList then some (.switch .listForms)
  else if name = "help".toList then some .help
  else if name = "version".toList then some .version
  else none

def shortChoice? : Char → Option Choice
  | 'r' => some (.setting .form)
  | 'f' => some (.switch .format)
  | 'h' => some .help
  | 'V' => some .version
  | _ => none

/-- An argument that begins with two hyphens, without them. -/
def longItem (text : Text) : Item :=
  let name := text.takeWhile (· ≠ '=')
  match longChoice? name, text.dropWhile (· ≠ '=') with
  | none, _ => .mistake (.unknownArgument ('-' :: '-' :: name))
  | some choice, [] => .choose choice
  | some (.setting setting), _ :: value => .assign setting value
  | some choice, _ :: value => .mistake (.unwantedValue value choice)

/-- An argument that begins with one hyphen, without it. Letters may share a hyphen; the letter of a
setting takes what is left of the argument as its value, less an equals sign in front. -/
def shortItems : Text → List Item
  | [] => []
  | c :: rest =>
      match shortChoice? c with
      | none => [.mistake (.unknownArgument ['-', c])]
      | some (.setting setting) =>
          match rest with
          | [] => [.choose (.setting setting)]
          | '=' :: value => [.assign setting value]
          | value => [.assign setting value]
      | some choice => .choose choice :: shortItems rest

def items : Text → List Item
  | '-' :: '-' :: rest => [longItem rest]
  | '-' :: c :: rest => shortItems (c :: rest)
  | argument => [.plain argument]

structure Draft where
  options : Options := {}
  given : List Choice := []
  /-- The setting whose value was last waited for, with the value if it has come. -/
  waiting : Option (Setting × Option Text) := none
  deriving Repr, DecidableEq

namespace Draft

def markOnce (choice : Choice) (draft : Draft) : Except Refusal Draft :=
  if choice ∈ draft.given then .error (.repeated choice)
  else .ok { draft with given := choice :: draft.given }

def assign (setting : Setting) (value : Text) (draft : Draft) : Except Refusal Draft := do
  let draft ← draft.markOnce (.setting setting)
  if value = [] then throw (.missingValue setting)
  match setting with
  | .config => return { draft with options := { draft.options with config := some value } }
  | .form =>
      match ReportForm.ofName? value with
      | some form => return { draft with options := { draft.options with form } }
      | none => throw (.badForm value)

def settle (draft : Draft) : Except Refusal Draft :=
  match draft.waiting with
  | none => .ok draft
  | some (setting, none) => .error (.missingValue setting)
  | some (setting, some value) => assign setting value { draft with waiting := none }

def forget (choice : Choice) (draft : Draft) : Draft :=
  { draft with given := draft.given.filter (· ≠ choice) }

def turnOn (switch : Switch) (draft : Draft) : Except Refusal Draft := do
  let draft ← draft.markOnce (.switch switch)
  match switch with
  | .format => return { draft with options := { draft.options with format := true } }
  | .listForms => return { draft with options := { draft.options with listForms := true } }
  | .colour =>
      return { draft with options := { draft.options with colour := true, noColour := false } }.forget
        (.switch .noColour)
  | .noColour =>
      return { draft with options := { draft.options with colour := false, noColour := true } }.forget
        (.switch .colour)

def addDocument (document : Text) (draft : Draft) : Draft :=
  { draft with options := { draft.options with documents := draft.options.documents ++ [document] } }

def take (item : Item) (draft : Draft) : Except Refusal Draft :=
  match item with
  | .mistake refusal => .error refusal
  | .choose (.switch switch) => do (← draft.settle).turnOn switch
  | .choose (.setting setting) => do return { ← draft.settle with waiting := some (setting, none) }
  | .choose .help => do let _ ← draft.settle; throw .help
  | .choose .version => do let _ ← draft.settle; throw .version
  | .assign setting value => do (← draft.settle).assign setting value
  | .plain text =>
      match draft.waiting with
      | some (setting, none) => .ok { draft with waiting := some (setting, some text) }
      | _ => do return (← draft.settle).addDocument text

def takeAll : List Item → Draft → Except Refusal Draft
  | [], draft => .ok draft
  | item :: rest, draft => do takeAll rest (← draft.take item)

end Draft

/-- Behind `--` every argument is a document. -/
def readArguments : List Text → Draft → Except Refusal Draft
  | [], draft => draft.settle
  | argument :: rest, draft =>
      if argument = ['-', '-'] then do
        return rest.foldl (fun draft document => draft.addDocument document) (← draft.settle)
      else do
        readArguments rest (← draft.takeAll (items argument))

def parse (arguments : List Text) : Except Refusal Options := do
  let draft ← readArguments arguments {}
  if draft.options.documents = [] ∧ draft.options.listForms = false then throw .noDocuments
  return draft.options

end CommandLine
end SqlCheck
