import SqlCheck.Engine
import SqlCheck.LineTable
import SqlCheck.Text.Quoted
import SqlCheck.Text.Word
import SqlCheck.Token

/-! An engine made from a parser and a fixer of SQL. The parser gives the place of a violation by line and
character, both from 1, with a slice of bytes that is often empty and may be nonsense; a finding has the
offset instead and a token that really stands in the text. A document with syntax errors is not formatted,
and the fixer never sees it. -/
namespace SqlCheck

structure Violation where
  line : Nat
  character : Nat
  start : Nat
  stop : Nat
  description : Text
  deriving Repr, DecidableEq

inductive SyntaxTree where
  | leaf (kind raw : Text)
  | node (kind : Text) (children : List SyntaxTree)

structure Parsed where
  violations : List Violation
  tree : Option SyntaxTree

/-- A parser can fail outright, with a text that says why. -/
structure Parser where
  parse : Text → Except Text Parsed
  fix : Text → Text

namespace SyntaxTree

mutual

/-- Kind and text of everything without children, in the order of the text. -/
def leaves : SyntaxTree → List (Text × Text)
  | leaf kind raw => [(kind, raw)]
  | node kind [] => [(kind, [])]
  | node _ (first :: rest) => leaves first ++ leavesAll rest

def leavesAll : List SyntaxTree → List (Text × Text)
  | [] => []
  | first :: rest => leaves first ++ leavesAll rest

end

def tokenKind (kind : Text) : TokenKind :=
  if kind = "keyword".toList then .keyword
  else if kind = "quoted_literal".toList then .string
  else if kind = "numeric_literal".toList then .number
  else if kind = "comment".toList ∨ kind = "inline_comment".toList ∨ kind = "block_comment".toList then
    .comment
  else .other

def tokens (tree : SyntaxTree) : List Token :=
  tree.leaves.map fun (kind, raw) => ⟨tokenKind kind, raw⟩

end SyntaxTree

namespace Finding

/-- The slice if it is a piece of the text and not empty, else the token at the place. The line table is
the text's own, so the place always has an offset. -/
def ofViolation (sql : Text) (table : LineTable) (violation : Violation) : Finding :=
  let offset := (table.offset? sql violation.line (violation.character - 1)).getD 0
  let token :=
    match sql.slice? violation.start violation.stop with
    | some (c :: rest) => c :: rest
    | _ => sql.tokenFrom offset
  ⟨violation.description, offset, token⟩

def ofRefusal (reason : Text) : Finding :=
  ⟨"SQLFluffUserError \x7b value: ".toList ++ reason.quoted ++ " \x7d".toList, 0, []⟩

end Finding

inductive Call where
  | configure (source : Text)
  | parse (sql : Text)
  | fix (sql : Text)
  deriving Repr, DecidableEq

namespace Parser

def defaultConfig : Text := "[sqruff]\ndialect = ansi\nrules = all\n".toList

variable (parser : Parser)

def parseNoted (sql : Text) : Noted Call (Except Text Parsed) := ⟨parser.parse sql, [.parse sql]⟩

def fixNoted (sql : Text) : Noted Call Text := ⟨parser.fix sql, [.fix sql]⟩

def findings (sql : Text) : Noted Call (List Finding) := do
  match ← parser.parseNoted sql with
  | .error reason => return [.ofRefusal reason]
  | .ok parsed => return parsed.violations.map (Finding.ofViolation sql (.ofText sql))

def tokens? (sql : Text) : Noted Call (Option (List Token)) := do
  match ← parser.parseNoted sql with
  | .error _ => return none
  | .ok parsed => return parsed.tree.map SyntaxTree.tokens

def format (coloursEnabled : Bool) (document sql : Text) (finish : Finish) :
    Noted Call (Except Failure Text) := do
  let found ← parser.findings sql
  if found ≠ [] then return .error (.unformattable document found.length)
  let fixed ← parser.fixNoted sql
  match finish with
  | .plain => return .ok fixed
  | .decorated =>
      match ← parser.tokens? fixed with
      | some tokens => return .ok (Token.colourSource coloursEnabled fixed tokens)
      | none => return .ok fixed

/-- The configuration is handed over once, when the engine is made. -/
def engine (coloursEnabled : Bool) (config : Text) : Noted Call (Engine Call) :=
  ⟨⟨parser.findings, parser.format coloursEnabled⟩, [.configure config]⟩

end Parser
end SqlCheck
