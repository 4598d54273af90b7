import SqlCheck.Ink

/-! The tokens of a piece of SQL as far as colouring tells them apart. A list of tokens colours a source
only if the tokens spell it out exactly; otherwise the source is shown as it is, because a colour in the
wrong place would be worse than none. -/
namespace SqlCheck

inductive TokenKind where
  | keyword | string | number | comment | other
  deriving Repr, DecidableEq

structure Token where
  kind : TokenKind
  raw : Text

def TokenKind.ink : TokenKind → Option Ink
  | keyword => some .boldBlue
  | string => some .green
  | number => some .yellow
  | comment => some .dimmed
  | other => none

namespace Token

def coloured (enabled : Bool) (token : Token) : Text :=
  match token.kind.ink with
  | some ink => ink.apply enabled token.raw
  | none => token.raw

def spelling (tokens : List Token) : Text := tokens.flatMap raw

def colourSource (enabled : Bool) (source : Text) (tokens : List Token) : Text :=
  if spelling tokens = source then tokens.flatMap (coloured enabled) else source

end Token
end SqlCheck
