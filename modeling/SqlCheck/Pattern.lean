import SqlCheck.Path

/-! Patterns for paths. `?` stands for one character, `*` for any run of them, `[…]` for one character of
a set and `[!…]` for one outside it; none of these stands for a slash, because a pattern is cut at its
slashes first and each piece speaks of one name. The piece `**` stands for any number of folders. A
pattern is checked as a whole before it is cut, so a fault is reported at its place in the whole pattern
unless only a piece of it is at fault. -/
namespace SqlCheck

inductive PatternFault where
  | tooManyStars | looseFolders | openSet
  deriving Repr, DecidableEq

def PatternFault.message : PatternFault → Text
  | tooManyStars => "wildcards are either regular \x60*\x60 or recursive \x60**\x60".toList
  | looseFolders => "recursive wildcards must form a single path component".toList
  | openSet => "invalid range pattern".toList

namespace Pattern

inductive Span where
  | one (c : Char)
  | between (first last : Char)
  deriving Repr, DecidableEq

def Span.contains (c : Char) : Span → Bool
  | one other => c == other
  | between first last => decide (first ≤ c ∧ c ≤ last)

inductive Glyph where
  | char (c : Char)
  | any
  | many
  | folders
  | within (spans : List Span)
  | outside (spans : List Span)
  deriving Repr, DecidableEq

/-- A hyphen with a character on either side makes a span; any other character stands for itself. -/
def spans : List Char → List Span
  | first :: '-' :: last :: rest => .between first last :: spans rest
  | c :: rest => .one c :: spans rest
  | [] => []

/-- The characters of a set and what follows it. The bracket that closes a set is looked for behind its
first character, so that a set can hold a closing bracket. -/
def closeSet : List Char → Option (List Char × List Char)
  | [] => none
  | first :: rest =>
      match rest.dropWhile (· ≠ ']') with
      | [] => none
      | _ :: after => some (first :: rest.takeWhile (· ≠ ']'), after)

def readSet : List Char → Option (Glyph × List Char)
  | '!' :: rest => (closeSet rest).map fun (chars, after) => (.outside (spans chars), after)
  | rest => (closeSet rest).map fun (chars, after) => (.within (spans chars), after)

theorem closeSet_shorter {text chars after : List Char} (closed : closeSet text = some (chars, after)) :
    after.length < text.length := by
  cases text with
  | nil => simp [closeSet] at closed
  | cons first rest =>
      simp only [closeSet] at closed
      split at closed
      · simp at closed
      · rename_i bracket others found
        simp only [Option.some.injEq, Prod.mk.injEq] at closed
        have bound := (List.dropWhile_suffix (l := rest) (· ≠ ']')).length_le
        rw [found] at bound
        simp only [List.length_cons] at bound ⊢
        rw [← closed.2]
        omega

theorem readSet_shorter {text after : List Char} {glyph : Glyph}
    (read : readSet text = some (glyph, after)) : after.length < text.length := by
  unfold readSet at read
  split at read
  all_goals
    simp only [Option.map_eq_some_iff, Prod.exists, Prod.mk.injEq] at read
    obtain ⟨chars, others, closed, _, rfl⟩ := read
  · exact Nat.lt_succ_of_lt (closeSet_shorter closed)
  · exact closeSet_shorter closed

/-- Reads a pattern whose first character stands at `index`, with `before` in front of it. `**` has to be
a piece of its own; the slash that follows it belongs to it. -/
def readFrom (index : Nat) (before : Option Char) (text : List Char) :
    Except (Nat × PatternFault) (List Glyph) :=
  match text with
  | [] => .ok []
  | '?' :: rest => (readFrom (index + 1) (some '?') rest).map (.any :: ·)
  | '*' :: '*' :: '*' :: _ => .error (index + 2, .tooManyStars)
  | '*' :: '*' :: rest =>
      if before = none ∨ before = some '/' then
        match rest with
        | [] => .ok [.folders]
        | '/' :: rest => (readFrom (index + 3) (some '/') rest).map (.folders :: ·)
        | _ :: _ => .error (index + 2, .looseFolders)
      else .error (index - 1, .looseFolders)
  | '*' :: rest => (readFrom (index + 1) (some '*') rest).map (.many :: ·)
  | '[' :: rest =>
      match read : readSet rest with
      | some (glyph, after) =>
          have := readSet_shorter read
          (readFrom (index + (rest.length + 1 - after.length)) (some ']') after).map (glyph :: ·)
      | none => .error (index, .openSet)
  | c :: rest => (readFrom (index + 1) (some c) rest).map (.char c :: ·)
termination_by text.length

def read (text : Text) : Except (Nat × PatternFault) (List Glyph) := readFrom 0 none text

/-- A piece of a pattern: a name to be taken as it is, a name to be looked for, or any folders. -/
inductive Piece where
  | literal (name : Text)
  | wild (glyphs : List Glyph)
  | folders
  deriving Repr, DecidableEq

def Glyph.char? : Glyph → Option Char
  | char c => some c
  | _ => none

def Piece.ofGlyphs (glyphs : List Glyph) : Piece :=
  match glyphs.mapM Glyph.char? with
  | some name => .literal name
  | none => if glyphs = [.folders] then .folders else .wild glyphs

/-- The pieces of a pattern; the empty piece behind a slash at the very end is no piece. -/
def cut (pattern : Text) : List Text :=
  let pieces := Path.pieces (if Path.isAbsolute pattern then pattern.drop 1 else pattern)
  if pieces.getLast? = some [] then pieces.dropLast else pieces

/-- A second `**` right behind the first adds nothing. -/
def mergeFolders : List Piece → List Piece
  | .folders :: .folders :: rest => mergeFolders (.folders :: rest)
  | piece :: rest => piece :: mergeFolders rest
  | [] => []

end Pattern

structure Pattern where
  absolute : Bool
  pieces : List Pattern.Piece
  /-- The pattern ends in a slash, so only folders are wanted. -/
  foldersOnly : Bool

namespace Pattern

def ofText? (pattern : Text) : Except (Nat × PatternFault) Pattern := do
  let _ ← read pattern
  let pieces ← (cut pattern).mapM fun piece => return Piece.ofGlyphs (← read piece)
  return ⟨Path.isAbsolute pattern, mergeFolders pieces, pattern.getLast? == some '/'⟩

def Glyph.accepts (c : Char) : Glyph → Bool
  | char other => c == other
  | any => true
  | many => true
  | folders => true
  | within spans => spans.any (·.contains c)
  | outside spans => !spans.any (·.contains c)

/-- Whether a run of any length can be followed by what comes later, for each place in a name. -/
def anyLater : List Bool → List Bool
  | [] => []
  | fitsHere :: rest =>
      let later := anyLater rest
      (fitsHere || later.headD false) :: later

/-- Whether the glyphs stand for each of the ends of a name, the whole name first and the empty end last.
Working from the last glyph back, no end is looked at twice for the same glyph. -/
def fitsEnds : List Glyph → Text → List Bool
  | [], name => name.map (fun _ => false) ++ [true]
  | .many :: rest, name => anyLater (fitsEnds rest name)
  | glyph :: rest, name =>
      List.zipWith (fun c later => glyph.accepts c && later) name (fitsEnds rest name).tail ++ [false]

def fits (glyphs : List Glyph) (name : Text) : Bool := (fitsEnds glyphs name).headD false

def Piece.fits (name : Text) : Piece → Bool
  | literal other => name == other
  | wild glyphs => Pattern.fits glyphs name
  | folders => true

end Pattern
end SqlCheck
