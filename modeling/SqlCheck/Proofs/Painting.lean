import SqlCheck.Proofs.Colours

/-! What colouring does to a source. A terminal that reads the coloured text shows every character of the source that is
not part of a clearing sequence, in the style of its own token, and is left without a style; the sequences that the
source brings along take no colour away from what follows them. Read as text, it is the source once the escape sequences
are taken out, and it is the source as it stands where the tokens do not spell it. -/
namespace SqlCheck

namespace Text

/-- A text whose escape characters all begin clearing sequences, and whole ones. -/
inductive OnlyClears : Text → Prop
  | nil : OnlyClears []
  | clearing {rest : Text} (later : OnlyClears rest) : OnlyClears ('\x1b' :: '[' :: '0' :: 'm' :: rest)
  | other {c : Char} {rest : Text} (other : c ≠ '\x1b') (later : OnlyClears rest) : OnlyClears (c :: rest)

def uncleared : Text → Text
  | '\x1b' :: '[' :: '0' :: 'm' :: rest => uncleared rest
  | c :: rest => c :: uncleared rest
  | [] => []

theorem uncleared_other {c : Char} (other : c ≠ '\x1b') (rest : Text) :
    uncleared (c :: rest) = c :: uncleared rest := by
  rw [uncleared]
  intro tail same
  exact absurd same other

theorem uncleared_append {front : Text} (whole : front.OnlyClears) (back : Text) :
    uncleared (front ++ back) = uncleared front ++ uncleared back := by
  induction whole with
  | nil => rfl
  | clearing later ih => exact ih
  | other other later ih => rw [List.cons_append, uncleared_other other, uncleared_other other, ih, List.cons_append]

end Text

/-- The codes that a terminal is given for bold and blue, for green, for yellow, for dimmed, and for none of them. -/
def TokenKind.style : TokenKind → List Text
  | keyword => [['1'], ['3', '4']]
  | string => [['3', '2']]
  | number => [['3', '3']]
  | comment => [['2']]
  | other => []

theorem TokenKind.style_plain {kind : TokenKind} (plain : kind.ink = none) : kind.style = [] := by
  cases kind with
  | keyword | string | number | comment => cases plain
  | other => rfl

/-- How far into an escape sequence a terminal has come. -/
inductive Reading where
  | outside
  | begun
  | codes (read : Text)
  deriving Repr, DecidableEq

/-- A terminal, with the codes that it was given since it was last cleared, and each character in those it is shown in. -/
structure Terminal where
  style : List Text := []
  shown : List (Char × List Text) := []
  reading : Reading := .outside
  deriving Repr, DecidableEq

namespace Terminal
open Text

def display (terminal : Terminal) (c : Char) : Terminal :=
  { terminal with shown := terminal.shown ++ [(c, terminal.style)], reading := .outside }

def obey (terminal : Terminal) (codes : Text) : Terminal :=
  { terminal with
    style := if codes = ['0'] then [] else terminal.style ++ codes.splitOn ';'
    reading := .outside }

def take (terminal : Terminal) (c : Char) : Terminal :=
  match terminal.reading with
  | .outside => if c = '\x1b' then { terminal with reading := .begun } else terminal.display c
  | .begun =>
      if c = '[' then { terminal with reading := .codes [] }
      else if c = '\x1b' then { terminal.display c with reading := .begun }
      else (terminal.display '\x1b').display c
  | .codes read =>
      if c = 'm' then terminal.obey read else { terminal with reading := .codes (read ++ [c]) }

def read (terminal : Terminal) (text : Text) : Terminal := text.foldl take terminal

variable (style : List Text) (shown : List (Char × List Text)) (rest : Text)

theorem read_other {c : Char} (other : c ≠ '\x1b') :
    read ⟨style, shown, .outside⟩ (c :: rest) = read ⟨style, shown ++ [(c, style)], .outside⟩ rest := by
  have step : take ⟨style, shown, .outside⟩ c = ⟨style, shown ++ [(c, style)], .outside⟩ := if_neg other
  rw [read, List.foldl_cons, step, read]

theorem read_clearing :
    read ⟨style, shown, .outside⟩ (Ink.clearing ++ rest) = read ⟨[], shown, .outside⟩ rest := rfl

theorem read_opening {kind : TokenKind} {ink : Ink} (inked : kind.ink = some ink) :
    read ⟨[], shown, .outside⟩ (ink.opening ++ rest) = read ⟨kind.style, shown, .outside⟩ rest := by
  cases kind <;> cases inked <;> rfl

/-- A style that is taken up again behind every clearing sequence is that of all characters. -/
theorem read_reopened {start : Text} {style : List Text}
    (opens : ∀ shown rest, read ⟨[], shown, .outside⟩ (start ++ rest) = read ⟨style, shown, .outside⟩ rest)
    {text : Text} (whole : text.OnlyClears) :
    read ⟨style, shown, .outside⟩ (Ink.reopen start text ++ rest) =
      read ⟨style, shown ++ text.uncleared.map (·, style), .outside⟩ rest := by
  induction whole generalizing shown with
  | nil => simp [Ink.reopen, uncleared]
  | clearing later ih =>
      rw [Ink.reopen, List.append_assoc, List.append_assoc, read_clearing, opens, ih]
      rfl
  | other other later ih =>
      rw [Ink.reopen_other start other, uncleared_other other, List.cons_append, read_other _ _ _ other, ih,
        List.map_cons, List.append_assoc, List.singleton_append]

end Terminal

namespace Token
open Text Terminal

/-- The characters of a token that a terminal has to show, in the style of the token. -/
def displayed (token : Token) : List (Char × List Text) := token.raw.uncleared.map (·, token.kind.style)

/-- In front of a token and behind it a terminal has no style. -/
theorem read_coloured {token : Token} (whole : token.raw.OnlyClears) (shown : List (Char × List Text)) (rest : Text) :
    Terminal.read ⟨[], shown, .outside⟩ (token.coloured true ++ rest) =
      .read ⟨[], shown ++ token.displayed, .outside⟩ rest := by
  unfold coloured
  cases inked : token.kind.ink with
  | none =>
      have opens : ∀ shown rest, Terminal.read ⟨[], shown, .outside⟩ ([] ++ rest) = .read ⟨[], shown, .outside⟩ rest :=
        fun _ _ => rfl
      have same := read_reopened shown rest opens whole
      rw [Ink.reopen_nil] at same
      simpa only [displayed, TokenKind.style_plain inked] using same
  | some ink =>
      simp only [Ink.apply, if_true, List.append_assoc]
      rw [read_opening _ _ inked, read_reopened _ _ (fun shown rest => read_opening shown rest inked) whole, read_clearing]
      rfl

theorem read_tokens {tokens : List Token} (whole : ∀ token ∈ tokens, token.raw.OnlyClears)
    (shown : List (Char × List Text)) :
    Terminal.read ⟨[], shown, .outside⟩ (tokens.flatMap (coloured true)) =
      ⟨[], shown ++ tokens.flatMap displayed, .outside⟩ := by
  induction tokens generalizing shown with
  | nil => simp [Terminal.read]
  | cons token rest ih =>
      obtain ⟨here, later⟩ := List.forall_mem_cons.mp whole
      rw [List.flatMap_cons, read_coloured here, ih later, List.flatMap_cons, List.append_assoc]

theorem uncleared_spelling {tokens : List Token} (whole : ∀ token ∈ tokens, token.raw.OnlyClears) :
    (tokens.flatMap displayed).map Prod.fst = uncleared (spelling tokens) := by
  induction tokens with
  | nil => rfl
  | cons token rest ih =>
      obtain ⟨here, later⟩ := List.forall_mem_cons.mp whole
      have characters : token.displayed.map Prod.fst = token.raw.uncleared := by
        simp [displayed, Function.comp_def]
      rw [List.flatMap_cons, List.map_append, characters, ih later, ← uncleared_append here]
      rfl

/-- A source whose escape characters all begin clearing sequences, each within one token, is shown in colours as its
tokens say: every other character once, in order and in the style of its own token, and nothing is left switched on. -/
theorem tokens_shown_in_style {source : Text} {tokens : List Token} (spelled : spelling tokens = source)
    (whole : ∀ token ∈ tokens, token.raw.OnlyClears) :
    let terminal := Terminal.read {} (colourSource true source tokens)
    terminal.shown = tokens.flatMap (fun token => token.raw.uncleared.map (·, token.kind.style)) ∧
    terminal.shown.map Prod.fst = source.uncleared ∧ terminal.style = [] ∧ terminal.reading = .outside := by
  intro terminal
  have ended : terminal = ⟨[], tokens.flatMap displayed, .outside⟩ := by
    have painted : colourSource true source tokens = tokens.flatMap (coloured true) := if_pos spelled
    rw [← List.nil_append (tokens.flatMap displayed), ← read_tokens whole, ← painted]
  rw [ended]
  exact ⟨rfl, spelled ▸ uncleared_spelling whole, rfl, rfl⟩

/-- A clearing sequence within a keyword, an empty text, two numbers side by side, a clearing sequence outside of any
colour, and a comment that ends with one. -/
theorem cleared_keyword_shown_in_blue :
    let tokens : List Token := [⟨.keyword, ['S', '\x1b', '[', '0', 'm', 'Q']⟩, ⟨.string, []⟩, ⟨.number, ['1']⟩,
      ⟨.number, ['m']⟩, ⟨.other, [' ', '\x1b', '[', '0', 'm']⟩, ⟨.comment, ['-', '\x1b', '[', '0', 'm']⟩]
    let source : Text := "S\x1b[0mQ1m \x1b[0m-\x1b[0m".toList
    spelling tokens = source ∧ (∀ token ∈ tokens, token.raw.OnlyClears) ∧
    let terminal := Terminal.read {} (colourSource true source tokens)
    terminal.shown = [('S', [['1'], ['3', '4']]), ('Q', [['1'], ['3', '4']]), ('1', [['3', '3']]), ('m', [['3', '3']]),
      (' ', []), ('-', [['2']])] ∧ terminal.style = [] := by
  intro tokens source
  have spelled : spelling tokens = source := by decide
  have whole : ∀ token ∈ tokens, token.raw.OnlyClears := by
    simp only [tokens, List.forall_mem_cons]
    refine ⟨.other (by decide) (.clearing (.other (by decide) .nil)), .nil, .other (by decide) .nil,
      .other (by decide) .nil, .other (by decide) (.clearing .nil), .other (by decide) (.clearing .nil), ?_⟩
    exact fun token member => absurd member List.not_mem_nil
  obtain ⟨shown, -, style, -⟩ := tokens_shown_in_style spelled whole
  exact ⟨spelled, whole, shown.trans rfl, style⟩

theorem length_lt_apply (ink : Ink) (text : Text) : text.length < (ink.apply true text).length := by
  have longer := Ink.length_le_reopen ink.opening text
  simp only [Ink.apply, if_true, List.length_append, Ink.clearing, List.length_cons]
  omega

theorem length_spelling_le (tokens : List Token) :
    (spelling tokens).length ≤ (tokens.flatMap (coloured true)).length := by
  induction tokens with
  | nil => exact Nat.le_refl _
  | cons token rest ih =>
      have here : token.raw.length ≤ (token.coloured true).length := by
        unfold coloured
        cases token.kind.ink with
        | none => exact Nat.le_refl _
        | some ink => exact Nat.le_of_lt (length_lt_apply ink token.raw)
      rw [spelling] at ih ⊢
      rw [List.flatMap_cons, List.flatMap_cons, List.length_append, List.length_append]
      exact Nat.add_le_add here ih

theorem coloured_eq_spelling_iff (tokens : List Token) :
    tokens.flatMap (coloured true) = spelling tokens ↔ ∀ token ∈ tokens, token.kind.ink = none := by
  refine ⟨fun same => ?_, coloured_plain⟩
  induction tokens with
  | nil => exact fun token member => absurd member List.not_mem_nil
  | cons token rest ih =>
      have here : token.kind.ink = none := by
        cases inked : token.kind.ink with
        | none => rfl
        | some ink =>
            -- The rest does not get shorter, so all of it together is longer than it was.
            have longer := length_lt_apply ink token.raw
            have later := length_spelling_le rest
            have lengths := congrArg List.length same
            simp only [List.flatMap_cons, spelling, coloured, inked, List.length_append] at lengths later
            omega
      have later : rest.flatMap (coloured true) = spelling rest := by
        simpa [spelling, coloured, here] using same
      exact List.forall_mem_cons.mpr ⟨here, ih later⟩

/-- Colouring keeps the source: without colours it is the same text, with colours it is the same once the escape
sequences are taken out, and tokens that do not spell the source do not touch it. Something is coloured exactly if the
tokens spell the source and one of them has a colour. -/
theorem colouring_keeps_source (source : Text) (tokens : List Token) :
    colourSource false source tokens = source ∧
    ('\x1b' ∉ source → unstyled (colourSource true source tokens) = source) ∧
    (spelling tokens ≠ source → ∀ enabled, colourSource enabled source tokens = source) ∧
    (spelling tokens = source →
      (colourSource true source tokens = source ↔ ∀ token ∈ tokens, token.kind.ink = none)) := by
  refine ⟨colourSource_off source tokens, fun free => ?_, fun unspelled _ => if_neg unspelled, ?_⟩
  · by_cases spelled : spelling tokens = source
    · have stripped := unstyled_coloured (show '\x1b' ∉ spelling tokens from spelled ▸ free) []
      rw [colourSource, if_pos spelled]
      simpa [spelled, unstyled_free] using stripped
    · rw [colourSource, if_neg spelled]
      exact unstyled_free free
  · rintro rfl
    rw [colourSource, if_pos rfl]
    exact coloured_eq_spelling_iff tokens

/-- Text that reads like parts of escape sequences, and the same tokens in another order. -/
theorem sequence_in_string_kept :
    let source : Text := "SELECT '[1;31m' -- 0m".toList
    let tokens : List Token := [⟨.keyword, "SELECT".toList⟩, ⟨.other, [' ']⟩, ⟨.string, "'[1;31m'".toList⟩,
      ⟨.other, [' ']⟩, ⟨.comment, "-- 0m".toList⟩]
    '\x1b' ∉ source ∧ spelling tokens = source ∧ spelling tokens.reverse ≠ source ∧
    unstyled (colourSource true source tokens) = source ∧ colourSource true source tokens ≠ source ∧
    colourSource true source tokens.reverse = source := by
  intro source tokens
  have free : '\x1b' ∉ source := by decide
  have spelled : spelling tokens = source := by decide
  have reversed : spelling tokens.reverse ≠ source := by decide
  obtain ⟨-, stripped, -, coloured_iff⟩ := colouring_keeps_source source tokens
  obtain ⟨-, -, untouched, -⟩ := colouring_keeps_source source tokens.reverse
  refine ⟨free, spelled, reversed, stripped free, fun same => ?_, untouched reversed true⟩
  have plain := (coloured_iff spelled).mp same ⟨.keyword, "SELECT".toList⟩ List.mem_cons_self
  cases plain

end Token
end SqlCheck
