import Mathlib.Data.List.DropRight
import SqlCheck.Proofs.Documents

/-! Formatted text in colours against formatted text without. Colours are put on before the line ends behind
the text are taken off, and the sequence that ends a colour hides every line end in front of it. So the two
agree as long as the last coloured token ends within the text that stays; both sides of the comparison are
computed here from the tokens alone. -/
namespace SqlCheck

namespace Text

/-- Inside an escape sequence nothing is kept and an `m` ends it. -/
def unstyledFrom (inside : Bool) : Text → Text
  | [] => []
  | c :: rest =>
      if inside then unstyledFrom (c != 'm') rest
      else if c = '\x1b' then unstyledFrom true rest
      else c :: unstyledFrom false rest

/-- The text without its escape sequences, each from the escape character to the next `m`. -/
def unstyled (text : Text) : Text := unstyledFrom false text

theorem unstyled_append {front : Text} (free : '\x1b' ∉ front) (back : Text) :
    unstyled (front ++ back) = front ++ unstyled back := by
  induction front with
  | nil => rfl
  | cons c rest ih =>
      obtain ⟨other, later⟩ : '\x1b' ≠ c ∧ '\x1b' ∉ rest := by simpa using free
      have kept : unstyled ((c :: rest) ++ back) = c :: unstyled (rest ++ back) := by
        simp [unstyled, unstyledFrom, Ne.symm other]
      rw [kept, ih later]
      rfl

theorem unstyled_free {text : Text} (free : '\x1b' ∉ text) : unstyled text = text := by
  have kept := unstyled_append free []
  simpa [unstyled, unstyledFrom] using kept

end Text

namespace Ink
open Text

theorem unstyled_opening (ink : Ink) (back : Text) : unstyled (ink.opening ++ back) = unstyled back := by
  cases ink <;> rfl

theorem unstyled_clearing (back : Text) : unstyled (clearing ++ back) = unstyled back := rfl

theorem reopen_free (start : Text) {text : Text} (free : '\x1b' ∉ text) : reopen start text = text := by
  induction text with
  | nil => rfl
  | cons c rest ih =>
      obtain ⟨other, later⟩ : '\x1b' ≠ c ∧ '\x1b' ∉ rest := by simpa using free
      rw [reopen_other start (Ne.symm other), ih later]

theorem unstyled_apply (ink : Ink) {text : Text} (free : '\x1b' ∉ text) (back : Text) :
    unstyled (ink.apply true text ++ back) = text ++ unstyled back := by
  simp only [apply, if_true, reopen_free ink.opening free, List.append_assoc]
  rw [unstyled_opening, unstyled_append free, unstyled_clearing]

end Ink

namespace Token
open Text

/-- The tokens up to the last one that has a colour. -/
def inked (tokens : List Token) : List Token := tokens.rdropWhile fun token => token.kind.ink.isNone

theorem spelling_append (front back : List Token) :
    spelling (front ++ back) = spelling front ++ spelling back := by
  simp [spelling]

theorem coloured_off (token : Token) : coloured false token = token.raw := by
  unfold coloured
  cases token.kind.ink with
  | none => rfl
  | some ink => simp [Ink.apply]

/-- Without colours the source is itself, whether the tokens spell it or not. -/
theorem colourSource_off (source : Text) (tokens : List Token) : colourSource false source tokens = source := by
  have plain : coloured false = raw := funext coloured_off
  by_cases spelled : spelling tokens = source
  · rw [colourSource, if_pos spelled, plain]
    exact spelled
  · rw [colourSource, if_neg spelled]

theorem unstyled_coloured {tokens : List Token} (free : '\x1b' ∉ spelling tokens) (back : Text) :
    unstyled (tokens.flatMap (coloured true) ++ back) = spelling tokens ++ unstyled back := by
  induction tokens with
  | nil => rfl
  | cons token rest ih =>
      obtain ⟨here, later⟩ : '\x1b' ∉ token.raw ∧ '\x1b' ∉ spelling rest := by
        simpa [spelling] using free
      have first : ∀ behind, unstyled (coloured true token ++ behind) = token.raw ++ unstyled behind := by
        intro behind
        unfold coloured
        cases token.kind.ink with
        | none => exact unstyled_append here behind
        | some ink => exact ink.unstyled_apply here behind
      rw [List.flatMap_cons, List.append_assoc, first, ih later]
      simp [spelling]

theorem coloured_plain {tokens : List Token} (plain : ∀ token ∈ tokens, token.kind.ink = none) :
    tokens.flatMap (coloured true) = spelling tokens := by
  induction tokens with
  | nil => rfl
  | cons token rest ih =>
      have here := plain token List.mem_cons_self
      have later := ih fun other member => plain other (List.mem_cons_of_mem token member)
      simp [spelling, coloured, here, later]

/-- Behind the last coloured token the painted text ends with the sequence that clears its colour. -/
theorem inked_ends_cleared (tokens : List Token) (some_ink : inked tokens ≠ []) :
    ∃ front, (inked tokens).flatMap (coloured true) = front ++ ['m'] := by
  -- The last of these tokens has a colour, or it would have been dropped.
  have last := List.rdropWhile_last_not (fun token : Token => token.kind.ink.isNone) tokens some_ink
  obtain ⟨ink, found⟩ : ∃ ink, ((inked tokens).getLast some_ink).kind.ink = some ink := by
    cases found : ((inked tokens).getLast some_ink).kind.ink with
    | none => exact absurd (by simpa [inked] using found) last
    | some ink => exact ⟨ink, rfl⟩
  rw [← List.dropLast_append_getLast some_ink]
  refine ⟨(inked tokens).dropLast.flatMap (coloured true) ++ ink.opening
    ++ Ink.reopen ink.opening ((inked tokens).getLast some_ink).raw ++ ['\x1b', '[', '0'], ?_⟩
  simp [coloured, found, Ink.apply, Ink.clearing]

theorem inked_split (tokens : List Token) :
    ∃ plain, tokens = inked tokens ++ plain ∧ ∀ token ∈ plain, token.kind.ink = none := by
  refine ⟨tokens.rtakeWhile fun token => token.kind.ink.isNone, ?_, ?_⟩
  · exact List.rdropWhile_append_rtakeWhile.symm
  · intro token member
    simpa using List.mem_rtakeWhile_imp member

end Token

namespace Document
open Job Text Token

theorem closeLine_eq (text : Text) : closeLine text = text.rdropWhile isLineEnd ++ ['\n'] := rfl

theorem trim_append_ends (front : Text) {back : Text} (ends : ∀ c ∈ back, isLineEnd c = true) :
    (front ++ back).rdropWhile isLineEnd = front.rdropWhile isLineEnd := by
  simp only [List.rdropWhile, List.reverse_append]
  rw [List.dropWhile_append_of_pos (by simpa using ends)]

theorem trim_append_kept (front : Text) {back : Text} (kept : back.rdropWhile isLineEnd ≠ []) :
    (front ++ back).rdropWhile isLineEnd = front ++ back.rdropWhile isLineEnd := by
  have stays : back.reverse.dropWhile isLineEnd ≠ [] := by simpa [List.rdropWhile] using kept
  simp only [List.rdropWhile, List.reverse_append, List.dropWhile_append]
  simp [stays]

/-- Painted and closed, then stripped, against closed without paint: the same exactly when nothing is
trimmed in front of the end of the last coloured token. -/
theorem unstyled_closeLine_iff {tokens : List Token} (free : '\x1b' ∉ spelling tokens) :
    unstyled (closeLine (tokens.flatMap (coloured true))) = closeLine (spelling tokens) ↔
      spelling (inked tokens) <+: (spelling tokens).rdropWhile isLineEnd := by
  obtain ⟨plain, split, uncoloured⟩ := inked_split tokens
  have painted : tokens.flatMap (coloured true) =
      (inked tokens).flatMap (coloured true) ++ spelling plain := by
    conv_lhs => rw [split]
    rw [List.flatMap_append, coloured_plain uncoloured]
  have spelled : spelling tokens = spelling (inked tokens) ++ spelling plain := by
    conv_lhs => rw [split]
    exact spelling_append _ _
  have free_inked : '\x1b' ∉ spelling (inked tokens) := fun member =>
    free (spelled ▸ List.mem_append_left _ member)
  rw [closeLine_eq, closeLine_eq, painted, spelled]
  by_cases kept : (spelling plain).rdropWhile isLineEnd = []
  · -- Nothing but line ends follows the last colour, so its end stops the trimming.
    have ends : ∀ c ∈ spelling plain, isLineEnd c = true := List.rdropWhile_eq_nil_iff.mp kept
    rw [trim_append_ends _ ends, trim_append_ends _ ends]
    have stopped : ((inked tokens).flatMap (coloured true)).rdropWhile isLineEnd =
        (inked tokens).flatMap (coloured true) := by
      by_cases none_inked : inked tokens = []
      · simp [none_inked]
      · obtain ⟨front, cleared⟩ := inked_ends_cleared tokens none_inked
        rw [cleared]
        exact List.rdropWhile_concat_neg _ _ _ (by decide)
    rw [stopped, unstyled_coloured free_inked]
    constructor
    · intro same
      have whole : spelling (inked tokens) = (spelling (inked tokens)).rdropWhile isLineEnd :=
        List.append_cancel_right same
      exact ⟨[], (List.append_nil _).trans whole⟩
    · intro within
      have whole : (spelling (inked tokens)).rdropWhile isLineEnd = spelling (inked tokens) :=
        (List.rdropWhile_prefix isLineEnd _).eq_of_length_le within.length_le
      rw [whole]
      rfl
  · -- Something is kept behind the last colour, so both sides lose the same line ends.
    rw [trim_append_kept _ kept, trim_append_kept _ kept]
    have free_kept : '\x1b' ∉ (spelling plain).rdropWhile isLineEnd ++ ['\n'] := by
      intro member
      rcases List.mem_append.mp member with inside | last
      · exact free (spelled ▸ List.mem_append_right _ ((List.rdropWhile_prefix isLineEnd _).subset inside))
      · simp at last
    rw [List.append_assoc, unstyled_coloured free_inked, unstyled_free free_kept, ← List.append_assoc]
    exact ⟨fun _ => List.prefix_append _ _, fun _ => rfl⟩

theorem printout_formatted {engine : Engine Call} {document sql formatted : Text} {finish : Finish}
    (console : Console Call) (spoken : sql.isBlank = false)
    (accepted : (engine.format document sql finish).value = .ok formatted) :
    printout (formatText engine document sql finish) console = (closeLine formatted).bytes := by
  rw [printout, run_formatText_formatted rfl spoken accepted]
  rfl

variable {parser : Parser} {sql : Text}

theorem printout_plain (coloursEnabled : Bool) (config document : Text) (console : Console Call)
    (spoken : sql.isBlank = false) (clean : (parser.findings sql).value = []) :
    printout (formatText (parser.engine coloursEnabled config).value document sql .plain) console =
      (closeLine (parser.fix sql)).bytes := by
  apply printout_formatted console spoken
  simpa [clean] using parser.format_value coloursEnabled document sql .plain

theorem printout_decorated (coloursEnabled : Bool) (config document : Text) (console : Console Call)
    (spoken : sql.isBlank = false) (clean : (parser.findings sql).value = []) :
    printout (formatText (parser.engine coloursEnabled config).value document sql .decorated) console =
      (closeLine (parser.painted coloursEnabled (parser.fix sql))).bytes := by
  apply printout_formatted console spoken
  simpa [clean] using parser.format_value coloursEnabled document sql .decorated

theorem painted_off (parser : Parser) (fixed : Text) : parser.painted false fixed = fixed := by
  unfold Parser.painted
  cases (parser.tokens? fixed).value with
  | none => rfl
  | some tokens => exact colourSource_off fixed tokens

theorem unstyled_painted_iff {fixed : Text} (free : '\x1b' ∉ fixed) :
    unstyled (closeLine (parser.painted true fixed)) = closeLine fixed ↔
      ∀ tokens, (parser.tokens? fixed).value = some tokens → spelling tokens = fixed →
        spelling (inked tokens) <+: fixed.rdropWhile isLineEnd := by
  have unpainted : unstyled (closeLine fixed) = closeLine fixed := by
    apply unstyled_free
    intro member
    rcases List.mem_append.mp (closeLine_eq fixed ▸ member) with inside | last
    · exact free ((List.rdropWhile_prefix isLineEnd _).subset inside)
    · simp at last
  unfold Parser.painted
  cases (parser.tokens? fixed).value with
  | none => simpa using unpainted
  | some tokens =>
      by_cases spelled : spelling tokens = fixed
      · have agreed := unstyled_closeLine_iff (show '\x1b' ∉ spelling tokens from spelled ▸ free)
        rw [spelled] at agreed
        simpa [colourSource, spelled] using agreed
      · simpa [colourSource, spelled] using unpainted

/-- With colours, and then without the escape sequences, a formatted text is printed as it is without colours
exactly when the last coloured token of its tree ends within the text that stays once the line ends behind
it are taken off. Where colours are not enabled both are the same bytes. -/
theorem coloured_print_agrees_iff (config document : Text) (console : Console Call)
    (spoken : sql.isBlank = false) (clean : (parser.findings sql).value = [])
    (free : '\x1b' ∉ parser.fix sql) :
    ((ofBytes? (printout (formatText (parser.engine true config).value document sql .decorated) console)).map
          unstyled =
        ofBytes? (printout (formatText (parser.engine true config).value document sql .plain) console) ↔
      ∀ tokens, (parser.tokens? (parser.fix sql)).value = some tokens →
        spelling tokens = parser.fix sql →
        spelling (inked tokens) <+: (parser.fix sql).rdropWhile isLineEnd) ∧
    printout (formatText (parser.engine false config).value document sql .decorated) console =
      printout (formatText (parser.engine false config).value document sql .plain) console := by
  constructor
  · rw [printout_decorated true config document console spoken clean,
      printout_plain true config document console spoken clean, ofBytes_bytes, ofBytes_bytes,
      Option.map_some, Option.some.injEq]
    exact unstyled_painted_iff free
  · rw [printout_decorated false config document console spoken clean,
      printout_plain false config document console spoken clean, painted_off]

/-- A tree over a last line that ends in the comment `raw` and then in line feeds. -/
def commentTree (raw feeds : Text) : SyntaxTree :=
  .node "file".toList
    [.leaf "keyword".toList "SELECT".toList, .leaf "whitespace".toList [' '],
      .leaf "numeric_literal".toList ['1'], .leaf "whitespace".toList [' '],
      .leaf "inline_comment".toList raw, .leaf "newline".toList feeds]

/-- A comment that runs up to a line feed takes the carriage return in front of it into its colour. In
colours the text then keeps a line end that it loses without. -/
theorem comment_keeps_carriage_return :
    let parser := Parser.steady (.ok ⟨[], some (commentTree "-- x\r".toList ['\n'])⟩)
    let sql := "SELECT 1 -- x\r\n".toList
    let console : Console Call := ⟨.text true true, {}, {}, [], []⟩
    Text.isBlank sql = false ∧ (parser.findings sql).value = [] ∧ '\x1b' ∉ parser.fix sql ∧
    (ofBytes? (printout (formatText (parser.engine true []).value [] sql .decorated) console)).map unstyled =
      some "SELECT 1 -- x\r\n".toList ∧
    ofBytes? (printout (formatText (parser.engine true []).value [] sql .plain) console) =
      some "SELECT 1 -- x\n".toList ∧
    (ofBytes? (printout (formatText (parser.engine true []).value [] sql .decorated) console)).map unstyled ≠
      ofBytes? (printout (formatText (parser.engine true []).value [] sql .plain) console) := by
  intro parser sql console
  have spoken : Text.isBlank sql = false := by decide
  have clean : (parser.findings sql).value = [] := rfl
  have styled : (ofBytes? (printout (formatText (parser.engine true []).value [] sql .decorated) console)).map
      unstyled = some "SELECT 1 -- x\r\n".toList := by
    rw [printout_decorated true [] [] console spoken clean, ofBytes_bytes, Option.map_some]
    exact congrArg some (by decide +kernel)
  have plain : ofBytes? (printout (formatText (parser.engine true []).value [] sql .plain) console) =
      some "SELECT 1 -- x\n".toList := by
    rw [printout_plain true [] [] console spoken clean, ofBytes_bytes]
    exact congrArg some (by decide +kernel)
  refine ⟨spoken, clean, by decide, styled, plain, ?_⟩
  rw [styled, plain]
  decide

theorem comment_before_feeds_agrees :
    let parser := Parser.steady (.ok ⟨[], some (commentTree "-- x".toList ['\n', '\n'])⟩)
    let sql := "SELECT 1 -- x\n\n".toList
    let console : Console Call := ⟨.text true true, {}, {}, [], []⟩
    Text.isBlank sql = false ∧ (parser.findings sql).value = [] ∧ '\x1b' ∉ parser.fix sql ∧
    (ofBytes? (printout (formatText (parser.engine true []).value [] sql .decorated) console)).map unstyled =
      ofBytes? (printout (formatText (parser.engine true []).value [] sql .plain) console) := by
  intro parser sql console
  have spoken : Text.isBlank sql = false := by decide
  have clean : (parser.findings sql).value = [] := rfl
  have free : '\x1b' ∉ parser.fix sql := by decide
  refine ⟨spoken, clean, free, ?_⟩
  apply (coloured_print_agrees_iff [] [] console spoken clean free).1.mpr
  intro tokens found _
  obtain rfl : SyntaxTree.tokens (commentTree "-- x".toList ['\n', '\n']) = tokens := Option.some.inj found
  decide +kernel

end Document
end SqlCheck
