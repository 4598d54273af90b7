import SqlCheck.Parser
import SqlCheck.Proofs.Offsets

/-! The token that a finding names. The slice of a violation counts if it cuts a piece out of the text between two
characters; otherwise the token is what stands at the place of the finding, and that never runs over the end of the
line. Whatever numbers the violation has, the token is a piece of the text. -/
namespace SqlCheck

namespace Text

theorem size_eq_zero {text : Text} (none : text.size = 0) : text = [] := by
  cases text with
  | nil => rfl
  | cons c rest =>
      have positive := c.utf8Size_pos
      rw [size_cons] at none
      omega

theorem before_size_append (front back : Text) : before? front.size (front ++ back) = some front := by
  induction front with
  | nil => simp [before?]
  | cons c rest ih =>
      have positive := c.utf8Size_pos
      obtain ⟨n, split⟩ : ∃ n, c.utf8Size + size rest = n + 1 := ⟨c.utf8Size + size rest - 1, by omega⟩
      have remaining : n + 1 - c.utf8Size = size rest := by omega
      have fits : c.utf8Size ≤ n + 1 := by omega
      simp only [List.cons_append, size_cons, split, before?, fits, if_true, remaining, ih, Option.map_some]

theorem split_of_after {text rest : Text} {offset : Nat} (found : text.after? offset = some rest) :
    ∃ front, text = front ++ rest ∧ front.size = offset := by
  fun_induction after? offset text with
  | case1 text =>
      cases found
      exact ⟨[], rfl, rfl⟩
  | case2 => cases found
  | case3 n c behind fits ih =>
      obtain ⟨front, split, reached⟩ := ih found
      refine ⟨c :: front, congrArg (c :: ·) split, ?_⟩
      rw [size_cons, reached]
      omega
  | case4 => cases found

theorem split_of_before {text front : Text} {offset : Nat} (found : text.before? offset = some front) :
    ∃ back, text = front ++ back ∧ front.size = offset := by
  fun_induction before? offset text generalizing front with
  | case1 text =>
      cases found
      exact ⟨text, rfl, rfl⟩
  | case2 => cases found
  | case3 n c behind fits ih =>
      obtain ⟨inner, same, rfl⟩ := Option.map_eq_some_iff.mp found
      obtain ⟨back, split, reached⟩ := ih same
      refine ⟨back, congrArg (c :: ·) split, ?_⟩
      rw [size_cons, reached]
      omega
  | case4 => cases found

theorem slice_eq_some_iff {text piece : Text} {start stop : Nat} :
    text.slice? start stop = some piece ↔
      ∃ front back, text = front ++ piece ++ back ∧ front.size = start ∧ (front ++ piece).size = stop := by
  constructor
  · intro cut
    unfold slice? at cut
    split at cut
    case isFalse => cases cut
    case isTrue ordered =>
      obtain ⟨rest, later, inner⟩ := Option.bind_eq_some_iff.mp cut
      obtain ⟨front, rfl, reached⟩ := split_of_after later
      obtain ⟨back, rfl, length⟩ := split_of_before inner
      refine ⟨front, back, (List.append_assoc ..).symm, reached, ?_⟩
      rw [size_append]
      omega
  · rintro ⟨front, back, rfl, rfl, rfl⟩
    have length : size (front ++ piece) - front.size = piece.size := by
      rw [size_append]
      omega
    rw [slice?, if_pos (size_prefix_le (List.prefix_append ..)), List.append_assoc, after_size_append,
      Option.bind_some, length, before_size_append]

theorem bytes_between (front piece back : Text) :
    ((bytes (front ++ piece ++ back)).take (size (front ++ piece))).drop front.size = piece.bytes := by
  rw [take_bytes, drop_bytes]

theorem exists_slice {text : Text} {start stop : Nat} (ordered : start < stop) (first : text.IsBoundary start)
    (last : text.IsBoundary stop) : ∃ piece, piece ≠ [] ∧ text.slice? start stop = some piece := by
  obtain ⟨front, begins, rfl⟩ := first
  obtain ⟨whole, ends, rfl⟩ := last
  rcases List.prefix_or_prefix_of_prefix begins ends with ⟨piece, rfl⟩ | within
  · obtain ⟨back, rfl⟩ := ends
    refine ⟨piece, ?_, slice_eq_some_iff.mpr ⟨front, back, rfl, rfl, rfl⟩⟩
    rintro rfl
    simp at ordered
  · have shorter := size_prefix_le within
    omega

/-- What a text begins with: a word up to the first character that is not of it, or else a single character unless
it is white space. -/
inductive LeadsWith : Text → Text → Prop
  | word {token back : Text} (begun : token ≠ []) (own : ∀ c ∈ token, isWordChar c = true)
      (ended : ∀ c, back.head? = some c → isWordChar c = false) : LeadsWith (token ++ back) token
  | mark {c : Char} {back : Text} (other : isWordChar c = false) (seen : isWhiteSpace c = false) :
      LeadsWith (c :: back) [c]
  | space {c : Char} {back : Text} (other : isWordChar c = false) (white : isWhiteSpace c = true) :
      LeadsWith (c :: back) []
  | nothing : LeadsWith [] []

theorem leadingToken_leads (text : Text) : text.LeadsWith (leadingToken text) := by
  cases text with
  | nil => exact .nothing
  | cons c rest =>
      by_cases word : isWordChar c = true
      · have split : c :: rest = c :: rest.takeWhile isWordChar ++ rest.dropWhile isWordChar := by
          rw [List.cons_append, List.takeWhile_append_dropWhile]
        rw [leadingToken, if_pos word]
        conv => arg 1; rw [split]
        refine .word (List.cons_ne_nil c _) (fun d member => ?_) (fun d first => ?_)
        · rcases List.mem_cons.mp member with rfl | later
          · exact word
          · exact List.mem_takeWhile_imp later
        · have stopped := List.head?_dropWhile_not isWordChar rest
          rw [first] at stopped
          exact stopped
      · rw [leadingToken, if_neg word]
        by_cases white : isWhiteSpace c = true
        · rw [if_pos white]
          exact .space (Bool.eq_false_iff.mpr word) white
        · rw [if_neg white]
          exact .mark (Bool.eq_false_iff.mpr word) (Bool.eq_false_iff.mpr white)

theorem takeWhile_word {own back : Text} (word : ∀ c ∈ own, isWordChar c = true)
    (ended : ∀ c, back.head? = some c → isWordChar c = false) : (own ++ back).takeWhile isWordChar = own := by
  have stopped : back.takeWhile isWordChar = [] := by
    cases back with
    | nil => rfl
    | cons c rest => rw [List.takeWhile_cons, ended c rfl, if_neg Bool.false_ne_true]
  rw [List.takeWhile_append_of_pos word, stopped, List.append_nil]

theorem leadsWith_iff {text token : Text} : text.LeadsWith token ↔ leadingToken text = token := by
  constructor
  · intro leads
    cases leads with
    | word begun own ended =>
        cases token with
        | nil => exact absurd rfl begun
        | cons c rest =>
            obtain ⟨word, later⟩ := List.forall_mem_cons.mp own
            rw [List.cons_append, leadingToken, if_pos word, takeWhile_word later ended]
    | mark other seen => simp [leadingToken, other, seen]
    | space other white => simp [leadingToken, other, white]
    | nothing => rfl
  · rintro rfl
    exact leadingToken_leads text

theorem isWordChar_feed : isWordChar '\n' = false := by decide +kernel

theorem LeadsWith.within_line {text token : Text} (leads : text.LeadsWith token) : token <+: text.line := by
  cases leads with
  | @word token back begun own ended =>
      have free : '\n' ∉ token := fun member => absurd (own '\n' member) (by simp [isWordChar_feed])
      rw [line_append free]
      exact List.prefix_append ..
  | @mark c back other seen =>
      have free : '\n' ∉ [c] := by
        intro member
        rw [← List.mem_singleton.mp member] at seen
        cases seen
      exact (line_append free back) ▸ List.prefix_append ..
  | space => exact List.nil_prefix
  | nothing => exact List.nil_prefix

end Text

namespace LineTable
open Text

theorem isLine_of_boundary (front back : Text) :
    (front ++ back).IsLine
      ((ofText (front ++ back)).lineStart ((ofText (front ++ back)).position front.size).line)
      (front.size + back.line.size) := by
  obtain ⟨rest, split, ended⟩ := line_split back
  have halves : front.rdropWhile (· ≠ '\n') ++ front.rtakeWhile (· ≠ '\n') = front := List.rdropWhile_append_rtakeWhile
  refine ⟨front.rdropWhile (· ≠ '\n'), front.rtakeWhile (· ≠ '\n') ++ back.line, rest, ?_, ?_, ?_, ?_, ended⟩
  · rw [← List.append_assoc, halves, List.append_assoc, ← split]
  · rw [lineStart_of_boundary]
  · rw [← List.append_assoc, halves, size_append]
  · rw [List.mem_append, not_or]
    exact ⟨fun member => by simpa using List.mem_rtakeWhile_imp member, not_mem_line back⟩

end LineTable

namespace Violation
open Text

/-- The slice of the violation has a first and a last character of the text. -/
def Cuts (sql : Text) (violation : Violation) : Prop :=
  violation.start < violation.stop ∧ violation.stop ≤ sql.size ∧ sql.IsBoundary violation.start ∧
    sql.IsBoundary violation.stop

theorem cuts_iff {sql : Text} {violation : Violation} :
    violation.Cuts sql ↔ ∃ piece, piece ≠ [] ∧ sql.slice? violation.start violation.stop = some piece := by
  constructor
  · rintro ⟨ordered, -, first, last⟩
    exact exists_slice ordered first last
  · rintro ⟨piece, some, cut⟩
    obtain ⟨front, back, rfl, begins, ends⟩ := slice_eq_some_iff.mp cut
    have within : front ++ piece <+: front ++ piece ++ back := List.prefix_append ..
    have last : IsBoundary (front ++ piece ++ back) violation.stop := ⟨front ++ piece, within, ends⟩
    refine ⟨?_, last.le_size, ⟨front, (List.prefix_append ..).trans within, begins⟩, last⟩
    have positive : size piece ≠ 0 := fun none => some (size_eq_zero none)
    rw [← begins, ← ends, size_append]
    omega

end Violation

namespace Finding
open Text LineTable
variable {sql : Text} {table : LineTable} {violation : Violation}

theorem token_sliced {piece : Text} (some : piece ≠ [])
    (cut : sql.slice? violation.start violation.stop = Option.some piece) :
    (ofViolation sql table violation).token = piece := by
  cases piece with
  | nil => exact absurd rfl some
  | cons c rest => simp only [ofViolation, cut]

theorem token_unsliced (uncut : ¬ violation.Cuts sql) :
    (ofViolation sql table violation).token = sql.tokenFrom (ofViolation sql table violation).offset := by
  cases cut : sql.slice? violation.start violation.stop with
  | none => simp only [ofViolation, cut]
  | some piece =>
      cases piece with
      | nil => simp only [ofViolation, cut]
      | cons c rest => exact absurd (Violation.cuts_iff.mpr ⟨c :: rest, List.cons_ne_nil c rest, cut⟩) uncut

/-- A finding stands between two characters, whatever numbers it was made from. -/
theorem offset_isBoundary (sql : Text) (violation : Violation) :
    sql.IsBoundary (ofViolation sql (.ofText sql) violation).offset := by
  obtain ⟨front, rest, rfl, -, -, -, -, offset⟩ := offset_of_cut sql violation.line
  simp only [ofViolation, offset, Option.getD_some]
  exact isBoundary_take front rest _

/-- The token of a finding is a piece of the text: the slice where the violation cuts one out, and otherwise the word
or the character that stands at the place, which ends with its line at the latest. -/
theorem token_stands_in_text (sql : Text) (violation : Violation) :
    let finding := ofViolation sql (.ofText sql) violation
    finding.token <:+: sql ∧
    (violation.Cuts sql → finding.token.bytes = (sql.bytes.take violation.stop).drop violation.start) ∧
    (¬ violation.Cuts sql → ∃ front rest stop, sql = front ++ rest ∧ front.size = finding.offset ∧
      LeadsWith rest finding.token ∧ finding.token <+: rest ∧ '\n' ∉ finding.token ∧
      sql.IsLine ((ofText sql).lineStart ((ofText sql).position finding.offset).line) stop ∧
      finding.offset + finding.token.size ≤ stop ∧
      (finding.offset = stop ∨ finding.offset = sql.size → finding.token = [])) := by
  intro finding
  by_cases cuts : violation.Cuts sql
  · obtain ⟨piece, some, cut⟩ := Violation.cuts_iff.mp cuts
    have token : finding.token = piece := token_sliced some cut
    obtain ⟨front, back, whole, begins, ends⟩ := slice_eq_some_iff.mp cut
    refine ⟨token ▸ ⟨front, back, whole.symm⟩, fun _ => ?_, fun uncut => absurd cuts uncut⟩
    rw [token, ← begins, ← ends, whole, bytes_between]
  · obtain ⟨front, ⟨rest, rfl⟩, reached⟩ := offset_isBoundary sql violation
    have token : finding.token = leadingToken rest := by
      rw [token_unsliced cuts, ← reached, tokenFrom, after_size_append]
      rfl
    have leads : LeadsWith rest finding.token := leadsWith_iff.mpr token.symm
    have within := leads.within_line
    have onward : finding.token <+: rest := within.trans (List.takeWhile_prefix _)
    refine ⟨?_, fun cut => absurd cut cuts, fun _ => ?_⟩
    · exact onward.isInfix.trans (List.suffix_append front rest).isInfix
    · have shorter := size_prefix_le within
      refine ⟨front, rest, front.size + (line rest).size, rfl, reached, leads, onward, ?_, ?_, ?_, ?_⟩
      · exact fun member => not_mem_line rest (within.subset member)
      · rw [← reached]
        exact isLine_of_boundary front rest
      · rw [← reached]
        omega
      · intro ends
        have longer := size_prefix_le onward
        have none : finding.token.size = 0 := by
          rw [← reached, size_append] at ends
          omega
        exact size_eq_zero none

/-- A slice of the middle letter, a slice that ends inside that letter, and a place behind the end of the text. -/
theorem umlaut_named_in_word :
    let sql : Text := "naïve + 1\n".toList
    let middle : Violation := ⟨1, 7, 2, 4, []⟩
    let inside : Violation := ⟨1, 1, 0, 3, []⟩
    let behind : Violation := ⟨99, UInt64.size - 1, 4, 2, []⟩
    middle.Cuts sql ∧ ¬ inside.Cuts sql ∧ ¬ behind.Cuts sql ∧
    (ofViolation sql (.ofText sql) middle).token.bytes = bytes ['ï'] ∧
    (ofViolation sql (.ofText sql) inside).token = "naïve".toList ∧
    (ofViolation sql (.ofText sql) behind).token = [] := by
  intro sql middle inside behind
  have cuts : middle.Cuts sql := Violation.cuts_iff.mpr ⟨['ï'], by decide, by decide +kernel⟩
  have uncut : ¬ inside.Cuts sql := by
    intro cut
    obtain ⟨piece, -, found⟩ := Violation.cuts_iff.mp cut
    have none : sql.slice? inside.start inside.stop = none := by decide +kernel
    rw [none] at found
    cases found
  have backwards : ¬ behind.Cuts sql := fun cut => absurd cut.1 (by decide)
  refine ⟨cuts, uncut, backwards, ?_, ?_, ?_⟩
  · rw [(token_stands_in_text sql middle).2.1 cuts]
    decide +kernel
  · obtain ⟨front, rest, -, whole, reached, leads, -⟩ := (token_stands_in_text sql inside).2.2 uncut
    have begins : front = [] := by
      refine size_eq_zero (reached.trans ?_)
      decide +kernel
    subst begins
    have all : rest = sql := whole.symm
    rw [← leadsWith_iff.mp leads, all]
    decide +kernel
  · obtain ⟨_, _, _, -, -, -, -, -, -, -, ended⟩ := (token_stands_in_text sql behind).2.2 backwards
    have last : (ofViolation sql (.ofText sql) behind).offset = sql.size := by decide +kernel
    exact ended (.inr last)

end Finding
end SqlCheck
