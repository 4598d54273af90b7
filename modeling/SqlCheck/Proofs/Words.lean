import SqlCheck.Proofs.Tokens

/-! The token at each offset of a text. An offset is behind the text, or falls into a character of it, or has a
character that begins there; only a character that begins there leads a token. A word runs from its first character to
where the run of word characters ends, and begun later, at any of its other characters, it ends at the same place. -/
namespace SqlCheck.Text

/-- A character of the text begins at the offset. -/
def Begins (text : Text) (offset : Nat) (c : Char) : Prop :=
  ∃ front back : Text, text = front ++ c :: back ∧ front.size = offset

/-- The offset falls between the bytes of one character. -/
def Splits (text : Text) (offset : Nat) : Prop :=
  ∃ (front : Text) (c : Char) (back : Text),
    text = front ++ c :: back ∧ front.size < offset ∧ offset < front.size + c.utf8Size

theorem begins_size_append (front back : Text) (c : Char) :
    (front ++ back).Begins front.size c ↔ back.head? = some c := by
  constructor
  · rintro ⟨other, rest, same, reached⟩
    have here := after_size_append front back
    rw [← reached, same, after_size_append] at here
    cases here
    rfl
  · intro first
    obtain ⟨rest, rfl⟩ := List.head?_eq_some_iff.mp first
    exact ⟨front, rest, rfl, rfl⟩

theorem Begins.not_splits {text : Text} {offset : Nat} {c : Char} (begins : text.Begins offset c) :
    ¬ text.Splits offset := by
  rintro ⟨front, d, back, rfl, later, earlier⟩
  obtain ⟨other, rest, same, reached⟩ := begins
  have own : front ++ [d] <+: front ++ d :: back := ⟨back, by simp⟩
  have theirs : other <+: front ++ d :: back := ⟨c :: rest, same.symm⟩
  -- The character that is split ends at or before the place, or the place is reached without it.
  rcases List.prefix_or_prefix_of_prefix own theirs with whole | part
  · have reaching := size_prefix_le whole
    simp only [size_append, size_cons, size_nil] at reaching
    omega
  · rcases List.prefix_concat_iff.mp part with rfl | short
    · simp only [size_append, size_cons, size_nil] at reached
      omega
    · have shorter := size_prefix_le short
      omega

theorem Begins.lt_size {text : Text} {offset : Nat} {c : Char} (begins : text.Begins offset c) :
    offset < text.size := by
  obtain ⟨front, back, rfl, rfl⟩ := begins
  have positive := c.utf8Size_pos
  simp only [size_append, size_cons]
  omega

theorem not_begins_iff (text : Text) (offset : Nat) :
    (∀ c, ¬ text.Begins offset c) ↔ text.size ≤ offset ∨ text.Splits offset := by
  constructor
  · intro none
    induction text generalizing offset with
    | nil => exact .inl (Nat.zero_le offset)
    | cons c rest ih =>
        by_cases start : offset = 0
        · exact absurd ⟨[], rest, rfl, start.symm⟩ (none c)
        by_cases inside : offset < c.utf8Size
        · exact .inr ⟨[], c, rest, rfl, Nat.pos_of_ne_zero start, by simpa using inside⟩
        · obtain ⟨further, rfl⟩ := Nat.exists_eq_add_of_le (Nat.le_of_not_lt inside)
          have later : ∀ d, ¬ Begins rest further d := by
            rintro d ⟨front, back, rfl, rfl⟩
            exact none d ⟨c :: front, back, rfl, rfl⟩
          rcases ih further later with past | ⟨front, d, back, rfl, low, high⟩
          · exact .inl (Nat.add_le_add_left past _)
          · have moved : size (c :: front) = c.utf8Size + front.size := size_cons c front
            exact .inr ⟨c :: front, d, back, rfl, by omega, by omega⟩
  · rintro (past | splits) c begins
    · exact absurd begins.lt_size (Nat.not_lt.mpr past)
    · exact begins.not_splits splits

theorem tokenFrom_size_append (front rest : Text) : tokenFrom (front ++ rest) front.size = leadingToken rest := by
  rw [tokenFrom, after_size_append]
  rfl

theorem tokenFrom_of_not_begins {text : Text} {offset : Nat} (none : ∀ c, ¬ text.Begins offset c) :
    text.tokenFrom offset = [] := by
  unfold tokenFrom
  cases found : text.after? offset with
  | none => rfl
  | some rest =>
      obtain ⟨front, rfl, rfl⟩ := split_of_after found
      cases rest with
      | nil => rfl
      | cons c back => exact absurd ⟨front, back, rfl, rfl⟩ (none c)

theorem leadingToken_eq_nil_iff (c : Char) (rest : Text) :
    leadingToken (c :: rest) = [] ↔ isWhiteSpace c = true ∧ isWordChar c = false := by
  by_cases word : isWordChar c = true
  · simp [leadingToken, word]
  · by_cases white : isWhiteSpace c = true <;> simp [leadingToken, word, white]

theorem tokenFrom_eq_nil_iff (text : Text) (offset : Nat) :
    text.tokenFrom offset = [] ↔ (∀ c, ¬ text.Begins offset c) ∨
      ∃ c, text.Begins offset c ∧ isWhiteSpace c = true ∧ isWordChar c = false := by
  constructor
  · intro none
    by_cases begun : ∃ c, text.Begins offset c
    · obtain ⟨c, begins⟩ := begun
      obtain ⟨front, back, rfl, rfl⟩ := id begins
      rw [tokenFrom_size_append] at none
      exact .inr ⟨c, begins, (leadingToken_eq_nil_iff c back).mp none⟩
    · exact .inl (not_exists.mp begun)
  · rintro (unbegun | ⟨c, ⟨front, back, rfl, rfl⟩, white⟩)
    · exact tokenFrom_of_not_begins unbegun
    · rw [tokenFrom_size_append]
      exact (leadingToken_eq_nil_iff c back).mpr white

/-- Some word characters, and none right behind them. -/
structure IsRun (run back : Text) : Prop where
  own : ∀ c ∈ run, isWordChar c = true
  ended : ∀ c, back.head? = some c → isWordChar c = false

theorem exists_run {c : Char} (word : isWordChar c = true) (rest : Text) :
    ∃ back, c :: rest = leadingToken (c :: rest) ++ back ∧ IsRun (leadingToken (c :: rest)) back := by
  have leads := leadingToken_leads (c :: rest)
  generalize leadingToken (c :: rest) = token at leads ⊢
  generalize whole : c :: rest = text at leads ⊢
  cases leads with
  | word _ own ended => exact ⟨_, rfl, own, ended⟩
  | mark other | space other =>
      cases whole
      rw [word] at other
      cases other
  | nothing => cases whole

namespace IsRun

theorem later {head own back : Text} (run : IsRun (head ++ own) back) : IsRun own back where
  own c member := run.own c (List.mem_append_right head member)
  ended := run.ended

theorem leadingToken_eq {run back : Text} (begun : run ≠ []) (ends : IsRun run back) :
    leadingToken (run ++ back) = run :=
  leadsWith_iff.mp (.word begun ends.own ends.ended)

/-- Begun at another of its characters, a run is taken up to the same end. -/
theorem tokenFrom_later (front : Text) {run back : Text} (ends : IsRun run back) {p : Nat} (boundary : run.IsBoundary p)
    (inside : p < run.size) :
    (tokenFrom (front ++ (run ++ back)) (front.size + p)).bytes = run.bytes.drop p ∧
    p + (tokenFrom (front ++ (run ++ back)) (front.size + p)).size = run.size := by
  obtain ⟨head, ⟨own, rfl⟩, rfl⟩ := boundary
  have begun : own ≠ [] := by
    rintro rfl
    simp at inside
  have taken : tokenFrom (front ++ (head ++ own ++ back)) (front.size + head.size) = own := by
    have regrouped : front ++ (head ++ own ++ back) = front ++ head ++ (own ++ back) := by simp
    rw [regrouped, ← size_append, tokenFrom_size_append]
    exact ends.later.leadingToken_eq begun
  constructor
  · rw [taken, drop_bytes]
  · rw [taken, size_append]

end IsRun

theorem tokenFrom_within (text : Text) (offset : Nat) :
    (text.tokenFrom offset).bytes <+: text.bytes.drop offset := by
  by_cases begun : ∃ c, text.Begins offset c
  · obtain ⟨c, front, back, rfl, rfl⟩ := begun
    have onward : leadingToken (c :: back) <+: c :: back :=
      (leadingToken_leads (c :: back)).within_line.trans (List.takeWhile_prefix _)
    obtain ⟨(rest : Text), split⟩ := onward
    rw [tokenFrom_size_append, drop_bytes]
    exact ⟨rest.bytes, by rw [← bytes_append, split]⟩
  · rw [tokenFrom_of_not_begins (not_exists.mp begun)]
    exact List.nil_prefix

theorem run_at {text : Text} {offset : Nat} {c : Char} (begins : text.Begins offset c) (word : isWordChar c = true) :
    ∃ front back, text = front ++ (text.tokenFrom offset ++ back) ∧ front.size = offset ∧
      IsRun (text.tokenFrom offset) back := by
  obtain ⟨front, rest, rfl, rfl⟩ := begins
  obtain ⟨back, whole, run⟩ := exists_run word rest
  rw [tokenFrom_size_append]
  exact ⟨front, back, congrArg (front ++ ·) whole, rfl, run⟩

/-- The token at an offset begins there, and there is none where no character begins or where one of white space
does. If the character there is of a word, the token is the run of word characters from there on, and it is the rest
of the same run that stands at every other character of it. Any other character is a token of its own. -/
theorem whole_words_taken (text : Text) (offset : Nat) :
    let token := text.tokenFrom offset
    token.bytes <+: text.bytes.drop offset ∧
    ((∀ c, ¬ text.Begins offset c) ↔ text.size ≤ offset ∨ text.Splits offset) ∧
    (token = [] ↔ (∀ c, ¬ text.Begins offset c) ∨
      ∃ c, text.Begins offset c ∧ isWhiteSpace c = true ∧ isWordChar c = false) ∧
    ∀ c, text.Begins offset c →
      (isWordChar c = true →
        (∀ d ∈ token, isWordChar d = true) ∧ (∀ d, text.Begins (offset + token.size) d → isWordChar d = false) ∧
        ∀ p, token.IsBoundary p → p < token.size →
          (text.tokenFrom (offset + p)).bytes = token.bytes.drop p ∧
          offset + p + (text.tokenFrom (offset + p)).size = offset + token.size) ∧
      (isWordChar c = false → token ≠ [] → token = [c]) := by
  intro token
  refine ⟨tokenFrom_within text offset, not_begins_iff text offset, tokenFrom_eq_nil_iff text offset, ?_⟩
  intro c begins
  constructor
  · intro word
    obtain ⟨front, back, whole, reached, run⟩ := run_at begins word
    refine ⟨run.own, fun d next => ?_, fun p boundary inside => ?_⟩
    · have behind := begins_size_append (front ++ token) back d
      rw [List.append_assoc, ← whole, size_append, reached] at behind
      exact run.ended d (behind.mp next)
    · obtain ⟨rest, stop⟩ := run.tokenFrom_later front boundary inside
      rw [← whole, reached] at rest stop
      exact ⟨rest, by rw [Nat.add_assoc, stop]⟩
  · intro other some
    obtain ⟨front, rest, rfl, rfl⟩ := begins
    have here : token = leadingToken (c :: rest) := tokenFrom_size_append front (c :: rest)
    rw [here] at some ⊢
    have dark : ¬ isWhiteSpace c = true := fun white => some ((leadingToken_eq_nil_iff c rest).mpr ⟨white, other⟩)
    exact leadsWith_iff.mp (.mark other (Bool.eq_false_iff.mpr dark))

/-- A word between a bracket and a blank of two bytes, from its start and from its fourth character, an offset that
splits its third character, the bracket and the blank. -/
theorem umlauts_within_word_taken :
    let sql : Text := "(Größe_2\u00a0+".toList
    sql.Begins 1 'G' ∧ isWordChar 'G' = true ∧ (sql.tokenFrom 1).IsBoundary 4 ∧ 4 < (sql.tokenFrom 1).size ∧
    (∀ c ∈ sql.tokenFrom 1, isWordChar c = true) ∧ isWordChar '\u00a0' = false ∧
    (sql.tokenFrom 5).bytes = bytes "ße_2".toList ∧ 5 + (sql.tokenFrom 5).size = 1 + (sql.tokenFrom 1).size ∧
    sql.tokenFrom 4 = [] ∧ sql.tokenFrom 0 = ['('] ∧ sql.tokenFrom 10 = [] := by
  intro sql
  have taken : sql.tokenFrom 1 = "Größe_2".toList := by decide +kernel
  have begins : sql.Begins 1 'G' := ⟨['('], "röße_2\u00a0+".toList, by decide +kernel, by decide⟩
  have blank : sql.Begins 10 '\u00a0' := ⟨"(Größe_2".toList, ['+'], by decide +kernel, by decide⟩
  have begun : isWordChar 'G' = true := by decide +kernel
  have boundary : (sql.tokenFrom 1).IsBoundary 4 := ⟨"Grö".toList, ⟨"ße_2".toList, taken.symm⟩, by decide⟩
  have inside : 4 < (sql.tokenFrom 1).size := by
    rw [taken]
    decide
  have split : sql.Splits 4 := ⟨"(Gr".toList, 'ö', "ße_2\u00a0+".toList, by decide +kernel, by decide, by decide⟩
  obtain ⟨own, ended, later⟩ := ((whole_words_taken sql 1).2.2.2 'G' begins).1 begun
  obtain ⟨rest, stop⟩ := later 4 boundary inside
  have behind : 1 + (sql.tokenFrom 1).size = 10 := by
    rw [taken]
    decide
  refine ⟨begins, begun, boundary, inside, own, ended '\u00a0' (behind ▸ blank), ?_, stop, ?_, ?_, ?_⟩
  · rw [rest, taken]
    decide
  · obtain ⟨-, unbegun, empty, -⟩ := whole_words_taken sql 4
    exact empty.mpr (.inl (unbegun.mpr (.inr split)))
  · have bracket : sql.Begins 0 '(' := ⟨[], "Größe_2\u00a0+".toList, by decide +kernel, rfl⟩
    obtain ⟨-, -, empty, each⟩ := whole_words_taken sql 0
    refine (each '(' bracket).2 (by decide +kernel) ?_
    decide +kernel
  · obtain ⟨-, -, empty, -⟩ := whole_words_taken sql 10
    exact empty.mpr (.inr ⟨'\u00a0', blank, by decide, by decide +kernel⟩)

end SqlCheck.Text
