import SqlCheck.Proofs.Positions

/-! Offsets and positions beside each other. The way from an offset to its line and back is told in characters, the
line starts in bytes; they meet because a line feed is never part of another character, so that every line begins
between two characters. Asked for characters that are not there, an offset stays on its line. -/
namespace SqlCheck

namespace Text

/-- The offset stands between two characters of the text, or at an end of it. -/
def IsBoundary (text : Text) (offset : Nat) : Prop := ∃ front : Text, front <+: text ∧ front.size = offset

theorem IsBoundary.le_size {text : Text} {offset : Nat} (boundary : text.IsBoundary offset) : offset ≤ text.size := by
  obtain ⟨front, within, rfl⟩ := boundary
  exact size_prefix_le within

/-- Between the two offsets there is no line feed, and at the second one there is one or the text ends. -/
def IsLine (text : Text) (start stop : Nat) : Prop :=
  ∃ front own back : Text, text = front ++ own ++ back ∧ front.size = start ∧ (front ++ own).size = stop ∧
    '\n' ∉ own ∧ (back = [] ∨ back.head? = some '\n')

theorem not_mem_line (text : Text) : '\n' ∉ text.line := by
  intro member
  simpa using List.mem_takeWhile_imp member

theorem line_append {own : Text} (free : '\n' ∉ own) (back : Text) : line (own ++ back) = own ++ line back := by
  refine List.takeWhile_append_of_pos fun c member => ?_
  exact decide_eq_true fun same => free (same ▸ member)

theorem line_split (text : Text) : ∃ back, text = text.line ++ back ∧ (back = [] ∨ back.head? = some '\n') := by
  refine ⟨text.dropWhile (· ≠ '\n'), (List.takeWhile_append_dropWhile ..).symm, ?_⟩
  cases behind : text.dropWhile (· ≠ '\n') with
  | nil => exact .inl rfl
  | cons c rest =>
      have stopped := List.head?_dropWhile_not (fun c => decide (c ≠ '\n')) text
      rw [behind] at stopped
      exact .inr (by simpa using stopped)

theorem isLine_append (front rest : Text) : IsLine (front ++ rest) front.size (front ++ rest.line).size := by
  obtain ⟨back, split, ended⟩ := line_split rest
  refine ⟨front, rest.line, back, ?_, rfl, rfl, not_mem_line rest, ended⟩
  rw [List.append_assoc, ← split]

theorem IsLine.stop_le {text : Text} {start stop : Nat} (line : text.IsLine start stop) : stop ≤ text.size := by
  obtain ⟨front, own, back, rfl, -, rfl, -, -⟩ := line
  simp only [size_append]
  omega

theorem isBoundary_take (front rest : Text) (column : Nat) :
    IsBoundary (front ++ rest) (front.size + size (rest.line.take column)) := by
  have within : rest.line.take column <+: rest := (List.take_prefix ..).trans (List.takeWhile_prefix _)
  exact ⟨front ++ rest.line.take column, (List.prefix_append_right_inj front).mpr within, size_append ..⟩

theorem size_take_mono (text : Text) : Monotone fun count => size (text.take count) := by
  intro less more fewer
  have shorter : (text.take more).take less = text.take less := by rw [List.take_take, Nat.min_eq_left fewer]
  dsimp only
  rw [← shorter]
  exact size_take_le less _

theorem size_take_lt {text : Text} {less more : Nat} (fewer : less < more) (short : size (text.take less) < size text) :
    size (text.take less) < size (text.take more) := by
  induction text generalizing less more with
  | nil => simp at short
  | cons c rest ih =>
      have positive := c.utf8Size_pos
      cases more with
      | zero => omega
      | succ more =>
          cases less with
          | zero => simpa using Nat.add_pos_left positive _
          | succ less =>
              have others := ih (Nat.lt_of_succ_lt_succ fewer) (by simpa using short)
              simpa using others

theorem lastStart_bytes (text : Text) : lastStart text.bytes = size (text.rdropWhile (· ≠ '\n')) := by
  induction text using List.reverseRecOn with
  | nil => rfl
  | append_singleton front c ih =>
      have single : bytes [c] = String.utf8EncodeChar c := by simp [bytes]
      rw [bytes_append, single]
      by_cases feed : c = '\n'
      · subst feed
        have byte : String.utf8EncodeChar '\n' = [10] := by decide
        rw [byte, lastStart_feed, List.rdropWhile_concat_neg _ _ _ (by simp), length_bytes]
        simp
      · have counted := count_utf8EncodeChar c
        rw [if_neg feed, List.count_eq_zero] at counted
        rw [lastStart_append counted, ih, List.rdropWhile_concat_pos _ _ _ (by simpa using feed)]

end Text

namespace LineTable
open Text

theorem lineStart_clamped (table : LineTable) (line : Nat) :
    table.lineStart (max 1 (min line table.lineCount)) = table.lineStart line := by
  have same : max 1 (min (max 1 (min line table.lineCount)) table.lineCount) - 1 =
      max 1 (min line table.lineCount) - 1 := by omega
  rw [lineStart, same, lineStart]

theorem lineStart_of_boundary (front back : Text) :
    (ofText (front ++ back)).lineStart ((ofText (front ++ back)).position front.size).line =
      size (front.rdropWhile (· ≠ '\n')) := by
  rw [lineStart_line, take_bytes, lastStart_bytes]

theorem offset_of_boundary {front head own : Text} (split : head ++ own = front) (free : '\n' ∉ own) (back : Text)
    {line : Nat} (begun : (ofText (front ++ back)).lineStart line = head.size) :
    (ofText (front ++ back)).offset? (front ++ back) line own.length = some front.size := by
  subst split
  have within : min ((ofText (head ++ own ++ back)).lineStart line) (size (head ++ own ++ back)) = head.size := by
    rw [begun]
    simp only [size_append]
    omega
  rw [offset?, within, List.append_assoc, after_size_append, Option.map_some, line_append free, List.take_left,
    size_append]

/-- The offset of a boundary is found again from its line and from the characters between the start of the line and
the boundary. Whatever line and character are asked for, the offset is a boundary on the line that is meant, it
goes up with the character, and it stands still only at the end of the line. -/
theorem offset_undoes_position (text : Text) :
    (∀ front : Text, front <+: text →
      let place := (ofText text).position front.size
      ∃ head own : Text, front = head ++ own ∧ head.size = (ofText text).lineStart place.line ∧
        (ofText text).offset? text place.line own.length = some front.size) ∧
    ∀ line, ∃ stop,
      let start := (ofText text).lineStart (max 1 (min line (ofText text).lineCount))
      text.IsLine start stop ∧ stop ≤ text.size ∧
      ∃ reached : Nat → Nat, Monotone reached ∧ ∀ column,
        (ofText text).offset? text line column = some (reached column) ∧ text.IsBoundary (reached column) ∧
        start ≤ reached column ∧ reached column ≤ stop ∧
        (reached column < stop → ∀ further, column < further → reached column < reached further) := by
  constructor
  · rintro front ⟨back, rfl⟩ place
    have split : front.rdropWhile (· ≠ '\n') ++ front.rtakeWhile (· ≠ '\n') = front := List.rdropWhile_append_rtakeWhile
    have begun := lineStart_of_boundary front back
    have free : '\n' ∉ front.rtakeWhile (· ≠ '\n') := fun member => by simpa using List.mem_rtakeWhile_imp member
    exact ⟨_, _, split.symm, begun.symm, offset_of_boundary split free back begun⟩
  · intro line
    obtain ⟨front, rest, rfl, begun, -, -, -, offset⟩ := offset_of_cut text line
    refine ⟨(front ++ rest.line).size, ?_⟩
    rw [lineStart_clamped, begun]
    have line := isLine_append front rest
    refine ⟨line, line.stop_le, fun column => front.size + size (rest.line.take column), ?_, fun column => ?_⟩
    · intro less more fewer
      exact Nat.add_le_add_left (size_take_mono rest.line fewer) front.size
    · have short := size_take_le column rest.line
      refine ⟨offset column, isBoundary_take front rest column, Nat.le_add_right .., ?_, fun before further more => ?_⟩
      · rw [size_append]
        exact Nat.add_le_add_left short front.size
      · rw [size_append] at before
        exact Nat.add_lt_add_left (size_take_lt more (Nat.lt_of_add_lt_add_left before)) front.size

/-- Behind a letter of two bytes on the second line, and on the last line of all, asked for as line 99. -/
theorem umlaut_found_again :
    let text : Text := "é\nWörld".toList
    let front : Text := "é\nWö".toList
    front <+: text ∧ (ofText text).position front.size = ⟨2, 3⟩ ∧
    (ofText text).offset? text 2 2 = some front.size ∧
    ∃ first last, (ofText text).offset? text 99 1 = some first ∧ (ofText text).offset? text 99 99 = some last ∧
      first < last := by
  intro text front
  have within : front <+: text := ⟨"rld".toList, rfl⟩
  have place : (ofText text).position front.size = ⟨2, 3⟩ := by decide +kernel
  obtain ⟨back, forth⟩ := offset_undoes_position text
  refine ⟨within, place, ?_, ?_⟩
  · obtain ⟨head, own, split, begun, found⟩ := back front within
    rw [place] at begun found
    have characters : own = ['W', 'ö'] := by
      have cut : after? head.size front = some own := by rw [split, after_size_append]
      rw [begun, show after? ((ofText text).lineStart 2) front = some ['W', 'ö'] by decide +kernel] at cut
      exact (Option.some.inj cut).symm
    rwa [characters] at found
  · obtain ⟨stop, -, -, reached, -, each⟩ := forth 99
    have first : 4 = reached 1 := Option.some.inj ((by decide +kernel : _ = some 4).symm.trans (each 1).1)
    have last : 9 = reached 99 := Option.some.inj ((by decide +kernel : _ = some 9).symm.trans (each 99).1)
    have short : reached 1 < stop := by
      have bounded := (each 99).2.2.2.1
      omega
    exact ⟨reached 1, reached 99, (each 1).1, (each 99).1, (each 1).2.2.2.2 short 99 (by decide)⟩

end LineTable
end SqlCheck
