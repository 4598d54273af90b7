import Mathlib.Data.List.DropRight
import Mathlib.Data.Nat.Find
import Mathlib.Data.Prod.Lex
import SqlCheck.Proofs.Lines

/-! The position of an offset, said by the bytes in front of it: the line feeds among them are the lines that are
over, and what stands behind the last of them is the column. An offset needs no character to begin there, so all
of this is about bytes. That halving the table of starts comes to the same is what has to be proved, and from it
that positions stand in the order of their offsets. -/
namespace SqlCheck

/-- Positions in reading order: by their lines, and on one line by their columns. -/
def Position.rank (place : Position) : ℕ ×ₗ ℕ := toLex (place.line, place.column)

namespace Text

/-- Where the last line among some bytes begins: behind their last line feed, or with them if they have none. -/
def lastStart (bytes : List UInt8) : Nat := (bytes.rdropWhile (· != 10)).length

theorem length_bytes (text : Text) : text.bytes.length = text.size := by
  induction text with
  | nil => rfl
  | cons c rest ih =>
      rw [bytes_cons, List.length_append, String.length_utf8EncodeChar, ih, size_cons]

theorem take_bytes (front back : Text) : (bytes (front ++ back)).take front.size = front.bytes := by
  rw [bytes_append, List.take_left' (length_bytes front)]

theorem drop_bytes (front back : Text) : (bytes (front ++ back)).drop front.size = back.bytes := by
  rw [bytes_append, List.drop_left' (length_bytes front)]

theorem lastStart_le (bytes : List UInt8) : lastStart bytes ≤ bytes.length :=
  (List.rdropWhile_prefix _ _).length_le

theorem lastStart_feed (bytes : List UInt8) : lastStart (bytes ++ [10]) = bytes.length + 1 := by
  rw [lastStart, List.rdropWhile_concat_neg _ _ _ (by decide), List.length_append, List.length_singleton]

theorem lastStart_append {more : List UInt8} (free : 10 ∉ more) (bytes : List UInt8) :
    lastStart (bytes ++ more) = lastStart bytes := by
  have passed : ∀ byte ∈ more.reverse, (byte != 10) = true := by
    intro byte member
    exact bne_iff_ne.mpr fun same => free (same ▸ List.mem_reverse.mp member)
  simp only [lastStart, List.rdropWhile, List.reverse_append]
  rw [List.dropWhile_append_of_pos passed]

def feeds (bytes : List UInt8) : List Nat := (bytes.findIdxs (· == 10)).map (· + 1)

/-- Of all the starts, the one with as many in front of it as `front` has line feeds is the last start of `front`. -/
theorem feeds_at_count (front back : List UInt8) :
    (0 :: feeds (front ++ back))[front.count 10]? = some (lastStart front) := by
  induction front using List.reverseRecOn generalizing back with
  | nil => rfl
  | append_singleton front byte ih =>
      by_cases feed : byte = 10
      · subst feed
        have counted : (front ++ [10]).count 10 = (front.findIdxs (· == 10)).length + 1 := by
          simp [List.count]
        rw [counted, lastStart_feed, List.append_assoc, feeds, List.findIdxs_append]
        simp
      · have counted : (front ++ [byte]).count 10 = front.count 10 := by simp [feed]
        rw [counted, lastStart_append (by simpa using Ne.symm feed), List.append_assoc]
        exact ih (byte :: back)

theorem feeds_behind_count {front back : List UInt8} {next : Nat}
    (listed : (feeds (front ++ back))[front.count 10]? = some next) : front.length < next ∧ back ≠ [] := by
  have counted : front.count 10 = (front.findIdxs (· == 10)).length := by simp [List.count]
  rw [feeds, List.findIdxs_append, counted, List.map_append, List.getElem?_append_right (by simp)] at listed
  obtain ⟨place, member, rfl⟩ := List.mem_map.mp (List.mem_of_getElem? listed)
  have behind := List.ge_of_mem_findIdxs place member
  refine ⟨by omega, ?_⟩
  rintro rfl
  simp at member

end Text

namespace LineTable
open Text

theorem startsFrom_eq (offset : Nat) (text : Text) :
    startsFrom offset text = (text.bytes.findIdxs (· == 10) offset).map (· + 1) := by
  induction text generalizing offset with
  | nil => rfl
  | cons c rest ih =>
      have counted := count_utf8EncodeChar c
      rw [bytes_cons, List.findIdxs_append, String.length_utf8EncodeChar]
      by_cases feed : c = '\n'
      · subst feed
        have single : String.utf8EncodeChar '\n' = [10] := by decide
        simp [startsFrom, single, ih]
      · -- Of the bytes of another character none is taken for a line feed.
        rw [if_neg feed, List.count_eq_zero] at counted
        have unfound : (String.utf8EncodeChar c).findIdxs (· == 10) offset = [] :=
          List.findIdxs_eq_nil_iff.mpr fun byte member => beq_eq_false_iff_ne.mpr fun same => counted (same ▸ member)
        simp [startsFrom, feed, unfound, ih]

theorem getElem?_starts (text : Text) (index : Nat) :
    (ofText text).starts[index]? = (0 :: feeds text.bytes)[index]? := by
  simp [ofText, startsFrom_eq, feeds]

theorem position_column_le (table : LineTable) (offset : Nat) : (table.position offset).column ≤ offset :=
  Nat.sub_le ..

section Offset
variable (text : Text) (offset : Nat)

theorem lt_next_start {next : Nat} (listed : (feeds text.bytes)[(text.bytes.take offset).count 10]? = some next) :
    offset < next := by
  obtain ⟨behind, more⟩ := feeds_behind_count (by rwa [List.take_append_drop] : (feeds
    (text.bytes.take offset ++ text.bytes.drop offset))[(text.bytes.take offset).count 10]? = some next)
  -- There is something at the offset, so the bytes in front of it are as many as it says.
  have whole : offset < text.bytes.length := by simpa using more
  rw [List.length_take] at behind
  omega

theorem lastStart_take_le : lastStart (text.bytes.take offset) ≤ offset :=
  Nat.le_trans (lastStart_le _) (List.length_take_le ..)

/-- The line is found by counting the line feeds in front of the offset, and the column behind the last of them. -/
theorem position_eq :
    (ofText text).position offset =
      ⟨(text.bytes.take offset).count 10 + 1, offset - lastStart (text.bytes.take offset)⟩ := by
  have listed := feeds_at_count (text.bytes.take offset) (text.bytes.drop offset)
  rw [List.take_append_drop, ← getElem?_starts] at listed
  refine position_from_start listed (lastStart_take_le text offset) fun next found => ?_
  rw [getElem?_starts, List.getElem?_cons_succ] at found
  exact lt_next_start text offset found

theorem one_le_position_line : 1 ≤ ((ofText text).position offset).line := by
  rw [position_eq]
  exact Nat.le_add_left ..

theorem position_line_le : ((ofText text).position offset).line ≤ (ofText text).lineCount := by
  have fewer : (text.bytes.take offset).count 10 ≤ text.bytes.count 10 := (List.take_sublist ..).count_le 10
  rw [position_eq, lineCount_ofText, ← count_bytes]
  exact Nat.succ_le_succ fewer

theorem lineStart_line :
    (ofText text).lineStart ((ofText text).position offset).line = lastStart (text.bytes.take offset) := by
  have within : max 1 (min ((ofText text).position offset).line (ofText text).lineCount) - 1 =
      (text.bytes.take offset).count 10 := by
    rw [Nat.min_eq_left (position_line_le text offset), Nat.max_eq_right (one_le_position_line text offset), position_eq]
    rfl
  have listed := feeds_at_count (text.bytes.take offset) (text.bytes.drop offset)
  rw [List.take_append_drop, ← getElem?_starts] at listed
  rw [lineStart, within, listed, Option.getD_some]

theorem lineStart_add_column :
    (ofText text).lineStart ((ofText text).position offset).line + ((ofText text).position offset).column =
      offset := by
  rw [lineStart_line, position_eq]
  exact Nat.add_sub_cancel' (lastStart_take_le text offset)

end Offset

theorem starts_lineStart {text : Text} {number : Nat} (one : 1 ≤ number) (known : number ≤ (ofText text).lineCount) :
    (ofText text).starts[number - 1]? = some ((ofText text).lineStart number) := by
  have inside : number - 1 < (ofText text).starts.size := by
    unfold lineCount at known
    omega
  rw [lineStart, Nat.min_eq_left known, Nat.max_eq_right one, Array.getElem?_eq_getElem inside, Option.getD_some]

theorem lineStart_lt {text : Text} {first second : Nat} (one : 1 ≤ first) (before : first < second)
    (known : second ≤ (ofText text).lineCount) :
    (ofText text).lineStart first < (ofText text).lineStart second := by
  have ascending := List.pairwise_iff_getElem.mp (starts_ascending 0 text)
  have here := starts_lineStart one (by omega : first ≤ (ofText text).lineCount)
  have there := starts_lineStart (by omega : 1 ≤ second) known
  simp only [ofText, List.getElem?_toArray] at here there
  obtain ⟨inside, own⟩ := List.getElem?_eq_some_iff.mp here
  obtain ⟨also, other⟩ := List.getElem?_eq_some_iff.mp there
  have below := ascending (first - 1) (second - 1) inside also (by omega)
  rwa [own, other] at below

theorem lineStart_le_iff {text : Text} {number : Nat} (one : 1 ≤ number) (known : number ≤ (ofText text).lineCount)
    (offset : Nat) :
    (ofText text).lineStart number ≤ offset ↔ number ≤ ((ofText text).position offset).line := by
  have own := lineStart_add_column text offset
  have least := one_le_position_line text offset
  constructor
  · intro begun
    by_contra later
    -- The line behind the offset's own begins behind the offset, and this one no sooner.
    have next_known : ((ofText text).position offset).line + 1 ≤ (ofText text).lineCount := by omega
    have listed := starts_lineStart (Nat.le_add_left ..) next_known
    rw [Nat.add_sub_cancel, getElem?_starts, position_eq, List.getElem?_cons_succ] at listed
    have beyond := lt_next_start text offset listed
    rcases Nat.lt_or_eq_of_le (by omega : ((ofText text).position offset).line + 1 ≤ number) with after | same
    · have above := lineStart_lt (Nat.le_add_left ..) after known
      rw [position_eq] at above
      omega
    · rw [position_eq] at same
      rw [same] at beyond
      omega
  · intro early
    rcases Nat.lt_or_eq_of_le early with before | same
    · have below := lineStart_lt one before (position_line_le text offset)
      omega
    · rw [same]
      omega

theorem rank_strictMono (text : Text) : StrictMono fun offset => ((ofText text).position offset).rank := by
  intro first second before
  have here := lineStart_add_column text first
  have there := lineStart_add_column text second
  have ordered : ((ofText text).position first).line ≤ ((ofText text).position second).line := by
    refine (lineStart_le_iff (one_le_position_line text first) (position_line_le text first) second).mp ?_
    omega
  refine Prod.Lex.toLex_lt_toLex.mpr ?_
  rcases Nat.lt_or_eq_of_le ordered with earlier | same
  · exact .inl earlier
  · refine .inr ⟨same, ?_⟩
    rw [← same] at there
    dsimp only
    omega

/-- The position of any offset, within a character or past the end as well: the line feeds in front of it and one
more are its line, which is the last line that has begun by then, and the bytes behind the last of them are its
column. No two offsets have the same position, and positions are in the order of their offsets. -/
theorem position_exact (text : Text) :
    (ofText text).lineCount = 1 + text.count '\n' ∧
    (∀ offset,
      let before := text.bytes.take offset
      let place := (ofText text).position offset
      place.line = 1 + before.count 10 ∧ place.column = offset - lastStart before ∧
      place.line = Nat.findGreatest (fun number => (ofText text).lineStart number ≤ offset) (ofText text).lineCount ∧
      1 ≤ place.line ∧ place.line ≤ (ofText text).lineCount ∧
      (ofText text).lineStart place.line + place.column = offset) ∧
    Function.Injective (ofText text).position ∧
    StrictMono fun offset => ((ofText text).position offset).rank := by
  refine ⟨by rw [lineCount_ofText, Nat.add_comm], fun offset => ?_, ?_, rank_strictMono text⟩
  · refine ⟨by rw [position_eq, Nat.add_comm], by rw [position_eq], ?_, one_le_position_line text offset,
      position_line_le text offset, lineStart_add_column text offset⟩
    refine (Nat.findGreatest_eq_iff.mpr ⟨position_line_le text offset, fun _ => ?_, ?_⟩).symm
    · exact (lineStart_le_iff (one_le_position_line text offset) (position_line_le text offset) offset).mpr le_rfl
    · intro number later known begun
      have least := one_le_position_line text offset
      have early := (lineStart_le_iff (by omega) known offset).mp begun
      omega
  · intro first second same
    have here := lineStart_add_column text first
    rw [same] at here
    exact here.symm.trans (lineStart_add_column text second)

end LineTable
end SqlCheck
