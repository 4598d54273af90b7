import Mathlib.Tactic.SplitIfs
import SqlCheck.LineTable

/-! The lines of a text as the table of line starts knows them. A start cuts the text in two: in front of it
are whole lines with their line feeds, and behind it stands its own line. The search in the table needs
starts in ascending order, which the table of a text always has. -/
namespace SqlCheck

namespace Text

/-- The lines of a text without the line feeds between them. -/
def lines (text : Text) : List Text := text.splitOn '\n'

theorem lines_cons_feed (rest : Text) : lines ('\n' :: rest) = [] :: lines rest := by
  simp [lines, List.splitOn_cons_eq_if_modifyHead]

theorem lines_cons_other {c : Char} (other : c ≠ '\n') (rest : Text) :
    lines (c :: rest) = (lines rest).modifyHead (c :: ·) := by
  simp [lines, List.splitOn_cons_eq_if_modifyHead, other]

theorem lines_head (text : Text) : text.lines[0]? = some text.line := by
  induction text with
  | nil => rfl
  | cons c rest ih =>
      by_cases feed : c = '\n'
      · subst feed
        simp [lines_cons_feed, line]
      · rw [lines_cons_other feed]
        cases found : lines rest with
        | nil => simp [found] at ih
        | cons first others => simpa [found, line, feed] using ih

theorem size_prefix_le {front text : Text} (within : front <+: text) : size front ≤ size text := by
  obtain ⟨back, rfl⟩ := within
  rw [size_append]
  exact Nat.le_add_right ..

theorem size_take_le (count : Nat) (text : Text) : size (text.take count) ≤ size text :=
  size_prefix_le (List.take_prefix ..)

theorem size_le_of_mem_lines {text own : Text} (member : own ∈ text.lines) : own.size ≤ text.size := by
  induction text generalizing own with
  | nil =>
      have empty : own = [] := by simpa [lines] using member
      simp [empty]
  | cons c rest ih =>
      by_cases feed : c = '\n'
      · subst feed
        rcases List.mem_cons.mp (lines_cons_feed rest ▸ member) with same | later
        · simp [same]
        · have bound := ih later
          rw [size_cons]
          omega
      · rw [lines_cons_other feed] at member
        cases found : lines rest with
        | nil => simp [found] at member
        | cons first others =>
            rcases List.mem_cons.mp (by simpa [found] using member) with same | later
            · have bound := ih (show first ∈ lines rest by simp [found])
              rw [same, size_cons, size_cons]
              omega
            · have bound := ih (show own ∈ lines rest by simp [found, later])
              rw [size_cons]
              omega

theorem size_eq_length {text : Text} (narrow : ∀ c ∈ text, c.toNat < 128) : text.size = text.length := by
  induction text with
  | nil => rfl
  | cons c rest ih =>
      have single : c.utf8Size = 1 := Char.utf8Size_eq_one_iff.mpr (by
        have below := narrow c List.mem_cons_self
        exact UInt32.le_iff_toNat_le.mpr (Nat.le_of_lt_succ below))
      rw [size_cons, single, ih fun d member => narrow d (List.mem_cons_of_mem c member), List.length_cons]
      omega

@[simp] theorem utf8Size_feed : Char.utf8Size '\n' = 1 := by decide

theorem ten_ne_ofNat {n : Nat} (other : n ≠ 10) (small : n < 256) : (10 : UInt8) ≠ UInt8.ofNat n := by
  intro same
  have code : (10 : UInt8).toNat = (UInt8.ofNat n).toNat := congrArg UInt8.toNat same
  rw [UInt8.toNat_ofNat_of_lt' (by simpa using small)] at code
  exact other code.symm

theorem count_utf8EncodeChar (c : Char) : (String.utf8EncodeChar c).count 10 = if c = '\n' then 1 else 0 := by
  by_cases feed : c = '\n'
  · subst feed
    decide
  · have other : c.val.toNat ≠ 10 := fun same => feed (Char.toNat_inj.mp same)
    rw [if_neg feed, List.count_eq_zero]
    intro member
    -- A form of one byte is the character's number, and all bytes of a longer form are 128 or more.
    simp only [String.utf8EncodeChar] at member
    split_ifs at member
    all_goals simp only [List.mem_cons, List.not_mem_nil, or_false] at member
    · exact ten_ne_ofNat other (by omega) member
    · rcases member with byte | byte <;> exact ten_ne_ofNat (by omega) (by omega) byte
    · rcases member with byte | byte | byte <;> exact ten_ne_ofNat (by omega) (by omega) byte
    · rcases member with byte | byte | byte | byte <;> exact ten_ne_ofNat (by omega) (by omega) byte

/-- In UTF-8 the byte of the line feed stands for nothing else. -/
theorem count_bytes (text : Text) : text.bytes.count 10 = text.count '\n' := by
  induction text with
  | nil => rfl
  | cons c rest ih =>
      rw [bytes_cons, List.count_append, count_utf8EncodeChar, ih, List.count_cons]
      by_cases feed : c = '\n' <;> simp [feed, Nat.add_comm]

end Text

namespace LineTable
open Text

/-- Where the search ends, whatever it meets on the way: the one number that divides the numbers for which
`holds` is true from those for which it is not. -/
theorem firstFailure_eq {holds : Nat → Bool} {low high answer : Nat} (least : low ≤ answer)
    (most : answer ≤ high) (before : ∀ i, low ≤ i → i < answer → holds i = true)
    (after : ∀ i, answer ≤ i → i < high → holds i = false) : firstFailure holds low high = answer := by
  -- The answer stays between low and high: the middle is on one side of it or on the other.
  fun_induction firstFailure holds low high with
  | case1 low high wide middle held ih =>
      have past : middle < answer := by
        rcases Nat.lt_or_ge middle answer with past | short
        · exact past
        · have failed := after middle short (by omega)
          simp [held] at failed
      exact ih past most (fun i above => before i (by omega)) after
  | case2 low high wide middle failed ih =>
      have short : answer ≤ middle := by
        rcases Nat.lt_or_ge middle answer with past | short
        · exact absurd (before middle (by omega) past) failed
        · exact short
      exact ih least short before (fun i above below => after i above (by omega))
  | case3 low high narrow => omega

theorem startsFrom_length (offset : Nat) (text : Text) :
    (startsFrom offset text).length = text.count '\n' := by
  induction text generalizing offset with
  | nil => rfl
  | cons c rest ih =>
      by_cases feed : c = '\n'
      · simp [startsFrom, feed, ih]
      · simp [startsFrom, feed, ih]

theorem lineCount_ofText (text : Text) : (ofText text).lineCount = text.count '\n' + 1 := by
  simp [ofText, lineCount, startsFrom_length]

theorem starts_ascending (offset : Nat) (text : Text) :
    (offset :: startsFrom offset text).Pairwise (· < ·) := by
  induction text generalizing offset with
  | nil => simp [startsFrom]
  | cons c rest ih =>
      have positive := c.utf8Size_pos
      have later := ih (offset + c.utf8Size)
      rw [List.pairwise_cons] at later ⊢
      by_cases feed : c = '\n'
      · simp only [startsFrom, feed, if_true]
        refine ⟨?_, by simpa [feed] using later⟩
        intro start member
        rcases List.mem_cons.mp member with same | member
        · simp [same]
        · have above := later.1 start (by simpa [feed] using member)
          omega
      · simp only [startsFrom, feed, if_false]
        refine ⟨fun start member => ?_, later.2⟩
        have above := later.1 start member
        omega

/-- Each start cuts the text in front of a line, and the next start lies just behind that line's feed. -/
theorem start_cuts (text : Text) (offset index start : Nat)
    (listed : (offset :: startsFrom offset text)[index]? = some start) :
    ∃ front rest, text = front ++ rest ∧ start = offset + front.size ∧
      text.lines[index]? = some rest.line ∧
      ∀ next, (startsFrom offset text)[index]? = some next → next = start + rest.line.size + 1 := by
  induction text generalizing offset index start with
  | nil =>
      cases index with
      | zero => exact ⟨[], [], rfl, by simpa using listed.symm, rfl, by simp [startsFrom]⟩
      | succ index => simp [startsFrom] at listed
  | cons c rest ih =>
      by_cases feed : c = '\n'
      · subst feed
        cases index with
        | zero =>
            refine ⟨[], '\n' :: rest, rfl, by simpa using listed.symm, by simp [lines_cons_feed, line], ?_⟩
            intro next following
            have begun : offset = start := by simpa using listed
            simpa [startsFrom, begun, line, eq_comm] using following
        | succ index =>
            obtain ⟨front, back, whole, placed, found, following⟩ :=
              ih (offset + 1) index start (by simpa [startsFrom] using listed)
            refine ⟨'\n' :: front, back, by simp [whole], ?_, by simpa [lines_cons_feed] using found, ?_⟩
            · simp only [size_cons, utf8Size_feed]
              omega
            · simpa [startsFrom] using following
      · cases index with
        | zero =>
            obtain ⟨front, back, whole, placed, found, following⟩ :=
              ih (offset + c.utf8Size) 0 _ rfl
            -- The first start stays, and the line behind it is longer by this character.
            have same : Text.line rest = back.line := by simpa [lines_head] using found
            refine ⟨[], c :: rest, rfl, by simpa using listed.symm, by simp [lines_head], ?_⟩
            intro next reached
            have begun : offset = start := by simpa using listed
            have behind := following next (by simpa [startsFrom, feed] using reached)
            have longer : Text.line (c :: rest) = c :: Text.line rest := by simp [line, feed]
            rw [longer, size_cons, same]
            omega
        | succ index =>
            obtain ⟨front, back, whole, placed, found, following⟩ :=
              ih (offset + c.utf8Size) (index + 1) start (by simpa [startsFrom, feed] using listed)
            refine ⟨c :: front, back, by simp [whole], ?_, ?_, ?_⟩
            · simp only [size_cons]
              omega
            · rw [lines_cons_other feed]
              simpa using found
            · simpa [startsFrom, feed] using following

theorem startsBy_iff (table : LineTable) (offset index : Nat) :
    table.startsBy offset index = true ↔ ∃ start, table.starts[index]? = some start ∧ start ≤ offset := by
  cases found : table.starts[index]? <;> simp [startsBy, found]

theorem position_from_start {text : Text} {index start offset : Nat}
    (listed : (ofText text).starts[index]? = some start) (reached : start ≤ offset)
    (bounded : ∀ next, (ofText text).starts[index + 1]? = some next → offset < next) :
    (ofText text).position offset = ⟨index + 1, offset - start⟩ := by
  have ascending := List.pairwise_iff_getElem.mp (starts_ascending 0 text)
  simp only [ofText, List.getElem?_toArray] at listed bounded
  obtain ⟨inside, here⟩ := List.getElem?_eq_some_iff.mp listed
  have searched : firstFailure ((ofText text).startsBy offset) 0 (ofText text).lineCount = index + 1 := by
    -- The starts up to this one are reached by the offset, and none behind it is.
    apply firstFailure_eq (Nat.zero_le _)
    · simpa [ofText, lineCount, Nat.lt_succ_iff] using inside
    · intro i _ early
      apply (startsBy_iff _ _ _).mpr
      have inBounds : i < (0 :: startsFrom 0 text).length := by omega
      refine ⟨(0 :: startsFrom 0 text)[i], by simp [ofText], ?_⟩
      rcases Nat.lt_or_eq_of_le (Nat.le_of_lt_succ early) with before | same
      · have below := ascending i index (by omega) inside before
        omega
      · subst same
        omega
    · intro i late below
      have listedLate : i < (0 :: startsFrom 0 text).length := by simpa [ofText, lineCount] using below
      have nextInside : index + 1 < (0 :: startsFrom 0 text).length := by omega
      have beyond := bounded _ (List.getElem?_eq_getElem nextInside)
      apply Bool.eq_false_iff.mpr
      intro held
      obtain ⟨later, found, early⟩ := (startsBy_iff _ _ _).mp held
      simp only [ofText, List.getElem?_toArray, List.getElem?_eq_getElem listedLate, Option.some.injEq] at found
      rcases Nat.lt_or_eq_of_le late with after | same
      · have above := ascending (index + 1) i nextInside listedLate after
        omega
      · subst same
        omega
  have own : (ofText text).starts[index]?.getD 0 = start := by simp [ofText, listed]
  rw [position, searched]
  simp only [Nat.add_sub_cancel, own]

/-- A line number of any size names a line of the text, and cuts the text in front of it. Columns are counted from
there and cut to the line. -/
theorem offset_of_cut (text : Text) (line : Nat) :
    let number := max 1 (min line (text.count '\n' + 1))
    ∃ front rest, text = front ++ rest ∧ (ofText text).lineStart line = front.size ∧
      (ofText text).starts[number - 1]? = some front.size ∧ text.lines[number - 1]? = some rest.line ∧
      (∀ next, (ofText text).starts[number - 1 + 1]? = some next → next = front.size + rest.line.size + 1) ∧
      ∀ column, (ofText text).offset? text line column = some (front.size + size (rest.line.take column)) := by
  intro number
  have count := startsFrom_length 0 text
  obtain ⟨start, listed⟩ : ∃ start, (0 :: startsFrom 0 text)[number - 1]? = some start :=
    ⟨_, List.getElem?_eq_getElem (by simp only [List.length_cons]; omega)⟩
  obtain ⟨front, rest, whole, placed, own, following⟩ := start_cuts text 0 _ start listed
  rw [Nat.zero_add] at placed
  subst placed
  have begins : (ofText text).lineStart line = front.size := by
    simp only [lineStart, lineCount_ofText]
    simpa [ofText, number] using congrArg (·.getD 0) listed
  refine ⟨front, rest, whole, begins, by simpa [ofText] using listed, own, ?_, fun column => ?_⟩
  · intro next found
    exact following next (by simpa only [ofText, List.getElem?_toArray, List.getElem?_cons_succ] using found)
  · -- A start of the text's own table lies within the text, so nothing is cut off it.
    have kept : min ((ofText text).lineStart line) text.size = front.size := by
      rw [begins, whole, size_append]
      omega
    rw [offset?, kept]
    simp only [whole, after_size_append, Option.map_some]

/-- A line and a character column, both of any size, name an offset of the text. Resolved again it is on
the line that the number was cut to, in front of the character, or at the line's end if the line is too
short. -/
theorem position_offset (text : Text) (line column : Nat) :
    ∃ own offset, text.lines[max 1 (min line (text.count '\n' + 1)) - 1]? = some own ∧
      (ofText text).offset? text line column = some offset ∧
      (ofText text).position offset =
        ⟨max 1 (min line (text.count '\n' + 1)), size (own.take column)⟩ := by
  obtain ⟨front, rest, -, -, listed, own, following, offset⟩ := offset_of_cut text line
  have short := size_take_le column rest.line
  refine ⟨rest.line, front.size + size (rest.line.take column), own, offset column, ?_⟩
  have resolved := position_from_start listed
    (show front.size ≤ front.size + size (rest.line.take column) by omega)
    (fun next found => by
      have behind := following next found
      omega)
  rw [resolved]
  congr 1 <;> omega

end LineTable
end SqlCheck
