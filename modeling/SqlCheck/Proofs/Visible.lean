import SqlCheck.Proofs.Quoting

/-! Tokens in their visible form. Three replacements made one behind the other come to a single pass, because none of
them writes a character that a later one replaces. What is shown is therefore put together from what its characters
are shown as, has nothing left to be replaced, and tells two tokens apart unless they have backslashes of their own. -/
namespace SqlCheck.Text

/-- The characters that a report would not show as they are. -/
def invisible : List Char := ['\n', '\r', '\t']

def shownAs (c : Char) : Text :=
  if c = '\n' then ['\\', 'n'] else if c = '\r' then ['\\', 'r'] else if c = '\t' then ['\\', 't'] else [c]

theorem mem_invisible {c : Char} : c ∈ invisible ↔ c = '\n' ∨ c = '\r' ∨ c = '\t' := by simp [invisible]

theorem shownAs_seen {c : Char} (seen : c ∉ invisible) : shownAs c = [c] := by
  simp only [mem_invisible, not_or] at seen
  simp [shownAs, seen]

theorem visible_append (front back : Text) : (front ++ back).visible = front.visible ++ back.visible := by
  simp only [visible, replaceChar_append]

theorem visible_singleton (c : Char) : visible [c] = shownAs c := by
  by_cases hidden : c ∈ invisible
  · rcases mem_invisible.mp hidden with rfl | rfl | rfl <;> rfl
  · rw [shownAs_seen hidden]
    simp only [mem_invisible, not_or] at hidden
    simp [visible, replaceChar, hidden]

theorem visible_eq_flatMap (token : Text) : token.visible = token.flatMap shownAs := by
  induction token with
  | nil => rfl
  | cons c rest ih => rw [List.flatMap_cons, ← ih, ← visible_singleton, ← visible_append, List.singleton_append]

theorem invisible_not_mem (token : Text) : ∀ c ∈ invisible, c ∉ token.visible :=
  fun _ hidden => not_mem_visible token (mem_invisible.mp hidden)

theorem visible_eq_self_iff (token : Text) : token.visible = token ↔ ∀ c ∈ invisible, c ∉ token := by
  constructor
  · intro same
    rw [← same]
    exact invisible_not_mem token
  · intro free
    have kept : ∀ c ∈ token, shownAs c = [c] := fun c member => shownAs_seen fun hidden => free c hidden member
    rw [visible_eq_flatMap, List.flatMap_congr kept, List.flatMap_singleton']

theorem readEscaped_shownAs {c : Char} (unmarked : c ≠ '\\') (rest : Text) :
    readEscaped (shownAs c ++ rest) = some (c, rest) := by
  by_cases hidden : c ∈ invisible
  · rcases mem_invisible.mp hidden with rfl | rfl | rfl <;> rfl
  · rw [shownAs_seen hidden]
    simp [readEscaped, unmarked]

/-- The replacements come to one pass over the token, character by character. None of the characters they are for is
left, so a second time changes nothing and a token stays as it is exactly if it has none of them; and two tokens
without backslashes are shown alike only if they are the same. -/
theorem visible_in_one_pass (token : Text) :
    token.visible = token.flatMap shownAs ∧
    (∀ c ∈ invisible, c ∉ token.visible) ∧
    (∀ more : Text, (token ++ more).visible = token.visible ++ more.visible) ∧
    token.visible.visible = token.visible ∧
    (token.visible = token ↔ ∀ c ∈ invisible, c ∉ token) ∧
    ('\\' ∉ token → ∀ other : Text, '\\' ∉ other → other.visible = token.visible → other = token) := by
  have again : token.visible.visible = token.visible :=
    (visible_eq_self_iff token.visible).mpr (invisible_not_mem token)
  refine ⟨visible_eq_flatMap token, invisible_not_mem token, visible_append token, again, visible_eq_self_iff token, ?_⟩
  intro unmarked other otherUnmarked same
  rw [visible_eq_flatMap, visible_eq_flatMap] at same
  apply eq_of_flatMap_eq _ same
  intro c member
  apply readEscaped_shownAs
  rintro rfl
  rcases List.mem_append.mp member with first | second
  · exact otherUnmarked first
  · exact unmarked second

/-- Letters that stand where the ones behind a backslash would, and two line ends that differ in their order. -/
theorem line_ends_among_letters_told_apart :
    let token : Text := "t\tr\r\nn".toList
    let other : Text := "t\tr\n\rn".toList
    '\\' ∉ token ∧ '\\' ∉ other ∧ token.visible = "t\\tr\\r\\nn".toList ∧ other.visible ≠ token.visible := by
  intro token other
  have unmarked : '\\' ∉ token ∧ '\\' ∉ other := by decide
  obtain ⟨pass, -, -, -, -, apart⟩ := visible_in_one_pass token
  refine ⟨unmarked.1, unmarked.2, pass, fun same => ?_⟩
  exact absurd (apart unmarked.1 other unmarked.2 same) (by decide)

/-- A backslash and a letter of the token's own look like a line feed. -/
example : visible "\\n".toList = visible "\n".toList := by decide

end SqlCheck.Text
