import SqlCheck.Text

/-! Line breaks, carriage returns and tabs written as a backslash and a letter, so that a token quoted in
a report stays on the line of the report. A backslash is kept as it is. -/
namespace SqlCheck.Text

def replaceChar (target : Char) (replacement : Text) (text : Text) : Text :=
  text.flatMap fun c => if c = target then replacement else [c]

def visible (token : Text) : Text :=
  replaceChar '\t' ['\\', 't'] (replaceChar '\r' ['\\', 'r'] (replaceChar '\n' ['\\', 'n'] token))

theorem replaceChar_append (target : Char) (replacement front back : Text) :
    replaceChar target replacement (front ++ back) =
      replaceChar target replacement front ++ replaceChar target replacement back := List.flatMap_append

theorem mem_replaceChar {target c : Char} {replacement text : Text} :
    c ∈ replaceChar target replacement text ↔ target ∈ text ∧ c ∈ replacement ∨ c ∈ text ∧ c ≠ target := by
  simp only [replaceChar, List.mem_flatMap]
  constructor
  · rintro ⟨own, member, taken⟩
    by_cases same : own = target
    · exact .inl ⟨same ▸ member, by simpa [same] using taken⟩
    · have kept : c = own := by simpa [same] using taken
      exact .inr ⟨kept ▸ member, kept ▸ same⟩
  · rintro (⟨member, taken⟩ | ⟨member, other⟩)
    · exact ⟨target, member, by simpa using taken⟩
    · exact ⟨c, member, by simp [other]⟩

theorem not_mem_visible (token : Text) {c : Char} (replaced : c = '\n' ∨ c = '\r' ∨ c = '\t') :
    c ∉ token.visible := by
  rcases replaced with rfl | rfl | rfl <;> simp [visible, mem_replaceChar]

end SqlCheck.Text
