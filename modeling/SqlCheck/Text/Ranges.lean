/-! Classes of characters given as ranges of code points, lowest first, both ends included. The search
gives up at the first range that begins above the code point, so an ordered list is read only as far
as it can matter. -/
namespace SqlCheck.Text

abbrev Ranges := List (Nat × Nat)

namespace Ranges

def contains (code : Nat) : Ranges → Bool
  | [] => false
  | (first, last) :: rest =>
      if code < first then false else if code ≤ last then true else contains code rest

/-- The ranges begin at `low` or later, and each one ends before the next begins. -/
def orderedFrom (low : Nat) : Ranges → Bool
  | [] => true
  | (first, last) :: rest => decide (low ≤ first ∧ first ≤ last) && orderedFrom (last + 1) rest

theorem begins_after {low : Nat} {ranges : Ranges} (ordered : orderedFrom low ranges = true) :
    ∀ range ∈ ranges, low ≤ range.1 := by
  induction ranges generalizing low with
  | nil => simp
  | cons range rest ih =>
      simp only [orderedFrom, Bool.and_eq_true, decide_eq_true_eq] at ordered
      intro other member
      rcases List.mem_cons.mp member with rfl | member
      · exact ordered.1.1
      · have := ih ordered.2 other member
        omega

/-- In an ordered list, giving up early misses nothing. -/
theorem contains_iff {low : Nat} {ranges : Ranges} (ordered : orderedFrom low ranges = true)
    (code : Nat) : contains code ranges = true ↔ ∃ range ∈ ranges, range.1 ≤ code ∧ code ≤ range.2 := by
  induction ranges generalizing low with
  | nil => simp [contains]
  | cons range rest ih =>
      simp only [orderedFrom, Bool.and_eq_true, decide_eq_true_eq] at ordered
      have later := begins_after ordered.2
      simp only [contains]
      split
      · rename_i below
        simp only [Bool.false_eq_true, false_iff]
        rintro ⟨other, member, low, high⟩
        rcases List.mem_cons.mp member with rfl | member
        · omega
        · have := later other member
          omega
      · split
        · simp only [true_iff]
          exact ⟨range, List.mem_cons_self, by omega, by omega⟩
        · rw [ih ordered.2]
          constructor
          · rintro ⟨other, member, bounds⟩
            exact ⟨other, List.mem_cons_of_mem _ member, bounds⟩
          · rintro ⟨other, member, low, high⟩
            rcases List.mem_cons.mp member with rfl | member
            · omega
            · exact ⟨other, member, low, high⟩

end Ranges
end SqlCheck.Text
