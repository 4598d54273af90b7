import SqlCheck.Inputs

/-! What the arguments of a run stand for, taken one by one. An expansion that succeeds is every argument's
own documents one after the other, so another order of the arguments gives another order of the documents and
nothing else. An argument is never expanded to nothing, and every document that is no argument was matched
by a pattern. -/
namespace SqlCheck

namespace Path

@[simp] theorem mem_sort {path : Text} {paths : List Text} : path ∈ sort paths ↔ path ∈ paths := by
  rw [sort, List.mem_mergeSort]

end Path

namespace Inputs
variable {tree : FileTree} {argument : Text} {arguments documents : List Text}

/-- A result is told by its value alone where failures cannot be compared. -/
theorem eq_ok_of_toOption {Fault Value : Type} {result : Except Fault Value} {value : Value}
    (shown : result.toOption = some value) : result = .ok value := by
  cases result with
  | error fault => cases shown
  | ok other => exact congrArg Except.ok (Option.some.inj shown)

/-- What an argument stands for; an argument at fault stands for nothing. -/
def found (tree : FileTree) (argument : Text) : List Text :=
  match expandOne tree argument with
  | .ok documents => documents
  | .error _ => []

/-- An argument that is taken for a pattern. -/
structure ReadAs (tree : FileTree) (argument : Text) (pattern : Pattern) : Prop where
  named : argument ≠ standardInput
  wild : looksLikePattern argument = true
  absent : tree.contains argument = false
  read : Pattern.ofText? argument = .ok pattern

theorem found_of_ok (ends : expandOne tree argument = .ok documents) : found tree argument = documents := by
  rw [found, ends]

theorem expandOne_self (kept : argument = standardInput ∨ looksLikePattern argument = false ∨
    tree.contains argument = true) : expandOne tree argument = .ok [argument] := by
  rw [expandOne, if_pos kept]

theorem expandOne_readAs {pattern : Pattern} (reads : ReadAs tree argument pattern)
    (matching : Pattern.walk tree pattern ≠ []) :
    expandOne tree argument = .ok (Path.sort (Pattern.walk tree pattern)) := by
  have taken : ¬(argument = standardInput ∨ looksLikePattern argument = false ∨
      tree.contains argument = true) := by
    simp [reads.named, reads.wild, reads.absent]
  rw [expandOne, if_neg taken, reads.read]
  cases walked : Pattern.walk tree pattern with
  | nil => exact absurd walked matching
  | cons first rest => simp only [walked]

/-- An argument stands for itself or for the matches of a pattern, of which there is one. -/
theorem expandOne_cases (ends : expandOne tree argument = .ok documents) :
    documents = [argument] ∨
      ∃ pattern, ReadAs tree argument pattern ∧ Pattern.walk tree pattern ≠ [] ∧
        documents = Path.sort (Pattern.walk tree pattern) := by
  by_cases taken : argument = standardInput ∨ looksLikePattern argument = false ∨
      tree.contains argument = true
  · rw [expandOne, if_pos taken] at ends
    exact Or.inl (Except.ok.inj ends).symm
  · obtain ⟨named, wild, absent⟩ : argument ≠ standardInput ∧ looksLikePattern argument = true ∧
        tree.contains argument = false := by simpa using taken
    rw [expandOne, if_neg taken] at ends
    cases read : Pattern.ofText? argument with
    | error fault =>
        rw [read] at ends
        cases ends
    | ok pattern =>
        rw [read] at ends
        have reads : ReadAs tree argument pattern := ⟨named, wild, absent, read⟩
        cases walked : Pattern.walk tree pattern with
        | nil =>
            simp only [walked] at ends
            cases ends
        | cons first rest =>
            simp only [walked] at ends
            refine Or.inr ⟨pattern, reads, by simp [walked], ?_⟩
            rw [walked]
            exact (Except.ok.inj ends).symm

theorem expandOne_ne_nil (ends : expandOne tree argument = .ok documents) : documents ≠ [] := by
  rcases expandOne_cases ends with same | ⟨pattern, -, matching, same⟩
  · simp [same]
  · obtain ⟨path, member⟩ := List.exists_mem_of_ne_nil _ matching
    rw [same]
    exact List.ne_nil_of_mem (Path.mem_sort.mpr member)

/-- An expansion succeeds when each argument's does, and puts what they stand for together in order. -/
theorem expand_eq_ok_iff :
    expand tree arguments = .ok documents ↔
      (∀ argument ∈ arguments, ∃ own, expandOne tree argument = .ok own) ∧
        documents = arguments.flatMap (found tree) := by
  induction arguments generalizing documents with
  | nil => simp [expand, eq_comm]
  | cons argument rest ih =>
      cases first : expandOne tree argument with
      | error failure => simp [expand, first, bind, Except.bind]
      | ok own =>
          have stands : found tree argument = own := found_of_ok first
          -- The first argument is fine, so the whole fails exactly where the rest does.
          cases others : expand tree rest with
          | error failure =>
              have failing : ¬ ∀ argument ∈ rest, ∃ own, expandOne tree argument = .ok own := by
                intro each
                have ends : expand tree rest = .ok (rest.flatMap (found tree)) := ih.mpr ⟨each, rfl⟩
                rw [others] at ends
                cases ends
              simpa [expand, first, others, bind, Except.bind] using fun each => absurd each failing
          | ok behind =>
              obtain ⟨each, same⟩ := ih.mp others
              have eachOk : ∀ member ∈ argument :: rest, ∃ own, expandOne tree member = .ok own := by
                intro member present
                rcases List.mem_cons.mp present with rfl | later
                · exact ⟨own, first⟩
                · exact each member later
              have whole : expand tree (argument :: rest) = .ok (own ++ behind) := by
                simp [expand, first, others, bind, Except.bind, pure, Except.pure]
              rw [whole, List.flatMap_cons, stands, ← same]
              constructor
              · intro ends
                exact ⟨eachOk, (Except.ok.inj ends).symm⟩
              · rintro ⟨-, rfl⟩
                rfl

theorem expand_ne_nil (ends : expand tree arguments = .ok documents) (given : arguments ≠ []) :
    documents ≠ [] := by
  obtain ⟨each, rfl⟩ := expand_eq_ok_iff.mp ends
  obtain ⟨argument, member⟩ := List.exists_mem_of_ne_nil _ given
  obtain ⟨own, first⟩ := each argument member
  obtain ⟨document, present⟩ := List.exists_mem_of_ne_nil _ (expandOne_ne_nil first)
  rw [← found_of_ok first] at present
  exact List.ne_nil_of_mem (List.mem_flatMap.mpr ⟨argument, member, present⟩)

theorem expand_perm {others : List Text} (ends : expand tree arguments = .ok documents)
    (same : arguments.Perm others) :
    ∃ reordered, expand tree others = .ok reordered ∧ documents.Perm reordered := by
  obtain ⟨each, rfl⟩ := expand_eq_ok_iff.mp ends
  refine ⟨others.flatMap (found tree), ?_, same.flatMap_right _⟩
  rw [expand_eq_ok_iff]
  exact ⟨fun argument member => each argument (same.mem_iff.mpr member), rfl⟩

theorem mem_expand (ends : expand tree arguments = .ok documents) {document : Text} :
    document ∈ documents ↔ ∃ argument ∈ arguments, document ∈ found tree argument := by
  obtain ⟨-, rfl⟩ := expand_eq_ok_iff.mp ends
  exact List.mem_flatMap

/-- A document that is no argument of its own was matched by a pattern. -/
theorem mem_expand_not_given (ends : expand tree arguments = .ok documents) {document : Text}
    (given : document ∉ arguments) :
    document ∈ documents ↔
      ∃ argument ∈ arguments, ∃ pattern, ReadAs tree argument pattern ∧
        document ∈ Pattern.walk tree pattern := by
  rw [mem_expand ends]
  obtain ⟨each, -⟩ := expand_eq_ok_iff.mp ends
  constructor
  · rintro ⟨argument, member, present⟩
    obtain ⟨own, first⟩ := each argument member
    rw [found_of_ok first] at present
    -- An argument that stands for itself was given, and this document was not.
    rcases expandOne_cases first with rfl | ⟨pattern, reads, -, rfl⟩
    · rw [List.mem_singleton.mp present] at given
      exact absurd member given
    · exact ⟨argument, member, pattern, reads, Path.mem_sort.mp present⟩
  · rintro ⟨argument, member, pattern, reads, present⟩
    refine ⟨argument, member, ?_⟩
    rw [found_of_ok (expandOne_readAs reads (List.ne_nil_of_mem present))]
    exact Path.mem_sort.mpr present

theorem validateOne_eq_ok_iff (document : Text) :
    validateOne tree document = .ok () ↔ document = standardInput ∨ tree.isFile document = true := by
  by_cases named : document = standardInput
  · simp [validateOne, named]
  · have exists_of_isFile : tree.isFile document = true → tree.contains document = true := by
      intro isFile
      unfold FileTree.isFile at isFile
      unfold FileTree.contains
      cases led : tree.find document with
      | error fault => simp [led] at isFile
      | ok place => rfl
    by_cases present : tree.contains document = true
    · by_cases isFile : tree.isFile document = true <;> simp [validateOne, named, present, isFile]
    · have absent : tree.isFile document ≠ true := fun isFile => present (exists_of_isFile isFile)
      simp [validateOne, named, present, absent]

theorem validate_eq_ok_iff :
    validate tree documents = .ok () ↔
      ∀ document ∈ documents, document = standardInput ∨ tree.isFile document = true := by
  induction documents with
  | nil => simp [validate]
  | cons document rest ih =>
      rw [List.forall_mem_cons, ← validateOne_eq_ok_iff, ← ih]
      cases first : validateOne tree document with
      | error failure => simp [validate, first, bind, Except.bind]
      | ok _ => simp [validate, first, bind, Except.bind]

end Inputs
end SqlCheck
