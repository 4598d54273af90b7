import Mathlib.Data.List.Lex
import Mathlib.Data.List.Nodup
import Mathlib.Data.List.Perm.Basic
import Mathlib.Order.Lattice
import SqlCheck.Proofs.Existence

/-! What an expansion owes to its parts and to the file system. The arguments are expanded one by one, so what two
lists of them stand for is put together, and the first argument at fault is the fault of the whole list. A pattern
stands for all that its walk finds, as often as it finds it, in the order of the components; that order is total
and level only between spellings of the same components. In which order a folder lists its entries is the file
system's affair: another listing changes the order of a walk and nothing else, so it makes no difference once the
matches are in order, unless two of them are level. -/
namespace SqlCheck

namespace Path

theorem cons_le_cons_iff {Item : Type} [LinearOrder Item] {a b : Item} {as bs : List Item} :
    a :: as ≤ b :: bs ↔ a < b ∨ a = b ∧ as ≤ bs := by
  rw [le_iff_lt_or_eq, le_iff_lt_or_eq, List.cons_lt_cons_iff, List.cons.injEq, and_or_left, or_assoc]

theorem lexicographic_iff (first second : List Nat) : lexicographic first second = true ↔ first ≤ second := by
  induction first generalizing second with
  | nil => simpa [lexicographic] using not_lt.mp (List.not_lt_nil second)
  | cons a as ih =>
      cases second with
      | nil => simp [lexicographic]
      | cons b bs =>
          rw [cons_le_cons_iff, ← ih]
          by_cases same : a = b <;> simp [lexicographic, same]

theorem key_injective : Function.Injective Component.key := by
  intro first second same
  have codes : Function.Injective Char.toNat := fun _ _ => Char.toNat_inj.mp
  cases first <;> cases second <;> simp [Component.key] at same ⊢
  exact List.map_injective_iff.mpr codes same

theorem componentwise_iff (first second : List Component) :
    componentwise first second = true ↔ first.map Component.key ≤ second.map Component.key := by
  induction first generalizing second with
  | nil => simpa [componentwise] using not_lt.mp (List.not_lt_nil (second.map Component.key))
  | cons a as ih =>
      cases second with
      | nil => simp [componentwise]
      | cons b bs =>
          rw [List.map_cons, List.map_cons, cons_le_cons_iff, ← ih]
          by_cases same : a = b
          · simp [componentwise, same]
          · have apart : a.key ≠ b.key := fun keys => same (key_injective keys)
            simp [componentwise, same, lexicographic_iff, apart, le_iff_lt_or_eq]

/-- Paths are in order as the lists of their components' keys are. -/
theorem ordered_iff (first second : Text) :
    ordered first second = true ↔ (components first).map Component.key ≤ (components second).map Component.key :=
  componentwise_iff (components first) (components second)

theorem sort_perm (paths : List Text) : (sort paths).Perm paths := List.mergeSort_perm paths ordered

theorem sort_pairwise (paths : List Text) :
    (sort paths).Pairwise fun first second => ordered first second = true := by
  apply List.pairwise_mergeSort
  · simp only [ordered_iff]
    exact fun _ _ _ => le_trans
  · simp only [Bool.or_eq_true, ordered_iff]
    exact fun _ _ => le_total _ _

/-- Where no two paths have the same components, they can be put in order in one way only. -/
theorem sort_eq_of_perm {paths others : List Text} (same : paths.Perm others)
    (apart : (paths.map components).Nodup) : sort paths = sort others := by
  have perm : (sort paths).Perm (sort others) := (sort_perm paths).trans (same.trans (sort_perm others).symm)
  refine perm.eq_of_pairwise ?_ (sort_pairwise paths) (sort_pairwise others)
  intro first second early late forth back
  have level : components first = components second := by
    rw [ordered_iff] at forth back
    exact List.map_injective_iff.mpr key_injective (le_antisymm forth back)
  have known : second ∈ paths := same.mem_iff.mpr (mem_sort.mp late)
  exact List.inj_on_of_nodup_map apart (mem_sort.mp early) known level

end Path

namespace FileTree
open SqlCheck.Path

/-- The same node with the entries of its folders listed in another order. -/
inductive Node.Relisted : Node → Node → Prop
  | file (content : List UInt8) : Relisted (.file content) (.file content)
  | folder {entries others : List (Text × Node)}
      (names : (entries.map Prod.fst).Perm (others.map Prod.fst))
      (inner : ∀ name first second, (name, first) ∈ entries → (name, second) ∈ others → Relisted first second) :
      Relisted (.folder entries) (.folder others)

structure Relisted (tree other : FileTree) : Prop where
  root : tree.root.Relisted other.root
  base : tree.base = other.base

variable {tree other : FileTree} {node twin : Node} {entries others : List (Text × Node)} {piece path : Text}

theorem relisted_refl (wellFormed : node.WellFormed) : node.Relisted node := by
  induction wellFormed with
  | file content => exact .file content
  | folder named distinct _ ih =>
      refine .folder (.refl _) ?_
      intro name first second early late
      have same : some first = some second :=
        (lookup_of_mem distinct early).symm.trans (lookup_of_mem distinct late)
      rw [← Option.some.inj same]
      exact ih (name, first) early

theorem relisted_of_perm (wellFormed : (Node.folder entries).WellFormed) (same : entries.Perm others) :
    (Node.folder entries).Relisted (.folder others) := by
  cases relisted_refl wellFormed with
  | folder _ inner =>
      refine .folder (same.map Prod.fst) ?_
      intro name first second early late
      exact inner name first second early (same.mem_iff.mpr late)

theorem folder_relisted (relisted : (Node.folder entries).Relisted (.folder others)) :
    (FileTree.folder entries).Relisted (.folder others) := by
  refine ⟨.folder (.refl _) ?_, rfl⟩
  intro name first second early late
  rw [(Prod.mk.inj (List.mem_singleton.mp early)).2, (Prod.mk.inj (List.mem_singleton.mp late)).2]
  exact relisted

theorem Node.Relisted.isBranch_eq (relisted : node.Relisted twin) : node.isBranch = twin.isBranch := by
  cases relisted <;> rfl

/-- What is gathered from the entries of a folder is the same from another listing, up to the order. -/
theorem flatMap_relisted {Item : Type} {first second : Text × Node → List Item}
    (names : (entries.map Prod.fst).Perm (others.map Prod.fst))
    (each : ∀ name node twin, (name, node) ∈ entries → (name, twin) ∈ others →
      (first (name, node)).Perm (second (name, twin))) :
    (entries.flatMap first).Perm (others.flatMap second) := by
  induction entries generalizing others with
  | nil =>
      have empty : others = [] := by simpa using names.symm
      simp [empty]
  | cons entry rest ih =>
      obtain ⟨name, node⟩ := entry
      -- The first name stands somewhere in the other listing, and can be taken from there.
      obtain ⟨twin, member⟩ : ∃ twin, (name, twin) ∈ others := by
        have present : name ∈ others.map Prod.fst := names.mem_iff.mp (by simp)
        simpa using present
      obtain ⟨front, back, rfl⟩ := List.append_of_mem member
      have moved : (front ++ (name, twin) :: back).Perm ((name, twin) :: (front ++ back)) :=
        List.perm_middle
      have shorter : (rest.map Prod.fst).Perm ((front ++ back).map Prod.fst) := by
        have both := names.trans (moved.map Prod.fst)
        exact both.cons_inv
      have later : (rest.flatMap first).Perm ((front ++ back).flatMap second) := by
        apply ih shorter
        intro name node twin early late
        exact each name node twin (by simp [early]) (moved.mem_iff.mpr (by simp [late]))
      exact ((each name node twin (by simp) member).append later).trans (moved.flatMap_right second).symm

theorem lookup_relisted (names : (entries.map Prod.fst).Perm (others.map Prod.fst))
    (inner : ∀ name first second, (name, first) ∈ entries → (name, second) ∈ others → first.Relisted second)
    (name : Text) :
    (entries.lookup name = none ∧ others.lookup name = none) ∨
      ∃ first second, entries.lookup name = some first ∧ others.lookup name = some second ∧
        first.Relisted second := by
  have known : ∀ listing : List (Text × Node),
      (listing.lookup name).isSome = true ↔ name ∈ listing.map Prod.fst := by
    intro listing
    rw [List.lookup_isSome_iff, List.mem_map]
    exact exists_congr fun entry => and_congr_right' (beq_iff_eq.trans eq_comm)
  have both : (entries.lookup name).isSome = true ↔ (others.lookup name).isSome = true := by
    rw [known, known, names.mem_iff]
  cases early : entries.lookup name <;> cases late : others.lookup name
  · exact Or.inl ⟨rfl, rfl⟩
  · simp [early, late] at both
  · simp [early, late] at both
  · exact Or.inr ⟨_, _, rfl, rfl, inner name _ _ (mem_of_lookup early) (mem_of_lookup late)⟩

structure Place.Relisted (place other : Place) : Prop where
  node : place.node.Relisted other.node
  around : List.Forall₂ Node.Relisted place.around other.around

theorem Place.Relisted.outer {place other : Place} (places : place.Relisted other) :
    place.outer.Relisted other.outer := by
  obtain ⟨node, around⟩ := place
  obtain ⟨twin, outside⟩ := other
  obtain ⟨nodes, outer⟩ := places
  cases outer with
  | nil => exact ⟨nodes, .nil⟩
  | cons first rest => exact ⟨first, rest⟩

/-- Two answers to the question where a path leads. -/
inductive Agree : Except ReadFault Place → Except ReadFault Place → Prop
  | error (fault : ReadFault) : Agree (.error fault) (.error fault)
  | ok {place other : Place} (places : place.Relisted other) : Agree (.ok place) (.ok other)

theorem follow_agrees {place other : Place} (places : place.Relisted other) :
    Agree (place.follow piece) (other.follow piece) := by
  obtain ⟨node, around⟩ := place
  obtain ⟨twin, outside⟩ := other
  have nodes : node.Relisted twin := places.node
  cases nodes with
  | file content => exact .error .notFolder
  | @folder entries others names inner =>
      by_cases idle : piece = [] ∨ piece = here
      · simpa [Place.follow, idle] using Agree.ok places
      · by_cases parent : piece = up
        · simpa [Place.follow, idle, parent, up, here] using Agree.ok places.outer
        · by_cases wide : longestName < piece.size
          · simpa [Place.follow, idle, parent, wide] using Agree.error .nameTooLong
          · rcases lookup_relisted names inner piece with ⟨early, late⟩ | ⟨first, second, early, late, found⟩
            · simpa [Place.follow, idle, parent, wide, early, late] using Agree.error .notFound
            · have within : Place.Relisted ⟨first, .folder entries :: around⟩
                  ⟨second, .folder others :: outside⟩ := ⟨found, .cons places.node places.around⟩
              simpa [Place.follow, idle, parent, wide, early, late] using Agree.ok within

theorem followAll_agrees {pieces : List Text} {place other : Place} (places : place.Relisted other) :
    Agree (place.followAll pieces) (other.followAll pieces) := by
  induction pieces generalizing place other with
  | nil => exact .ok places
  | cons piece rest ih =>
      have step : Agree (place.follow piece) (other.follow piece) := follow_agrees places
      rw [Place.followAll, Place.followAll, List.foldlM_cons, List.foldlM_cons]
      generalize place.follow piece = first at step
      generalize other.follow piece = second at step
      cases step with
      | error fault => exact .error fault
      | ok next => exact ih next

theorem Relisted.find (relisted : tree.Relisted other) (path : Text) :
    Agree (tree.find path) (other.find path) := by
  have route : other.route path = tree.route path := by rw [FileTree.route, FileTree.route, relisted.base]
  unfold FileTree.find
  split
  · exact .error .nullInName
  · split
    · exact .error .notFound
    · split
      · exact .error .nameTooLong
      · rw [lead, lead, route]
        exact followAll_agrees ⟨relisted.root, .nil⟩

theorem Relisted.contains_eq (relisted : tree.Relisted other) (path : Text) :
    tree.contains path = other.contains path := by
  have answers := relisted.find path
  unfold contains
  generalize tree.find path = first at answers
  generalize other.find path = second at answers
  cases answers <;> rfl

theorem Relisted.isFolder_eq (relisted : tree.Relisted other) (path : Text) :
    tree.isFolder path = other.isFolder path := by
  have answers := relisted.find path
  unfold isFolder
  generalize tree.find path = first at answers
  generalize other.find path = second at answers
  cases answers with
  | error fault => rfl
  | ok places => exact places.node.isBranch_eq

theorem Relisted.entriesAt (relisted : tree.Relisted other) (path : Text) :
    Node.Relisted (.folder (tree.entriesAt path)) (.folder (other.entriesAt path)) := by
  have answers := relisted.find path
  have empty : Node.Relisted (.folder []) (.folder []) := .folder (.refl _) (by simp)
  unfold FileTree.entriesAt
  generalize tree.find path = first at answers
  generalize other.find path = second at answers
  cases answers with
  | error fault => exact empty
  | @ok place other places =>
      obtain ⟨node, around⟩ := place
      obtain ⟨twin, outside⟩ := other
      have nodes : node.Relisted twin := places.node
      cases nodes with
      | file content => exact empty
      | folder names inner => exact .folder names inner

end FileTree

namespace Pattern
open SqlCheck.Path FileTree
variable {tree other : FileTree} {node twin : Node} {path : Text}

theorem belowAll_eq_flatMap (path : Text) (entries : List (Text × Node)) :
    belowAll path entries = entries.flatMap fun entry =>
      (listed path entry.1 entry.2, entry.1) :: below (enter path entry.1) entry.2 := by
  induction entries with
  | nil => rfl
  | cons entry rest ih => rw [belowAll, ih, List.flatMap_cons]

theorem listed_relisted (relisted : node.Relisted twin) (path name : Text) :
    listed path name node = listed path name twin := by
  rw [listed, listed, relisted.isBranch_eq]

theorem below_relisted (relisted : node.Relisted twin) (path : Text) :
    (below path node).Perm (below path twin) := by
  induction relisted generalizing path with
  | file content => exact .refl _
  | folder names inner ih =>
      rw [below, below]
      split
      · exact .refl _
      · rw [belowAll_eq_flatMap, belowAll_eq_flatMap]
        apply flatMap_relisted names
        intro name first second early late
        rw [listed_relisted (inner name first second early late)]
        exact (ih name first second early late _).cons _

theorem takes_relisted (relisted : tree.Relisted other) (stop : Stop) (name : Text) :
    takes tree stop name = takes other stop name := by
  rw [takes, takes, relisted.contains_eq]

theorem asked_relisted (relisted : tree.Relisted other) (path : Text) : asked tree path = asked other path := by
  rw [asked, asked, relisted.isFolder_eq]

/-- A walk through another listing comes to the same stops, as often, in another order. -/
theorem reach_relisted (relisted : tree.Relisted other) (pieces : List Piece) (stop : Stop) :
    (reach tree pieces stop).Perm (reach other pieces stop) := by
  induction pieces, stop using reach.induct tree with
  | case1 stop => exact .refl _
  | case2 name rest stop takable ih =>
      rw [reach, reach, if_pos takable, if_pos (takes_relisted relisted stop name ▸ takable),
        ← asked_relisted relisted]
      exact ih
  | case3 name rest stop absent =>
      rw [reach, reach, if_neg absent, if_neg (takes_relisted relisted stop name ▸ absent)]
  | case4 glyphs rest stop opened dots entries =>
      rw [reach, reach, if_pos opened, if_pos (relisted.isFolder_eq stop.path ▸ opened)]
      refine .append (.flatMap_left _ ?_) ?_
      · intro name dot
        rw [← asked_relisted relisted]
        exact dots name
      · cases relisted.entriesAt stop.path with
        | folder names inner =>
            apply flatMap_relisted names
            intro name first second early late
            rw [← listed_relisted (inner name first second early late)]
            by_cases fitting : fits glyphs name = true
            · rw [if_pos fitting, if_pos fitting]
              exact entries (name, first)
            · rw [if_neg fitting, if_neg fitting]
  | case5 glyphs rest stop closed =>
      rw [reach, reach, if_neg closed, if_neg (relisted.isFolder_eq stop.path ▸ closed)]
  | case6 stop =>
      rw [reach, reach]
      exact ((below_relisted (relisted.entriesAt stop.path) stop.path).map Prod.fst).filter _
  | case7 stop next others ih =>
      rw [reach, reach]
      apply (below_relisted (relisted.entriesAt stop.path) stop.path).flatMap
      intro entry present
      by_cases fitting : next.fits entry.2 = true
      · rw [if_pos fitting, if_pos fitting]
        exact ih entry
      · rw [if_neg fitting, if_neg fitting]

theorem walk_relisted (relisted : tree.Relisted other) (pattern : Pattern) :
    (walk tree pattern).Perm (walk other pattern) := by
  rw [walk, walk, asked_relisted relisted]
  exact ((reach_relisted relisted pattern.pieces _).filter _).map Stop.path

end Pattern

namespace Inputs
open SqlCheck.Path SqlCheck.Pattern FileTree
variable {tree other : FileTree} {argument : Text} {arguments front back documents : List Text} {failure : Failure}

@[simp] theorem expand_singleton : expand tree [argument] = expandOne tree argument := by
  cases ends : expandOne tree argument <;> simp [expand, ends, bind, Except.bind, pure, Except.pure]

theorem expand_append :
    expand tree (front ++ back) = .ok documents ↔
      ∃ first second, expand tree front = .ok first ∧ expand tree back = .ok second ∧
        documents = first ++ second := by
  simp only [expand_eq_ok_iff, List.flatMap_append, List.forall_mem_append]
  constructor
  · rintro ⟨⟨early, late⟩, same⟩
    exact ⟨_, _, ⟨early, rfl⟩, ⟨late, rfl⟩, same⟩
  · rintro ⟨first, second, ⟨early, rfl⟩, ⟨late, rfl⟩, same⟩
    exact ⟨⟨early, late⟩, same⟩

theorem sound_iff : (∀ fault, ¬Refused tree argument fault) ↔ ∃ own, expandOne tree argument = .ok own := by
  cases ends : expandOne tree argument with
  | error fault =>
      have refused : Refused tree argument fault := (expandOne_eq_error_iff argument fault).mp ends
      simpa using ⟨fault, refused⟩
  | ok own =>
      simp only [Except.ok.injEq, exists_eq', iff_true]
      intro fault refused
      rw [(expandOne_eq_error_iff argument fault).mpr refused] at ends
      cases ends

theorem expand_first_failure :
    expand tree arguments = .error failure ↔
      ∃ front argument back, arguments = front ++ argument :: back ∧
        (∀ early ∈ front, ∃ own, expand tree [early] = .ok own) ∧ expand tree [argument] = .error failure := by
  simp only [expand_eq_error_iff, FirstFault.iff_split, sound_iff, expand_singleton, expandOne_eq_error_iff]

theorem expandOne_unmatched {pattern : Pattern} (reads : ReadAs tree argument pattern)
    (unmatched : walk tree pattern = []) : expandOne tree argument = .error (.noMatch argument) :=
  (expandOne_eq_error_iff argument _).mpr (.noMatch reads unmatched)

theorem ReadAs.relisted {pattern : Pattern} (reads : ReadAs tree argument pattern)
    (relisted : tree.Relisted other) : ReadAs other argument pattern :=
  ⟨reads.named, reads.wild, relisted.contains_eq argument ▸ reads.absent, reads.read⟩

theorem expandOne_relisted {pattern : Pattern} (reads : ReadAs tree argument pattern)
    (relisted : tree.Relisted other) (apart : ((walk tree pattern).map components).Nodup) :
    expandOne other argument = expandOne tree argument := by
  have same := walk_relisted relisted pattern
  by_cases unmatched : walk tree pattern = []
  · have none : walk other pattern = [] := by simpa [unmatched] using same.symm
    rw [expandOne_unmatched reads unmatched, expandOne_unmatched (reads.relisted relisted) none]
  · have matched : walk other pattern ≠ [] := fun none => unmatched (by simpa [none] using same)
    rw [expandOne_readAs reads unmatched, expandOne_readAs (reads.relisted relisted) matched,
      sort_eq_of_perm same apart]

/-- Lists of arguments are expanded part by part, up to the first argument at fault. A pattern stands for what its
walk finds, put in order, in whatever order the folders are listed. -/
theorem expansion_composes (tree : FileTree) :
    (∀ front back documents, expand tree (front ++ back) = .ok documents ↔
        ∃ first second, expand tree front = .ok first ∧ expand tree back = .ok second ∧
          documents = first ++ second) ∧
      (∀ arguments failure, expand tree arguments = .error failure ↔
        ∃ front argument back, arguments = front ++ argument :: back ∧
          (∀ early ∈ front, ∃ own, expand tree [early] = .ok own) ∧
          expand tree [argument] = .error failure) ∧
      ∀ argument pattern, ReadAs tree argument pattern →
        (walk tree pattern = [] → expand tree [argument] = .error (.noMatch argument)) ∧
        (walk tree pattern ≠ [] → ∃ documents, expand tree [argument] = .ok documents ∧ documents ≠ [] ∧
          documents.Perm (walk tree pattern) ∧
          documents.Pairwise fun first second => ordered first second = true) ∧
        ∀ other, tree.Relisted other → ((walk tree pattern).map components).Nodup →
          expand other [argument] = expand tree [argument] := by
  refine ⟨fun _ _ _ => expand_append, fun _ _ => expand_first_failure, ?_⟩
  intro argument pattern reads
  simp only [expand_singleton]
  refine ⟨expandOne_unmatched reads, ?_, fun _ relisted apart => expandOne_relisted reads relisted apart⟩
  intro matched
  have ends := expandOne_readAs reads matched
  exact ⟨_, ends, expandOne_ne_nil ends, sort_perm _, sort_pairwise _⟩

def twoFiles : FileTree := .folder [("b.sql".toList, .file []), ("a.sql".toList, .file [])]

def twoFilesOtherwise : FileTree := .folder [("a.sql".toList, .file []), ("b.sql".toList, .file [])]

def anyName : Pattern := ⟨false, [.wild [.many]], false⟩

/-- The star finds the two files in the order of the listing, and stands for them in their own. -/
theorem listing_makes_no_difference :
    ReadAs twoFiles ['*'] anyName ∧ twoFiles.Relisted twoFilesOtherwise ∧
      ((walk twoFiles anyName).map components).Nodup ∧
      walk twoFiles anyName ≠ walk twoFilesOtherwise anyName ∧
      expand twoFilesOtherwise [['*']] = expand twoFiles [['*']] := by
  have glyphs : Pattern.read ['*'] = .ok [.many] := by simp [Pattern.read, readFrom, Except.map]
  have whole : cut ['*'] = [['*']] := rfl
  have reads : ReadAs twoFiles ['*'] anyName := by
    refine ⟨by decide, rfl, by decide +kernel, ?_⟩
    simp only [ofText?, whole, glyphs, bind, Except.bind, List.mapM_cons, List.mapM_nil]
    rfl
  have wellFormed : Node.WellFormed (.folder [("b.sql".toList, .file []), ("a.sql".toList, .file [])]) := by
    refine .folder (by decide) (by decide) ?_
    simp [Node.WellFormed.file]
  have relisted : twoFiles.Relisted twoFilesOtherwise :=
    folder_relisted (relisted_of_perm wellFormed (.swap _ _ _))
  have apart : ((walk twoFiles anyName).map components).Nodup := by decide +kernel
  refine ⟨reads, relisted, apart, by decide +kernel, ?_⟩
  exact ((expansion_composes twoFiles).2.2 ['*'] anyName reads).2.2 twoFilesOtherwise relisted apart

end Inputs
end SqlCheck
