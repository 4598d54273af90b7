import Mathlib.Data.List.Basic
import SqlCheck.Proofs.Phases
import SqlCheck.Proofs.Walks

/-! What a pattern stands for is there. A walk writes the path of an entry from the path of its folder and the
entry's name, and that path leads to the entry; a dot name is written only behind a folder. The one thing that
can come between is the length of the path: an entry is seen in the list of its folder, while to ask about it
takes its whole path, which may have become longer than any path can be. Apart from that, whatever an expansion
adds is found again as it is written, even if it could be read as a pattern. -/
namespace SqlCheck

namespace FileTree
open SqlCheck.Path

/-- What a file system takes for the name of an entry. -/
structure IsName (name : Text) : Prop where
  spoken : name ≠ []
  notHere : name ≠ here
  notUp : name ≠ up
  noSlash : '/' ∉ name
  noNull : '\x00' ∉ name
  fits : name.size ≤ longestName

instance (name : Text) : Decidable (IsName name) :=
  decidable_of_iff (name ≠ [] ∧ name ≠ here ∧ name ≠ up ∧ '/' ∉ name ∧ '\x00' ∉ name ∧ name.size ≤ longestName)
    ⟨fun ⟨spoken, notHere, notUp, noSlash, noNull, fits⟩ => ⟨spoken, notHere, notUp, noSlash, noNull, fits⟩,
      fun name => ⟨name.spoken, name.notHere, name.notUp, name.noSlash, name.noNull, name.fits⟩⟩

/-- The entries of a folder have names, each its own. -/
inductive Node.WellFormed : Node → Prop
  | file (content : List UInt8) : WellFormed (.file content)
  | folder {entries : List (Text × Node)} (named : ∀ entry ∈ entries, IsName entry.1)
      (distinct : (entries.map Prod.fst).Nodup) (inner : ∀ entry ∈ entries, WellFormed entry.2) :
      WellFormed (.folder entries)

/-- A tree as a run finds it: the working directory is a folder in a file system of folders and files. -/
structure IsWorkingFolder (tree : FileTree) : Prop where
  opened : tree.isFolder here = true
  wellFormed : tree.root.WellFormed

def Place.WellFormed (place : Place) : Prop := ∀ node ∈ place.node :: place.around, node.WellFormed

variable {tree : FileTree} {node : Node} {path name piece : Text} {pieces : List Text} {place next : Place}
  {entries : List (Text × Node)} {around : List Node}

theorem lookup_of_mem (distinct : (entries.map Prod.fst).Nodup) {entry : Text × Node}
    (member : entry ∈ entries) : entries.lookup entry.1 = some entry.2 := by
  induction entries with
  | nil => cases member
  | cons first rest ih =>
      rw [List.map_cons, List.nodup_cons] at distinct
      rcases List.mem_cons.mp member with rfl | later
      · rw [List.lookup_cons, beq_self_eq_true]
      · have other : entry.1 ≠ first.1 := fun same => distinct.1 (same ▸ List.mem_map_of_mem later)
        rw [List.lookup_cons, beq_false_of_ne other]
        exact ih distinct.2 later

theorem mem_of_lookup (looked : entries.lookup name = some node) : (name, node) ∈ entries := by
  obtain ⟨front, back, rfl, -⟩ := List.lookup_eq_some_iff.mp looked
  simp

theorem outer_wellFormed (sound : place.WellFormed) : place.outer.WellFormed := by
  obtain ⟨node, _ | ⟨outer, others⟩⟩ := place
  · exact sound
  · exact fun other member => sound other (List.mem_cons_of_mem _ member)

theorem follow_wellFormed (sound : place.WellFormed) (followed : place.follow piece = .ok next) :
    next.WellFormed := by
  obtain ⟨node, around⟩ := place
  cases node with
  | file content => cases followed
  | folder entries =>
      have whole : (Node.folder entries).WellFormed := sound _ List.mem_cons_self
      simp only [Place.follow] at followed
      split at followed
      · cases followed
        exact sound
      · split at followed
        · cases followed
          exact outer_wellFormed sound
        · split at followed
          · cases followed
          · split at followed
            · rename_i found looked
              cases followed
              cases whole with
              | folder _ _ inner => exact List.forall_mem_cons.mpr ⟨inner _ (mem_of_lookup looked), sound⟩
            · cases followed

theorem find_wellFormed (sound : tree.root.WellFormed) (found : tree.find path = .ok ⟨node, around⟩) :
    node.WellFormed := by
  obtain ⟨-, -, -, led⟩ := find_eq_ok_iff.mp found
  have start : Place.WellFormed ⟨tree.root, []⟩ := List.forall_mem_singleton.mpr sound
  have reached := followAll_keeps Place.WellFormed (fun _ _ => follow_wellFormed) start led
  exact reached node List.mem_cons_self

theorem isAbsolute_join (spoken : path ≠ []) : isAbsolute (join path name) = isAbsolute path := by
  obtain ⟨c, rest, rfl⟩ := List.exists_cons_of_ne_nil spoken
  unfold join isAbsolute
  split <;> rfl

theorem route_eq (tree : FileTree) (path : Text) :
    tree.route path = (if isAbsolute path then [] else tree.base) ++ Path.pieces path := by
  unfold route
  split <;> simp

theorem lead_join (spoken : path ≠ []) (free : '/' ∉ name) (led : tree.lead path = .ok place) :
    tree.lead (join path name) = place.follow name := by
  obtain ⟨front, whole, split⟩ := pieces_join path name
  rw [pieces_of_no_slash free] at whole
  rw [lead, route_eq] at led ⊢
  rw [isAbsolute_join spoken, whole, ← List.append_assoc, followAll_append]
  rcases split with same | same
  · rw [same] at led
    rw [led]
    exact followAll_singleton
  · -- The empty piece at the end of the path leads nowhere else.
    rw [same, ← List.append_assoc, followAll_append] at led
    generalize Place.followAll ⟨tree.root, []⟩ _ = before at led ⊢
    cases before with
    | error fault => cases led
    | ok reached =>
        rw [follow_idle_eq (Or.inl rfl) (followAll_singleton.symm.trans led)]
        exact followAll_singleton

theorem tooLong_join (short : tooLong (join path name) = false) : tooLong path = false := by
  have longer : path.size ≤ (join path name).size := by
    unfold join
    split <;> simp
  simp only [tooLong, decide_eq_false_iff_not] at short ⊢
  omega

theorem find_join (found : tree.find path = .ok place) (noSlash : '/' ∉ name) (noNull : '\x00' ∉ name)
    (short : tooLong (join path name) = false) (followed : place.follow name = .ok next) :
    tree.find (join path name) = .ok next := by
  obtain ⟨free, spoken, -, led⟩ := find_eq_ok_iff.mp found
  have freeAll : '\x00' ∉ join path name := by
    unfold join
    split <;> simp [free, noNull]
  have spokenAll : join path name ≠ [] := by
    unfold join
    split <;> simp [spoken]
  rw [find_eq_ok_iff]
  exact ⟨freeAll, spokenAll, short, (lead_join spoken noSlash led).trans followed⟩

theorem follow_dot (branch : place.node.isBranch = true) (dot : name = here ∨ name = up) :
    ∃ next, place.follow name = .ok next := by
  obtain ⟨content | entries, around⟩ := place
  · cases branch
  · rcases dot with rfl | rfl
    · exact ⟨_, rfl⟩
    · exact ⟨_, rfl⟩

theorem contains_dot (opened : tree.isFolder path = true) (dot : name = here ∨ name = up)
    (short : tooLong (join path name) = false) : tree.contains (join path name) = true := by
  obtain ⟨place, found, branch⟩ := isFolder_iff.mp opened
  obtain ⟨next, followed⟩ := follow_dot branch dot
  have noSlash : '/' ∉ name := by rcases dot with rfl | rfl <;> decide
  have noNull : '\x00' ∉ name := by rcases dot with rfl | rfl <;> decide
  exact contains_iff.mpr ⟨_, find_join found noSlash noNull short followed⟩

theorem IsWorkingFolder.working (found : tree.IsWorkingFolder) :
    ∃ place, tree.working = .ok place ∧ place.node.isBranch = true := by
  obtain ⟨place, led, branch⟩ := isFolder_iff.mp found.opened
  exact ⟨place, find_of_isHere (by decide) led, branch⟩

theorem IsWorkingFolder.contains_dot (found : tree.IsWorkingFolder) (dot : name = here ∨ name = up) :
    tree.contains name = true := by
  obtain ⟨place, begun, branch⟩ := found.working
  obtain ⟨next, followed⟩ := follow_dot branch dot
  have asked : tree.find name = tree.working >>= Place.follow name := by
    rcases dot with rfl | rfl <;> exact find_name (by decide) (by decide) (by decide) (by decide)
  rw [begun] at asked
  exact contains_iff.mpr ⟨next, asked.trans followed⟩

theorem isBranch_of_followAll (led : place.followAll pieces = .ok next) (branch : next.node.isBranch = true) :
    place.node.isBranch = true := by
  obtain ⟨content | entries, around⟩ := place
  · cases pieces with
    | nil =>
        cases led
        exact branch
    | cons piece rest => cases led
  · rfl

theorem IsWorkingFolder.contains_root (found : tree.IsWorkingFolder) : tree.contains ['/'] = true := by
  obtain ⟨place, begun, branch⟩ := found.working
  have opened : tree.root.isBranch = true := isBranch_of_followAll begun branch
  cases tree with
  | mk root base =>
      cases root with
      | file content => cases opened
      | folder entries => rfl

theorem isWorkingFolder_folder (wellFormed : (Node.folder entries).WellFormed) :
    (FileTree.folder entries).IsWorkingFolder := by
  have isName : IsName home := by decide
  refine ⟨rfl, .folder ?_ (by simp) (List.forall_mem_singleton.mpr wellFormed)⟩
  exact List.forall_mem_singleton.mpr isName

/-- Where a path is not too long it leads to what stands there. -/
def LeadsTo (tree : FileTree) (path : Text) (node : Node) : Prop :=
  tooLong path = false → ∃ around, tree.find path = .ok ⟨node, around⟩

/-- An entry's path leads to what its folder lists under its name. -/
theorem enter_leadsTo (found : tree.find path = .ok ⟨.folder entries, around⟩)
    (whole : (Node.folder entries).WellFormed) {entry : Text × Node} (member : entry ∈ entries) :
    tree.LeadsTo (Pattern.enter path entry.1) entry.2 := by
  intro short
  cases whole with
  | folder named distinct inner =>
      have isName := named entry member
      have entered : Place.follow entry.1 ⟨.folder entries, around⟩ =
          .ok ⟨entry.2, .folder entries :: around⟩ := by
        have wide : ¬longestName < entry.1.size := Nat.not_lt.mpr isName.fits
        simp [Place.follow, isName.spoken, isName.notHere, isName.notUp, wide,
          lookup_of_mem distinct member]
      unfold Pattern.enter at short ⊢
      by_cases spelled : isHere path = true
      · -- The working directory is where the path leads, and its entries are found by their bare names.
        rw [if_pos spelled] at short ⊢
        have asked : tree.find entry.1 = tree.working >>= Place.follow entry.1 :=
          find_name isName.noSlash isName.noNull isName.spoken short
        rw [find_of_isHere spelled found] at asked
        exact ⟨_, asked.trans entered⟩
      · rw [if_neg spelled] at short ⊢
        exact ⟨_, find_join found isName.noSlash isName.noNull short entered⟩

end FileTree

namespace Pattern
open SqlCheck.Path FileTree
variable {tree : FileTree} {path : Text}

/-- A stop is where its path leads, and what it was seen to be, unless there is no asking about the path. -/
def Stop.Kept (tree : FileTree) (stop : Stop) : Prop :=
  tooLong stop.path = false →
    tree.contains stop.path = true ∧ (stop.isFolder = true → tree.isFolder stop.path = true)

theorem asked_kept (present : tooLong path = false → tree.contains path = true) :
    (asked tree path).Kept tree :=
  fun short => ⟨present short, id⟩

theorem listed_kept {name : Text} {inner : Node} (leads : tree.LeadsTo (enter path name) inner) :
    (listed path name inner).Kept tree := by
  intro short
  obtain ⟨around, found⟩ := leads short
  refine ⟨contains_iff.mpr ⟨_, found⟩, ?_⟩
  intro branch
  exact isFolder_iff.mpr ⟨_, found, branch⟩

mutual

theorem below_kept {path : Text} :
    ∀ inner : Node, inner.WellFormed → tree.LeadsTo path inner → ∀ found ∈ below path inner, found.1.Kept tree
  | .file _, _, _, found, member => by simp [below] at member
  | .folder entries, wellFormed, leads, found, member => by
      rw [below] at member
      split at member
      · cases member
      · rename_i short
        obtain ⟨around, here⟩ := leads (by simpa using short)
        exact belowAll_kept wellFormed here entries (fun _ member => member) found member

theorem belowAll_kept {path : Text} {all : List (Text × Node)} {around : List Node}
    (wellFormed : (Node.folder all).WellFormed) (here : tree.find path = .ok ⟨.folder all, around⟩) :
    ∀ entries, (∀ entry ∈ entries, entry ∈ all) → ∀ found ∈ belowAll path entries, found.1.Kept tree
  | [], _, found, member => by simp [belowAll] at member
  | (name, inner) :: rest, known, found, member => by
      have present : (name, inner) ∈ all := known _ (by simp)
      have leads : tree.LeadsTo (enter path name) inner := enter_leadsTo here wellFormed present
      rw [belowAll] at member
      rcases List.mem_append.mp member with early | late
      · rcases List.mem_cons.mp early with rfl | deeper
        · exact listed_kept leads
        · have sound : inner.WellFormed := by
            cases wellFormed with
            | folder _ _ each => exact each _ present
          exact below_kept inner sound leads found deeper
      · exact belowAll_kept wellFormed here rest (fun entry member => known entry (by simp [member])) found late

end

theorem taken_kept (working : tree.IsWorkingFolder) {stop : Stop} (kept : stop.Kept tree) {name : Text}
    (takable : takes tree stop name = true) : (asked tree (enter stop.path name)).Kept tree := by
  apply asked_kept
  intro short
  by_cases dot : name = here ∨ name = up
  · have folder : stop.isFolder = true := by simpa [takes, dot] using takable
    unfold enter at short ⊢
    by_cases spelled : isHere stop.path = true
    · rw [if_pos spelled]
      exact working.contains_dot dot
    · rw [if_neg spelled] at short ⊢
      exact contains_dot ((kept (tooLong_join short)).2 folder) dot short
  · simpa [takes, dot] using takable

theorem mem_dotNames {glyphs : List Glyph} {name : Text} (member : name ∈ dotNames glyphs) :
    name = here ∨ name = up := by
  unfold dotNames at member
  split at member
  · rcases List.mem_cons.mp (List.mem_filter.mp member).1 with same | same
    · exact Or.inr same
    · exact Or.inl (List.mem_singleton.mp same)
  · cases member

theorem below_entries_kept (working : tree.IsWorkingFolder) {found : Stop × Text}
    (member : found ∈ below path (.folder (tree.entriesAt path))) : found.1.Kept tree := by
  by_cases empty : tree.entriesAt path = []
  · simp [empty, below, belowAll] at member
  · obtain ⟨entry, present⟩ := List.exists_mem_of_ne_nil _ empty
    obtain ⟨entries, around, here, -⟩ := mem_entriesAt present
    rw [entriesAt_of_find here] at member
    exact below_kept _ (find_wellFormed working.wellFormed here) (fun _ => ⟨around, here⟩) found member

theorem kept_lasting (working : tree.IsWorkingFolder) : Lasting tree (Stop.Kept tree) where
  taken := fun kept takable => taken_kept working kept takable
  dotted := fun opened dot => asked_kept (contains_dot opened (mem_dotNames dot))
  entered := by
    intro path entry present
    obtain ⟨entries, around, here, listed⟩ := mem_entriesAt present
    exact listed_kept (enter_leadsTo here (find_wellFormed working.wellFormed here) listed)
  deeper := below_entries_kept working

/-- What a pattern stands for is there, unless its path is too long to be asked about. -/
theorem contains_of_mem_walk (working : tree.IsWorkingFolder) {pattern : Pattern} (member : path ∈ walk tree pattern) :
    tree.contains path = true ↔ tooLong path = false := by
  constructor
  · intro present
    obtain ⟨place, found⟩ := contains_iff.mp present
    exact (find_eq_ok_iff.mp found).2.2.1
  · obtain ⟨found, passed, rfl⟩ := List.mem_map.mp member
    have start : (asked tree (if pattern.absolute then ['/'] else here)).Kept tree := by
      apply asked_kept
      intro
      by_cases rooted : pattern.absolute = true
      · rw [if_pos rooted]
        exact working.contains_root
      · rw [if_neg rooted]
        exact working.contains_dot (Or.inl rfl)
    intro short
    have kept := (kept_lasting working).reach pattern.pieces _ start found (List.mem_filter.mp passed).1
    exact (kept short).1

end Pattern

namespace Inputs
open SqlCheck.Pattern FileTree
variable {tree : FileTree} {argument document : Text} {arguments documents : List Text}

/-- A document of an expansion is taken as it is the next time, unless it was matched and is not there. -/
theorem expandOne_again (expanded : expand tree arguments = .ok documents) (member : document ∈ documents)
    (there : ∀ argument ∈ arguments, ∀ pattern, ReadAs tree argument pattern → document ∈ walk tree pattern →
      looksLikePattern document = true → tree.contains document = true) :
    expandOne tree document = .ok [document] := by
  obtain ⟨argument, given, stands⟩ := (mem_expand expanded).mp member
  obtain ⟨own, first⟩ := (expand_eq_ok_iff.mp expanded).1 argument given
  rw [found_of_ok first] at stands
  rcases expandOne_cases first with same | ⟨pattern, reads, -, same⟩
  · rw [same, List.mem_singleton] at stands
    rw [stands, first, same]
  · rw [same, Path.mem_sort] at stands
    cases wild : looksLikePattern document with
    | false => exact expandOne_self (Or.inr (Or.inl wild))
    | true => exact expandOne_self (Or.inr (Or.inr (there argument given pattern reads stands wild)))

theorem expand_again (again : ∀ document ∈ documents, expandOne tree document = .ok [document]) :
    expand tree documents = .ok documents := by
  rw [expand_eq_ok_iff]
  refine ⟨fun document member => ⟨_, again document member⟩, ?_⟩
  calc documents = documents.flatMap fun document => [document] := by simp
    _ = documents.flatMap (found tree) :=
        List.flatMap_congr fun document member => (found_of_ok (again document member)).symm

theorem absent_of_validate (missing : validate tree documents = .error (.noSuchFile document)) :
    document ∈ documents ∧ tree.contains document = false := by
  obtain ⟨front, other, back, split, -, unfit⟩ := FirstFault.iff_split.mp (validate_eq_error_iff.mp missing)
  cases unfit with
  | missing named absent => exact ⟨by simp [split], absent⟩

/-- If the matches of the patterns are all there, to expand the documents again changes nothing, what was added is
there, and a document that is missing was given. -/
theorem expansion_repeats (expanded : expand tree arguments = .ok documents)
    (there : ∀ argument ∈ arguments, ∀ pattern, ReadAs tree argument pattern →
      ∀ path ∈ walk tree pattern, tree.contains path = true) :
    expand tree documents = .ok documents ∧
      (∀ document ∈ documents, document ∉ arguments → tree.contains document = true) ∧
      ∀ path, validate tree documents = .error (.noSuchFile path) → path ∈ arguments := by
  have added : ∀ document ∈ documents, document ∉ arguments → tree.contains document = true := by
    intro document member new
    obtain ⟨argument, given, pattern, reads, walked⟩ := (mem_expand_not_given expanded new).mp member
    exact there argument given pattern reads document walked
  refine ⟨?_, added, ?_⟩
  · exact expand_again fun document member => expandOne_again expanded member
      fun argument given pattern reads walked _ => there argument given pattern reads document walked
  · intro path missing
    obtain ⟨member, absent⟩ := absent_of_validate missing
    by_contra new
    simp [added path member new] at absent

/-- What an expansion adds to the arguments is there, with the one exception of paths longer than any path can
be; so a document that is missing was given, and to expand the documents again changes nothing. -/
theorem expansion_settled (working : tree.IsWorkingFolder) (expanded : expand tree arguments = .ok documents) :
    (∀ document ∈ documents, document ∉ arguments →
        (tree.contains document = true ↔ tooLong document = false)) ∧
      ((∀ document ∈ documents, looksLikePattern document = true → tooLong document = false) →
        expand tree documents = .ok documents) ∧
      ∀ path, validate tree documents = .error (.noSuchFile path) → path ∈ arguments ∨ tooLong path = true := by
  have there : ∀ document ∈ documents, document ∉ arguments →
      (tree.contains document = true ↔ tooLong document = false) := by
    intro document member added
    obtain ⟨argument, -, pattern, -, walked⟩ := (mem_expand_not_given expanded added).mp member
    exact contains_of_mem_walk working walked
  refine ⟨there, ?_, ?_⟩
  · intro short
    exact expand_again fun document member => expandOne_again expanded member
      fun _ _ _ _ walked wild => (contains_of_mem_walk working walked).mpr (short document member wild)
  · intro path missing
    obtain ⟨member, absent⟩ := absent_of_validate missing
    by_cases given : path ∈ arguments
    · exact Or.inl given
    · have short := there path member given
      rw [absent] at short
      exact Or.inr (by simpa using short)

def oddNames : FileTree :=
  .folder [("q".toList, .folder [("[1].sql".toList, .file [])]), ("a?.sql".toList, .file []),
    ("*.sql".toList, .file [])]

theorem oddNames_working : oddNames.IsWorkingFolder := by
  have empty : Node.WellFormed (.file []) := .file []
  have inner : Node.WellFormed (.folder [("[1].sql".toList, .file [])]) :=
    .folder (by decide) (by decide) (List.forall_mem_singleton.mpr empty)
  exact isWorkingFolder_folder (.folder (by decide) (by decide)
    (List.forall_mem_cons.mpr ⟨inner, List.forall_mem_cons.mpr ⟨empty, List.forall_mem_singleton.mpr empty⟩⟩))

/-- Each of the found names looks like a pattern, and stands for itself the next time. -/
theorem odd_names_settled :
    oddNames.IsWorkingFolder ∧
      expand oddNames ["q/*".toList, "a*".toList, "*.sql".toList] =
        .ok ["q/[1].sql".toList, "a?.sql".toList, "*.sql".toList] ∧
      expand oddNames ["q/[1].sql".toList, "a?.sql".toList, "*.sql".toList] =
        .ok ["q/[1].sql".toList, "a?.sql".toList, "*.sql".toList] := by
  have expanded : expand oddNames ["q/*".toList, "a*".toList, "*.sql".toList] =
      .ok ["q/[1].sql".toList, "a?.sql".toList, "*.sql".toList] := eq_ok_of_toOption (by decide +kernel)
  refine ⟨oddNames_working, expanded, ?_⟩
  exact (expansion_settled oddNames_working expanded).2.1 (by decide +kernel)

end Inputs
end SqlCheck
