import Mathlib.Tactic.ByContra
import SqlCheck.Inputs

/-! Where a walk can come to the name of standard input. A path is a bare name only when it was entered from
the working directory, and what a walk enters there stands in the list of that folder, so the name comes up
only if there is an entry which has it. Nothing that is found further down is a bare name again. -/
namespace SqlCheck

namespace Path

theorem pieces_ne_nil (path : Text) : pieces path ≠ [] := by
  cases path with
  | nil => simp [pieces]
  | cons c rest =>
      by_cases slash : c = '/'
      · simp [pieces, slash]
      · cases found : pieces rest <;> simp [pieces, slash, found]

theorem head_pieces_append (path : Text) (others : List Text) :
    (pieces path ++ others).head? = (pieces path).head? := by
  cases found : pieces path with
  | nil => exact absurd found (pieces_ne_nil path)
  | cons first rest => rfl

theorem pieces_append (front back : Text) : pieces (front ++ '/' :: back) = pieces front ++ pieces back := by
  induction front with
  | nil => simp [pieces]
  | cons c rest ih =>
      by_cases slash : c = '/'
      · simp [pieces, slash, ih]
      · cases found : pieces rest with
        | nil => exact absurd found (pieces_ne_nil rest)
        | cons first others =>
            rw [List.cons_append, pieces, if_neg slash, ih, found, pieces, if_neg slash, found]
            rfl

/-- A piece that leads nowhere else. -/
def Idle (piece : Text) : Prop := piece = [] ∨ piece = here

theorem ofPiece_eq_none_iff (piece : Text) : Component.ofPiece? piece = none ↔ Idle piece := by
  by_cases idle : piece = [] ∨ piece = here
  · simp [Component.ofPiece?, idle, Idle]
  · by_cases parent : piece = up
    · subst parent
      simp [Component.ofPiece?, Idle, up, here]
    · simp [Component.ofPiece?, idle, Idle, parent]

theorem isHere_iff (path : Text) :
    isHere path = true ↔ (pieces path).head? = some here ∧ ∀ piece ∈ pieces path, Idle piece := by
  have idle : (pieces path).filterMap Component.ofPiece? = [] ↔ ∀ piece ∈ pieces path, Idle piece := by
    simp [List.filterMap_eq_nil_iff, ofPiece_eq_none_iff]
  cases path with
  | nil => simp [isHere, components, isAbsolute, pieces, Idle, here, Component.ofPiece?]
  | cons c rest =>
      by_cases slash : c = '/'
      · simp [isHere, components, isAbsolute, slash, pieces, here]
      · by_cases dot : (pieces (c :: rest)).head? = some here
        · simp [isHere, components, isAbsolute, slash, dot, idle]
        · simp only [isHere, components, isAbsolute, List.head?_cons, dot, false_and, iff_false]
          intro same
          simp [slash] at same
          have only : Component.here ∈ (pieces (c :: rest)).filterMap Component.ofPiece? := by simp [same]
          obtain ⟨piece, -, made⟩ := List.mem_filterMap.mp only
          unfold Component.ofPiece? at made
          split at made
          · cases made
          · split at made <;> cases made

theorem slash_mem_join (base piece : Text) : '/' ∈ join base piece := by
  by_cases ends : base.getLast? = some '/'
  · rw [join, if_pos ends]
    exact List.mem_append_left _ (List.mem_of_getLast? ends)
  · simp [join, ends]

/-- A slash at the end of the base leaves an empty piece there, whose place the next piece takes. -/
theorem pieces_join (base piece : Text) :
    ∃ front, pieces (join base piece) = pieces front ++ pieces piece ∧
      (pieces base = pieces front ∨ pieces base = pieces front ++ [[]]) := by
  by_cases ends : base.getLast? = some '/'
  · obtain ⟨front, rfl⟩ := List.getLast?_eq_some_iff.mp ends
    refine ⟨front, ?_, Or.inr (pieces_append front [])⟩
    rw [join, if_pos ends, List.append_assoc]
    exact pieces_append front piece
  · exact ⟨base, by rw [join, if_neg ends, pieces_append], Or.inl rfl⟩

/-- Nothing but a folder that is the working directory has it under an entry's path. -/
theorem isHere_of_isHere_join {base piece : Text} (found : isHere (join base piece) = true) :
    isHere base = true := by
  rw [isHere_iff] at found ⊢
  obtain ⟨front, whole, split⟩ := pieces_join base piece
  have leads : (pieces front).head? = some here := by
    rw [← found.1, whole, head_pieces_append]
  have idle : ∀ other ∈ pieces front, Idle other := fun other member =>
    found.2 other (by rw [whole]; exact List.mem_append_left _ member)
  rcases split with same | same
  · rw [same]
    exact ⟨leads, idle⟩
  · rw [same, head_pieces_append]
    constructor
    · exact leads
    · intro other member
      rcases List.mem_append.mp member with early | late
      · exact idle other early
      · exact Or.inl (List.mem_singleton.mp late)

theorem not_absolute_of_isHere {path : Text} (found : isHere path = true) : isAbsolute path = false := by
  cases path with
  | nil => rfl
  | cons c rest =>
      by_cases slash : c = '/'
      · simp [isHere, components, isAbsolute, slash] at found
      · simp [isAbsolute, slash]

theorem slash_not_mem_piece {path piece : Text} (member : piece ∈ pieces path) : '/' ∉ piece := by
  induction path generalizing piece with
  | nil =>
      have same : piece = [] := by simpa [pieces] using member
      simp [same]
  | cons c rest ih =>
      by_cases slash : c = '/'
      · rw [pieces, if_pos slash] at member
        rcases List.mem_cons.mp member with rfl | later
        · simp
        · exact ih later
      · cases found : pieces rest with
        | nil => exact absurd found (pieces_ne_nil rest)
        | cons first others =>
            rw [pieces, if_neg slash, found] at member
            rcases List.mem_cons.mp member with rfl | later
            · have free : '/' ∉ first := ih (by simp [found])
              simp [Ne.symm slash, free]
            · exact ih (by simp [found, later])

theorem pieces_of_no_slash {name : Text} (free : '/' ∉ name) : pieces name = [name] := by
  induction name with
  | nil => rfl
  | cons c rest ih =>
      obtain ⟨other, later⟩ : '/' ≠ c ∧ '/' ∉ rest := by simpa using free
      rw [pieces, if_neg (Ne.symm other), ih later]

end Path

namespace FileTree
open SqlCheck.Path

/-- No entry of the working directory is called by a spelling of that directory. -/
def Proper (tree : FileTree) : Prop := ∀ entry ∈ tree.entriesAt here, isHere entry.1 = false

def working (tree : FileTree) : Except ReadFault Place := Place.followAll ⟨tree.root, []⟩ tree.base

section Following
variable {tree : FileTree} {path name piece : Text} {pieces front back : List Text} {place next : Place}

theorem find_eq_ok_iff :
    tree.find path = .ok place ↔
      '\x00' ∉ path ∧ path ≠ [] ∧ tooLong path = false ∧ tree.lead path = .ok place := by
  by_cases null : '\x00' ∈ path
  · simp [find, null]
  · by_cases unspoken : path = []
    · simp [find, unspoken]
    · cases long : tooLong path <;> simp [find, null, unspoken, long]

theorem contains_iff : tree.contains path = true ↔ ∃ place, tree.find path = .ok place := by
  unfold contains
  cases tree.find path <;> simp

theorem isFolder_iff :
    tree.isFolder path = true ↔ ∃ place, tree.find path = .ok place ∧ place.node.isBranch = true := by
  unfold isFolder
  cases tree.find path <;> simp

theorem followAll_append :
    place.followAll (front ++ back) = place.followAll front >>= fun next => next.followAll back :=
  List.foldlM_append

theorem followAll_singleton : place.followAll [piece] = place.follow piece :=
  bind_pure (place.follow piece)

/-- What each piece keeps is kept by all of them, one after the other. -/
theorem followAll_keeps (keeps : Place → Prop)
    (step : ∀ {place next}, ∀ piece ∈ pieces, keeps place → place.follow piece = .ok next → keeps next)
    (start : keeps place) (led : place.followAll pieces = .ok next) : keeps next := by
  induction pieces generalizing place with
  | nil =>
      cases led
      exact start
  | cons piece rest ih =>
      rw [Place.followAll, List.foldlM_cons] at led
      cases followed : place.follow piece with
      | error fault =>
          rw [followed] at led
          cases led
      | ok between =>
          rw [followed] at led
          exact ih (fun other member => step other (by simp [member])) (step piece (by simp) start followed) led

theorem lead_relative (relative : isAbsolute path = false) :
    tree.lead path = tree.working >>= fun place => place.followAll (Path.pieces path) := by
  have whole : tree.route path = tree.base ++ Path.pieces path := by simp [route, relative]
  rw [lead, whole]
  exact followAll_append

theorem working_of_lead (relative : isAbsolute path = false) (led : tree.lead path = .ok place) :
    ∃ start, tree.working = .ok start ∧ start.followAll (Path.pieces path) = .ok place := by
  rw [lead_relative relative] at led
  cases begun : tree.working with
  | error fault =>
      rw [begun] at led
      cases led
  | ok start =>
      rw [begun] at led
      exact ⟨start, rfl, led⟩

theorem not_absolute_of_no_slash (free : '/' ∉ name) : isAbsolute name = false := by
  cases name with
  | nil => rfl
  | cons c rest =>
      have other : '/' ≠ c := fun same => free (same ▸ List.mem_cons_self)
      simp [isAbsolute, other.symm]

theorem lead_name (free : '/' ∉ name) : tree.lead name = tree.working >>= Place.follow name := by
  rw [lead_relative (not_absolute_of_no_slash free), pieces_of_no_slash free]
  exact bind_congr fun place => followAll_singleton

theorem find_name (noSlash : '/' ∉ name) (noNull : '\x00' ∉ name) (spoken : name ≠ [])
    (short : tooLong name = false) : tree.find name = tree.working >>= Place.follow name := by
  have led : tree.find name = tree.lead name := by simp [find, noNull, spoken, short]
  exact led.trans (lead_name noSlash)

theorem find_here : tree.find here = tree.working >>= Place.follow here :=
  find_name (by decide) (by decide) (by decide) (by decide)

/-- An idle piece is followed only from a folder, and leads nowhere else. -/
theorem follow_idle_eq (idle : Idle piece) (followed : place.follow piece = .ok next) : next = place := by
  have stays : piece = [] ∨ piece = here := idle
  obtain ⟨node, around⟩ := place
  cases node with
  | file content => simp [Place.follow] at followed
  | folder entries => simpa [Place.follow, stays, eq_comm] using followed

theorem find_of_isHere (spelled : isHere path = true) (found : tree.find path = .ok place) :
    tree.working = .ok place := by
  obtain ⟨-, -, -, led⟩ := find_eq_ok_iff.mp found
  obtain ⟨start, begun, led⟩ := working_of_lead (not_absolute_of_isHere spelled) led
  have stays : ∀ {place next}, ∀ piece ∈ Path.pieces path, place = start → Place.follow piece place = .ok next →
      next = start := by
    intro place next piece member same followed
    exact (follow_idle_eq (((isHere_iff path).mp spelled).2 piece member) followed).trans same
  have same : place = start := followAll_keeps (· = start) stays rfl led
  rw [begun, same]

theorem mem_entriesAt {entry : Text × Node} (member : entry ∈ tree.entriesAt path) :
    ∃ entries around, tree.find path = .ok ⟨.folder entries, around⟩ ∧ entry ∈ entries := by
  unfold entriesAt at member
  cases found : tree.find path with
  | error fault => simp [found] at member
  | ok place =>
      obtain ⟨node, around⟩ := place
      rw [found] at member
      cases node with
      | file content => cases member
      | folder entries => exact ⟨entries, around, rfl, member⟩

theorem entriesAt_of_find {entries : List (Text × Node)} {around : List Node}
    (found : tree.find path = .ok ⟨.folder entries, around⟩) : tree.entriesAt path = entries := by
  rw [entriesAt, found]
  rfl

theorem find_here_of_working {entries : List (Text × Node)} {around : List Node}
    (begun : tree.working = .ok ⟨.folder entries, around⟩) : tree.find here = .ok ⟨.folder entries, around⟩ := by
  rw [find_here, begun]
  rfl

theorem mem_entriesAt_here (spelled : isHere path = true) {entry : Text × Node}
    (member : entry ∈ tree.entriesAt path) : entry ∈ tree.entriesAt here := by
  obtain ⟨entries, around, found, listed⟩ := mem_entriesAt member
  rw [entriesAt_of_find (find_here_of_working (find_of_isHere spelled found))]
  exact listed

end Following

section Adding
variable {node : Node} {path name : Text}

theorem isHere_of_mem_names (member : name ∈ names (Path.pieces path)) : isHere name = false := by
  obtain ⟨piece, plain⟩ := List.mem_filter.mp member
  have other : name ≠ here := by
    have both : name ≠ [] ∧ name ≠ here := by simpa using plain
    exact both.2
  by_contra spelled
  have leads := ((isHere_iff name).mp (by simpa using spelled)).1
  rw [pieces_of_no_slash (slash_not_mem_piece piece)] at leads
  exact other (by simpa using leads)

theorem alter_proper (change : Node → Node) (rest : List Text)
    (proper : ∀ entry ∈ node.entries, isHere entry.1 = false) (other : isHere name = false) :
    ∀ entry ∈ (node.alter change (name :: rest)).entries, isHere entry.1 = false := by
  intro entry member
  cases found : node.entries.lookup name with
  | none =>
      simp only [Node.alter, found, Node.entries_folder] at member
      rcases List.mem_append.mp member with old | new
      · exact proper entry old
      · rw [List.mem_singleton.mp new]
        exact other
  | some inner =>
      simp only [Node.alter, found, Node.entries_folder] at member
      obtain ⟨old, present, rfl⟩ := List.mem_map.mp member
      by_cases same : old.1 = name
      · simpa [same] using other
      · simpa [same] using proper old present

@[simp] theorem entriesAt_here_alone (node : Node) : (alone node).entriesAt here = node.entries := by
  cases node <;> rfl

theorem withFile_alone (relative : isAbsolute path = false) (content : List UInt8) :
    (alone node).withFile path content =
      alone (node.alter (fun _ => .file content) (names (Path.pieces path))) := by
  have down : names ((alone node).route path) = home :: names (Path.pieces path) := by
    simp [route, relative, names, alone, under, home, here]
  rw [withFile, down]
  simp [alone, under, Node.alter]

theorem withFile_proper (proper : (alone node).Proper) (relative : isAbsolute path = false) (content : List UInt8) :
    ((alone node).withFile path content).Proper := by
  unfold Proper at proper ⊢
  rw [entriesAt_here_alone] at proper
  rw [withFile_alone relative, entriesAt_here_alone]
  cases split : names (Path.pieces path) with
  | nil => simp [Node.alter, Node.entries]
  | cons name rest =>
      have plain : name ∈ names (Path.pieces path) := by simp [split]
      exact alter_proper _ rest proper (isHere_of_mem_names plain)

end Adding

theorem contains_standardInput_iff (tree : FileTree) :
    tree.contains Inputs.standardInput = true ↔
      ∃ entry ∈ tree.entriesAt here, entry.1 = Inputs.standardInput := by
  have asked : tree.find Inputs.standardInput = tree.working >>= Place.follow Inputs.standardInput :=
    find_name (by decide) (by decide) (by decide) (by decide)
  rw [contains_iff, asked, entriesAt, find_here]
  rcases tree.working with fault | ⟨_ | entries, around⟩
  · simp [bind, Except.bind]
  · simp [bind, Except.bind, Place.follow]
  · have opened : Place.follow here ⟨.folder entries, around⟩ = .ok ⟨.folder entries, around⟩ := rfl
    have narrow : '-'.utf8Size = 1 := rfl
    have looked : (∃ place, Place.follow Inputs.standardInput ⟨.folder entries, around⟩ = .ok place) ↔
        (entries.lookup Inputs.standardInput).isSome = true := by
      cases found : entries.lookup ['-'] <;>
        simp [Place.follow, Inputs.standardInput, here, up, longestName, narrow, found]
    simp only [bind, Except.bind, opened, Node.entries_folder]
    rw [looked, List.lookup_isSome_iff]
    constructor
    · rintro ⟨entry, member, same⟩
      exact ⟨entry, member, (beq_iff_eq.mp same).symm⟩
    · rintro ⟨entry, member, same⟩
      exact ⟨entry, member, beq_iff_eq.mpr same.symm⟩

end FileTree

namespace Pattern
open SqlCheck.Path Inputs

theorem join_ne_standardInput (base piece : Text) : join base piece ≠ standardInput := by
  intro same
  have slash := slash_mem_join base piece
  rw [same] at slash
  simp [standardInput] at slash

/-- A stop that has standard input's name is an entry of the working directory. -/
def Stop.Listed (tree : FileTree) (stop : Stop) : Prop :=
  stop.path = standardInput → tree.contains standardInput = true

-- From a path that is not the working directory all paths below it keep a slash.
mutual

theorem below_away {path : Text} (away : isHere path = false) :
    ∀ node, ∀ entry ∈ below path node, entry.1.path ≠ standardInput
  | .file _, _, member => by simp [below] at member
  | .folder entries, entry, member => by
      rw [below] at member
      split at member
      · cases member
      · exact belowAll_away away entries entry member

theorem belowAll_away {path : Text} (away : isHere path = false) :
    ∀ entries, ∀ entry ∈ belowAll path entries, entry.1.path ≠ standardInput
  | [], _, member => by simp [belowAll] at member
  | (name, node) :: rest, entry, member => by
      have entered : enter path name = join path name := by simp [enter, away]
      have deeper : isHere (enter path name) = false := by
        rw [entered]
        by_contra spelled
        exact absurd (isHere_of_isHere_join (by simpa using spelled)) (by simp [away])
      rw [belowAll] at member
      rcases List.mem_append.mp member with early | late
      · rcases List.mem_cons.mp early with rfl | inner
        · simpa [listed, entered] using join_ne_standardInput path name
        · exact below_away deeper node entry inner
      · exact belowAll_away away rest entry late

end

theorem belowAll_listed {path : Text} {entries : List (Text × FileTree.Node)}
    (proper : isHere path = true → ∀ entry ∈ entries, isHere entry.1 = false) {found : Stop × Text}
    (member : found ∈ belowAll path entries) (named : found.1.path = standardInput) :
    isHere path = true ∧ ∃ entry ∈ entries, entry.1 = standardInput := by
  have spelled : isHere path = true := by
    by_contra away
    exact belowAll_away (by simpa using away) entries found member named
  refine ⟨spelled, ?_⟩
  -- Here the bare names are the entries' own; below them the walk has left the directory.
  induction entries with
  | nil => simp [belowAll] at member
  | cons first rest ih =>
      obtain ⟨name, node⟩ := first
      have entered : enter path name = name := by simp [enter, spelled]
      rw [belowAll] at member
      rcases List.mem_append.mp member with early | late
      · rcases List.mem_cons.mp early with rfl | inner
        · exact ⟨(name, node), by simp, by simpa [listed, entered] using named⟩
        · have deeper : isHere (enter path name) = false := by
            rw [entered]
            exact proper spelled (name, node) (by simp)
          exact absurd named (below_away deeper node found inner)
      · obtain ⟨entry, present, same⟩ := ih
          (fun _ entry present => proper spelled entry (by simp [present])) late
        exact ⟨entry, by simp [present], same⟩

variable {tree : FileTree}

theorem entry_listed {path : Text} {entry : Text × FileTree.Node} (member : entry ∈ tree.entriesAt path) :
    (listed path entry.1 entry.2).Listed tree := by
  intro named
  by_cases spelled : isHere path = true
  · have same : entry.1 = standardInput := by simpa [listed, enter, spelled] using named
    rw [FileTree.contains_standardInput_iff]
    exact ⟨entry, FileTree.mem_entriesAt_here spelled member, same⟩
  · exact absurd named (by simpa [listed, enter, spelled] using join_ne_standardInput path entry.1)

theorem taken_listed {stop : Stop} {name : Text} (takable : takes tree stop name = true) :
    (asked tree (enter stop.path name)).Listed tree := by
  intro named
  by_cases spelled : isHere stop.path = true
  · have same : name = standardInput := by simpa [asked, enter, spelled] using named
    subst same
    simpa [takes, enter, spelled, standardInput, here, up] using takable
  · exact absurd named (by simpa [asked, enter, spelled] using join_ne_standardInput stop.path name)

theorem below_listed (proper : tree.Proper) {path : Text} {found : Stop × Text}
    (member : found ∈ below path (.folder (tree.entriesAt path))) : found.1.Listed tree := by
  intro named
  rw [below] at member
  split at member
  · cases member
  · have here_proper : isHere path = true → ∀ entry ∈ tree.entriesAt path, isHere entry.1 = false :=
      fun spelled entry present => proper entry (FileTree.mem_entriesAt_here spelled present)
    obtain ⟨spelled, entry, present, same⟩ := belowAll_listed here_proper member named
    rw [FileTree.contains_standardInput_iff]
    exact ⟨entry, FileTree.mem_entriesAt_here spelled present, same⟩

/-- What is kept by each way in which one piece leads from a stop to the next. -/
structure Lasting (tree : FileTree) (holds : Stop → Prop) : Prop where
  taken : ∀ {stop : Stop} {name : Text}, holds stop → takes tree stop name = true →
    holds (asked tree (enter stop.path name))
  dotted : ∀ {path name : Text} {glyphs : List Glyph}, tree.isFolder path = true → name ∈ dotNames glyphs →
    holds (asked tree (join path name))
  entered : ∀ {path : Text} {entry : Text × FileTree.Node}, entry ∈ tree.entriesAt path →
    holds (listed path entry.1 entry.2)
  deeper : ∀ {path : Text} {found : Stop × Text}, found ∈ below path (.folder (tree.entriesAt path)) →
    holds found.1

/-- What one piece keeps is kept by all of them, one after the other. -/
theorem Lasting.reach {holds : Stop → Prop} (lasting : Lasting tree holds) (pieces : List Piece) (stop : Stop)
    (start : holds stop) : ∀ found ∈ reach tree pieces stop, holds found := by
  induction pieces, stop using reach.induct tree with
  | case1 stop =>
      intro found member
      rw [Pattern.reach] at member
      rw [List.mem_singleton.mp member]
      exact start
  | case2 name rest stop takable ih =>
      intro found member
      rw [Pattern.reach, if_pos takable] at member
      exact ih (lasting.taken start takable) found member
  | case3 name rest stop absent =>
      intro found member
      rw [Pattern.reach, if_neg absent] at member
      cases member
  | case4 glyphs rest stop opened dots entries =>
      intro found member
      rw [Pattern.reach, if_pos opened] at member
      rcases List.mem_append.mp member with dotted | entered
      · obtain ⟨name, dot, inner⟩ := List.mem_flatMap.mp dotted
        exact dots name (lasting.dotted opened dot) found inner
      · obtain ⟨entry, present, inner⟩ := List.mem_flatMap.mp entered
        by_cases fitting : fits glyphs entry.1 = true
        · rw [if_pos fitting] at inner
          exact entries entry (lasting.entered present) found inner
        · rw [if_neg fitting] at inner
          cases inner
  | case5 glyphs rest stop closed =>
      intro found member
      rw [Pattern.reach, if_neg closed] at member
      cases member
  | case6 stop =>
      intro found member
      rw [Pattern.reach] at member
      obtain ⟨passed, -⟩ := List.mem_filter.mp member
      obtain ⟨entry, present, rfl⟩ := List.mem_map.mp passed
      exact lasting.deeper present
  | case7 stop next others ih =>
      intro found member
      rw [Pattern.reach] at member
      obtain ⟨entry, present, inner⟩ := List.mem_flatMap.mp member
      by_cases fitting : next.fits entry.2 = true
      · rw [if_pos fitting] at inner
        exact ih entry (lasting.deeper present) found inner
      · rw [if_neg fitting] at inner
        cases inner

/-- Each piece leads to stops that have standard input's name only as an entry; a dot name is joined with a
slash, so its path is no bare name. -/
theorem listed_lasting (proper : tree.Proper) : Lasting tree (Stop.Listed tree) where
  taken := fun _ takable => taken_listed takable
  dotted := fun _ _ named => absurd named (join_ne_standardInput _ _)
  entered := entry_listed
  deeper := below_listed proper

theorem standardInput_not_mem_walk (proper : tree.Proper) (absent : tree.contains standardInput = false)
    (pattern : Pattern) : standardInput ∉ walk tree pattern := by
  intro member
  obtain ⟨found, kept, named⟩ := List.mem_map.mp member
  have start : (asked tree (if pattern.absolute then ['/'] else here)).Listed tree := by
    intro same
    by_cases rooted : pattern.absolute = true
    · simp [asked, rooted, standardInput] at same
    · simp [asked, rooted, standardInput, here] at same
  have present := (listed_lasting proper).reach pattern.pieces _ start found (List.mem_filter.mp kept).1 named
  rw [absent] at present
  cases present

theorem standardInput_mem_walk {glyphs : List Glyph} (present : tree.contains standardInput = true)
    (fitting : fits glyphs standardInput = true) :
    standardInput ∈ walk tree ⟨false, [.wild glyphs], false⟩ := by
  obtain ⟨entry, member, named⟩ := (FileTree.contains_standardInput_iff tree).mp present
  obtain ⟨entries, around, led, -⟩ := FileTree.mem_entriesAt member
  have opened : tree.isFolder here = true := FileTree.isFolder_iff.mpr ⟨_, led, rfl⟩
  have found : listed here entry.1 entry.2 ∈ reach tree [.wild glyphs] (asked tree here) := by
    rw [reach, if_pos (by simpa [asked] using opened)]
    apply List.mem_append_right
    apply List.mem_flatMap.mpr
    refine ⟨entry, member, ?_⟩
    rw [named, if_pos fitting]
    simp [reach, asked]
  apply List.mem_map.mpr
  refine ⟨listed here entry.1 entry.2, ?_, ?_⟩
  · exact List.mem_filter.mpr ⟨found, rfl⟩
  · rw [named]
    rfl

end Pattern
end SqlCheck
