import SqlCheck.Program
import SqlCheck.Proofs.Expansion
import SqlCheck.Proofs.Shapes
import SqlCheck.Proofs.Walks

/-! When standard input is read. A run reads it for the document `-` and for no other, and whoever wants it
read writes that name. A pattern can match an entry that has the same name, though, and what it matches is
not told apart from what was written: no check is made of such a document and standard input is read in its
place. So standard input is read on request only exactly where the working directory has no such entry. -/
namespace SqlCheck

namespace FileTree
open SqlCheck.Path

theorem contains_wide {name : Text} (free : '/' ∉ name) (wide : longestName < name.size) (tree : FileTree) :
    tree.contains name = false := by
  have longer : ¬(name = [] ∨ name = here) := by
    rintro (rfl | rfl) <;> exact absurd wide (by decide)
  have notUp : name ≠ up := by
    rintro rfl
    exact absurd wide (by decide)
  by_contra present
  obtain ⟨place, found⟩ := contains_iff.mp (by simpa using present)
  have led := (find_eq_ok_iff.mp found).2.2.2
  obtain ⟨⟨_ | entries, around⟩, -, followed⟩ := working_of_lead (not_absolute_of_no_slash free) led
  all_goals rw [pieces_of_no_slash free, followAll_singleton] at followed
  · cases followed
  · simp [Place.follow, longer, notUp, wide] at followed

end FileTree

namespace Pattern

theorem closeSet_closed (first : Char) {chars : List Char} (free : ']' ∉ chars) :
    closeSet (first :: chars ++ [']']) = some (first :: chars, []) := by
  have inside : ∀ c ∈ chars, decide (c ≠ ']') = true := by
    intro c member
    simpa using fun same : c = ']' => free (same ▸ member)
  have behind : (chars ++ [']']).dropWhile (· ≠ ']') = [']'] := by
    rw [List.dropWhile_append_of_pos inside]
    rfl
  have before : (chars ++ [']']).takeWhile (· ≠ ']') = chars := by
    rw [List.takeWhile_append_of_pos inside]
    simp
  rw [List.cons_append, closeSet, behind, before]

theorem read_set {chars : List Char} (free : ']' ∉ chars) :
    read ('[' :: '-' :: chars ++ [']']) = .ok [.within (spans ('-' :: chars))] := by
  have closed : readSet ('-' :: chars ++ [']']) = some (.within (spans ('-' :: chars)), []) := by
    change (closeSet ('-' :: chars ++ [']'])).map _ = _
    rw [closeSet_closed '-' free]
    rfl
  simp only [List.cons_append] at closed ⊢
  rw [read, readFrom]
  split
  · rename_i glyph after found
    rw [closed] at found
    cases found
    simp [readFrom, Except.map]
  · rename_i found
    rw [closed] at found
    cases found

end Pattern

namespace Inputs
open Job Pattern

/-- A set that holds a hyphen and is itself too long a name for anything to have. -/
def hyphenSet : Text := '[' :: '-' :: List.replicate 253 'x' ++ [']']

def hyphenGlyph : Glyph := .within (spans ('-' :: List.replicate 253 'x'))

theorem hyphenSet_readAs (tree : FileTree) : ReadAs tree hyphenSet ⟨false, [.wild [hyphenGlyph]], false⟩ := by
  have noSlash : '/' ∉ hyphenSet := by decide
  have whole : cut hyphenSet = [hyphenSet] := by
    have relative : Path.isAbsolute hyphenSet = false := rfl
    have spoken : [hyphenSet].getLast? ≠ some [] := by decide
    simp only [cut, relative, Bool.false_eq_true, if_false, Path.pieces_of_no_slash noSlash, spoken]
  have wide : FileTree.longestName < hyphenSet.size := by decide +kernel
  have closing : ']' ∉ List.replicate 253 'x' := fun member =>
    absurd (List.eq_of_mem_replicate member) (by decide)
  have glyphs : Pattern.read hyphenSet = .ok [hyphenGlyph] := read_set closing
  refine ⟨by decide, rfl, FileTree.contains_wide noSlash wide tree, ?_⟩
  simp only [ofText?, whole, glyphs, bind, Except.bind, List.mapM_cons, List.mapM_nil]
  rfl

theorem hyphenSet_expands {tree : FileTree} (present : tree.contains standardInput = true) :
    ∃ documents, expand tree [hyphenSet] = .ok documents ∧ standardInput ∈ documents := by
  have found : standardInput ∈ walk tree ⟨false, [.wild [hyphenGlyph]], false⟩ :=
    standardInput_mem_walk present (by decide +kernel)
  have expanded : expand tree [hyphenSet] = .ok ([hyphenSet].flatMap (Inputs.found tree)) := by
    rw [expand_eq_ok_iff]
    refine ⟨?_, rfl⟩
    intro argument member
    rw [List.mem_singleton.mp member]
    exact ⟨_, expandOne_readAs (hyphenSet_readAs tree) (List.ne_nil_of_mem found)⟩
  refine ⟨_, expanded, ?_⟩
  rw [mem_expand_not_given expanded (by decide)]
  exact ⟨hyphenSet, by simp, _, hyphenSet_readAs tree, found⟩

/-- What keeps standard input for those who ask for it: no document is named so, every document was checked
to be a file, and the work on them leaves standard input alone. -/
structure OnRequest (tree : FileTree) (documents : List Text) : Prop where
  unnamed : standardInput ∉ documents
  checked : validate tree documents = .ok () → ∀ document ∈ documents, tree.isFile document = true
  unread : ∀ task engine inColour, Keeps Console.input (Program.work tree engine task inColour documents)

theorem onRequest_iff {tree : FileTree} {documents : List Text} :
    OnRequest tree documents ↔ standardInput ∉ documents := by
  constructor
  · exact OnRequest.unnamed
  · intro unnamed
    have named : ∀ document ∈ documents, document ≠ standardInput := by
      rintro document member rfl
      exact unnamed member
    refine ⟨unnamed, ?_, ?_⟩
    · intro valid document member
      rcases validate_eq_ok_iff.mp valid document member with same | isFile
      · exact absurd same (named document member)
      · exact isFile
    · intro task engine inColour
      cases task with
      | check =>
          exact Document.inTurn_keeps fun document member =>
            (Document.check_onlyReports tree engine (named document member)).keeps_input
      | format =>
          exact Document.inTurn_keeps fun document member =>
            (Document.format_printsLast tree engine _ (named document member)).keeps_input

section Reading
variable {Note : Type} {tree : FileTree} {document : Text} {console after : Console Note}

/-- Once standard input was read it is empty, and stays so whatever is loaded later. -/
theorem load_empties {sql : Text} (asked : document = standardInput ∨ console.input = [])
    (ends : runOn (Document.load tree document) console = (.ok sql, after)) : after.input = [] := by
  rw [Document.run_load_given] at ends
  obtain ⟨-, rfl⟩ := Prod.mk.inj ends
  by_cases named : document = standardInput
  · exact if_pos named
  · exact (if_neg named).trans (asked.resolve_left named)

theorem announced_empties {judge : Text → Job Note Bool} {passed : Bool}
    (keeps : ∀ sql, Keeps Console.input (judge sql)) (asked : document = standardInput ∨ console.input = [])
    (ends : runOn (do announce document; judge (← Document.load tree document)) console =
      (.ok passed, after)) : after.input = [] := by
  obtain ⟨_, announced, begun, loading⟩ := run_bind_eq_ok ends
  obtain ⟨sql, loaded, read, judged⟩ := run_bind_eq_ok loading
  have untouched : announced.input = console.input := by
    have kept := announce_keeps unwritten_input document console
    rw [begun] at kept
    exact kept
  have emptied : loaded.input = [] := load_empties (by rwa [untouched]) read
  have kept := keeps sql loaded
  rw [judged] at kept
  exact kept.trans emptied

theorem inTurn_empties {work : Text → Job Note Bool} {documents : List Text} {passed : Bool}
    (each : ∀ {document console passed after}, document = standardInput ∨ console.input = [] →
      runOn (work document) console = (.ok passed, after) → after.input = [])
    (asked : standardInput ∈ documents ∨ console.input = [])
    (ends : runOn (Document.inTurn work documents) console = (.ok passed, after)) : after.input = [] := by
  induction documents generalizing console passed with
  | nil =>
      cases ends
      simpa using asked
  | cons document rest ih =>
      obtain ⟨first, between, begun, others⟩ := run_bind_eq_ok ends
      obtain ⟨later, last, continued, returned⟩ := run_bind_eq_ok others
      cases returned
      -- The name is this document's or comes later; either way the rest starts with its own case.
      by_cases now : document = standardInput ∨ console.input = []
      · exact ih (Or.inr (each now begun)) continued
      · obtain ⟨other, unread⟩ := not_or.mp now
        have member := asked.resolve_right unread
        rcases List.mem_cons.mp member with same | present
        · exact absurd same.symm other
        · exact ih (Or.inl present) continued

end Reading

theorem work_empties {tree : FileTree} {task : Task} {engine : Engine Call} {inColour passed : Bool}
    {documents : List Text} {console after : Console Call} (named : standardInput ∈ documents)
    (ends : runOn (Program.work tree engine task inColour documents) console = (.ok passed, after)) :
    after.input = [] := by
  cases task with
  | check =>
      exact inTurn_empties
        (fun asked => announced_empties (fun sql => (Document.checkText_onlyReports engine sql).keeps_input) asked)
        (Or.inl named) ends
  | format =>
      exact inTurn_empties
        (fun asked => announced_empties
          (fun sql => (Document.formatText_printsLast engine _ sql _).keeps_input) asked)
        (Or.inl named) ends

theorem validate_named_iff {tree : FileTree} {documents : List Text} :
    validate tree documents = .ok () ↔
      ∀ document ∈ documents, document ≠ standardInput → tree.isFile document = true := by
  rw [validate_eq_ok_iff]
  constructor
  · intro each document member named
    exact (each document member).resolve_left named
  · intro each document member
    by_cases named : document = standardInput
    · exact Or.inl named
    · exact Or.inr (each document member named)

/-- In a tree without an entry `-`, and in no other, every list of arguments without `-` has its standard
input read on request only. For one such list that depends on its patterns alone; where one of them matches
`-`, that match is not checked to be a file and a run that comes to its end has read standard input. -/
theorem standard_input_on_request_iff {tree : FileTree} (proper : tree.Proper) :
    ((∀ arguments documents, standardInput ∉ arguments → expand tree arguments = .ok documents →
        OnRequest tree documents) ↔ tree.contains standardInput = false) ∧
      ∀ arguments documents, standardInput ∉ arguments → expand tree arguments = .ok documents →
        (OnRequest tree documents ↔ ∀ argument ∈ arguments, ∀ pattern,
          ReadAs tree argument pattern → standardInput ∉ walk tree pattern) ∧
        (¬OnRequest tree documents →
          (validate tree documents = .ok () ↔
            ∀ document ∈ documents, document ≠ standardInput → tree.isFile document = true) ∧
          ∀ task engine inColour console passed after,
            runOn (Program.work tree engine task inColour documents) console = (.ok passed, after) →
              after.input = []) := by
  refine ⟨⟨?_, ?_⟩, ?_⟩
  · -- A pattern that is no name of any file finds the entry, whatever else there is.
    intro always
    by_contra present
    obtain ⟨documents, expanded, named⟩ := hyphenSet_expands (Bool.of_not_eq_false present)
    exact (always _ _ (by decide) expanded).unnamed named
  · intro absent arguments documents unasked expanded
    rw [onRequest_iff, mem_expand_not_given expanded unasked]
    rintro ⟨argument, -, pattern, -, member⟩
    exact standardInput_not_mem_walk proper absent pattern member
  · intro arguments documents unasked expanded
    rw [onRequest_iff, mem_expand_not_given expanded unasked]
    refine ⟨by simp, ?_⟩
    intro matched
    refine ⟨validate_named_iff, ?_⟩
    intro task engine inColour console passed after ends
    have named : standardInput ∈ documents := by
      rw [mem_expand_not_given expanded unasked]
      exact not_not.mp matched
    exact work_empties named ends

def oneFile (name : String) : FileTree :=
  (FileTree.folder []).withFile name.toList (Text.bytes "SELECT 1;\n".toList)

theorem oneFile_proper {name : String} (relative : Path.isAbsolute name.toList = false) : (oneFile name).Proper :=
  FileTree.withFile_proper (fun _ member => by cases member) relative _

theorem star_on_request :
    expand (oneFile "a.sql") [['*']] = .ok ["a.sql".toList] ∧ OnRequest (oneFile "a.sql") ["a.sql".toList] := by
  have expanded : expand (oneFile "a.sql") [['*']] = .ok ["a.sql".toList] := eq_ok_of_toOption (by decide +kernel)
  constructor
  · exact expanded
  · exact (standard_input_on_request_iff (oneFile_proper (by decide +kernel))).1.mpr rfl _ _ (by decide) expanded

/-- A star in a folder whose one file is called `-`. Standard input is empty, so the run fails for want of
SQL, which the file has. -/
theorem star_takes_standardInput :
    standardInput ∉ [['*']] ∧ (expand (oneFile "-") [['*']]).toOption = some [standardInput] ∧
      ¬OnRequest (oneFile "-") [standardInput] ∧
      (Program.start ⟨oneFile "-", [], .steady (.ok ⟨[], none⟩), false⟩ [['*']]).code = 10 ∧
      (Program.start ⟨oneFile "-", [], .steady (.ok ⟨[], none⟩), false⟩ [['.', '/', '-']]).code = 0 := by
  refine ⟨by decide, by decide +kernel, ?_, by decide +kernel, by decide +kernel⟩
  intro onRequest
  exact onRequest.unnamed (by simp)

end Inputs
end SqlCheck
