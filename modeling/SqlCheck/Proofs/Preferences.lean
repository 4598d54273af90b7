import Mathlib.Data.List.Chain
import Mathlib.Tactic.SplitIfs
import SqlCheck.CommandLine

/-! What a command line says about colours. The two flags are told from everything else by their whole argument, and
each takes the other back, so what an accepted line comes to is what its last flag says. That is carried from one
item to the next: the switches always follow the last flag so far, however many there were. A flag can be said again
once the other has been said, and not before. -/
namespace SqlCheck

namespace Options

/-- The switches for colours say what the flag says, and neither is on where there was no flag. -/
structure Follows (flag : Option Bool) (options : Options) : Prop where
  colour : options.colour = (flag == some true)
  noColour : options.noColour = (flag == some false)

variable {flag : Option Bool} {options : Options}

theorem Follows.exclusive (follows : options.Follows flag) : ¬(options.colour = true ∧ options.noColour = true) := by
  rintro ⟨on, off⟩
  have wanted : flag = some true := beq_iff_eq.mp (follows.colour ▸ on)
  have unwanted : flag = some false := beq_iff_eq.mp (follows.noColour ▸ off)
  rw [wanted] at unwanted
  cases unwanted

theorem Follows.wantsColour (follows : options.Follows flag) (onTerminal : Bool) :
    options.wantsColour onTerminal = flag.getD onTerminal := by
  rw [Options.wantsColour, follows.colour, follows.noColour]
  cases flag with
  | none => rfl
  | some wanted => cases wanted <;> rfl

end Options

namespace CommandLine

def flag? (argument : Text) : Option Bool :=
  if argument = "--color".toList then some true else if argument = "--nocolor".toList then some false else none

/-- The flags of a command line, in order. Behind `--` there are none. -/
def flags (arguments : List Text) : List Bool := (arguments.takeWhile (· ≠ ['-', '-'])).filterMap flag?

/-- An argument that ends with a setting without its value. -/
def AwaitsValue (setting : Setting) (argument : Text) : Prop :=
  (items argument).getLast? = some (.choose (.setting setting))

def Choice.flag? : Choice → Option Bool
  | switch .colour => some true
  | switch .noColour => some false
  | _ => none

def Item.flag? : Item → Option Bool
  | choose choice => choice.flag?
  | _ => none

section Items

theorem flag?_long (name : Text) : flag? ('-' :: '-' :: name) =
    if name = "color".toList then some true else if name = "nocolor".toList then some false else none := by
  have colour : "--color".toList = '-' :: '-' :: "color".toList := rfl
  have noColour : "--nocolor".toList = '-' :: '-' :: "nocolor".toList := rfl
  simp only [flag?, colour, noColour, List.cons_inj_right]

theorem longChoice?_flag (name : Text) : (longChoice? name).bind Choice.flag? = flag? ('-' :: '-' :: name) := by
  rw [flag?_long]
  unfold longChoice?
  split_ifs <;> simp_all [Choice.flag?]

theorem longItem_flag (text : Text) : (longItem text).flag? = flag? ('-' :: '-' :: text) := by
  have whole := List.takeWhile_append_dropWhile (p := (· ≠ '=')) (l := text)
  cases rest : text.dropWhile (· ≠ '=') with
  | nil =>
      have name : text.takeWhile (· ≠ '=') = text := by rwa [rest, List.append_nil] at whole
      rw [← longChoice?_flag, longItem, name, rest]
      cases longChoice? text <;> rfl
  | cons mark value =>
      -- With a value behind an equals sign it is no flag any more.
      have valued : flag? ('-' :: '-' :: text) = none := by
        rw [flag?_long, if_neg, if_neg]
        · rintro rfl
          cases rest
        · rintro rfl
          cases rest
      rw [valued, longItem, rest]
      cases longChoice? (text.takeWhile (· ≠ '=')) with
      | none => rfl
      | some choice => cases choice <;> rfl

theorem shortChoice?_flag {c : Char} {choice : Choice} (known : shortChoice? c = some choice) :
    choice.flag? = none := by
  unfold shortChoice? at known
  split at known <;> cases known <;> rfl

theorem shortItems_flags (text : Text) : (shortItems text).filterMap Item.flag? = [] := by
  fun_induction shortItems text with
  | case1 => rfl
  | case2 => rfl
  | case3 => rfl
  | case4 => rfl
  | case5 => rfl
  | case6 c rest choice _ known ih => rw [List.filterMap_cons, Item.flag?, shortChoice?_flag known, ih]

theorem flag?_eq_none {argument : Text} (short : ∀ rest, argument ≠ '-' :: '-' :: rest) : flag? argument = none := by
  have colour : argument ≠ "--color".toList := short "color".toList
  have noColour : argument ≠ "--nocolor".toList := short "nocolor".toList
  rw [flag?, if_neg colour, if_neg noColour]

theorem items_flag (argument : Text) : ((items argument).filterMap Item.flag?).getLast? = flag? argument := by
  fun_cases items argument with
  | case1 rest =>
      rw [← longItem_flag, List.filterMap_cons]
      cases (longItem rest).flag? <;> rfl
  | case2 c rest other =>
      rw [shortItems_flags, flag?_eq_none]
      · rfl
      · intro behind same
        exact other (List.cons.inj (List.cons.inj same).2).1
  | case3 _ short =>
      rw [flag?_eq_none short]
      rfl

end Items

theorem bind_eq_ok {Value Next : Type} {first : Except Refusal Value} {second : Value → Except Refusal Next}
    {last : Next} (ends : first >>= second = .ok last) : ∃ value, first = .ok value ∧ second value = .ok last := by
  cases first with
  | error refusal => cases ends
  | ok value => exact ⟨value, rfl, ends⟩

theorem getLast?_filterMap_cons {Value : Type} (said : Value → Option Bool) (first : Value) (rest : List Value)
    (flag : Option Bool) :
    ((first :: rest).filterMap said).getLast?.or flag = (rest.filterMap said).getLast?.or ((said first).or flag) := by
  cases told : said first with
  | none =>
      rw [List.filterMap_cons_none told]
      rfl
  | some wanted =>
      rw [List.filterMap_cons_some told, List.getLast?_cons]
      cases (rest.filterMap said).getLast? <;> rfl

namespace Draft

variable {flag : Option Bool} {draft next : Draft}

theorem markOnce_options {choice : Choice} (marked : draft.markOnce choice = .ok next) :
    next.options = draft.options := by
  unfold markOnce at marked
  split at marked
  · cases marked
  · cases marked
    rfl

theorem assign_follows {setting : Setting} {value : Text} (follows : draft.options.Follows flag)
    (assigned : draft.assign setting value = .ok next) : next.options.Follows flag := by
  obtain ⟨noted, marked, given⟩ := bind_eq_ok assigned
  rw [← markOnce_options marked] at follows
  by_cases absent : value = []
  · simp only [if_pos absent] at given
    cases given
  · simp only [if_neg absent] at given
    cases setting with
    | config =>
        cases given
        exact ⟨follows.colour, follows.noColour⟩
    | form =>
        cases named : ReportForm.ofName? value with
        | none =>
            simp only [named] at given
            cases given
        | some form =>
            simp only [named] at given
            cases given
            exact ⟨follows.colour, follows.noColour⟩

theorem settle_follows (follows : draft.options.Follows flag) (settled : draft.settle = .ok next) :
    next.options.Follows flag := by
  unfold settle at settled
  split at settled
  · cases settled
    exact follows
  · cases settled
  · have unwaiting : ({ draft with waiting := none } : Draft).options.Follows flag := follows
    exact assign_follows unwaiting settled

theorem turnOn_follows {switch : Switch} (follows : draft.options.Follows flag)
    (turned : draft.turnOn switch = .ok next) : next.options.Follows ((Choice.switch switch).flag?.or flag) := by
  obtain ⟨noted, marked, given⟩ := bind_eq_ok turned
  rw [← markOnce_options marked] at follows
  cases switch with
  | format =>
      cases given
      exact ⟨follows.colour, follows.noColour⟩
  | listForms =>
      cases given
      exact ⟨follows.colour, follows.noColour⟩
  | colour =>
      cases given
      exact ⟨rfl, rfl⟩
  | noColour =>
      cases given
      exact ⟨rfl, rfl⟩

theorem addDocument_follows (document : Text) (follows : draft.options.Follows flag) :
    (draft.addDocument document).options.Follows flag := ⟨follows.colour, follows.noColour⟩

theorem addDocuments_follows (documents : List Text) (follows : draft.options.Follows flag) :
    (documents.foldl (fun draft document => draft.addDocument document) draft).options.Follows flag := by
  induction documents generalizing draft with
  | nil => exact follows
  | cons document rest ih => exact ih (addDocument_follows document follows)

theorem take_follows {item : Item} (follows : draft.options.Follows flag) (taken : draft.take item = .ok next) :
    next.options.Follows (item.flag?.or flag) := by
  cases item with
  | mistake refusal => cases taken
  | assign setting value =>
      obtain ⟨settled, settles, given⟩ := bind_eq_ok taken
      exact assign_follows (settle_follows follows settles) given
  | plain text =>
      dsimp only [take] at taken
      split at taken
      · cases taken
        exact follows
      · obtain ⟨settled, settles, given⟩ := bind_eq_ok taken
        have kept := settle_follows follows settles
        cases given
        exact addDocument_follows text kept
  | choose choice =>
      cases choice with
      | switch which =>
          obtain ⟨settled, settles, given⟩ := bind_eq_ok taken
          exact turnOn_follows (settle_follows follows settles) given
      | setting which =>
          obtain ⟨settled, settles, given⟩ := bind_eq_ok taken
          have kept := settle_follows follows settles
          cases given
          exact kept
      | help =>
          obtain ⟨settled, -, given⟩ := bind_eq_ok taken
          cases given
      | version =>
          obtain ⟨settled, -, given⟩ := bind_eq_ok taken
          cases given

theorem takeAll_follows {items : List Item} (follows : draft.options.Follows flag)
    (taken : draft.takeAll items = .ok next) :
    next.options.Follows ((items.filterMap Item.flag?).getLast?.or flag) := by
  induction items generalizing flag draft with
  | nil =>
      cases taken
      exact follows
  | cons item rest ih =>
      obtain ⟨middle, first, others⟩ := bind_eq_ok taken
      rw [getLast?_filterMap_cons]
      exact ih (take_follows follows first) others

theorem takeAll_awaits {items : List Item} {setting : Setting}
    (awaits : items.getLast? = some (.choose (.setting setting))) (taken : draft.takeAll items = .ok next) :
    next.waiting = some (setting, none) := by
  induction items generalizing draft with
  | nil => cases awaits
  | cons item rest ih =>
      obtain ⟨middle, first, others⟩ := bind_eq_ok taken
      cases rest with
      | nil =>
          cases awaits
          obtain ⟨settled, -, given⟩ := bind_eq_ok first
          cases given
          cases others
          rfl
      | cons other behind => exact ih awaits others

/-- A flag cannot be the value that is waited for. -/
theorem takeAll_flag {argument : Text} {setting : Setting} (waiting : draft.waiting = some (setting, none))
    (taken : draft.takeAll (items argument) = .ok next) : flag? argument = none := by
  have unsettled : draft.settle = .error (.missingValue setting) := by rw [settle, waiting]
  have refused (switch : Switch) : draft.takeAll [.choose (.switch switch)] = .error (.missingValue setting) := by
    simp only [takeAll, take, unsettled]
    rfl
  have alone : items "--color".toList = [.choose (.switch .colour)] ∧
      items "--nocolor".toList = [.choose (.switch .noColour)] := by decide
  rw [flag?]
  split_ifs with colour noColour
  · rw [colour, alone.1, refused] at taken
    cases taken
  · rw [noColour, alone.2, refused] at taken
    cases taken
  · rfl

end Draft

section Arguments
open Draft

variable {flag : Option Bool} {draft last : Draft} {document : Text} {arguments : List Text}

theorem readArguments_follows (follows : draft.options.Follows flag)
    (read : readArguments arguments draft = .ok last) :
    last.options.Follows ((flags arguments).getLast?.or flag) := by
  induction arguments generalizing flag draft with
  | nil => exact settle_follows follows read
  | cons argument rest ih =>
      by_cases ends : argument = ['-', '-']
      · rw [readArguments, if_pos ends] at read
        obtain ⟨settled, settles, given⟩ := bind_eq_ok read
        have kept := settle_follows follows settles
        cases given
        rw [flags, List.takeWhile_cons_of_neg (by simpa using ends)]
        exact addDocuments_follows rest kept
      · rw [readArguments, if_neg ends] at read
        obtain ⟨middle, first, others⟩ := bind_eq_ok read
        have begun := takeAll_follows follows first
        rw [items_flag] at begun
        rw [flags, List.takeWhile_cons_of_pos (by simpa using ends), getLast?_filterMap_cons]
        exact ih begun others

theorem readArguments_append {front : List Text} (open_ended : ['-', '-'] ∉ front)
    (read : readArguments (front ++ arguments) draft = .ok last) :
    ∃ middle, readArguments arguments middle = .ok last := by
  induction front generalizing draft with
  | nil => exact ⟨draft, read⟩
  | cons argument rest ih =>
      obtain ⟨other, others⟩ : ['-', '-'] ≠ argument ∧ ['-', '-'] ∉ rest := by simpa using open_ended
      rw [List.cons_append, readArguments, if_neg (Ne.symm other)] at read
      obtain ⟨middle, -, later⟩ := bind_eq_ok read
      exact ih others later

theorem awaited_not_flag {setting : Setting} {argument value : Text} (awaits : AwaitsValue setting argument)
    (read : readArguments (argument :: value :: arguments) draft = .ok last) : flag? value = none := by
  have further : argument ≠ ['-', '-'] := by
    rintro rfl
    cases awaits
  rw [readArguments, if_neg further] at read
  obtain ⟨middle, first, later⟩ := bind_eq_ok read
  by_cases ends : value = ['-', '-']
  · rw [ends]
    decide
  · rw [readArguments, if_neg ends] at later
    obtain ⟨after, second, -⟩ := bind_eq_ok later
    exact takeAll_flag (takeAll_awaits awaits first) second

theorem parse_read {options : Options} (parsed : parse arguments = .ok options) :
    ∃ last, readArguments arguments {} = .ok last ∧ last.options = options ∧
      ¬(options.documents = [] ∧ options.listForms = false) := by
  obtain ⟨last, read, given⟩ := bind_eq_ok parsed
  split at given
  · cases given
  · rename_i needed
    cases given
    exact ⟨last, read, rfl, needed⟩

def flagText (wanted : Bool) : Text := if wanted then "--color".toList else "--nocolor".toList

def flagChoice (wanted : Bool) : Choice := .switch (if wanted then .colour else .noColour)

/-- Nothing but flags was read so far, and this was the last of them. -/
structure Draft.Said (flag : Option Bool) (draft : Draft) : Prop where
  given : draft.given = flag.toList.map flagChoice
  waiting : draft.waiting = none

theorem takeAll_flagText (said : draft.Said flag) (wanted : Bool) :
    if flag = some wanted then draft.takeAll (items (flagText wanted)) = .error (.repeated (flagChoice wanted))
    else ∃ next, draft.takeAll (items (flagText wanted)) = .ok next ∧ next.Said (some wanted) := by
  have alone : items (flagText wanted) = [.choose (flagChoice wanted)] := by cases wanted <;> decide
  obtain ⟨options, given, waiting⟩ := draft
  obtain ⟨rfl, rfl⟩ := said
  rw [alone]
  -- Each flag that is taken leaves only itself behind, since it takes the other back.
  rcases flag with _ | _ | _ <;> cases wanted
  · exact ⟨_, rfl, rfl, rfl⟩
  · exact ⟨_, rfl, rfl, rfl⟩
  · rfl
  · exact ⟨_, rfl, rfl, rfl⟩
  · exact ⟨_, rfl, rfl, rfl⟩
  · rfl

theorem readArguments_flags (plain : items document = [.plain document]) (further : document ≠ ['-', '-'])
    (said : draft.Said flag) (wanted : List Bool) :
    if (flag.toList ++ wanted).IsChain (· ≠ ·) then
      ∃ last, readArguments (wanted.map flagText ++ [document]) draft = .ok last ∧ last.options.documents ≠ []
    else
      ∃ again, readArguments (wanted.map flagText ++ [document]) draft = .error (.repeated (flagChoice again)) := by
  induction wanted generalizing draft flag with
  | nil =>
      have alone : (flag.toList ++ []).IsChain (· ≠ ·) := by cases flag <;> simp
      obtain ⟨options, given, waiting⟩ := draft
      obtain ⟨rfl, rfl⟩ := said
      rw [if_pos alone, List.map_nil, List.nil_append, readArguments, if_neg further, plain]
      exact ⟨_, rfl, by simp [addDocument]⟩
  | cons first rest ih =>
      have other : flagText first ≠ ['-', '-'] := by cases first <;> decide
      have step := takeAll_flagText said first
      rw [List.map_cons, List.cons_append, readArguments, if_neg other]
      by_cases again : flag = some first
      · rw [if_pos again] at step
        rw [step, again, if_neg (by simp)]
        exact ⟨first, rfl⟩
      · rw [if_neg again] at step
        obtain ⟨next, taken, saying⟩ := step
        have shorter : (flag.toList ++ first :: rest).IsChain (· ≠ ·) ↔
            ((some first).toList ++ rest).IsChain (· ≠ ·) := by
          cases flag with
          | none => rfl
          | some before =>
              have apart : before ≠ first := fun same => again (congrArg some same)
              simp [apart]
        rw [taken]
        simp only [shorter]
        exact ih saying

/-- Flags in front of a document are accepted exactly if none stands right behind itself. -/
theorem flags_accepted (plain : items document = [.plain document]) (further : document ≠ ['-', '-'])
    (wanted : List Bool) :
    if wanted.IsChain (· ≠ ·) then ∃ options, parse (wanted.map flagText ++ [document]) = .ok options
    else ∃ again, parse (wanted.map flagText ++ [document]) = .error (.repeated (flagChoice again)) := by
  have begun : Draft.Said none {} := ⟨rfl, rfl⟩
  have read := readArguments_flags plain further begun wanted
  rw [Option.toList_none, List.nil_append] at read
  by_cases alternating : wanted.IsChain (· ≠ ·)
  · rw [if_pos alternating] at read ⊢
    obtain ⟨last, read, named⟩ := read
    exact ⟨last.options, by simp [parse, read, named, bind, Except.bind, pure, Except.pure]⟩
  · rw [if_neg alternating] at read ⊢
    obtain ⟨again, read⟩ := read
    refine ⟨again, ?_⟩
    rw [parse, read]
    rfl

/-- On an accepted command line the switches for colours are never both on, and the last flag says whether colours are
wanted, or the terminal where there is none. Only what stands as an option is taken for a flag: an argument that
awaits a value never has a flag behind it. -/
theorem last_flag_counts {options : Options} (parsed : parse arguments = .ok options) :
    ¬(options.colour = true ∧ options.noColour = true) ∧
    (∀ onTerminal, options.wantsColour onTerminal = (flags arguments).getLast?.getD onTerminal) ∧
    ∀ front setting argument value back, arguments = front ++ argument :: value :: back → ['-', '-'] ∉ front →
      AwaitsValue setting argument → flag? value = none := by
  obtain ⟨last, read, rfl, -⟩ := parse_read parsed
  have follows : last.options.Follows ((flags arguments).getLast?.or none) := readArguments_follows ⟨rfl, rfl⟩ read
  rw [Option.or_none] at follows
  refine ⟨follows.exclusive, follows.wantsColour, ?_⟩
  rintro front setting argument value back rfl open_ended awaits
  obtain ⟨middle, later⟩ := readArguments_append open_ended read
  exact awaited_not_flag awaits later

/-- Both flags twice and in turn, with one that is a value and one that is the name of a document. -/
def manyFlags : List Text :=
  ["--color".toList, "-r".toList, "emacs".toList, "--nocolor".toList, "--config=--color".toList, "--color".toList,
    "a.sql".toList, "--nocolor".toList, "--".toList, "--color".toList]

/-- Many flags come to no colours, and a flag that was taken back and said again to colours. -/
theorem many_flags_without_colours :
    (∃ options, parse manyFlags = .ok options ∧
      options.config = some "--color".toList ∧ options.documents = ["a.sql".toList, "--color".toList] ∧
      flags manyFlags = [true, false, true, false] ∧
      ¬(options.colour = true ∧ options.noColour = true) ∧ ∀ onTerminal, options.wantsColour onTerminal = false) ∧
    ∃ options, parse ["--color".toList, "--nocolor".toList, "--color".toList, "a.sql".toList] = .ok options ∧
      ∀ onTerminal, options.wantsColour onTerminal = true := by
  constructor
  · have parsed : parse manyFlags = .ok
      ⟨.emacs, false, false, true, some "--color".toList, false, ["a.sql".toList, "--color".toList]⟩ := rfl
    have told : flags manyFlags = [true, false, true, false] := by decide
    obtain ⟨exclusive, wants, -⟩ := last_flag_counts parsed
    refine ⟨_, parsed, rfl, rfl, told, exclusive, fun onTerminal => ?_⟩
    rw [wants, told]
    rfl
  · have plain : items "a.sql".toList = [.plain "a.sql".toList] := rfl
    have alternating : [true, false, true].IsChain (· ≠ ·) := by decide
    have accepted := flags_accepted plain (by decide) [true, false, true]
    rw [if_pos alternating] at accepted
    obtain ⟨options, parsed⟩ := accepted
    obtain ⟨-, wants, -⟩ := last_flag_counts parsed
    have told : flags ([true, false, true].map flagText ++ ["a.sql".toList]) = [true, false, true] := by decide
    refine ⟨options, parsed, fun onTerminal => ?_⟩
    rw [wants, told]
    rfl

end Arguments

end CommandLine
end SqlCheck
