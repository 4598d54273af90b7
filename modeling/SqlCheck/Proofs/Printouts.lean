import SqlCheck.Proofs.Colours
import SqlCheck.Proofs.ExitCode
import SqlCheck.Proofs.Formatting

/-! What formatting prints. Of a text it prints nothing, or what the engine made of it with one line end behind it;
so the output of a run is a list of pieces, one for each document in order, and it ends before the first
document that is no text or that the engine refuses. What is reported goes elsewhere. -/
namespace SqlCheck

namespace Document
open Job Inputs
variable {Note : Type} {tree : FileTree} {engine : Engine Note} {console : Console Note} {document : Text}
  {finish : Finish}

/-- What is printed of an input, a name with its bytes: nothing if they are those of a blank text, else the text that
the engine gives, with a line feed in place of all the line ends behind it. -/
inductive Piece (engine : Engine Note) (finish : Finish) : Text × List UInt8 → Text → Prop
  | nothing {document sql : Text} {bytes : List UInt8} (read : Text.ofBytes? bytes = some sql)
      (blank : sql.isBlank = true) : Piece engine finish (document, bytes) []
  | closed {document sql kept ends : Text} {bytes : List UInt8} (read : Text.ofBytes? bytes = some sql)
      (spoken : sql.isBlank = false) (accepted : (engine.format document sql finish).value = .ok (kept ++ ends))
      (dropped : ∀ c ∈ ends, c = '\n' ∨ c = '\r') (stays : ∀ c, kept.getLast? = some c → c ≠ '\n' ∧ c ≠ '\r') :
      Piece engine finish (document, bytes) (kept ++ ['\n'])

/-- An input that ends formatting: its bytes are no text, or the engine refuses it. -/
inductive Stops (engine : Engine Note) (finish : Finish) : Text × List UInt8 → Failure → Prop
  | unread {document : Text} {bytes : List UInt8} (unread : Text.ofBytes? bytes = none) :
      Stops engine finish (document, bytes) (.unreadable document .notText)
  | refused {document sql : Text} {bytes : List UInt8} {failure : Failure} (read : Text.ofBytes? bytes = some sql)
      (spoken : sql.isBlank = false) (refused : (engine.format document sql finish).value = .error failure) :
      Stops engine finish (document, bytes) failure

/-- The pieces printed of some inputs, in order, and what ended them before the last input, if anything did. -/
inductive Printout (engine : Engine Note) (finish : Finish) :
    List (Text × List UInt8) → List Text → Option Failure → Prop
  | done : Printout engine finish [] [] none
  | stopped {input : Text × List UInt8} {rest : List (Text × List UInt8)} {failure : Failure}
      (stops : Stops engine finish input failure) : Printout engine finish (input :: rest) [] (some failure)
  | piece {input : Text × List UInt8} {rest : List (Text × List UInt8)} {own : Text} {others : List Text}
      {stop : Option Failure} (first : Piece engine finish input own) (later : Printout engine finish rest others stop) :
      Printout engine finish (input :: rest) (own :: others) stop

theorem closeLine_split (text : Text) :
    ∃ kept ends, text = kept ++ ends ∧ closeLine text = kept ++ ['\n'] ∧ (∀ c ∈ ends, c = '\n' ∨ c = '\r') ∧
      ∀ c, kept.getLast? = some c → c ≠ '\n' ∧ c ≠ '\r' := by
  refine ⟨text.rdropWhile isLineEnd, text.rtakeWhile isLineEnd, List.rdropWhile_append_rtakeWhile.symm,
    closeLine_eq text, ?_, ?_⟩
  · intro c member
    simpa [isLineEnd] using List.mem_rtakeWhile_imp member
  · intro c last
    obtain ⟨nonempty, rfl⟩ := List.mem_getLast?_eq_getLast last
    simpa [isLineEnd] using List.rdropWhile_last_not isLineEnd text nonempty

theorem ofDocument_prints (engine : Engine Note) (finish : Finish)
    (valid : document = standardInput ∨ tree.isFile document = true) (input : List UInt8) :
    let made := Formatted.ofDocument tree engine input document finish
    match made.result with
    | .error failure => Stops engine finish (document, offered tree input document) failure ∧ made.printed = []
    | .ok _ => Piece engine finish (document, offered tree input document) made.printed := by
  simp only [Formatted.ofDocument, given_of_valid valid]
  cases read : Text.ofBytes? (offered tree input document) with
  | none => exact ⟨.unread read, rfl⟩
  | some sql =>
      by_cases blank : sql.isBlank = true
      · simpa [Formatted.ofText, blank] using .nothing read blank
      · have spoken : sql.isBlank = false := by simpa using blank
        cases answer : (engine.format document sql finish).value with
        | error failure => simpa [Formatted.ofText, spoken, answer] using .refused read spoken answer
        | ok formatted =>
            obtain ⟨kept, ends, rfl, closed, dropped, stays⟩ := closeLine_split formatted
            simpa [Formatted.ofText, spoken, answer, closed] using .closed read spoken answer dropped stays

theorem formatEach_prints (free : console.Unlimited) (engine : Engine Note) (finish : Finish) {documents : List Text}
    (valid : ∀ document ∈ documents, document = standardInput ∨ tree.isFile document = true) :
    let ended := runOn (formatEach tree engine finish documents) console
    ∃ pieces stop, Printout engine finish (documents.zip (contents tree console.input documents)) pieces stop ∧
      ended.2.output.written = console.output.written ++ Text.bytes pieces.flatten ∧
      ∀ failure, ended.1 = .error failure ↔ stop = some failure := by
  induction documents generalizing console with
  | nil => exact ⟨[], none, .done, by simp [formatEach, inTurn, Text.bytes], by simp [formatEach, inTurn]⟩
  | cons document rest ih =>
      have begun := run_format free tree engine document finish
      have own := ofDocument_prints engine finish (valid document (by simp)) console.input
      rw [contents, List.zip_cons_cons, formatEach]
      generalize Formatted.ofDocument tree engine console.input document finish = made at begun own
      obtain ⟨result, text, notes⟩ := made
      let after := finished tree document ⟨result, text, notes⟩ console
      have printed : after.output.written = console.output.written ++ text.bytes := rfl
      cases result with
      | error failure =>
          obtain ⟨stops, rfl⟩ := own
          refine ⟨[], some failure, .stopped stops, ?_, ?_⟩
          · rw [run_inTurn_error begun]
            exact printed
          · rw [run_inTurn_error begun]
            simp
      | ok passed =>
          -- The later pieces are those of the bytes that this document has left the others.
          have free_after : after.Unlimited := finished_unlimited free _
          obtain ⟨pieces, stop, later, added, ends⟩ := ih free_after fun other member => valid other (by simp [member])
          refine ⟨text :: pieces, stop, .piece own later, ?_, ?_⟩
          · rw [run_inTurn_ok begun, List.flatten_cons, Text.bytes_append, ← List.append_assoc, ← printed]
            exact added
          · intro failure
            rw [run_inTurn_ok begun, ← ends failure, formatEach]
            cases (runOn (inTurn (format tree engine finish) rest) after).1 with
            | error other => rfl
            | ok others => simp [Except.map]

end Document

namespace Program
open Inputs Job Document

theorem exitCode_eq_one_iff (result : Except Failure Bool) : exitCode result = 1 ↔ ∃ failure, result = .error failure := by
  cases result with
  | error failure => simp [exitCode]
  | ok passed => cases passed <;> simp [exitCode]

/-- A run that formats writes the pieces of its documents to the output and nothing else, whatever the engine; it
ends with an error exactly if something ended the pieces. -/
theorem format_run_prints (surroundings : Surroundings) (options : Options) (config : Text) {documents : List Text}
    (valid : validate surroundings.tree documents = .ok ()) :
    let inColour := options.wantsColour surroundings.onTerminal
    let finish : Finish := if inColour then .decorated else .plain
    let inputs := documents.zip (contents surroundings.tree surroundings.input documents)
    let runWith (engine : Engine Call) :=
      let ends := runOn (work surroundings.tree engine .format inColour documents) (opening surroundings options config)
      ending .format ends.1 ends.2
    (∀ engine, ∃ pieces stop, Printout engine finish inputs pieces stop ∧
      (runWith engine).output = Text.bytes pieces.flatten ∧ ((runWith engine).code = 1 ↔ stop.isSome)) ∧
    ∀ arguments, CommandLine.parse arguments = .ok options → options.listForms = false → options.task = .format →
      prepare surroundings.tree options = .ok (documents, config) →
      start surroundings arguments = runWith (surroundings.parser.engine inColour config).value := by
  intro inColour finish inputs runWith
  constructor
  · intro engine
    obtain ⟨pieces, stop, printout, written, ends⟩ := formatEach_prints (opening_unlimited surroundings options config)
      engine finish (validate_eq_ok_iff.mp valid)
    refine ⟨pieces, stop, printout, written, ?_⟩
    have coded : (runWith engine).code = exitCode _ := ending_code .format _ _
    rw [coded, exitCode_eq_one_iff, Option.isSome_iff_exists]
    exact exists_congr ends
  · intro arguments parsed plain formatting prepared
    have started : start surroundings arguments = run surroundings options := by rw [start, parsed]
    rw [started, run_ready plain prepared, formatting]

def threeTexts : FileTree := .folder
  [("a.sql".toList, .file (Text.bytes "SELECT 1\r\n\n".toList)), ("blank.sql".toList, .file (Text.bytes "\t".toList)),
    ("latin.sql".toList, .file [83, 233])]

/-- Standard input is printed where it is named first and blank where it is named again; a text in another encoding
ends the run, so what stands behind it is not printed. -/
theorem latin_text_ends_printout :
    let arguments := ["-f", "a.sql", "-", "blank.sql", "-", "latin.sql", "a.sql"].map String.toList
    let surroundings : Surroundings :=
      ⟨threeTexts, Text.bytes "SELECT 2".toList, .steady (.ok ⟨[], none⟩), false⟩
    let inputs := arguments.tail.zip (contents threeTexts surroundings.input arguments.tail)
    validate threeTexts arguments.tail = .ok () ∧
    (∃ pieces stop, Printout (surroundings.parser.engine false Parser.defaultConfig).value .plain inputs pieces stop ∧
      (start surroundings arguments).output = Text.bytes pieces.flatten ∧
      ((start surroundings arguments).code = 1 ↔ stop.isSome)) ∧
    (start surroundings arguments).output = Text.bytes "SELECT 1\nSELECT 2\n".toList ∧
    (start surroundings arguments).code = 1 := by
  intro arguments surroundings inputs
  have valid : validate threeTexts arguments.tail = .ok () := by decide +kernel
  have parsed : CommandLine.parse arguments = .ok { format := true, documents := arguments.tail } := rfl
  have prepared : prepare threeTexts { format := true, documents := arguments.tail } =
      .ok (arguments.tail, Parser.defaultConfig) := rfl
  obtain ⟨prints, runs⟩ := format_run_prints surroundings { format := true, documents := arguments.tail }
    Parser.defaultConfig valid
  refine ⟨valid, ?_, by decide +kernel, by decide +kernel⟩
  rw [runs arguments parsed rfl rfl prepared]
  exact prints _

end Program
end SqlCheck
