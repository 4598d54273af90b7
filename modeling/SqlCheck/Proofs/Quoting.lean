import Mathlib.Tactic.SplitIfs
import SqlCheck.Proofs.Colours
import SqlCheck.Proofs.Positions
import SqlCheck.Proofs.ReportLines

/-! Reports on texts that the parser could not take. The reason is quoted so that each of its characters can be made
out: from what a character is written as it can be read back whatever follows, so no two reasons are quoted
alike, and nothing that is written is a control character. The report on such a text is therefore one line with
nothing in it to break or bend that line, unless the name in front of it does, and it tells the reason. -/
namespace SqlCheck

namespace Text

def isControl (c : Char) : Bool := decide (c.toNat < 0x20 ∨ c.toNat = 0x7F)

def isPlain (text : Text) : Bool := text.all fun c => !isControl c

theorem isPlain_append (front back : Text) : isPlain (front ++ back) = (isPlain front && isPlain back) :=
  List.all_append

theorem not_mem_of_isPlain {text : Text} (plain : text.isPlain = true) {c : Char} (control : isControl c = true) :
    c ∉ text := by
  intro member
  have harmless := List.all_eq_true.mp plain c member
  rw [control] at harmless
  cases harmless

theorem isUnprintable_of_isControl {c : Char} (control : isControl c = true) : isUnprintable c = true := by
  rw [isUnprintable, Ranges.contains_iff unprintableRanges_ordered]
  rcases of_decide_eq_true control with low | delete
  · exact ⟨(0x0, 0x1F), List.mem_cons_self, by omega, by omega⟩
  · exact ⟨(0x7F, 0xA0), List.mem_cons_of_mem _ List.mem_cons_self, by omega, by omega⟩

theorem mem_toDigits_hex {n : Nat} {c : Char} (member : c ∈ Nat.toDigits 16 n) :
    ∃ digit < 16, c = Nat.digitChar digit := by
  induction n using Nat.strongRecOn with
  | ind n ih =>
      rw [Nat.toDigits_eq_if (by decide)] at member
      split at member
      · rename_i small
        exact ⟨n, small, List.mem_singleton.mp member⟩
      · rcases List.mem_append.mp member with early | last
        · exact ih (n / 16) (by omega) early
        · exact ⟨n % 16, by omega, List.mem_singleton.mp last⟩

def digitValue (c : Char) : Nat := if c.isDigit then c.toNat - '0'.toNat else c.toNat - 'a'.toNat + 10

def hexValue (digits : Text) : Nat := digits.foldl (fun value c => 16 * value + digitValue c) 0

theorem digitValue_digitChar : ∀ digit < 16, digitValue (Nat.digitChar digit) = digit := by decide

theorem digitChar_plain : ∀ digit < 16,
    isControl (Nat.digitChar digit) = false ∧ Nat.digitChar digit ≠ '\x7d' := by decide

theorem hexValue_toDigits (n : Nat) : hexValue (Nat.toDigits 16 n) = n := by
  induction n using Nat.strongRecOn with
  | ind n ih =>
      rw [Nat.toDigits_eq_if (by decide)]
      split
      · rename_i small
        simp [hexValue, digitValue_digitChar n small]
      · have front := ih (n / 16) (by omega)
        have last := digitValue_digitChar (n % 16) (by omega)
        rw [hexValue] at front
        simp only [hexValue, List.foldl_append, List.foldl_cons, List.foldl_nil, front, last]
        omega

def marked : Char → Char
  | 'n' => '\n'
  | 'r' => '\r'
  | 't' => '\t'
  | '0' => '\x00'
  | c => c

/-- The first character of what was escaped, and what is left to be read. -/
def readEscaped : Text → Option (Char × Text)
  | '\\' :: 'u' :: '\x7b' :: rest =>
      some (Char.ofNat (hexValue (rest.takeWhile (· ≠ '\x7d'))), (rest.dropWhile (· ≠ '\x7d')).drop 1)
  | '\\' :: mark :: rest => some (marked mark, rest)
  | c :: rest => some (c, rest)
  | [] => none

/-- Whatever follows, the character that was escaped is read back. -/
theorem readEscaped_escaped (c : Char) (rest : Text) : readEscaped (escaped c ++ rest) = some (c, rest) := by
  by_cases quote : c = '"'
  · subst quote; rfl
  by_cases backslash : c = '\\'
  · subst backslash; rfl
  by_cases feed : c = '\n'
  · subst feed; rfl
  by_cases back : c = '\r'
  · subst back; rfl
  by_cases tab : c = '\t'
  · subst tab; rfl
  by_cases null : c = '\x00'
  · subst null; rfl
  by_cases shown : leavesMark c = true
  · simp [escaped, quote, backslash, feed, back, tab, null, shown, readEscaped]
  · have open_digits : ∀ digit ∈ Nat.toDigits 16 c.toNat, decide (digit ≠ '\x7d') = true := by
      intro digit member
      obtain ⟨value, small, rfl⟩ := mem_toDigits_hex member
      exact decide_eq_true (digitChar_plain value small).2
    simp only [escaped, if_neg quote, if_neg backslash, if_neg feed, if_neg back, if_neg tab, if_neg null,
      if_neg shown, List.cons_append, List.nil_append, List.append_assoc, readEscaped]
    rw [List.takeWhile_append_of_pos open_digits, List.dropWhile_append_of_pos open_digits]
    simp [hexValue_toDigits]

/-- Two texts are told apart if each character of theirs is read back from what it is written as. -/
theorem eq_of_flatMap_eq {write : Char → Text} {first second : Text}
    (reads : ∀ c ∈ first ++ second, ∀ rest, readEscaped (write c ++ rest) = some (c, rest))
    (same : first.flatMap write = second.flatMap write) : first = second := by
  induction first generalizing second with
  | nil =>
      cases second with
      | nil => rfl
      | cons c rest =>
          have read := congrArg readEscaped same
          rw [List.flatMap_cons, reads c (by simp)] at read
          cases read
  | cons c rest ih =>
      have read := congrArg readEscaped same
      rw [List.flatMap_cons, reads c (by simp)] at read
      cases second with
      | nil => cases read
      | cons d others =>
          have later : ∀ e ∈ rest ++ others, e ∈ c :: rest ++ d :: others := by
            intro e member
            rcases List.mem_append.mp member with early | late
            · simp [early]
            · simp [late]
          rw [List.flatMap_cons, reads d (by simp), Option.some.injEq, Prod.mk.injEq] at read
          rw [read.1, ih (fun e member => reads e (later e member)) read.2]

theorem flatMap_escaped_injective : Function.Injective fun text : Text => text.flatMap escaped :=
  fun _ _ same => eq_of_flatMap_eq (fun c _ => readEscaped_escaped c) same

theorem quoted_injective : Function.Injective quoted := fun _ _ same =>
  flatMap_escaped_injective (List.append_cancel_right ((List.cons_inj_right _).mp same))

theorem escaped_plain (c : Char) : (escaped c).isPlain = true := by
  unfold escaped
  split_ifs with quote backslash feed back tab null shown
  · decide
  · decide
  · decide
  · decide
  · decide
  · decide
  · -- A control character leaves no mark.
    cases control : isControl c with
    | false => simp [isPlain, control]
    | true =>
        have hidden := isUnprintable_of_isControl control
        simp [leavesMark, hidden] at shown
  · have digits : isPlain (Nat.toDigits 16 c.toNat) = true := by
      refine List.all_eq_true.mpr fun digit member => ?_
      obtain ⟨value, small, rfl⟩ := mem_toDigits_hex member
      rw [(digitChar_plain value small).1]
      rfl
    rw [isPlain_append, isPlain_append, digits]
    decide

theorem quoted_plain (text : Text) : text.quoted.isPlain = true := by
  have inner : isPlain (text.flatMap escaped) = true := by
    rw [isPlain, List.all_flatMap]
    exact List.all_eq_true.mpr fun c _ => escaped_plain c
  have split : text.quoted = ['"'] ++ text.flatMap escaped ++ ['"'] := rfl
  rw [split, isPlain_append, isPlain_append, inner]
  decide

theorem bytes_injective : Function.Injective bytes := by
  intro first second same
  have read := congrArg ofBytes? same
  rwa [ofBytes_bytes, ofBytes_bytes, Option.some.injEq] at read

end Text

namespace Finding

theorem ofRefusal_message_injective : Function.Injective fun reason => (ofRefusal reason).message := fun _ _ same =>
  Text.quoted_injective (List.append_cancel_left (List.append_cancel_right same))

theorem ofRefusal_message_plain (reason : Text) : (ofRefusal reason).message.isPlain = true := by
  have split : (ofRefusal reason).message =
    "SQLFluffUserError \x7b value: ".toList ++ reason.quoted ++ " \x7d".toList := rfl
  rw [split, Text.isPlain_append, Text.isPlain_append, Text.quoted_plain]
  decide

theorem not_mem_ofRefusal_message {c : Char} (control : Text.isControl c = true) (reason : Text) :
    c ∉ (ofRefusal reason).message := Text.not_mem_of_isPlain (ofRefusal_message_plain reason) control

end Finding

namespace Parser

theorem findings_refused {parser : Parser} {sql reason : Text} (refused : parser.parse sql = .error reason) :
    parser.findings sql = ⟨[.ofRefusal reason], [.parse sql]⟩ := by
  simp only [findings, parseNoted, bind, Noted.andThen, refused]
  rfl

end Parser

namespace Reporter

def named : Reporter → Text
  | text _ _ => []
  | emacs document => document

def colours : Reporter → Bool
  | text inColour enabled => inColour && enabled
  | emacs _ => false

def atStart : Reporter → Text
  | text _ _ => " Line 1, col 0 at \"\": ".toList
  | emacs _ => ":1:1: error: ".toList

theorem atStart_plain (reporter : Reporter) : reporter.atStart.isPlain = true := by
  have fixed : Text.isPlain " Line 1, col 0 at \"\": ".toList = true ∧
      Text.isPlain ":1:1: error: ".toList = true := by decide
  cases reporter with
  | text inColour enabled => exact fixed.1
  | emacs document => exact fixed.2

theorem flatten_free {message : Text} (free : '\n' ∉ message) : flatten message = message := by
  have kept : ∀ c ∈ message, (if c = '\n' then ' ' else c) = id c := by
    intro c member
    exact if_neg (ne_of_mem_of_not_mem member free)
  rw [flatten, List.map_congr_left kept, List.map_id]

end Reporter

namespace Document
open Job
variable {parser : Parser} {sql reason : Text} {console : Console Call}

def refusalReport (reporter : Reporter) (reason : Text) : Text :=
  reporter.complaint (Finding.ofRefusal reason).message [] 1 0

theorem findingReport_ofRefusal (reporter : Reporter) (sql reason : Text) :
    findingReport reporter (.ofText sql) (.ofRefusal reason) = refusalReport reporter reason := by
  have offset : (Finding.ofRefusal reason).offset = 0 := rfl
  have token : (Finding.ofRefusal reason).token = [] := rfl
  have first : (LineTable.ofText sql).position 0 = ⟨1, 0⟩ := LineTable.position_eq sql 0
  simp only [findingReport, offset, token, first, refusalReport]

theorem refusalReport_eq (reporter : Reporter) (reason : Text) :
    refusalReport reporter reason =
      reporter.named ++ reporter.atStart ++ Ink.red.apply reporter.colours (Finding.ofRefusal reason).message
        ++ ['\n'] := by
  cases reporter with
  | text inColour enabled =>
      have lead : " Line ".toList ++ Reporter.decimal 1 ++ ", col ".toList ++ Reporter.decimal 0 ++ " at \"".toList
          ++ Text.visible [] ++ "\": ".toList = " Line 1, col 0 at \"\": ".toList := by decide
      have shown (message : Text) : (if inColour then Ink.red.apply enabled message else message) =
          Ink.red.apply (inColour && enabled) message := by cases inColour <;> rfl
      rw [refusalReport, text_complaint, lead, shown]
      rfl
  | emacs document =>
      have free : '\n' ∉ (Finding.ofRefusal reason).message := Finding.not_mem_ofRefusal_message rfl reason
      have lead : document ++ [':'] ++ Reporter.decimal 1 ++ [':'] ++ Reporter.decimal (0 + 1) ++ ": error: ".toList =
          document ++ ":1:1: error: ".toList := by
        simp only [List.append_assoc]
        exact congrArg (document ++ ·) (by decide)
      rw [refusalReport, editor_complaint document _ _ (by decide) (by decide), Reporter.flatten_free free, lead]
      rfl

/-- Wherever the report is written, the message can be told from it. -/
theorem refusalReport_injective (reporter : Reporter) :
    Function.Injective fun reason => (refusalReport reporter reason).bytes := by
  intro first second same
  have escape : Text.isControl '\x1b' = true := rfl
  have written := Text.bytes_injective same
  simp only [refusalReport_eq, Ink.apply] at written
  have shown := List.append_cancel_left (List.append_cancel_right written)
  split_ifs at shown with coloured
  · rw [Ink.reopen_free _ (Finding.not_mem_ofRefusal_message escape first),
      Ink.reopen_free _ (Finding.not_mem_ofRefusal_message escape second)] at shown
    exact Finding.ofRefusal_message_injective (List.append_cancel_left (List.append_cancel_right shown))
  · exact Finding.ofRefusal_message_injective shown

theorem refusalReport_spans (reporter : Reporter) (reason : Text) :
    (refusalReport reporter reason).Spans (reporter.named.count '\n' + 1) := by
  have quiet : (Finding.ofRefusal reason).message.count '\n' = 0 :=
    List.count_eq_zero.mpr (Finding.not_mem_ofRefusal_message rfl reason)
  have placed : reporter.atStart.count '\n' = 0 :=
    List.count_eq_zero.mpr (Text.not_mem_of_isPlain (Reporter.atStart_plain reporter) rfl)
  rw [refusalReport_eq]
  refine .close ?_
  rw [List.count_append, List.count_append, Ink.count_apply, quiet, placed, Nat.add_zero]

theorem refusalReport_plain {reporter : Reporter} (colourless : reporter.colours = false)
    (named : reporter.named.isPlain = true) (reason : Text) :
    ∃ line, refusalReport reporter reason = line ++ ['\n'] ∧ line.isPlain = true := by
  refine ⟨reporter.named ++ reporter.atStart ++ (Finding.ofRefusal reason).message, ?_, ?_⟩
  · rw [refusalReport_eq, colourless]
    rfl
  · rw [Text.isPlain_append, Text.isPlain_append, Finding.ofRefusal_message_plain, Reporter.atStart_plain, named]
    rfl

/-- A parser that cannot take a text gets one report, on the first character of the text and with no token. The
report is one line unless the document's name breaks it; without colours nothing but the name could bring a
control character into it; and no other reason is reported like this one. -/
theorem refusal_reported (coloursEnabled : Bool) (config : Text) (console : Console Call)
    (spoken : sql.isBlank = false) (refused : parser.parse sql = .error reason)
    (room : console.reports.room = none) :
    let reporter := console.reporter
    let report := refusalReport reporter reason
    runOn (checkText (parser.engine coloursEnabled config).value sql) console =
      (.ok false, (console.note [.parse sql]).report report) ∧
    report = reporter.named ++ reporter.atStart ++ Ink.red.apply reporter.colours (Finding.ofRefusal reason).message
      ++ ['\n'] ∧
    (Stream.OneLine report.bytes ↔ '\n' ∉ reporter.named) ∧
    (reporter.colours = false → reporter.named.isPlain = true →
      ∃ line, report = line ++ ['\n'] ∧ line.isPlain = true) ∧
    ∀ other, (refusalReport reporter other).bytes = report.bytes → other = reason := by
  intro reporter report
  have asked : (parser.engine coloursEnabled config).value.findings sql = ⟨[.ofRefusal reason], [.parse sql]⟩ :=
    Parser.findings_refused refused
  have told (other : Text) (same : (refusalReport reporter other).bytes = (refusalReport reporter reason).bytes) :
      other = reason := refusalReport_injective reporter same
  have ran : runOn (checkText (parser.engine coloursEnabled config).value sql) console =
      (.ok false, (console.note [.parse sql]).report report) := by
    rw [run_checkText_faulty room spoken (by simp [asked]), asked, List.flatMap_singleton, findingReport_ofRefusal]
  have lined : Stream.OneLine report.bytes ↔ '\n' ∉ reporter.named := by
    rw [(refusalReport_spans reporter reason).oneLine_iff, List.count_eq_zero]
  exact ⟨ran, refusalReport_eq reporter reason, lined,
    fun colourless named => refusalReport_plain colourless named reason, told⟩

/-- A reason with a line break, with what looks like an escaped one, and with characters that cannot be seen alone. -/
def tangled : Text := "a\n\\n\"\x1b[0m\u0301".toList

theorem tangled_reason_reported :
    let parser := Parser.steady (.error tangled)
    let console : Console Call := ⟨.emacs "q.sql".toList, {}, {}, [], []⟩
    let ended := runOn (checkText (parser.engine true []).value ['1']) console
    Text.isBlank ['1'] = false ∧ parser.parse ['1'] = .error tangled ∧
    ended.1 = .ok false ∧
    ended.2.reports.written = Text.bytes
      "q.sql:1:1: error: SQLFluffUserError \x7b value: \"a\\n\\\\n\\\"\\u\x7b1b\x7d[0m\\u\x7b301\x7d\" \x7d\n".toList ∧
    Stream.OneLine ended.2.reports.written ∧
    ∃ line, refusalReport console.reporter tangled = line ++ ['\n'] ∧ line.isPlain = true := by
  intro parser console ended
  have spoken : Text.isBlank ['1'] = false := by decide
  obtain ⟨ran, -, lined, plain, -⟩ := refusal_reported true [] console spoken
    (show parser.parse ['1'] = .error tangled from rfl) rfl
  have written : ended.2.reports.written = (refusalReport console.reporter tangled).bytes :=
    congrArg (·.2.reports.written) ran
  refine ⟨spoken, rfl, congrArg Prod.fst ran, ?_, ?_, plain rfl (by decide)⟩
  · rw [written]
    decide +kernel
  · rw [written]
    exact lined.mpr (by decide)

end Document
end SqlCheck
