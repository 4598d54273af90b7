import SqlCheck.Proofs.Formatting
import SqlCheck.Proofs.Reports

/-! Checking a text beside formatting it, where both ask the same parser. They come to the same judgement in
different ways, one by reporting what was found and the other by counting it: a blank text fails both, a text
without findings passes both, and any other is reported by the one and refused by the other. The fixer has its say
only about texts that passed. -/
namespace SqlCheck

namespace Parser

/-- How many syntax errors a parser gives for a text. Not to take the text at all counts for one. -/
def faults (parser : Parser) (sql : Text) : Nat :=
  match parser.parse sql with
  | .error _ => 1
  | .ok parsed => parsed.violations.length

theorem findings_length (parser : Parser) (sql : Text) :
    (parser.findings sql).value.length = parser.faults sql := by
  cases parsed : parser.parse sql with
  | error reason => simp [findings, parseNoted, bind, Noted.andThen, parsed, faults, pure]
  | ok answer => simp [findings, parseNoted, bind, Noted.andThen, parsed, faults, pure]

end Parser

namespace Document
open Job
variable {console : Console Call}

/-- A text is judged the same when it is checked and when it is formatted. -/
theorem check_and_format_agree (parser : Parser) (coloursEnabled : Bool) (config document sql : Text) (finish : Finish)
    (free : console.Unlimited) :
    let engine := (parser.engine coloursEnabled config).value
    let checked := runOn (checkText engine sql) console
    let formatted := runOn (formatText engine document sql finish) console
    let reports := reportsOn engine console.reporter sql
    checked.2.reports.written = console.reports.written ++ Text.bytes reports.flatten ∧
    (∃ passed, checked.1 = .ok passed) ∧
    (sql.isBlank = true →
      checked = (.ok false, console.report (console.reporter.complaint emptyMessage [] 0 0)) ∧ formatted = checked) ∧
    (checked.1 = .ok true ↔ formatted.1 = .ok true) ∧
    (∀ k, (sql.isBlank = false ∧ checked.1 = .ok false ∧ reports.length = k) ↔
      formatted.1 = .error (.unformattable document k)) ∧
    ∀ k, formatted.1 = .error (.unformattable document k) →
      k = parser.faults sql ∧ 1 ≤ k ∧ formatted.2 = console.note [.parse sql] := by
  intro engine checked formatted reports
  have check : checked = _ := run_checkText free.reports sql
  have format : formatted = _ := run_formatText free engine document sql finish
  rw [check, format]
  refine ⟨rfl, ⟨_, rfl⟩, ?_⟩
  by_cases blank : sql.isBlank = true
  · simp [Formatted.ofText, blankReport, passes, askedAbout, reportsOn, blank]
  · have spoken : sql.isBlank = false := by simpa using blank
    have asked : engine.findings = parser.findings := parser.engine_findings coloursEnabled config
    by_cases clean : (parser.findings sql).value = []
    · simp [engine, asked, Formatted.ofText_result, passes, spoken, clean]
    · -- The refusal names the number of findings, each of which is one report of the check.
      have answer := Parser.format_faulty coloursEnabled document finish clean
      have counted : 1 ≤ parser.faults sql := by
        rw [← Parser.findings_length]
        exact List.length_pos_iff.mpr clean
      simpa [Formatted.ofText, blankReport, passes, spoken, clean, asked, engine, answer, reports, reportsOn,
        Parser.findings_length] using counted

def twoViolations : Parser := .steady (.ok ⟨[⟨1, 8, 0, 0, "no".toList⟩, ⟨9, 0, 4, 2, "nor".toList⟩], none⟩)

theorem two_violations_agree :
    let console : Console Call := ⟨.emacs "q.sql".toList, {}, {}, [], []⟩
    let engine := (twoViolations.engine true []).value
    let sql := "SELECT FROM".toList
    let formatted := runOn (formatText engine "q.sql".toList sql .decorated) console
    console.Unlimited ∧ (runOn (checkText engine sql) console).1 = .ok false ∧
    (runOn (checkText engine sql) console).2.reports.written =
      Text.bytes "q.sql:1:8: error: no\nq.sql:1:1: error: nor\n".toList ∧
    formatted.1 = .error (.unformattable "q.sql".toList 2) ∧ formatted.2 = console.note [.parse sql] := by
  intro console engine sql formatted
  have free : console.Unlimited := ⟨rfl, rfl⟩
  obtain ⟨written, -, -, -, counted, refused⟩ :=
    check_and_format_agree twoViolations true [] "q.sql".toList sql .decorated free
  have judged : (runOn (checkText engine sql) console).1 = .ok false := rfl
  have fails : formatted.1 = .error (.unformattable "q.sql".toList 2) :=
    (counted 2).mp ⟨by decide, judged, by decide +kernel⟩
  refine ⟨free, judged, ?_, fails, (refused 2 fails).2.2⟩
  rw [written]
  decide +kernel

end Document
end SqlCheck
