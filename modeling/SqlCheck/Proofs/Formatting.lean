import SqlCheck.Proofs.Documents

/-! What formatting does to the console, where nothing that is written is refused. What comes of a text is for the
engine to say, and what is reported of it for the reporter; the effect of a job is put together from the two, and
neither of them looks at the other. -/
namespace SqlCheck.Document
open Job Inputs
variable {Note : Type} {console : Console Note} {tree : FileTree} {document : Text}

/-- What comes of formatting: how it ends, what it prints and what is noted on the way. -/
structure Formatted (Note : Type) where
  result : Except Failure Bool
  printed : Text
  notes : List Note

namespace Formatted

/-- What comes of a text. A blank one is not shown to the engine. -/
def ofText (engine : Engine Note) (document sql : Text) (finish : Finish) : Formatted Note :=
  if sql.isBlank then ⟨.ok false, [], []⟩
  else
    let answer := engine.format document sql finish
    match answer.value with
    | .error failure => ⟨.error failure, [], answer.notes⟩
    | .ok formatted => ⟨.ok true, closeLine formatted, answer.notes⟩

def ofDocument (tree : FileTree) (engine : Engine Note) (input : List UInt8) (document : Text) (finish : Finish) :
    Formatted Note :=
  match given tree input document with
  | .error failure => ⟨.error failure, [], []⟩
  | .ok sql => ofText engine document sql finish

/-- The findings of a parser alone decide how it ends, whatever the finish and whatever the fixer makes of a text. -/
theorem ofText_result (parser : Parser) (coloursEnabled : Bool) (config document sql : Text) (finish : Finish) :
    (ofText (parser.engine coloursEnabled config).value document sql finish).result =
      if sql.isBlank then .ok false
      else if (parser.findings sql).value = [] then .ok true
      else .error (.unformattable document (parser.findings sql).value.length) := by
  by_cases blank : sql.isBlank = true
  · simp [ofText, blank]
  · by_cases clean : (parser.findings sql).value = []
    · cases finish <;> simp [ofText, parser.format_value, blank, clean]
    · simp [ofText, parser.format_value, blank, clean]

end Formatted

def blankReport (reporter : Reporter) (sql : Text) : Text :=
  if sql.isBlank then reporter.complaint emptyMessage [] 0 0 else []

def formatReport (tree : FileTree) (reporter : Reporter) (input : List UInt8) (document : Text) : Text :=
  let turned := reporter.turnTo document
  match given tree input document with
  | .error _ => turned.announcement document
  | .ok sql => turned.announcement document ++ blankReport turned sql

theorem run_formatText (free : console.Unlimited) (engine : Engine Note) (document sql : Text) (finish : Finish) :
    runOn (formatText engine document sql finish) console =
      let made := Formatted.ofText engine document sql finish
      (made.result, ((console.note made.notes).report (blankReport console.reporter sql)).print made.printed) := by
  by_cases blank : sql.isBlank = true
  · rw [run_formatText_blank free.reports blank]
    simp [Formatted.ofText, blankReport, blank]
  · have spoken : sql.isBlank = false := by simpa using blank
    cases answer : (engine.format document sql finish).value with
    | error failure =>
        rw [run_formatText_refused spoken answer]
        simp [Formatted.ofText, blankReport, spoken, answer]
    | ok formatted =>
        rw [run_formatText_formatted free.output spoken answer]
        simp [Formatted.ofText, blankReport, spoken, answer]

def finished (tree : FileTree) (document : Text) (made : Formatted Note) (console : Console Note) : Console Note :=
  (({ console.turnTo document with input := left console.input document }.note made.notes).report
    (formatReport tree console.reporter console.input document)).print made.printed

theorem run_format (free : console.Unlimited) (tree : FileTree) (engine : Engine Note) (document : Text)
    (finish : Finish) :
    runOn (format tree engine finish document) console =
      let made := Formatted.ofDocument tree engine console.input document finish
      (made.result, finished tree document made console) := by
  rw [format, run_announced free.reports]
  simp only [Formatted.ofDocument, finished, formatReport]
  cases given tree console.input document with
  | error failure => simp [opened, Console.report]
  | ok sql =>
      have loaded : (opened document console).Unlimited := ⟨free.reports, free.output⟩
      simp only [run_formatText loaded, ← Console.report_report]
      rfl

theorem finished_unlimited (free : console.Unlimited) (made : Formatted Note) :
    (finished tree document made console).Unlimited := ⟨free.reports, free.output⟩

end SqlCheck.Document
