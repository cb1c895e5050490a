import DiagramStudio.Failure.Basic

/-!
Reports: what is shown of a failure. Findings are reported one by one, each with the line that it is
about; any other failure has one report.
-/

namespace DiagramStudio

/-- A mark on a stretch of the source. -/
structure Label where
  span : Span
  text : Option String
deriving Repr, DecidableEq

structure Report where
  message : String
  code : Option String
  help : Option String
  label : Option Label
  /-- The report quotes the source. -/
  hasSource : Bool
  cause : Option String
deriving Repr, DecidableEq

namespace Report

/-- The report of a finding on a source. -/
def ofFinding (source : List Char) (f : Finding) : Report :=
  { message := f.message
    code := f.rule.map Rule.code
    help := f.help
    label := (f.span? source).map fun span => ⟨span, f.rule.map Rule.description⟩
    hasSource := true
    cause := none }

end Report

/-- The reports of a failure. -/
def Failure.reports : Failure → List Report
  | findings found source => found.map (Report.ofFinding source.toList)
  | failure =>
    [{ message := failure.message
       code := failure.code?
       help := failure.help?
       label := none
       hasSource := false
       cause := failure.cause? }]

end DiagramStudio
