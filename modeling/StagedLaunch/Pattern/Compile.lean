import StagedLaunch.LaunchError
import StagedLaunch.Pattern.Match
import StagedLaunch.Pattern.Parser
import StagedLaunch.Pattern.Size
import StagedLaunch.Text.Lines
import StagedLaunch.Text.Utf8

/-!
# Patterns for log lines

A readiness pattern is a regular expression that some line of a process's output must match.
-/

namespace StagedLaunch.Pattern

/-- The pattern that a text writes, unless it writes none or one that is too big. -/
def compile (text : String) : Except PatternError Pattern :=
  match (Expr.parse? text).bind ofExpr? with
  | none => .error (.malformed "regex parse error")
  | some p => if sizeLimit < p.size then .error (.tooBig sizeLimit) else .ok p

/-- Some line of an output matches. -/
def matchesLine (p : Pattern) (bytes : List UInt8) : Bool :=
  (lines (Utf8.decodeLossy bytes).toList).any (isMatch p)

end StagedLaunch.Pattern
