import StagedLaunch.Main
import StagedLaunch.Supervisor.Scripted
import StagedLaunch.Proofs.Supervisor.Course
import StagedLaunch.Proofs.Supervisor.Trace
import StagedLaunch.Proofs.Supervisor.Teardown
import StagedLaunch.Proofs.Supervisor.LaunchOrder
import StagedLaunch.Proofs.Supervisor.Interruption
import StagedLaunch.Proofs.Supervisor.Instants
import StagedLaunch.Proofs.Supervisor.Schedule
import StagedLaunch.Proofs.Supervisor.Failure
import StagedLaunch.Proofs.Supervisor.Progress
import StagedLaunch.Proofs.Supervisor.Shortening
import StagedLaunch.Proofs.Machine.Child
import StagedLaunch.Proofs.Machine.Termination
import StagedLaunch.Proofs.Machine.Readiness
import StagedLaunch.Proofs.Machine.SideBySide
import StagedLaunch.Proofs.Supervisor.SideBySide
import StagedLaunch.Proofs.Machine.Logged
import StagedLaunch.Proofs.Machine.Exits
import StagedLaunch.Proofs.Machine.Leftovers
import StagedLaunch.Proofs.Text.Words
import StagedLaunch.Proofs.Settings.DryRun
import StagedLaunch.Proofs.Machine.Outputs
import StagedLaunch.Proofs.Plan.BuildStep
import StagedLaunch.Proofs.Settings.Precedence
import StagedLaunch.Proofs.Settings.Sources
import StagedLaunch.Proofs.Program
import StagedLaunch.Proofs.Text.Columns
import StagedLaunch.Proofs.Machine.SocketTable
import StagedLaunch.Proofs.Machine.BuildSteps
import StagedLaunch.Proofs.Machine.Promptness
import StagedLaunch.Proofs.Machine.Group
import StagedLaunch.Proofs.Plan.Apart
import StagedLaunch.Proofs.Machine.Directories
import StagedLaunch.Proofs.Machine.OutputFiles
import StagedLaunch.Proofs.Document.Tables
import StagedLaunch.Proofs.Settings.Values
import StagedLaunch.Proofs.Settings.Schema
import StagedLaunch.Proofs.Settings.CommandLine
import StagedLaunch.Proofs.Supervisor.Signals
import StagedLaunch.Proofs.Report
