import JobShell.Main
import JobShell.Proofs.Table.Ids
import JobShell.Proofs.Table.Views
import JobShell.Proofs.Table.Circle
import JobShell.Proofs.Rules.Drain
import JobShell.Proofs.Rules.Foreground
import JobShell.Proofs.Rules.Launch
import JobShell.Proofs.Path.Move
import JobShell.Proofs.Path.Sound
import JobShell.Proofs.Path.Routines
import JobShell.Proofs.Path.Line
import JobShell.Proofs.Path.Session
import JobShell.Proofs.Wakeup
import JobShell.Proofs.Agreement
import JobShell.Proofs.ForegroundJobs
import JobShell.Proofs.SignalTargets
import JobShell.Proofs.Relays
import JobShell.Proofs.LaunchedChildren
import JobShell.Proofs.InputByLines
import JobShell.Proofs.ReapOrder
import JobShell.Proofs.CommandGrammar
import JobShell.Proofs.Rendering
import JobShell.Proofs.Orderly.Routines
import JobShell.Proofs.FatalFailures
import JobShell.Proofs.ChildDeaths
import JobShell.Proofs.MaskDiscipline
import JobShell.Proofs.Waiting
import JobShell.Proofs.Termination
import JobShell.Proofs.IdleKeys
import JobShell.Proofs.Verbosity
import JobShell.Proofs.Rejoining
import JobShell.Proofs.ReapFailures
import JobShell.Proofs.Emissions.Routines
import JobShell.Proofs.Continuing
import JobShell.Proofs.LifeCycle
import JobShell.Proofs.Path.Tables
import JobShell.Proofs.LineLaunches
import JobShell.Proofs.ForegroundDiscipline
import JobShell.Proofs.Children
import JobShell.Proofs.ForkedLines
import JobShell.Proofs.SpecText
