import DiagnosticConsole.Editing.Prompt
import DiagnosticConsole.Files.Tree
import DiagnosticConsole.Json.Writer
import DiagnosticConsole.Main
import DiagnosticConsole.Proofs.Command.Check
import DiagnosticConsole.Proofs.Console.Colors
import DiagnosticConsole.Proofs.Console.Rejection
import DiagnosticConsole.Proofs.Console.Survival
import DiagnosticConsole.Proofs.Diagnostic.Accounting
import DiagnosticConsole.Proofs.Diagnostic.Carets
import DiagnosticConsole.Proofs.Diagnostic.Header
import DiagnosticConsole.Proofs.Diagnostic.Palette
import DiagnosticConsole.Proofs.Evaluation.Traceback
import DiagnosticConsole.Proofs.Settings.Layers
import DiagnosticConsole.Proofs.Settings.Loading
import DiagnosticConsole.Proofs.Source.Places
import DiagnosticConsole.Proofs.Terminal.Stripping
import DiagnosticConsole.Terminal.Fragment
import DiagnosticConsole.Proofs.Evaluation.Repair
import DiagnosticConsole.Proofs.Diagnostic.Padding
import DiagnosticConsole.Proofs.Evaluation.Telling
import DiagnosticConsole.Proofs.Source.Spans
import DiagnosticConsole.Proofs.Terminal.Cluster
import DiagnosticConsole.Proofs.Terminal.Width
import DiagnosticConsole.Proofs.Diagnostic.Rule
import DiagnosticConsole.Proofs.Diagnostic.Block
import DiagnosticConsole.Proofs.Diagnostic.Cells
import DiagnosticConsole.Proofs.Editing.Word
import DiagnosticConsole.Proofs.Editing.Tiling
import DiagnosticConsole.Proofs.Text.Order
import DiagnosticConsole.Proofs.Editing.Completion
import DiagnosticConsole.Proofs.Evaluation.DottedName
import DiagnosticConsole.Proofs.Evaluation.Candidates
import DiagnosticConsole.Proofs.Settings.Absorption
import DiagnosticConsole.Proofs.Evaluation.Context
import DiagnosticConsole.Proofs.Command.Logging
import DiagnosticConsole.Proofs.Terminal.Seam
