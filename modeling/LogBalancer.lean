import LogBalancer.Main
import LogBalancer.Proofs.CommandLine.Listing
import LogBalancer.Proofs.CommandLine.Prediction
import LogBalancer.Proofs.CommandLine.StandardOutput
import LogBalancer.Proofs.CommandLine.Verbosity
import LogBalancer.Proofs.ConfigFile.Gate
import LogBalancer.Proofs.Document.Agreement
import LogBalancer.Proofs.Document.Servers
import LogBalancer.Proofs.Inspection.Reports
import LogBalancer.Proofs.Journal
import LogBalancer.Proofs.Placeholder.Lines
import LogBalancer.Proofs.Placeholder.Remains
import LogBalancer.Proofs.Problem.Count
import LogBalancer.Proofs.Record.Config
import LogBalancer.Proofs.Record.Port
import LogBalancer.Proofs.Record.Written
import LogBalancer.Proofs.TeamFile.Discovery
import LogBalancer.Proofs.TeamFile.Escapes
import LogBalancer.Proofs.TeamFile.KnownKeys
import LogBalancer.Proofs.Text.Lines
import LogBalancer.Proofs.Toml.Concatenation
import LogBalancer.Proofs.Toml.Headers
import LogBalancer.Proofs.Toml.Lines
import LogBalancer.Proofs.Toml.Places
import LogBalancer.Record.Model
