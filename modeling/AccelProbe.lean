import AccelProbe.Backend.Interface
import AccelProbe.Configuration.Object
import AccelProbe.Main
import AccelProbe.Rehearsal.Backend
import AccelProbe.Rehearsal.Libraries
import AccelProbe.Proofs.Program.Course
import AccelProbe.Proofs.Section.Diagnostic
import AccelProbe.Proofs.Section.Compute
import AccelProbe.Proofs.Section.Environment
import AccelProbe.Proofs.Program.Expand
import AccelProbe.Proofs.Program.Every
import AccelProbe.Proofs.Program.Quiet
import AccelProbe.Proofs.Backend.TensorFlow
import AccelProbe.Proofs.Backend.Torch
import AccelProbe.Proofs.Section.Expansion
import AccelProbe.Proofs.Configuration.Validation
import AccelProbe.Proofs.Configuration.Loading
import AccelProbe.Proofs.Configuration.Examination
import AccelProbe.Proofs.Configuration.Conditions
import AccelProbe.Proofs.Session.Refusal
import AccelProbe.Proofs.CommandLine.Options
import AccelProbe.Proofs.CommandLine.Arguments
import AccelProbe.Proofs.CommandLine.Occurrences
import AccelProbe.Proofs.Backend.Loading
import AccelProbe.Proofs.Session.Stages
import AccelProbe.Proofs.Section.Records
import AccelProbe.Proofs.Session.Completion
import AccelProbe.Proofs.Session.Sequence
import AccelProbe.Proofs.Session.Override
import AccelProbe.Proofs.Session.Errors
import AccelProbe.Proofs.Section.Careful
import AccelProbe.Proofs.Section.Placement
import AccelProbe.Proofs.Section.Product
import AccelProbe.Proofs.Section.Errors
import AccelProbe.Proofs.Section.Founded
import AccelProbe.Proofs.Session.Placement
import AccelProbe.Proofs.Program.Exchanges
import AccelProbe.Proofs.Section.Faithful
import AccelProbe.Proofs.Section.Atomic
import AccelProbe.Proofs.Logging.Names
import AccelProbe.Proofs.Logging.Tree
import AccelProbe.Proofs.Logging.Thresholds
import AccelProbe.Proofs.Logging.Steps
import AccelProbe.Proofs.Session.Silence
import AccelProbe.Proofs.Program.Reaches
import AccelProbe.Proofs.Backend.Serves
import AccelProbe.Proofs.Backend.Lawful
import AccelProbe.Proofs.Section.Served
import AccelProbe.Proofs.Section.Agreement
import AccelProbe.Proofs.Section.Scopes
import AccelProbe.Proofs.Session.Selection
import AccelProbe.Proofs.Configuration.Level
import AccelProbe.Proofs.Session.Levels
import AccelProbe.Proofs.Backend.Devices
import AccelProbe.Proofs.Section.Devices
import AccelProbe.Proofs.Session.Devices
import AccelProbe.Proofs.Program.Alike
import AccelProbe.Proofs.Section.Variables
import AccelProbe.Proofs.Session.Variables
import AccelProbe.Proofs.Logging.Written
import AccelProbe.Proofs.Toml.Scalars
import AccelProbe.Proofs.Toml.Values
import AccelProbe.Proofs.Toml.Documents
import AccelProbe.Proofs.Configuration.Writing
import AccelProbe.Proofs.CommandLine.Composition
import AccelProbe.Proofs.Backend.Requests
import AccelProbe.Proofs.Configuration.Order
import AccelProbe.Proofs.Configuration.Revalidation
import AccelProbe.Proofs.Logging.Attempts
import AccelProbe.Proofs.Report.Diagnostic
import AccelProbe.Proofs.Report.Environment
import AccelProbe.Proofs.Report.Statistics
