import TypedConfig.Main
import TypedConfig.Proofs.Cache.Alone
import TypedConfig.Proofs.Cache.Barrier
import TypedConfig.Proofs.Cache.Calls
import TypedConfig.Proofs.Cache.Coverage
import TypedConfig.Proofs.Cache.Entries
import TypedConfig.Proofs.Cache.Freshness
import TypedConfig.Proofs.Cache.Gets
import TypedConfig.Proofs.Cache.History
import TypedConfig.Proofs.Cache.Idempotence
import TypedConfig.Proofs.Cache.Independence
import TypedConfig.Proofs.Cache.Ledger
import TypedConfig.Proofs.Cache.Linearizable
import TypedConfig.Proofs.Cache.Origins
import TypedConfig.Proofs.Cache.Passes
import TypedConfig.Proofs.Cache.Propagation
import TypedConfig.Proofs.Cache.Reports
import TypedConfig.Proofs.Cache.Sound
import TypedConfig.Proofs.Cache.Stability
import TypedConfig.Proofs.Cache.Steps
import TypedConfig.Proofs.Cache.TypeNames
import TypedConfig.Proofs.Cache.Untorn
import TypedConfig.Proofs.CommandLine.Emitted
import TypedConfig.Proofs.CommandLine.Sources
import TypedConfig.Proofs.Contract.Declared
import TypedConfig.Proofs.Contract.Validation
import TypedConfig.Proofs.Decimal.Integers
import TypedConfig.Proofs.Decimal.Numerals
import TypedConfig.Proofs.Decimal.ReadBack
import TypedConfig.Proofs.Decimal.Rounding
import TypedConfig.Proofs.Module.Accepted
import TypedConfig.Proofs.Module.Activation
import TypedConfig.Proofs.Module.Agreement
import TypedConfig.Proofs.Module.Conformance
import TypedConfig.Proofs.Module.Decoding
import TypedConfig.Proofs.Module.Limits
import TypedConfig.Proofs.Module.Methods
import TypedConfig.Proofs.Module.ModifiedUtf8
import TypedConfig.Proofs.Module.Names
import TypedConfig.Proofs.Module.Numbering
import TypedConfig.Proofs.Module.Pool
import TypedConfig.Proofs.Module.Prefixes
import TypedConfig.Proofs.Module.Reading
import TypedConfig.Proofs.Module.Reassemble
import TypedConfig.Proofs.Module.References
import TypedConfig.Proofs.Module.RoundTrip
import TypedConfig.Proofs.Module.Sections
import TypedConfig.Proofs.Module.Table
import TypedConfig.Proofs.Module.TypeNames
import TypedConfig.Proofs.Resolution.Choice
import TypedConfig.Proofs.Resolution.Fingerprint
import TypedConfig.Proofs.Resolution.Resolved
import TypedConfig.Proofs.Scalar.Display
import TypedConfig.Proofs.Scalar.Leniency
import TypedConfig.Proofs.Service.Courses
import TypedConfig.Proofs.Service.Driven
import TypedConfig.Proofs.Service.Shutdown
import TypedConfig.Proofs.Service.Watching
import TypedConfig.Proofs.Sessions
import TypedConfig.Proofs.Source.LineBreaks
import TypedConfig.Proofs.Source.LogicalLines
import TypedConfig.Proofs.Source.Written
import TypedConfig.Proofs.Text.Lines
import TypedConfig.Proofs.Text.Trimming
import TypedConfig.Proofs.Text.Units
import TypedConfig.Proofs.Watch.History
import TypedConfig.Proofs.Watch.Loop
import TypedConfig.Proofs.Watch.Paths
import TypedConfig.Proofs.Watch.Registry
import TypedConfig.Session.Registration
import TypedConfig.Session.Run
