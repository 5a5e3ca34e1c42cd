import Inlay.Unicode.Folding
import Inlay.Unicode.Property
import Inlay.Unicode.Script
import Inlay.Host
import Inlay.Json.Reader
import Inlay.Json.Printer
import Inlay.Json.Record
import Inlay.Text.Quoted
import Inlay.Native.Map
import Inlay.Diagnostic
import Inlay.Word
import Inlay.Map.Mapping
import Inlay.Map.Decoded
import Inlay.Pattern.Reader
import Inlay.Options
import Inlay.Normalization
import Inlay.Syntax.Program
import Inlay.Document
import Inlay.Shell.Format
import Inlay.Shell.Run
import Inlay.Command
import Inlay.CommandLine.Arguments
import Inlay.CommandLine.Files
import Inlay.CommandLine.Run
import Inlay.Main
import Inlay.Proofs.Vlq
import Inlay.Proofs.Merge
import Inlay.Proofs.Split
import Inlay.Proofs.Decoding
import Inlay.Proofs.RoundTrip
import Inlay.Proofs.Host
import Inlay.Proofs.Blocks
import Inlay.Proofs.Dedent
import Inlay.Proofs.Walk
import Inlay.Proofs.Eligible
import Inlay.Proofs.Coalescing
import Inlay.Proofs.Bounds
import Inlay.Proofs.Lookup
import Inlay.Proofs.Protection
import Inlay.Proofs.Union
import Inlay.Proofs.Canonical
import Inlay.Proofs.Findings
import Inlay.Proofs.Loops
import Inlay.Proofs.Guarded
import Inlay.Proofs.Decodable
import Inlay.Proofs.Anchored
import Inlay.Proofs.Attributes
import Inlay.Proofs.Moved
import Inlay.Proofs.Degraded
import Inlay.Proofs.Splice
import Inlay.Proofs.Rescan
import Inlay.Proofs.Preference
import Inlay.Proofs.Ranges
import Inlay.Proofs.Ordered
import Inlay.Proofs.Accounts
import Inlay.Proofs.Identifiers
import Inlay.Proofs.FirstFault
import Inlay.Proofs.Reports
import Inlay.Proofs.Extraction
import Inlay.Proofs.RawLines
import Inlay.Proofs.Separators
import Inlay.Proofs.Outputs
import Inlay.Proofs.Stores
import Inlay.Proofs.Threads
import Inlay.Proofs.Preprocess
import Inlay.Proofs.Locations
import Inlay.Proofs.Visits
import Inlay.Proofs.Grammar
import Inlay.Proofs.Matching
import Inlay.Proofs.Shortcut
