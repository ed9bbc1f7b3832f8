import ByteScan.Main
import ByteScan.Proofs.Bytes
import ByteScan.Proofs.FirstMatch
import ByteScan.Proofs.ScanResult
import ByteScan.Proofs.Kernel.Walk
import ByteScan.Proofs.Kernel.Words
import ByteScan.Proofs.Pattern.LaneForm
import ByteScan.Proofs.Kernel.Lanes
import ByteScan.Proofs.Kernel.FirstMatch
import ByteScan.Proofs.Scanner.AllMatches
import ByteScan.Proofs.Pattern.Spelling
import ByteScan.Proofs.Pattern.Language
import ByteScan.Proofs.Pattern.Constructors
import ByteScan.Proofs.Cache
import ByteScan.Proofs.Algorithm
import ByteScan.Proofs.Dispatch
import ByteScan.Proofs.Scanner.Cached
import ByteScan.Proofs.Scanner.Building
import ByteScan.Proofs.Scanner.Settings
import ByteScan.Proofs.Workers.Invariant
import ByteScan.Proofs.Workers.Outcome
import ByteScan.Proofs.Memory.Module
import ByteScan.Proofs.Memory.Image
import ByteScan.Proofs.Memory.Listing
import ByteScan.Proofs.Memory.Borrowing
import ByteScan.Proofs.Memory.Visibility
import ByteScan.Proofs.Memory.Entry
import ByteScan.Proofs.Kernel.Bounds
import ByteScan.Proofs.Scanner.Calls
import ByteScan.Proofs.Pattern.WordEncoding
import ByteScan.Proofs.Pattern.LaneEncoding
import ByteScan.Proofs.Pattern.Rebuilding
import ByteScan.Proofs.Dispatch.Coverage
import ByteScan.Proofs.Cache.History
import ByteScan.Proofs.Text.Numeral
import ByteScan.Proofs.Json.Grammar
import ByteScan.Proofs.Json.Lexeme
import ByteScan.Proofs.Json.Skipping
import ByteScan.Proofs.Json.Record
import ByteScan.Proofs.Config
import ByteScan.Proofs.Config.Members
import ByteScan.Proofs.CommandLine.Report
import ByteScan.Proofs.CommandLine.Settings
import ByteScan.Proofs.Scanner.Copies
