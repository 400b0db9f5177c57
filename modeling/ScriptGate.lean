import ScriptGate.Header.Blanked
import ScriptGate.AllowList
import ScriptGate.Calendar
import ScriptGate.Decimal.Binary
import ScriptGate.Digest
import ScriptGate.Fingerprint
import ScriptGate.Grammar.Check
import ScriptGate.Http.MediaType
import ScriptGate.Http.Origins
import ScriptGate.Http.Route
import ScriptGate.Http.Service
import ScriptGate.Json.Printer
import ScriptGate.Settings
import ScriptGate.Proofs.Version.Digits
import ScriptGate.Proofs.Version.Successor
import ScriptGate.Proofs.Version.Order
import ScriptGate.Proofs.Version.Chains
import ScriptGate.Proofs.Version.Generated
import ScriptGate.Proofs.Review.Ruling
import ScriptGate.Proofs.Store.Registry
import ScriptGate.Proofs.Service.Histories
import ScriptGate.Proofs.Service.Chronology
import ScriptGate.Proofs.Header.Layout
import ScriptGate.Proofs.Review.Fingerprints
import ScriptGate.Proofs.Header.Splices
import ScriptGate.Proofs.Header.LineEdits
import ScriptGate.Proofs.Header.Values
import ScriptGate.Proofs.Header.Pairs
import ScriptGate.Proofs.Header.ReadBack
import ScriptGate.Proofs.Header.Declared
import ScriptGate.Proofs.Review.Canonical
import ScriptGate.Proofs.Review.FixedPoint
import ScriptGate.Proofs.Store.Archive
import ScriptGate.Proofs.Service.Trace
import ScriptGate.Proofs.Service.Grounded
import ScriptGate.Proofs.Header.Markers
import ScriptGate.Proofs.Header.LineByLine
import ScriptGate.Proofs.Service.Keeping
import ScriptGate.Proofs.Service.Atomicity
import ScriptGate.Proofs.Service.Audit
import ScriptGate.Proofs.Review.Served
import ScriptGate.Proofs.Service.Serving
import ScriptGate.Proofs.Review.Presentable
import ScriptGate.Proofs.Service.Presentable
import ScriptGate.Proofs.Service.Overtaking
import ScriptGate.Proofs.Service.Preview
import ScriptGate.Proofs.Review.Anonymity
import ScriptGate.Proofs.Service.Anonymity
import ScriptGate.Proofs.Header.Repeated
import ScriptGate.Proofs.Header.LineEndings
import ScriptGate.Proofs.Header.Grammar
import ScriptGate.Proofs.Review.Options
import ScriptGate.Proofs.Header.Unchanged
import ScriptGate.Proofs.Review.Reported
import ScriptGate.Proofs.Header.Standalone
import ScriptGate.Proofs.Header.Blanked
import ScriptGate.Proofs.Header.Located
import ScriptGate.Proofs.AllowList
import ScriptGate.Proofs.Review.Minified
import ScriptGate.Proofs.Header.Grouping
import ScriptGate.Proofs.Text.Tiling
