import AddonCatalog.Addon.Basic
import AddonCatalog.Addon.Merge
import AddonCatalog.Addon.Record
import AddonCatalog.Addon.Schema
import AddonCatalog.Archive.Download
import AddonCatalog.Archive.Handler
import AddonCatalog.Cache.Expiring
import AddonCatalog.Cache.Script
import AddonCatalog.Catalog.Index
import AddonCatalog.Cli.Args
import AddonCatalog.Cli.Session
import AddonCatalog.Cli.Suggest
import AddonCatalog.Console.Emoji
import AddonCatalog.Console.Markup
import AddonCatalog.Console.Style
import AddonCatalog.Console.Styled
import AddonCatalog.Console.Table
import AddonCatalog.Console.Wrap
import AddonCatalog.Digest.Crc32
import AddonCatalog.Digest.Sha256
import AddonCatalog.Event
import AddonCatalog.Failure
import AddonCatalog.Files.Ops
import AddonCatalog.Files.Volume
import AddonCatalog.Handler.Registry
import AddonCatalog.Handler.Scripted
import AddonCatalog.Json.Pairs
import AddonCatalog.Json.Reader
import AddonCatalog.Json.Show
import AddonCatalog.Json.Value
import AddonCatalog.Json.Writer
import AddonCatalog.Literal.Eval
import AddonCatalog.Literal.Lexer
import AddonCatalog.Literal.Parser
import AddonCatalog.Literal.Strings
import AddonCatalog.Literal.Syntax
import AddonCatalog.Main
import AddonCatalog.Net.Host
import AddonCatalog.Net.Http
import AddonCatalog.Net.Retry
import AddonCatalog.Net.Session
import AddonCatalog.Net.Url
import AddonCatalog.Number.DigitLimit
import AddonCatalog.Number.Exact
import AddonCatalog.Number.Extended
import AddonCatalog.Number.FloatText
import AddonCatalog.Number.Seconds
import AddonCatalog.Number.Shortest
import AddonCatalog.Number.Whole
import AddonCatalog.Order.InsertionSort
import AddonCatalog.Proofs.Addon.Deduplicate
import AddonCatalog.Proofs.Addon.Merge
import AddonCatalog.Proofs.Addon.Record
import AddonCatalog.Proofs.Addon.RecordUid
import AddonCatalog.Proofs.Addon.Shadowing
import AddonCatalog.Proofs.Cache.Freshness
import AddonCatalog.Proofs.Cache.Counts
import AddonCatalog.Proofs.Catalog.Fetch
import AddonCatalog.Proofs.Files.Plain
import AddonCatalog.Proofs.Archive.Download
import AddonCatalog.Proofs.Files.Footprint
import AddonCatalog.Proofs.Files.Agree
import AddonCatalog.Proofs.Archive.Footprint
import AddonCatalog.Proofs.Archive.Extract
import AddonCatalog.Proofs.Archive.Install
import AddonCatalog.Proofs.Archive.Locality
import AddonCatalog.Proofs.Archive.Restore
import AddonCatalog.Proofs.Json.RoundTrip
import AddonCatalog.Proofs.Json.Scalars
import AddonCatalog.Proofs.Json.Indented
import AddonCatalog.Proofs.Order.InsertionSort
import AddonCatalog.Proofs.Order.Comparator
import AddonCatalog.Proofs.Service.Announce
import AddonCatalog.Proofs.Service.Confined
import AddonCatalog.Proofs.Service.Termination
import AddonCatalog.Proofs.Service.Writes
import AddonCatalog.Proofs.Service.Cycle
import AddonCatalog.Proofs.Service.Depth
import AddonCatalog.Proofs.Service.Drift
import AddonCatalog.Proofs.Service.EarlyExit
import AddonCatalog.Proofs.Service.Frame
import AddonCatalog.Proofs.Service.Listing
import AddonCatalog.Proofs.Service.Logic
import AddonCatalog.Proofs.Service.Pruning
import AddonCatalog.Proofs.Service.Registry
import AddonCatalog.Proofs.Service.Reinstall
import AddonCatalog.Proofs.Service.RemoteOff
import AddonCatalog.Proofs.Service.Repairs
import AddonCatalog.Proofs.Service.Snapshot
import AddonCatalog.Proofs.Settings.Reload
import AddonCatalog.Proofs.Store.Namespaces
import AddonCatalog.Proofs.Store.Removal
import AddonCatalog.Proofs.Version.Order
import AddonCatalog.Proofs.Version.Range
import AddonCatalog.Proofs.Version.Text
import AddonCatalog.Service.Actions
import AddonCatalog.Service.Reconcile
import AddonCatalog.Service.Sources
import AddonCatalog.Service.State
import AddonCatalog.Settings.Basic
import AddonCatalog.Settings.File
import AddonCatalog.Settings.Paths
import AddonCatalog.Store.Records
import AddonCatalog.Text.Alnum
import AddonCatalog.Text.Blank
import AddonCatalog.Text.ByteText
import AddonCatalog.Text.CellWidth
import AddonCatalog.Text.CharacterNames
import AddonCatalog.Text.Digit
import AddonCatalog.Text.Identifier
import AddonCatalog.Text.Lower
import AddonCatalog.Text.Printable
import AddonCatalog.Text.Quoted
import AddonCatalog.Text.RangeTable
import AddonCatalog.Version.Basic
import AddonCatalog.Version.Order
import AddonCatalog.Version.Range
import AddonCatalog.Zip.Blocks
import AddonCatalog.Zip.Bzip2
import AddonCatalog.Zip.Deflated
import AddonCatalog.Zip.Inflate
import AddonCatalog.Zip.Layout
import AddonCatalog.Zip.Lzma
import AddonCatalog.Zip.Read
import AddonCatalog.Zip.Streamed
import AddonCatalog.Zip.Write
