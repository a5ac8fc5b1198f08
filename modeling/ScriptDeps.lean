import ScriptDeps.Decimal.Shortest
import ScriptDeps.Json.Basic
import ScriptDeps.Json.Reader
import ScriptDeps.Json.Writer
import ScriptDeps.Text.Casing
import ScriptDeps.Text.Digit
import ScriptDeps.Text.Segment
import ScriptDeps.Text.Utf8
import ScriptDeps.Text.Word
import ScriptDeps.Text.Identifier
import ScriptDeps.FileSystem.Basic
import ScriptDeps.Failure
import ScriptDeps.FileSystem.Access
import ScriptDeps.Host
import ScriptDeps.Script.AutoClass
import ScriptDeps.Script.Comment
import ScriptDeps.Script.Directive
import ScriptDeps.Locations
import ScriptDeps.Package.Store
import ScriptDeps.Xml.Charset
import ScriptDeps.Xml.Encoding
import ScriptDeps.Xml.Name
import ScriptDeps.Xml.Reference
import ScriptDeps.Xml.Declaration
import ScriptDeps.Xml.Markup
import ScriptDeps.Xml.Entity
import ScriptDeps.Xml.Namespace
import ScriptDeps.Xml.Document
import ScriptDeps.Xml.File
import ScriptDeps.Library.Index
import ScriptDeps.SearchPath.Expansion
import ScriptDeps.SearchPath.Settings
import ScriptDeps.Assembly.Image
import ScriptDeps.Assembly.Layout
import ScriptDeps.Assembly.Name
import ScriptDeps.Hash.Sha1
import ScriptDeps.Library.Identity
import ScriptDeps.Library.Candidates
import ScriptDeps.Script.ImportCache
import ScriptDeps.Closure
import ScriptDeps.ClosureService
import ScriptDeps.Console.CommandLine
import ScriptDeps.Console.Commands
import ScriptDeps.Main
import ScriptDeps.Proofs.Running
import ScriptDeps.Proofs.Failing
import ScriptDeps.Proofs.FileSystem.Faults
import ScriptDeps.Proofs.FileSystem.Resolving
import ScriptDeps.Proofs.Script.Traversal
import ScriptDeps.Proofs.Script.ImportTrace
import ScriptDeps.Proofs.Script.ImportOrder
import ScriptDeps.Proofs.FileSystem.Texts
import ScriptDeps.Proofs.Script.Termination
import ScriptDeps.Proofs.Script.Copies
import ScriptDeps.Proofs.Script.CopyNames
import ScriptDeps.Proofs.Closure.ScriptFailures
import ScriptDeps.Proofs.Closure.Footprint
import ScriptDeps.Proofs.Closure.Histories
import ScriptDeps.Proofs.Library.Answers
import ScriptDeps.Proofs.Library.Fallback
import ScriptDeps.Proofs.Library.Again
import ScriptDeps.Proofs.Library.Representatives
import ScriptDeps.Proofs.Library.Reports
import ScriptDeps.Proofs.Json.Cutting
import ScriptDeps.Proofs.Json.RoundTrip
import ScriptDeps.Proofs.Assembly.Bytes
import ScriptDeps.Proofs.Assembly.Standard
import ScriptDeps.Proofs.Assembly.Headers
import ScriptDeps.Proofs.Assembly.Widths
import ScriptDeps.Proofs.Assembly.Readers
import ScriptDeps.Proofs.Assembly.Naming
import ScriptDeps.Proofs.Assembly.Declared
import ScriptDeps.Proofs.Assembly.Raising
import ScriptDeps.Proofs.Closure.Strategies
import ScriptDeps.Proofs.Library.Listings
import ScriptDeps.Proofs.Library.Lookup
import ScriptDeps.Proofs.Closure.Libraries
import ScriptDeps.Proofs.FileSystem.Refusals
import ScriptDeps.Proofs.Script.Stopping
import ScriptDeps.Proofs.Script.Tripping
import ScriptDeps.Proofs.Closure.Opening
import ScriptDeps.Proofs.Closure.Sources
import ScriptDeps.Proofs.Library.PlainPass
import ScriptDeps.Proofs.Closure.OnePass
import ScriptDeps.Proofs.Library.Kinds
import ScriptDeps.Proofs.Closure.Kinds
import ScriptDeps.Proofs.Closure.Offline
import ScriptDeps.Proofs.Json.Proper
import ScriptDeps.Proofs.Settings.Merging
import ScriptDeps.Proofs.Settings.Loading
import ScriptDeps.Proofs.Closure.Configured
import ScriptDeps.Proofs.Text.Trimming
import ScriptDeps.Proofs.Script.Comments
import ScriptDeps.Proofs.Script.NameParts
import ScriptDeps.Proofs.Script.DirectiveLine
import ScriptDeps.Proofs.Script.WrittenValues
import ScriptDeps.Proofs.Script.WrittenPackages
import ScriptDeps.Proofs.Script.UsingLine
import ScriptDeps.Proofs.Script.Declarations
import ScriptDeps.Proofs.Script.Runs
import ScriptDeps.Proofs.Script.VisibleLines
import ScriptDeps.Proofs.Script.RenamedDirectives
import ScriptDeps.Proofs.Xml.Encodings
import ScriptDeps.Proofs.SearchPath.GlobalDirs
import ScriptDeps.Proofs.Surprises
import ScriptDeps.Proofs.FileSystem.Nulls
import ScriptDeps.Proofs.Package.Numbers
import ScriptDeps.Proofs.Library.Silent
import ScriptDeps.Proofs.Closure.Surprises
import ScriptDeps.Proofs.Settings.Surprises
import ScriptDeps.Proofs.Json.Integers
import ScriptDeps.Proofs.Console.Documents
import ScriptDeps.Proofs.Console.Answers
import ScriptDeps.Proofs.Script.LineNumbers
import ScriptDeps.Proofs.Script.CommentKinds
import ScriptDeps.Proofs.Library.FirstListed
import ScriptDeps.Proofs.Library.IgnoredNames
import ScriptDeps.Proofs.Library.Isolation
import ScriptDeps.Proofs.FileSystem.Detours
import ScriptDeps.Proofs.Package.Order
import ScriptDeps.Proofs.Package.Layouts
import ScriptDeps.Proofs.Package.Highest
import ScriptDeps.Proofs.Text.Numerals
import ScriptDeps.Proofs.Package.Releases
import ScriptDeps.Proofs.Text.Lengths
import ScriptDeps.Proofs.Package.Obstacles
import ScriptDeps.Proofs.Package.NumberedIds
import ScriptDeps.Proofs.Package.Downloading
import ScriptDeps.Proofs.Script.MarkedLine
import ScriptDeps.Proofs.Library.Misses
import ScriptDeps.Proofs.FileSystem.Tidy
import ScriptDeps.Proofs.Package.Frameworks
import ScriptDeps.Proofs.FileSystem.Ensuring
import ScriptDeps.Proofs.Closure.Saving
import ScriptDeps.Proofs.Distinct
import ScriptDeps.Proofs.SearchPath.References
import ScriptDeps.Proofs.SearchPath.Normalizing
import ScriptDeps.Proofs.Script.Gathered
