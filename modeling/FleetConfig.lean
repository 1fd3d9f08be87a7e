import FleetConfig.Classification.Merge
import FleetConfig.Classification.Resolved
import FleetConfig.CommandLine.Command
import FleetConfig.CommandLine.Display
import FleetConfig.CommandLine.Markup
import FleetConfig.CommandLine.Running
import FleetConfig.Digest
import FleetConfig.Document.Basic
import FleetConfig.Document.File
import FleetConfig.Document.Json
import FleetConfig.Document.Yaml.Basic
import FleetConfig.Document.Yaml.BlockScalar
import FleetConfig.Document.Yaml.Cursor
import FleetConfig.Document.Yaml.Mark
import FleetConfig.Document.Yaml.Node
import FleetConfig.Document.Yaml.PlainScalar
import FleetConfig.Document.Yaml.QuotedScalar
import FleetConfig.Document.Yaml.Resolution
import FleetConfig.Document.Yaml.Scanner
import FleetConfig.Document.Yaml.Scanning
import FleetConfig.Document.Yaml.Token
import FleetConfig.Document.Yaml.Writing
import FleetConfig.FactPath
import FleetConfig.Failure.Report
import FleetConfig.Group.Basic
import FleetConfig.Group.Membership
import FleetConfig.Group.Set
import FleetConfig.Hierarchy.Basic
import FleetConfig.Hierarchy.Cache
import FleetConfig.Hierarchy.Validation
import FleetConfig.Inventory
import FleetConfig.Main
import FleetConfig.Node
import FleetConfig.Number.Binary64
import FleetConfig.Number.IntegerText
import FleetConfig.Number.Numeral
import FleetConfig.Number.Shortest
import FleetConfig.Pattern.Basic
import FleetConfig.Pattern.Cache
import FleetConfig.Pattern.CharacterSet
import FleetConfig.Pattern.Error
import FleetConfig.Pattern.Escape
import FleetConfig.Pattern.Group
import FleetConfig.Pattern.Matching
import FleetConfig.Pattern.Options
import FleetConfig.Pattern.Reader
import FleetConfig.Pattern.Reading
import FleetConfig.Pattern.Repetition
import FleetConfig.Pattern.Syntax
import FleetConfig.Pattern.Width
import FleetConfig.Proofs.Classification.Conflict
import FleetConfig.Proofs.Classification.Override
import FleetConfig.Proofs.Classification.PlacedGroups
import FleetConfig.Proofs.Classification.Precedence
import FleetConfig.Proofs.Classification.Proposal
import FleetConfig.Proofs.Classification.Revision
import FleetConfig.Proofs.Document.JsonKeys
import FleetConfig.Proofs.Document.JsonString
import FleetConfig.Proofs.FactLookup
import FleetConfig.Proofs.FactPath
import FleetConfig.Proofs.Group.Definition
import FleetConfig.Proofs.Group.Membership
import FleetConfig.Proofs.Group.Payload
import FleetConfig.Proofs.Group.Reading
import FleetConfig.Proofs.Group.Renumbering
import FleetConfig.Proofs.Group.RuleIds
import FleetConfig.Proofs.Group.Set
import FleetConfig.Proofs.Group.Version
import FleetConfig.Proofs.Hierarchy.Acceptance
import FleetConfig.Proofs.Hierarchy.Ancestors
import FleetConfig.Proofs.Hierarchy.Cache
import FleetConfig.Proofs.Hierarchy.CacheHistory
import FleetConfig.Proofs.Hierarchy.Cycle
import FleetConfig.Proofs.Hierarchy.Depth
import FleetConfig.Proofs.Hierarchy.Insertion
import FleetConfig.Proofs.Hierarchy.Place
import FleetConfig.Proofs.Hierarchy.Rearrangement
import FleetConfig.Proofs.Hierarchy.Reparenting
import FleetConfig.Proofs.Hierarchy.Revision
import FleetConfig.Proofs.Hierarchy.Validation
import FleetConfig.Proofs.Hierarchy.Walk
import FleetConfig.Proofs.Inventory
import FleetConfig.Proofs.Number.Coercion
import FleetConfig.Proofs.Number.Grammar
import FleetConfig.Proofs.Number.IntegerText
import FleetConfig.Proofs.Number.Literal
import FleetConfig.Proofs.Number.Nearest
import FleetConfig.Proofs.Number.Position
import FleetConfig.Proofs.Number.Reading
import FleetConfig.Proofs.Number.Rounding
import FleetConfig.Proofs.Number.Text
import FleetConfig.Proofs.Pattern.Cache
import FleetConfig.Proofs.Pattern.CacheHistory
import FleetConfig.Proofs.Pattern.Repetition
import FleetConfig.Proofs.RecencyCache
import FleetConfig.Proofs.RecencyOrder
import FleetConfig.Proofs.Renumbering
import FleetConfig.Proofs.Rule.Definition
import FleetConfig.Proofs.Rule.NumberedIds
import FleetConfig.Proofs.Rule.Reading
import FleetConfig.Proofs.Schema
import FleetConfig.Proofs.Service.Accounting
import FleetConfig.Proofs.Service.Batch
import FleetConfig.Proofs.Service.Belonging
import FleetConfig.Proofs.Service.Breakdown
import FleetConfig.Proofs.Service.Classification
import FleetConfig.Proofs.Service.Comparison
import FleetConfig.Proofs.Service.Consultation
import FleetConfig.Proofs.Service.Conversation
import FleetConfig.Proofs.Service.Direct
import FleetConfig.Proofs.Service.Foreseen
import FleetConfig.Proofs.Service.Freshness
import FleetConfig.Proofs.Service.Insertion
import FleetConfig.Proofs.Service.Lifecycle
import FleetConfig.Proofs.Service.Members
import FleetConfig.Proofs.Service.Merging
import FleetConfig.Proofs.Service.Override
import FleetConfig.Proofs.Service.Pool
import FleetConfig.Proofs.Service.Rearrangement
import FleetConfig.Proofs.Service.Recording
import FleetConfig.Proofs.Service.Refusal
import FleetConfig.Proofs.Service.Registry
import FleetConfig.Proofs.Service.Rejection
import FleetConfig.Proofs.Service.Renumbering
import FleetConfig.Proofs.Service.Revision
import FleetConfig.Proofs.Service.Session
import FleetConfig.Proofs.Service.Verdict
import FleetConfig.Proofs.Service.Work
import FleetConfig.Proofs.Supply
import FleetConfig.Proofs.Text.Order
import FleetConfig.Proofs.Value.CanonicalJson
import FleetConfig.Proofs.Value.Comparison
import FleetConfig.Proofs.Value.JsonScalar
import FleetConfig.Proofs.Value.Lookup
import FleetConfig.Proofs.Value.Plain
import FleetConfig.Proofs.Value.Sortable
import FleetConfig.Proofs.Value.TextKeys
import FleetConfig.RecencyCache
import FleetConfig.Rule.Basic
import FleetConfig.Rule.Evaluation
import FleetConfig.Rule.Expected
import FleetConfig.Rule.Operator
import FleetConfig.Rule.Supply
import FleetConfig.Schema
import FleetConfig.Service.Basic
import FleetConfig.Service.Engine
import FleetConfig.Service.Meters
import FleetConfig.Service.Pool
import FleetConfig.Service.Registry
import FleetConfig.Service.Request
import FleetConfig.Settings
import FleetConfig.Text.Blank
import FleetConfig.Text.Case
import FleetConfig.Text.CharacterName
import FleetConfig.Text.Digit
import FleetConfig.Text.Hex
import FleetConfig.Text.Identifier
import FleetConfig.Text.Name.Alias
import FleetConfig.Text.Name.Ancient
import FleetConfig.Text.Name.Asian
import FleetConfig.Text.Name.Cuneiform
import FleetConfig.Text.Name.European
import FleetConfig.Text.Name.Kana
import FleetConfig.Text.Name.Notation
import FleetConfig.Text.Name.Pictograph
import FleetConfig.Text.Name.Presentation
import FleetConfig.Text.Name.Symbol
import FleetConfig.Text.Printable
import FleetConfig.Text.Quoted
import FleetConfig.Text.Ranges
import FleetConfig.Text.Sorted
import FleetConfig.Text.Word
import FleetConfig.Value.Basic
import FleetConfig.Value.Comparison
import FleetConfig.Value.Indented
import FleetConfig.Value.Json
import FleetConfig.Value.Literal
import FleetConfig.Value.Plain
