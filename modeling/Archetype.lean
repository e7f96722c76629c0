import Archetype.Allocation
import Archetype.Ancestry
import Archetype.Application
import Archetype.Binding
import Archetype.Datum.Basic
import Archetype.Datum.Json
import Archetype.Datum.Json.Reader
import Archetype.Datum.Yaml
import Archetype.Datum.Yaml.Cursor
import Archetype.Datum.Yaml.Reader
import Archetype.Datum.Yaml.Scalar
import Archetype.Datum.Yaml.Scanner
import Archetype.Datum.Yaml.Tag
import Archetype.Datum.Yaml.Token
import Archetype.Datum.Yaml.Tree
import Archetype.Definition
import Archetype.Journal
import Archetype.Lineage
import Archetype.Markup.Error
import Archetype.Markup.Parser
import Archetype.Markup.Scanner
import Archetype.Markup.Token
import Archetype.Markup.Tree
import Archetype.Number.Binary64
import Archetype.Number.Nearest
import Archetype.Number.Notation
import Archetype.Number.Reading
import Archetype.Number.Shortest
import Archetype.Options
import Archetype.Options.Json
import Archetype.Options.Setting
import Archetype.Options.Yaml
import Archetype.Ordering
import Archetype.Proofs.Acceptance
import Archetype.Proofs.Accounts
import Archetype.Proofs.Allocation
import Archetype.Proofs.Ancestry
import Archetype.Proofs.Application
import Archetype.Proofs.Arrangement
import Archetype.Proofs.Ascent
import Archetype.Proofs.Binding
import Archetype.Proofs.ByteOrderMark
import Archetype.Proofs.CharacterData
import Archetype.Proofs.Climbing
import Archetype.Proofs.Closure
import Archetype.Proofs.Commutation
import Archetype.Proofs.Concatenation
import Archetype.Proofs.Conformity
import Archetype.Proofs.Consistency
import Archetype.Proofs.Declarations
import Archetype.Proofs.Decoding
import Archetype.Proofs.DefaultObjects
import Archetype.Proofs.Descent
import Archetype.Proofs.Equality
import Archetype.Proofs.Exclusion
import Archetype.Proofs.Filing
import Archetype.Proofs.Flattening
import Archetype.Proofs.Grammar
import Archetype.Proofs.History
import Archetype.Proofs.Indexing
import Archetype.Proofs.Inheritance
import Archetype.Proofs.Kinds
import Archetype.Proofs.Lineage
import Archetype.Proofs.Locality
import Archetype.Proofs.Logging
import Archetype.Proofs.Merging
import Archetype.Proofs.Ordering
import Archetype.Proofs.Parts
import Archetype.Proofs.Permutation
import Archetype.Proofs.Paths
import Archetype.Proofs.Persistence
import Archetype.Proofs.Positions
import Archetype.Proofs.Precedence
import Archetype.Proofs.Recognition
import Archetype.Proofs.Redeclaration
import Archetype.Proofs.References
import Archetype.Proofs.Refusals
import Archetype.Proofs.Registration
import Archetype.Proofs.Registry
import Archetype.Proofs.Renaming
import Archetype.Proofs.Repetition
import Archetype.Proofs.Reports
import Archetype.Proofs.Resolution
import Archetype.Proofs.Scanning
import Archetype.Proofs.Search
import Archetype.Proofs.Settlement
import Archetype.Proofs.Sorting
import Archetype.Proofs.Soundness
import Archetype.Proofs.Spans
import Archetype.Proofs.Splitting
import Archetype.Proofs.Staging
import Archetype.Proofs.Statements
import Archetype.Proofs.Tiling
import Archetype.Proofs.Tokens
import Archetype.Proofs.Typing
import Archetype.Proofs.Values
import Archetype.Proofs.Writing
import Archetype.Schema.Converter
import Archetype.Schema.Descriptor
import Archetype.Schema.Error
import Archetype.Schema.FieldType
import Archetype.Schema.Lookup
import Archetype.Schema.Registry
import Archetype.Schema.Shape
import Archetype.Session
import Archetype.Session.Outcome
import Archetype.Session.Requests
import Archetype.Staging
import Archetype.Text.Blank
import Archetype.Text.Bytes
import Archetype.Text.Case
import Archetype.Text.CharRef
import Archetype.Text.Digits
import Archetype.Text.Letter
import Archetype.Text.Lines
import Archetype.Text.Mark
import Archetype.Text.Printable
import Archetype.Text.Quoted
import Archetype.Text.Ranges
import Archetype.Value.Basic
import Archetype.Value.Outline
import Archetype.Value.Store
