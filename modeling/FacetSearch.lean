import FacetSearch.Database.Basic
import FacetSearch.Database.Fault
import FacetSearch.Database.Script
import FacetSearch.Decimal.Layout
import FacetSearch.Decimal.Shortest
import FacetSearch.Entity.Dataset
import FacetSearch.Entity.FlowJob
import FacetSearch.Entity.ResultPage
import FacetSearch.Http.Application
import FacetSearch.Http.Cors
import FacetSearch.Http.Endpoint
import FacetSearch.Http.Failure
import FacetSearch.Http.Form
import FacetSearch.Http.Message
import FacetSearch.Http.RequestId
import FacetSearch.Http.Uri
import FacetSearch.Json.Basic
import FacetSearch.Json.Number
import FacetSearch.Json.Reader
import FacetSearch.Json.Record
import FacetSearch.Json.Writer
import FacetSearch.Lookup
import FacetSearch.Metrics.Exposition
import FacetSearch.Metrics.PathLabel
import FacetSearch.Metrics.Registry
import FacetSearch.Options.Facet
import FacetSearch.Options.Filter
import FacetSearch.Paging
import FacetSearch.Pattern.Automaton.Characters
import FacetSearch.Pattern.Automaton.Construction
import FacetSearch.Pattern.Automaton.Size
import FacetSearch.Pattern.Automaton.Words
import FacetSearch.Pattern.Brackets
import FacetSearch.Pattern.Escape
import FacetSearch.Pattern.Expression
import FacetSearch.Pattern.Gap
import FacetSearch.Pattern.Literal
import FacetSearch.Pattern.Meaning
import FacetSearch.Pattern.Property
import FacetSearch.Pattern.Reader
import FacetSearch.Pattern.Syntax
import FacetSearch.Pattern.Validity
import FacetSearch.Query.Basic
import FacetSearch.Query.Clause
import FacetSearch.Query.Plan
import FacetSearch.Query.Ranking
import FacetSearch.Search
import FacetSearch.Settings.Address
import FacetSearch.Settings.Basic
import FacetSearch.Settings.Coercion
import FacetSearch.Settings.IpAddress
import FacetSearch.Settings.KeyPath
import FacetSearch.Settings.Layers
import FacetSearch.Settings.Problem
import FacetSearch.Settings.Tree
import FacetSearch.Sql.Fragment
import FacetSearch.Sql.Order
import FacetSearch.Sql.Predicate
import FacetSearch.Text.Alphabetic
import FacetSearch.Text.Alphanumeric
import FacetSearch.Text.Bytes
import FacetSearch.Text.CaseData
import FacetSearch.Text.CaseRun
import FacetSearch.Text.CodeRange
import FacetSearch.Text.CommaList
import FacetSearch.Text.Hex
import FacetSearch.Text.Integer
import FacetSearch.Text.LikePattern
import FacetSearch.Text.LowerCase
import FacetSearch.Text.WhiteSpace
import FacetSearch.Text.Words
import FacetSearch.Unicode.Age
import FacetSearch.Unicode.CaseFolding
import FacetSearch.Unicode.GeneralCategory
import FacetSearch.Unicode.Property
import FacetSearch.Unicode.RangeSet
import FacetSearch.Unicode.Script
import FacetSearch.Unicode.Segmentation
import FacetSearch.Unicode.Utf8
import FacetSearch.Proofs.Sql.Fragment
import FacetSearch.Proofs.Sql.Placeholder
import FacetSearch.Proofs.Sql.Inlined
import FacetSearch.Proofs.Query.Placeholder
import FacetSearch.Proofs.Sql.Like
import FacetSearch.Proofs.Sql.Meaning
import FacetSearch.Proofs.Catalog.Snapshot
import FacetSearch.Proofs.Query.Result
import FacetSearch.Proofs.Database.Session
import FacetSearch.Proofs.Query.Facets
import FacetSearch.Proofs.Query.Narrowing
import FacetSearch.Proofs.Catalog.Keys
import FacetSearch.Proofs.Query.Paging
import FacetSearch.Proofs.Query.Shape
import FacetSearch.Proofs.Sql.Nesting
import FacetSearch.Proofs.Sql.Operand
import FacetSearch.Proofs.Sql.Structure
import FacetSearch.Proofs.Query.Structure
import FacetSearch.Proofs.Query.Building
import FacetSearch.Proofs.Database.Protocol
import FacetSearch.Proofs.Http.Response
import FacetSearch.Proofs.Http.Identifier
import FacetSearch.Proofs.Database.Observation
import FacetSearch.Proofs.Metrics.Samples
import FacetSearch.Proofs.Metrics.Searches
import FacetSearch.Proofs.Text.Bytes
import FacetSearch.Proofs.Http.Form
import FacetSearch.Proofs.Http.Query
import FacetSearch.Proofs.Http.SearchForms
import FacetSearch.Proofs.Text.CommaList
import FacetSearch.Proofs.Options.NormalForm
import FacetSearch.Proofs.Text.Storable
import FacetSearch.Proofs.Query.Storable
import FacetSearch.Proofs.Database.Storable
import FacetSearch.Proofs.Database.Wording
import FacetSearch.Proofs.Http.Dispatch
import FacetSearch.Proofs.Http.Conversation
import FacetSearch.Proofs.Http.Disclosure
import FacetSearch.Proofs.Options.Absent
import FacetSearch.Proofs.Http.Rejection
import FacetSearch.Proofs.Query.Ranking
import FacetSearch.Proofs.Sql.Identifiers
import FacetSearch.Proofs.Query.Names
import FacetSearch.Proofs.Query.Groups
import FacetSearch.Proofs.Database.Reply
import FacetSearch.Proofs.Database.Envelope
import FacetSearch.Proofs.Sql.Clauses
import FacetSearch.Proofs.Query.JobFacet
import FacetSearch.Proofs.Settings.Valid
import FacetSearch.Proofs.Text.LowerCase
import FacetSearch.Proofs.Text.Words
import FacetSearch.Proofs.Database.Lookup
import FacetSearch.Proofs.Metrics.Requests
import FacetSearch.Proofs.Http.Fields
import FacetSearch.Proofs.Http.Origins
import FacetSearch.Proofs.Http.Correlation
import FacetSearch.Proofs.Metrics.PathLabels
import FacetSearch.Proofs.Json.Integers
import FacetSearch.Proofs.Json.Lexing
import FacetSearch.Proofs.Json.Parsing
import FacetSearch.Proofs.Json.Keys
import FacetSearch.Proofs.Entity.RoundTrip
import FacetSearch.Proofs.Settings.RoundTrip
import FacetSearch.Proofs.Settings.Merging
import FacetSearch.Proofs.Settings.Fields
import FacetSearch.Proofs.Settings.Places
import FacetSearch.Proofs.Settings.Reading
import FacetSearch.Proofs.Settings.Order
import FacetSearch.Proofs.Settings.Layering
import FacetSearch.Proofs.Settings.Texts
import FacetSearch.Proofs.Sql.OnePass
import FacetSearch.Proofs.Sql.Relocation
import FacetSearch.Proofs.Query.OnePass
import FacetSearch.Proofs.Text.OrderedSet
import FacetSearch.Proofs.Text.Separators
import FacetSearch.Proofs.Options.OrderedLists
