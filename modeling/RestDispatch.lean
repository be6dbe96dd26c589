import RestDispatch.Annotation
import RestDispatch.Binding.Binder
import RestDispatch.Binding.Factory
import RestDispatch.Binding.Lookup
import RestDispatch.Body.Format
import RestDispatch.Conversion
import RestDispatch.Description.Bindings
import RestDispatch.Description.Errors
import RestDispatch.Description.Exchanges
import RestDispatch.Description.Members
import RestDispatch.Description.Scenarios
import RestDispatch.Description.Types
import RestDispatch.Description.Values
import RestDispatch.Description.Vocabulary
import RestDispatch.Dictionary
import RestDispatch.Dispatch.Deployment
import RestDispatch.Dispatch.FailureAnswer
import RestDispatch.Dispatch.Router
import RestDispatch.Error
import RestDispatch.Event
import RestDispatch.Handler.Advice
import RestDispatch.Handler.Deferred
import RestDispatch.Handler.Exchange
import RestDispatch.Handler.Interceptor
import RestDispatch.Handler.Parameter
import RestDispatch.Handler.Pipeline
import RestDispatch.Handler.ResultWriter
import RestDispatch.Handler.Returned
import RestDispatch.Http.Attributes
import RestDispatch.Http.Cookie
import RestDispatch.Http.Headers
import RestDispatch.Http.MatrixVariables
import RestDispatch.Http.Method
import RestDispatch.Http.Request
import RestDispatch.Http.Response
import RestDispatch.Http.Status
import RestDispatch.Json.Binding
import RestDispatch.Json.Document
import RestDispatch.Json.Parser
import RestDispatch.Json.Printer
import RestDispatch.Json.Record
import RestDispatch.Log.Config
import RestDispatch.Log.Filter
import RestDispatch.Media.Accept
import RestDispatch.Media.MediaType
import RestDispatch.Message.Named
import RestDispatch.Message.Wire
import RestDispatch.Number.Binary
import RestDispatch.Number.Reading
import RestDispatch.Number.Shortest
import RestDispatch.Options.Basic
import RestDispatch.Options.Document
import RestDispatch.Options.Variables
import RestDispatch.Regex.Basic
import RestDispatch.Regex.CharClass
import RestDispatch.Regex.Parser
import RestDispatch.Regex.Property
import RestDispatch.Regex.Size
import RestDispatch.Route.Condition
import RestDispatch.Route.Expression
import RestDispatch.Route.Pattern
import RestDispatch.Route.Table
import RestDispatch.Scenario.Journal
import RestDispatch.Scenario.Promise
import RestDispatch.Scenario.Recording
import RestDispatch.Scenario.Scripted
import RestDispatch.StableSort
import RestDispatch.Text.Addition
import RestDispatch.Text.Age
import RestDispatch.Text.Basic
import RestDispatch.Text.CaseFolding
import RestDispatch.Text.Category
import RestDispatch.Text.CharRanges
import RestDispatch.Text.DerivedProperty
import RestDispatch.Text.Hidden
import RestDispatch.Text.Percent
import RestDispatch.Text.Property
import RestDispatch.Text.Quoted
import RestDispatch.Text.Script
import RestDispatch.Text.Segmentation
import RestDispatch.Text.Utf8
import RestDispatch.Text.ValueMap
import RestDispatch.Type.Basic
import RestDispatch.Type.Bean
import RestDispatch.Type.Integer
import RestDispatch.Value.Basic
import RestDispatch.Value.Host
import RestDispatch.Value.Listing
import RestDispatch.Proofs.Dictionary
import RestDispatch.Proofs.Failure
import RestDispatch.Proofs.Handler.Transcript
import RestDispatch.Proofs.Http.MatrixVariables
import RestDispatch.Proofs.Media.Compatibility
import RestDispatch.Proofs.Route.Alignment
import RestDispatch.Proofs.Route.Ambiguity
import RestDispatch.Proofs.Route.Overlap
import RestDispatch.Proofs.Route.PathMatch
import RestDispatch.Proofs.Route.Registration
import RestDispatch.Proofs.Route.SharedPath
import RestDispatch.Proofs.Route.TableOrder
import RestDispatch.Proofs.StableSort
import RestDispatch.Proofs.Text.Cutting
import RestDispatch.Proofs.Dispatch.Commitment
import RestDispatch.Proofs.Route.Refusal
import RestDispatch.Proofs.Binding.RequestFault
import RestDispatch.Proofs.Binding.Factory
import RestDispatch.Proofs.Binding.Deployed
import RestDispatch.Proofs.Dispatch.History
import RestDispatch.Proofs.Value.Typing
import RestDispatch.Proofs.Json.RoundTrip
import RestDispatch.Proofs.Handler.DeferredRun
import RestDispatch.Proofs.Binding.Absence
import RestDispatch.Proofs.Text.Trimming
import RestDispatch.Proofs.Media.Header
import RestDispatch.Proofs.Media.Preference
import RestDispatch.Proofs.Number.Order
import RestDispatch.Proofs.Media.Ranking
import RestDispatch.Proofs.Route.Produces
import RestDispatch.Proofs.Binding.Redeclared
import RestDispatch.Proofs.Binding.BeanFields
import RestDispatch.Proofs.Dispatch.Negotiation
import RestDispatch.Proofs.Handler.Matching
import RestDispatch.Proofs.Dispatch.Rebinding
import RestDispatch.Proofs.Handler.Agreement
import RestDispatch.Proofs.Handler.Delivery
import RestDispatch.Proofs.Binding.BeanCache
import RestDispatch.Proofs.Binding.PinnedVariables
import RestDispatch.Proofs.Dispatch.PinnedRoutes
import RestDispatch.Proofs.Text.Encoding
import RestDispatch.Proofs.Route.ConstrainedValue
import RestDispatch.Proofs.Route.DroppedParameters
import RestDispatch.Proofs.Conversion.Typing
import RestDispatch.Proofs.Json.Extraction
import RestDispatch.Proofs.Route.OtherMethod
import RestDispatch.Proofs.Route.Reachability
import RestDispatch.Proofs.Binding.RequiredValue
import RestDispatch.Proofs.Binding.FirstText
import RestDispatch.Proofs.Handler.Writing
import RestDispatch.Proofs.Binding.MatrixViews
import RestDispatch.Proofs.Handler.Nesting
import RestDispatch.Proofs.Route.Grammar
import RestDispatch.Proofs.Number.Digits
import RestDispatch.Proofs.Handler.PlainText
import RestDispatch.Proofs.Media.Covering
import RestDispatch.Proofs.Media.Choice
import RestDispatch.Proofs.Media.Parameters
import RestDispatch.Proofs.Text.FormEncoding
import RestDispatch.Proofs.Http.Query
import RestDispatch.Proofs.Route.Contradiction
import RestDispatch.Proofs.Conversion.Joining
import RestDispatch.Proofs.Value.Embedding
import RestDispatch.Proofs.Binding.FirstWriter
import RestDispatch.Proofs.Http.HeaderHistory
