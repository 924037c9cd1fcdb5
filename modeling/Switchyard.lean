import Switchyard.Application.Basic
import Switchyard.Application.Dispatch
import Switchyard.Application.Invocation
import Switchyard.Application.Router
import Switchyard.Application.Sockets
import Switchyard.Binding.Binder
import Switchyard.Binding.BoundValue
import Switchyard.Binding.Param
import Switchyard.Binding.Plan
import Switchyard.Binding.Source
import Switchyard.Client.Draft
import Switchyard.Client.Expectation
import Switchyard.Client.Handshake
import Switchyard.Code.Attribute
import Switchyard.Code.Block
import Switchyard.Code.Expression
import Switchyard.Code.Item
import Switchyard.Code.Lexer
import Switchyard.Code.Literal
import Switchyard.Code.Method
import Switchyard.Code.Pattern
import Switchyard.Code.Reader
import Switchyard.Code.Token
import Switchyard.Code.TypeExpr
import Switchyard.Code.TypeReader
import Switchyard.Config.EnvironmentFile
import Switchyard.Config.Load
import Switchyard.Config.Override
import Switchyard.Config.Section
import Switchyard.Config.Settings
import Switchyard.Controller.Basic
import Switchyard.Controller.Options
import Switchyard.Controller.Parameter
import Switchyard.Controller.Problem
import Switchyard.Controller.Reader
import Switchyard.Controller.Returns
import Switchyard.Controller.Table
import Switchyard.Http.Context
import Switchyard.Http.Error
import Switchyard.Http.Header
import Switchyard.Http.Percent
import Switchyard.Http.Request
import Switchyard.Http.Result
import Switchyard.Http.Status
import Switchyard.Http.Uri
import Switchyard.Json.Basic
import Switchyard.Json.Codec
import Switchyard.Json.Document
import Switchyard.Json.Parser
import Switchyard.Json.Path
import Switchyard.Json.Pointer
import Switchyard.Json.Printer
import Switchyard.Number.Decimal
import Switchyard.Number.Floating
import Switchyard.Number.Integer
import Switchyard.Number.Power
import Switchyard.Number.Scaled
import Switchyard.Program.Basic
import Switchyard.Program.Output
import Switchyard.Program.Words
import Switchyard.Proofs.Application.Dispatch
import Switchyard.Proofs.Application.Supply
import Switchyard.Proofs.Binding.Capture
import Switchyard.Proofs.Binding.Headers
import Switchyard.Proofs.Binding.Holes
import Switchyard.Proofs.Binding.Integers
import Switchyard.Proofs.Binding.MessageNumbers
import Switchyard.Proofs.Binding.Occurrences
import Switchyard.Proofs.Binding.Precedence
import Switchyard.Proofs.Binding.Slots
import Switchyard.Proofs.Binding.Templates
import Switchyard.Proofs.Client.Draft
import Switchyard.Proofs.Client.Header
import Switchyard.Proofs.Code.Literal
import Switchyard.Proofs.Code.Types
import Switchyard.Proofs.Config.EnvironmentFile
import Switchyard.Proofs.Config.Layers
import Switchyard.Proofs.Config.Override
import Switchyard.Proofs.Config.Section
import Switchyard.Proofs.Controller.Documentation
import Switchyard.Proofs.Controller.Expansion
import Switchyard.Proofs.Controller.Options
import Switchyard.Proofs.Controller.Parameters
import Switchyard.Proofs.Controller.Parentheses
import Switchyard.Proofs.Controller.Paths
import Switchyard.Proofs.Controller.Registration
import Switchyard.Proofs.Controller.Reports
import Switchyard.Proofs.Controller.Returns
import Switchyard.Proofs.Controller.WellFormed
import Switchyard.Proofs.Except
import Switchyard.Proofs.Http.Body
import Switchyard.Proofs.Http.Cookie
import Switchyard.Proofs.Http.CookieLine
import Switchyard.Proofs.Http.Header
import Switchyard.Proofs.Http.Result
import Switchyard.Proofs.Http.Uri
import Switchyard.Proofs.Json.Codec
import Switchyard.Proofs.Json.Document
import Switchyard.Proofs.Json.Members
import Switchyard.Proofs.Json.Number
import Switchyard.Proofs.Json.Path
import Switchyard.Proofs.Json.Pointer
import Switchyard.Proofs.Json.Scalars
import Switchyard.Proofs.Json.Written
import Switchyard.Proofs.Number.Digits
import Switchyard.Proofs.Number.Numeral
import Switchyard.Proofs.Program.Binding
import Switchyard.Proofs.Program.Fragment
import Switchyard.Proofs.Program.Function
import Switchyard.Proofs.Program.Scope
import Switchyard.Proofs.Program.Steps
import Switchyard.Proofs.Program.Tables
import Switchyard.Proofs.Route.Joining
import Switchyard.Proofs.Route.OpenApi
import Switchyard.Proofs.Route.OperationId
import Switchyard.Proofs.Route.Template
import Switchyard.Proofs.Socket.Connection
import Switchyard.Proofs.Socket.Traffic
import Switchyard.Proofs.Text.Trim
import Switchyard.Route.OpenApi
import Switchyard.Route.Path
import Switchyard.Route.Table
import Switchyard.Route.Template
import Switchyard.Route.Verb
import Switchyard.Sample.Applications
import Switchyard.Sample.Audited
import Switchyard.Sample.Books
import Switchyard.Sample.Greeter
import Switchyard.Sample.Params
import Switchyard.Sample.Script
import Switchyard.Sample.Services
import Switchyard.Sample.Shapes
import Switchyard.Sample.Sockets
import Switchyard.Sample.Values
import Switchyard.Socket.Assembly
import Switchyard.Socket.Connection
import Switchyard.Socket.Endpoint
import Switchyard.Socket.Event
import Switchyard.Socket.Frame
import Switchyard.Socket.Handshake
import Switchyard.Socket.Message
import Switchyard.Socket.Outbox
import Switchyard.Socket.Session
import Switchyard.Text.Alphanumeric
import Switchyard.Text.Blank
import Switchyard.Text.Bytes
import Switchyard.Text.Cased
import Switchyard.Text.Identifier
import Switchyard.Text.LetterCase
import Switchyard.Text.Quoted
import Switchyard.Text.Split
import Switchyard.Text.Unprintable
import Switchyard.Text.Utf8
import Switchyard.Text.Uuid
import Switchyard.Time.Calendar
import Switchyard.Time.Printer
import Switchyard.Time.Reader
import Switchyard.Yaml.Cursor
import Switchyard.Yaml.Lexer
import Switchyard.Yaml.Name
import Switchyard.Yaml.Node
import Switchyard.Yaml.Scalar
import Switchyard.Yaml.Token
import Switchyard.Yaml.Value
