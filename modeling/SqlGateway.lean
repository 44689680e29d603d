import SqlGateway.Catalog
import SqlGateway.Connection.AttributeString
import SqlGateway.Connection.Config
import SqlGateway.Connection.KeywordString
import SqlGateway.Connections
import SqlGateway.Driver.Act
import SqlGateway.Driver.Calls
import SqlGateway.Driver.World
import SqlGateway.Engine
import SqlGateway.Failure.Basic
import SqlGateway.Failure.Message
import SqlGateway.Failure.Report
import SqlGateway.Failure.System
import SqlGateway.Identifier
import SqlGateway.Json.Reader
import SqlGateway.Json.Writer
import SqlGateway.Main
import SqlGateway.Proofs.Act.Blames
import SqlGateway.Proofs.Act.Keeps
import SqlGateway.Proofs.Act.Run
import SqlGateway.Proofs.Connection.AttributeReading
import SqlGateway.Proofs.Connection.SessionString
import SqlGateway.Proofs.Connections.Blames
import SqlGateway.Proofs.Connections.History
import SqlGateway.Proofs.Connections.Lifecycle
import SqlGateway.Proofs.Connections.Link
import SqlGateway.Proofs.Connections.Pools
import SqlGateway.Proofs.Connections.Sending
import SqlGateway.Proofs.Driver.Blames
import SqlGateway.Proofs.Driver.Calls
import SqlGateway.Proofs.Driver.Ledger
import SqlGateway.Proofs.Driver.Pools
import SqlGateway.Proofs.Driver.Script
import SqlGateway.Proofs.Driver.Scripted
import SqlGateway.Proofs.Identifier.Delimited
import SqlGateway.Proofs.Session.Blames
import SqlGateway.Proofs.Session.Lifecycle
import SqlGateway.Proofs.Session.Sending
import SqlGateway.Proofs.Session.Statements
import SqlGateway.Proofs.Statement.Classify
import SqlGateway.Proofs.Statement.LeadingWord
import SqlGateway.Proofs.Statement.RowLimit
import SqlGateway.Proofs.Text.Trim
import SqlGateway.Proofs.Tool.Checked
import SqlGateway.Proofs.Tool.Failures
import SqlGateway.Proofs.Tool.Mediation
import SqlGateway.QueryResult
import SqlGateway.Server
import SqlGateway.Session.Basic
import SqlGateway.Session.Connect
import SqlGateway.Session.Operations
import SqlGateway.Session.Statements
import SqlGateway.Settings
import SqlGateway.Statement.Authorize
import SqlGateway.Statement.Classify
import SqlGateway.Statement.Indicator
import SqlGateway.Statement.Keyword
import SqlGateway.Statement.QueryMode
import SqlGateway.Statement.RowLimit
import SqlGateway.Text.Blank
import SqlGateway.Text.Code
import SqlGateway.Text.DecimalDigit
import SqlGateway.Text.Digits
import SqlGateway.Text.Integer
import SqlGateway.Text.LowerCase
import SqlGateway.Text.Printable
import SqlGateway.Text.Quoted
import SqlGateway.Text.Ranges
import SqlGateway.Text.UpperCase
import SqlGateway.Text.WordChar
import SqlGateway.Tool.Call
import SqlGateway.Tool.Issue
import SqlGateway.Tool.Kind
import SqlGateway.Tool.Model
import SqlGateway.Tool.Params
import SqlGateway.Tool.Registry
import SqlGateway.Value.Basic
import SqlGateway.Value.Calendar
import SqlGateway.Value.Decimal
import SqlGateway.Value.Double
import SqlGateway.Value.Literal
import SqlGateway.Value.Whole
import SqlGateway.Proofs.Driver.Fleet
import SqlGateway.Proofs.Session.Placing
import SqlGateway.Proofs.Session.Whereabouts
import SqlGateway.Proofs.Session.History
import SqlGateway.Proofs.Session.ResultSet
import SqlGateway.Proofs.Statement.Prefixed
import SqlGateway.Proofs.Statement.Indicator
import SqlGateway.Proofs.Statement.Chained
import SqlGateway.Proofs.Tool.Pools
import SqlGateway.Proofs.Server.Shutdown
import SqlGateway.Proofs.Act.Alike
import SqlGateway.Proofs.Driver.Alike
import SqlGateway.Proofs.Session.Alike
import SqlGateway.Proofs.Connections.Alike
import SqlGateway.Proofs.Tool.Alike
import SqlGateway.Proofs.Statement.Modes
import SqlGateway.Proofs.Tool.Modes
import SqlGateway.Proofs.Session.Credentials
import SqlGateway.Proofs.Tool.Credentials
import SqlGateway.Proofs.Statement.KeywordSearch
import SqlGateway.Proofs.Statement.TopClause
import SqlGateway.Proofs.Session.Normalised
import SqlGateway.Proofs.Statement.EngineCaps
import SqlGateway.Proofs.Value.Rounding
import SqlGateway.Proofs.Value.Shortest
import SqlGateway.Proofs.Json.Documents
import SqlGateway.Proofs.QueryResult.Answer
import SqlGateway.Proofs.Statement.TopInsertion
import SqlGateway.Proofs.Statement.LimitClause
import SqlGateway.Proofs.Statement.Terminators
import SqlGateway.Proofs.Statement.LetterCase
import SqlGateway.Proofs.Statement.ClassStability
import SqlGateway.Proofs.Statement.CommonTable
import SqlGateway.Proofs.Statement.IndicatorSearch
import SqlGateway.Proofs.Identifier.Sanitized
import SqlGateway.Proofs.Session.Atomic
import SqlGateway.Proofs.Session.Coherent
import SqlGateway.Proofs.Session.Accounted
import SqlGateway.Proofs.Session.Replay
import SqlGateway.Proofs.Connection.LoginString
import SqlGateway.Proofs.Connections.Asking
import SqlGateway.Proofs.Tool.Login
import SqlGateway.Proofs.QueryResult.TableReading
import SqlGateway.Proofs.QueryResult.TableAnswer
import SqlGateway.Proofs.Text.LowerCase
import SqlGateway.Proofs.Statement.ModeSetting
import SqlGateway.Proofs.Identifier.FilledSegments
import SqlGateway.Proofs.Server.GrantedMode
