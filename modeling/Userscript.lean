import Userscript.Api
import Userscript.Api.Remote
import Userscript.Api.Request
import Userscript.Catalog.Archive
import Userscript.Catalog.Database
import Userscript.Catalog.Ids
import Userscript.Catalog.Ids.Given
import Userscript.Catalog.RunRecord
import Userscript.Catalog.Script
import Userscript.Catalog.Settings
import Userscript.Catalog.Store
import Userscript.Command
import Userscript.Command.Arguments
import Userscript.Command.Switches
import Userscript.Config
import Userscript.Config.Environment
import Userscript.Config.Logging
import Userscript.Config.Sections
import Userscript.Datum
import Userscript.Eligibility
import Userscript.Fault
import Userscript.Glob
import Userscript.Glob.Matcher
import Userscript.Glob.Shared
import Userscript.Json.Reader
import Userscript.Json.Text
import Userscript.Json.Value
import Userscript.Log
import Userscript.Machine.Arity
import Userscript.Machine.Attribute
import Userscript.Machine.Builtins
import Userscript.Machine.Code
import Userscript.Machine.Construct
import Userscript.Machine.Declared
import Userscript.Machine.Dialogue
import Userscript.Machine.Equal
import Userscript.Machine.Exec
import Userscript.Machine.Format
import Userscript.Machine.Function
import Userscript.Machine.Invoke
import Userscript.Machine.Item
import Userscript.Machine.Iterate
import Userscript.Machine.Kinds
import Userscript.Machine.Lower
import Userscript.Machine.Members
import Userscript.Machine.Method.Collection
import Userscript.Machine.Method.Text
import Userscript.Machine.Operate
import Userscript.Machine.Perform
import Userscript.Machine.Program
import Userscript.Machine.Rehearsal
import Userscript.Machine.Scope
import Userscript.Machine.Shown
import Userscript.Machine.Sorting
import Userscript.Machine.Unwind
import Userscript.Machine.Value
import Userscript.Main
import Userscript.Message
import Userscript.Metadata
import Userscript.Net.Address
import Userscript.Net.Client
import Userscript.Net.Cookie
import Userscript.Net.Exchange
import Userscript.Net.Header
import Userscript.Net.HostName
import Userscript.Net.Percent
import Userscript.Net.Status
import Userscript.Net.Table
import Userscript.Number.Arithmetic
import Userscript.Number.Binary64
import Userscript.Number.Layout
import Userscript.Number.Numeral
import Userscript.Number.Shortest
import Userscript.Page.Document
import Userscript.Page.Indicator
import Userscript.Page.Markup
import Userscript.Page.Style
import Userscript.Page.Visit
import Userscript.Path
import Userscript.Phase
import Userscript.Proxy
import Userscript.Proxy.Body
import Userscript.Proxy.Cookies
import Userscript.Proxy.Target
import Userscript.Relay
import Userscript.Selection
import Userscript.Session.Basic
import Userscript.Session.Batch
import Userscript.Session.Engine
import Userscript.Session.Host
import Userscript.Session.Markup
import Userscript.Session.Rounds
import Userscript.Storage
import Userscript.Storage.Scoped
import Userscript.Syntax.Check
import Userscript.Syntax.Parse
import Userscript.Syntax.Parse.Expression
import Userscript.Syntax.Parse.Pattern
import Userscript.Syntax.Parse.Statement
import Userscript.Syntax.Parse.Target
import Userscript.Syntax.Source
import Userscript.Syntax.Token
import Userscript.Syntax.Token.Number
import Userscript.Syntax.Token.Scan
import Userscript.Syntax.Token.Text
import Userscript.Syntax.Tree
import Userscript.Text.Base64
import Userscript.Text.Blank
import Userscript.Text.Case
import Userscript.Text.Charset
import Userscript.Text.Compatibility
import Userscript.Text.Digit
import Userscript.Text.Identifier
import Userscript.Text.Pieces
import Userscript.Text.Printable
import Userscript.Text.Quoted
import Userscript.Text.Range
import Userscript.Text.Utf8
import Userscript.Text.Word
import Userscript.Url.Authority
import Userscript.Url.Bracketed
import Userscript.Url.Given
import Userscript.Proofs.Command.Pausing
import Userscript.Proofs.Glob.Cache
import Userscript.Proofs.Glob.Matching
import Userscript.Proofs.Catalog.Connection
import Userscript.Proofs.Catalog.History
import Userscript.Proofs.Catalog.FailedSave
import Userscript.Proofs.Session.Course
import Userscript.Proofs.Session.Confined
import Userscript.Proofs.Session.Batch
import Userscript.Proofs.Session.Ledger
import Userscript.Proofs.Session.Accounts
import Userscript.Proofs.Session.Local
import Userscript.Proofs.Machine.Described
import Userscript.Proofs.Session.Chain
import Userscript.Proofs.Session.Phases
import Userscript.Proofs.Eligibility
import Userscript.Proofs.Selection
import Userscript.Proofs.Catalog.Reading
import Userscript.Proofs.Json.Quoted
import Userscript.Proofs.Machine.Entry
import Userscript.Proofs.Syntax.Check
import Userscript.Proofs.Syntax.Scopes
import Userscript.Proofs.Json.Numeral
import Userscript.Proofs.Number.Shortest
import Userscript.Proofs.Json.Decimal
import Userscript.Proofs.Json.RoundTrip
import Userscript.Proofs.Storage.Areas
import Userscript.Proofs.Storage.Keys
import Userscript.Proofs.Storage.Quota
import Userscript.Proofs.Json.Plain
import Userscript.Proofs.Storage.ReadBack
import Userscript.Proofs.Catalog.Interchange
import Userscript.Proofs.Session.Progress
import Userscript.Proofs.Session.PageLife
import Userscript.Proofs.Json.Limit
import Userscript.Proofs.Catalog.Closing
import Userscript.Proofs.Catalog.SideBySide
import Userscript.Proofs.Net.Client
import Userscript.Proofs.Session.Cookies
import Userscript.Proofs.Api.Messages
import Userscript.Proofs.Api.Remote
import Userscript.Proofs.Url.Ascii
import Userscript.Proofs.Page.Style
import Userscript.Proofs.Session.Markup
import Userscript.Proofs.Text.Pieces
import Userscript.Proofs.Proxy
import Userscript.Proofs.Eligibility.Rules
import Userscript.Proofs.Glob.Expression
import Userscript.Proofs.Page.Insertion
import Userscript.Proofs.Syntax.Names
import Userscript.Proofs.Catalog.WireForm
import Userscript.Proofs.Text.Lines
import Userscript.Proofs.Metadata
import Userscript.Proofs.Url.Address
import Userscript.Proofs.Selection.Paused
import Userscript.Proofs.Command.Resuming
import Userscript.Proofs.Glob.Recency
import Userscript.Proofs.Catalog.Ids
import Userscript.Proofs.Json.Fields
import Userscript.Proofs.Json.Canonical
import Userscript.Proofs.Catalog.KeptFields
import Userscript.Proofs.Session.Flights
import Userscript.Proofs.Session.Traffic
import Userscript.Proofs.Session.Alike
import Userscript.Proofs.Session.Sharing
