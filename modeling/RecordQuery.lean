import RecordQuery.Binary64.Basic
import RecordQuery.Binary64.Round
import RecordQuery.Binary64.Shortest
import RecordQuery.Binary64.Text
import RecordQuery.Coercion
import RecordQuery.CommandLine.Arguments
import RecordQuery.CommandLine.Run
import RecordQuery.CompileError
import RecordQuery.Compiler
import RecordQuery.Declaration.Attribute
import RecordQuery.Declaration.Derive
import RecordQuery.Declaration.Error
import RecordQuery.Declaration.Generics
import RecordQuery.Declaration.Lexeme
import RecordQuery.Declaration.Rename
import RecordQuery.Decode.Fault
import RecordQuery.Decode.Reader
import RecordQuery.Decode.Record
import RecordQuery.Dictionary
import RecordQuery.Field.Accessor
import RecordQuery.Field.Map
import RecordQuery.Filter.Basic
import RecordQuery.Filter.Wire
import RecordQuery.Inbox.Basic
import RecordQuery.Inbox.Notification
import RecordQuery.Inbox.Wire
import RecordQuery.Json.Basic
import RecordQuery.Json.Numeral
import RecordQuery.Json.Render
import RecordQuery.Json.Token
import RecordQuery.Json.Tree
import RecordQuery.Main
import RecordQuery.Operand
import RecordQuery.Operator
import RecordQuery.Predicate
import RecordQuery.Proofs.Binary64.Integer
import RecordQuery.Proofs.Binary64.Nearest
import RecordQuery.Proofs.Binary64.Numeric
import RecordQuery.Proofs.Coercion.Distinct
import RecordQuery.Proofs.Coercion.Exact
import RecordQuery.Proofs.Coercion.Literal
import RecordQuery.Proofs.Coercion.Rendering
import RecordQuery.Proofs.Coercion.Timestamp
import RecordQuery.Proofs.Coercion.Type
import RecordQuery.Proofs.Compiler.Acceptance
import RecordQuery.Proofs.Compiler.Comap
import RecordQuery.Proofs.Compiler.Comparison
import RecordQuery.Proofs.Compiler.FirstError
import RecordQuery.Proofs.Compiler.Meaning
import RecordQuery.Proofs.Compiler.Membership
import RecordQuery.Proofs.Compiler.Success
import RecordQuery.Proofs.Compiler.Text
import RecordQuery.Proofs.Compiler.Typing
import RecordQuery.Proofs.Declaration.Arrangement
import RecordQuery.Proofs.Declaration.Attribute
import RecordQuery.Proofs.Declaration.Constants
import RecordQuery.Proofs.Declaration.Derive
import RecordQuery.Proofs.Declaration.Words
import RecordQuery.Proofs.Decode.Object
import RecordQuery.Proofs.Decode.Reader
import RecordQuery.Proofs.Decode.Record
import RecordQuery.Proofs.Decode.Room
import RecordQuery.Proofs.Field.Map
import RecordQuery.Proofs.Field.Registration
import RecordQuery.Proofs.Filter.Grammar
import RecordQuery.Proofs.Filter.Meaning
import RecordQuery.Proofs.Filter.Nodes
import RecordQuery.Proofs.Filter.Reading
import RecordQuery.Proofs.Filter.RoundTrip
import RecordQuery.Proofs.Inbox.Body
import RecordQuery.Proofs.Inbox.Marking
import RecordQuery.Proofs.Inbox.RoundTrip
import RecordQuery.Proofs.Inbox.Run
import RecordQuery.Proofs.Inbox.Scope
import RecordQuery.Proofs.Inbox.Unread
import RecordQuery.Proofs.Json.Integer
import RecordQuery.Proofs.Json.Normal
import RecordQuery.Proofs.Json.Text
import RecordQuery.Proofs.Json.Tree
import RecordQuery.Proofs.Outcome
import RecordQuery.Proofs.Predicate.Check
import RecordQuery.Proofs.Predicate.Test
import RecordQuery.Proofs.Query.Execution
import RecordQuery.Proofs.Query.Pages
import RecordQuery.Proofs.Query.Permutation
import RecordQuery.Proofs.Query.Positions
import RecordQuery.Proofs.Query.Restriction
import RecordQuery.Proofs.Query.RoundTrip
import RecordQuery.Proofs.Sort.Keys
import RecordQuery.Proofs.Sort.Passes
import RecordQuery.Proofs.Sort.Reversal
import RecordQuery.Proofs.Sort.Rules
import RecordQuery.Proofs.Sort.Runs
import RecordQuery.Proofs.Sort.Stable
import RecordQuery.Proofs.Text.Digits
import RecordQuery.Proofs.Text.Occurrence
import RecordQuery.Proofs.Text.Uppercase
import RecordQuery.Proofs.Text.Utf8
import RecordQuery.Proofs.Time.Calendar
import RecordQuery.Proofs.Time.Days
import RecordQuery.Proofs.Time.Offset
import RecordQuery.Proofs.Time.Relaxed
import RecordQuery.Proofs.Time.Rfc3339
import RecordQuery.Proofs.Uuid
import RecordQuery.Proofs.Value.Agreement
import RecordQuery.Proofs.Value.Comparison
import RecordQuery.Proofs.Value.Equality
import RecordQuery.Proofs.Value.Extension
import RecordQuery.Proofs.Value.Order
import RecordQuery.Query.Basic
import RecordQuery.Query.Wire
import RecordQuery.Sort.Order
import RecordQuery.Source
import RecordQuery.Text.Blank
import RecordQuery.Text.Digits
import RecordQuery.Text.Integer
import RecordQuery.Text.Printable
import RecordQuery.Text.Quoted
import RecordQuery.Text.Uppercase
import RecordQuery.Time.Calendar
import RecordQuery.Time.Instant
import RecordQuery.Time.Relaxed
import RecordQuery.Time.Rfc3339
import RecordQuery.Uuid
import RecordQuery.Value
import RecordQuery.Yaml.Line
import RecordQuery.Yaml.Scalar
import RecordQuery.Yaml.Settings
