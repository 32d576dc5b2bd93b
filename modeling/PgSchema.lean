import PgSchema.Codegen.Access
import PgSchema.Codegen.Compilation
import PgSchema.Codegen.Condition
import PgSchema.Codegen.Module
import PgSchema.Codegen.Operation
import PgSchema.Codegen.Sketch
import PgSchema.Connection.Basic
import PgSchema.Connection.Lifecycle
import PgSchema.Connection.Models
import PgSchema.Course.Basic
import PgSchema.Digest.Sha256
import PgSchema.Entries
import PgSchema.Failure
import PgSchema.Fault
import PgSchema.Json.Access
import PgSchema.Json.Basic
import PgSchema.Json.Printer
import PgSchema.Json.Reader
import PgSchema.Lock.Advisory
import PgSchema.Lock.ReadersWriter
import PgSchema.Log.Format
import PgSchema.Log.Line
import PgSchema.Migration.Metadata
import PgSchema.Migration.Migrator
import PgSchema.Migration.Plan
import PgSchema.Migration.Result
import PgSchema.Model
import PgSchema.Number.Double
import PgSchema.Number.Hexadecimal
import PgSchema.Number.Numeral
import PgSchema.Number.Rounding
import PgSchema.Number.Shortest
import PgSchema.Object.Arithmetic
import PgSchema.Object.Arity
import PgSchema.Object.Builder
import PgSchema.Object.Builtin
import PgSchema.Object.Builtin.Bytes
import PgSchema.Object.Builtin.Dicts
import PgSchema.Object.Builtin.Every
import PgSchema.Object.Builtin.Format
import PgSchema.Object.Builtin.Lists
import PgSchema.Object.Builtin.Numbers
import PgSchema.Object.Builtin.Texts
import PgSchema.Object.Construction
import PgSchema.Object.Equality
import PgSchema.Object.Evaluation
import PgSchema.Object.Execution
import PgSchema.Object.Heap
import PgSchema.Object.Library
import PgSchema.Object.Link
import PgSchema.Object.Machine
import PgSchema.Object.Operator
import PgSchema.Object.Position
import PgSchema.Object.Recorder
import PgSchema.Object.Schema
import PgSchema.Object.Scope
import PgSchema.Object.Text
import PgSchema.Object.Value
import PgSchema.Proofs.Catalog.Actions
import PgSchema.Proofs.Catalog.Basic
import PgSchema.Proofs.Catalog.Convergence
import PgSchema.Proofs.Catalog.History
import PgSchema.Proofs.Catalog.Indexes
import PgSchema.Proofs.Catalog.Work
import PgSchema.Proofs.Codegen.Compilation
import PgSchema.Proofs.Codegen.ConditionNames
import PgSchema.Proofs.Codegen.Constants
import PgSchema.Proofs.Codegen.Surface
import PgSchema.Proofs.Codegen.TableNames
import PgSchema.Proofs.Codegen.Tests
import PgSchema.Proofs.Connection.Cleanup
import PgSchema.Proofs.Connection.Exclusion
import PgSchema.Proofs.Connection.Gate
import PgSchema.Proofs.Connection.Nesting
import PgSchema.Proofs.Connection.Reports
import PgSchema.Proofs.Connection.States
import PgSchema.Proofs.Connection.Task
import PgSchema.Proofs.Course.Inversion
import PgSchema.Proofs.Course.Plain
import PgSchema.Proofs.Course.Restores
import PgSchema.Proofs.Course.Traces
import PgSchema.Proofs.Digest.Sha256
import PgSchema.Proofs.Json.Numbers
import PgSchema.Proofs.Json.RoundTrip
import PgSchema.Proofs.Lock.Safety
import PgSchema.Proofs.Lock.Wakeups
import PgSchema.Proofs.Lock.Workers
import PgSchema.Proofs.Log.Contexts
import PgSchema.Proofs.Log.Lines
import PgSchema.Proofs.Migration.Atomicity
import PgSchema.Proofs.Migration.Drops
import PgSchema.Proofs.Migration.Idempotence
import PgSchema.Proofs.Migration.IndexNames
import PgSchema.Proofs.Migration.Installation
import PgSchema.Proofs.Migration.Metadata
import PgSchema.Proofs.Migration.Parts
import PgSchema.Proofs.Migration.Plan
import PgSchema.Proofs.Migration.Progress
import PgSchema.Proofs.Migration.Refusal
import PgSchema.Proofs.Migration.Success
import PgSchema.Proofs.Number.Shortest
import PgSchema.Proofs.Object.Accounts
import PgSchema.Proofs.Object.Asking
import PgSchema.Proofs.Object.Bodies
import PgSchema.Proofs.Object.Builders
import PgSchema.Proofs.Object.Columns
import PgSchema.Proofs.Object.Conditions
import PgSchema.Proofs.Object.Connections
import PgSchema.Proofs.Object.Deeds
import PgSchema.Proofs.Object.Drafts
import PgSchema.Proofs.Object.Handles
import PgSchema.Proofs.Object.Inserters
import PgSchema.Proofs.Object.Lives
import PgSchema.Proofs.Object.Making
import PgSchema.Proofs.Object.Narrowing
import PgSchema.Proofs.Object.Preparation
import PgSchema.Proofs.Object.Programs
import PgSchema.Proofs.Object.Quiet
import PgSchema.Proofs.Object.Readings
import PgSchema.Proofs.Object.Rows
import PgSchema.Proofs.Object.Runs
import PgSchema.Proofs.Object.Schemas
import PgSchema.Proofs.Query.Alignment
import PgSchema.Proofs.Query.Answers
import PgSchema.Proofs.Query.Blindness
import PgSchema.Proofs.Query.Insertions
import PgSchema.Proofs.Query.Lockstep
import PgSchema.Proofs.Query.Marks
import PgSchema.Proofs.Query.Meaning
import PgSchema.Proofs.Query.Pieces
import PgSchema.Proofs.Query.Placeholders
import PgSchema.Proofs.Query.Reading
import PgSchema.Proofs.Schema.Built
import PgSchema.Proofs.Schema.Digests
import PgSchema.Proofs.Schema.Fingerprint
import PgSchema.Proofs.Schema.Identifier
import PgSchema.Proofs.Schema.IndexStatement
import PgSchema.Proofs.Schema.Owners
import PgSchema.Proofs.Schema.RoundTrip
import PgSchema.Proofs.Schema.Statement
import PgSchema.Proofs.Settings.ConnectionString
import PgSchema.Proofs.Settings.Defaults
import PgSchema.Proofs.Source.Escapes
import PgSchema.Proofs.Source.Literals
import PgSchema.Proofs.Source.Methods
import PgSchema.Proofs.Store.Statements
import PgSchema.Proofs.Text.Basic
import PgSchema.Proofs.Text.Decoding
import PgSchema.Query.Basic
import PgSchema.Query.Inserter
import PgSchema.Query.Statement
import PgSchema.Schema.Build
import PgSchema.Schema.Column
import PgSchema.Schema.Database
import PgSchema.Schema.Fingerprint
import PgSchema.Schema.Identifier
import PgSchema.Schema.Table
import PgSchema.Session.Handle
import PgSchema.Session.Machine
import PgSchema.Session.Program
import PgSchema.Session.Steps
import PgSchema.Settings.ConnectionString
import PgSchema.Settings.Defaults
import PgSchema.Shape
import PgSchema.Source.Check
import PgSchema.Source.Grammar
import PgSchema.Source.Lexer
import PgSchema.Source.Literal
import PgSchema.Source.Numeral
import PgSchema.Source.Parser
import PgSchema.Source.Rules
import PgSchema.Source.Statement
import PgSchema.Source.Syntax
import PgSchema.Source.Token
import PgSchema.Source.Tree
import PgSchema.Store.Basic
import PgSchema.Text.Casing
import PgSchema.Text.CharClass
import PgSchema.Text.IdentifierChar
import PgSchema.Text.Literal
import PgSchema.Text.Lowercase
import PgSchema.Text.Named
import PgSchema.Text.Normal.Form
import PgSchema.Text.Normal.Pair
import PgSchema.Text.Normal.Spelling
import PgSchema.Text.Ranges
import PgSchema.Text.Uppercase
import PgSchema.Text.Utf8
import PgSchema.Text.Words
import PgSchema.Validation
import PgSchema.Version
