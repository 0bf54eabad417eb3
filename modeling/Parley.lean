import Parley.Binary64
import Parley.Binary64.Shortest
import Parley.Compiler
import Parley.Conversation
import Parley.Digraph
import Parley.Digraph.Walk
import Parley.Document.Basic
import Parley.Document.Format
import Parley.Document.JsonForm
import Parley.Document.RonForm
import Parley.Draft
import Parley.Draft.Edit
import Parley.Entity
import Parley.Files
import Parley.Identifier
import Parley.InPlace
import Parley.Integrity.Check
import Parley.Integrity.Finding
import Parley.Integrity.JsonForm
import Parley.Integrity.Reachability
import Parley.Journal
import Parley.Json.Basic
import Parley.Json.Decode
import Parley.Json.Numeral
import Parley.Json.Outline
import Parley.Main
import Parley.Proofs.Binary64.Positional
import Parley.Proofs.Binary64.Range
import Parley.Proofs.Binary64.Rounding
import Parley.Proofs.Binary64.Shortest
import Parley.Proofs.Compiler.Concatenation
import Parley.Proofs.Compiler.FrontEnds
import Parley.Proofs.Compiler.Spelling
import Parley.Proofs.Conversation.Bare
import Parley.Proofs.Conversation.Course
import Parley.Proofs.Conversation.Coverage
import Parley.Proofs.Conversation.Length
import Parley.Proofs.Conversation.Offers
import Parley.Proofs.Digraph.Cycles
import Parley.Proofs.Digraph.Paths
import Parley.Proofs.Digraph.WalkComponents
import Parley.Proofs.Digraph.WalkIndices
import Parley.Proofs.Digraph.WalkLeave
import Parley.Proofs.Digraph.WalkOrder
import Parley.Proofs.Digraph.WalkPaths
import Parley.Proofs.Document.Completion
import Parley.Proofs.Document.Demands
import Parley.Proofs.Document.Entries
import Parley.Proofs.Document.JsonRoundTrip
import Parley.Proofs.Document.Names
import Parley.Proofs.Document.Recast
import Parley.Proofs.Document.RonRoundTrip
import Parley.Proofs.Document.RoundTrip
import Parley.Proofs.Document.Values
import Parley.Proofs.Draft.Assignment
import Parley.Proofs.Draft.Bare
import Parley.Proofs.Draft.Contexts
import Parley.Proofs.Draft.Finish
import Parley.Proofs.Draft.FreeNumbers
import Parley.Proofs.Draft.Linking
import Parley.Proofs.Draft.Operations
import Parley.Proofs.Draft.Order
import Parley.Proofs.Draft.Refusals
import Parley.Proofs.Draft.Steps
import Parley.Proofs.Files
import Parley.Proofs.Files.Listing
import Parley.Proofs.Files.Paths
import Parley.Proofs.Identifier
import Parley.Proofs.Identifier.Numbers
import Parley.Proofs.Integrity.Bare
import Parley.Proofs.Integrity.Dangling
import Parley.Proofs.Integrity.Findings
import Parley.Proofs.Integrity.Naming
import Parley.Proofs.Integrity.Paths
import Parley.Proofs.Integrity.Relaxing
import Parley.Proofs.Integrity.Standing
import Parley.Proofs.Integrity.Unlisted
import Parley.Proofs.Integrity.WellFormed
import Parley.Proofs.Json.Floats
import Parley.Proofs.Json.Numerals
import Parley.Proofs.Json.Strings
import Parley.Proofs.Json.Texts
import Parley.Proofs.Opacity
import Parley.Proofs.Ron.Floats
import Parley.Proofs.Ron.Scalars
import Parley.Proofs.Ron.Texts
import Parley.Proofs.Script.Grammar
import Parley.Proofs.Script.Layout
import Parley.Proofs.Script.Lead
import Parley.Proofs.Script.LeadStatements
import Parley.Proofs.Script.LeadTokens
import Parley.Proofs.Script.Lexicon
import Parley.Proofs.Script.Lexing
import Parley.Proofs.Script.Parsing
import Parley.Proofs.Script.Passes
import Parley.Proofs.Script.Places
import Parley.Proofs.Script.Readings
import Parley.Proofs.Script.Statements
import Parley.Proofs.Script.Tokens
import Parley.Proofs.Script.Writing
import Parley.Proofs.Stages
import Parley.Proofs.Text.Digits
import Parley.Proofs.Text.Runs
import Parley.Proofs.Tool.Linting
import Parley.Proofs.Tree.Bare
import Parley.Proofs.Tree.Mentions
import Parley.Proofs.Tree.Reference
import Parley.Proofs.Tree.Store
import Parley.Proofs.Workspace.Calls
import Parley.Proofs.Workspace.Holding
import Parley.Proofs.Workspace.Saving
import Parley.Ron.Basic
import Parley.Ron.Decode
import Parley.Ron.Reader
import Parley.Ron.Scalar
import Parley.Script.Lexer
import Parley.Script.Parser
import Parley.Script.Position
import Parley.Script.Statement
import Parley.Script.Token
import Parley.Settings
import Parley.Table
import Parley.Text.Blank
import Parley.Text.Cased
import Parley.Text.CharRanges
import Parley.Text.Escape
import Parley.Text.GraphemeExtend
import Parley.Text.Hexadecimal
import Parley.Text.Lowercase
import Parley.Text.Printable
import Parley.Text.Rest
import Parley.Tool.Linter
import Parley.Tool.Outcome
import Parley.Tool.ScenePlayer
import Parley.Tool.ScriptCompiler
import Parley.Tree
import Parley.Value
import Parley.Workspace
