import TargetingRules.Data.Json
import TargetingRules.Data.JsonSchema
import TargetingRules.Data.Reader
import TargetingRules.Data.Schema
import TargetingRules.Data.Source
import TargetingRules.Data.Yaml
import TargetingRules.Data.Yaml.Block
import TargetingRules.Data.Yaml.Flow
import TargetingRules.Data.Yaml.Place
import TargetingRules.Data.Yaml.Scalar
import TargetingRules.Data.YamlSchema
import TargetingRules.Dictionary
import TargetingRules.Evaluation.Evaluator
import TargetingRules.Evaluation.Expression
import TargetingRules.Evaluation.Failure
import TargetingRules.Evaluation.Function
import TargetingRules.Evaluation.Library
import TargetingRules.Evaluation.Log
import TargetingRules.Evaluation.Method
import TargetingRules.Evaluation.Operators
import TargetingRules.Number.Binary
import TargetingRules.Number.Reading
import TargetingRules.Number.Remainder
import TargetingRules.Number.Shortest
import TargetingRules.Number.Text
import TargetingRules.Proofs.Evaluation.Agreement
import TargetingRules.Proofs.Evaluation.Chains
import TargetingRules.Proofs.Evaluation.Comparison
import TargetingRules.Proofs.Evaluation.Course
import TargetingRules.Proofs.Evaluation.Cutting
import TargetingRules.Proofs.Evaluation.Decoding
import TargetingRules.Proofs.Evaluation.Faultless
import TargetingRules.Proofs.Evaluation.InRange
import TargetingRules.Proofs.Evaluation.Limits
import TargetingRules.Proofs.Evaluation.Literals
import TargetingRules.Proofs.Evaluation.Ordinary
import TargetingRules.Proofs.Evaluation.Regrouping
import TargetingRules.Proofs.Evaluation.Representation
import TargetingRules.Proofs.Evaluation.Searching
import TargetingRules.Proofs.Evaluation.Surroundings
import TargetingRules.Proofs.Failing
import TargetingRules.Proofs.Number.Order
import TargetingRules.Proofs.Number.Rounding
import TargetingRules.Proofs.Number.Whole
import TargetingRules.Proofs.Syntax.Assembled
import TargetingRules.Proofs.Syntax.Assembly
import TargetingRules.Proofs.Syntax.Bookkeeping
import TargetingRules.Proofs.Syntax.Causes
import TargetingRules.Proofs.Syntax.Completeness
import TargetingRules.Proofs.Syntax.Correspondence
import TargetingRules.Proofs.Syntax.Delimiters
import TargetingRules.Proofs.Syntax.Derivation
import TargetingRules.Proofs.Syntax.Enclosure
import TargetingRules.Proofs.Syntax.Follow
import TargetingRules.Proofs.Syntax.InStep
import TargetingRules.Proofs.Syntax.Joining
import TargetingRules.Proofs.Syntax.Layout
import TargetingRules.Proofs.Syntax.Lexing
import TargetingRules.Proofs.Syntax.Locality
import TargetingRules.Proofs.Syntax.Lookahead
import TargetingRules.Proofs.Syntax.Mentions
import TargetingRules.Proofs.Syntax.Mirroring
import TargetingRules.Proofs.Syntax.NamedNodes
import TargetingRules.Proofs.Syntax.Parsing
import TargetingRules.Proofs.Syntax.Partition
import TargetingRules.Proofs.Syntax.Places
import TargetingRules.Proofs.Syntax.PostOrder
import TargetingRules.Proofs.Syntax.Printing
import TargetingRules.Proofs.Syntax.Quoting
import TargetingRules.Proofs.Syntax.Reads
import TargetingRules.Proofs.Syntax.Refusal
import TargetingRules.Proofs.Syntax.Relocation
import TargetingRules.Proofs.Syntax.RoundTrip
import TargetingRules.Proofs.Syntax.Scanning
import TargetingRules.Proofs.Syntax.Shape
import TargetingRules.Proofs.Syntax.Soundness
import TargetingRules.Proofs.Syntax.Spelling
import TargetingRules.Proofs.Syntax.Traversal
import TargetingRules.Proofs.Syntax.Unfolding
import TargetingRules.Proofs.Text.Lowering
import TargetingRules.Proofs.Text.Occurrence
import TargetingRules.Proofs.Validation.Absence
import TargetingRules.Proofs.Validation.Accounting
import TargetingRules.Proofs.Validation.ByNumber
import TargetingRules.Proofs.Validation.Calls
import TargetingRules.Proofs.Validation.Compiled
import TargetingRules.Proofs.Validation.Decision
import TargetingRules.Proofs.Validation.Dependence
import TargetingRules.Proofs.Validation.Emptiness
import TargetingRules.Proofs.Validation.FormCheck
import TargetingRules.Proofs.Validation.Internal
import TargetingRules.Proofs.Validation.Reporting
import TargetingRules.Proofs.Validation.Scans
import TargetingRules.Proofs.Validation.Tolerance
import TargetingRules.Proofs.Validation.Trail
import TargetingRules.Syntax.Arena
import TargetingRules.Syntax.Body
import TargetingRules.Syntax.Failure
import TargetingRules.Syntax.Grammar
import TargetingRules.Syntax.Kind
import TargetingRules.Syntax.Lexer
import TargetingRules.Syntax.Numbering
import TargetingRules.Syntax.Reading
import TargetingRules.Syntax.Span
import TargetingRules.Syntax.Token
import TargetingRules.Syntax.Tree
import TargetingRules.Text.Blank
import TargetingRules.Text.Casing
import TargetingRules.Text.Letter
import TargetingRules.Text.Quoted
import TargetingRules.Text.Search
import TargetingRules.Text.Table.Cased
import TargetingRules.Text.Table.Casing
import TargetingRules.Text.Table.Hidden
import TargetingRules.Text.Table.Letter
import TargetingRules.Validation.Configuration
import TargetingRules.Validation.Document
import TargetingRules.Validation.Rejection
import TargetingRules.Validation.Validator
import TargetingRules.Value.Basic
import TargetingRules.Value.Coercion
