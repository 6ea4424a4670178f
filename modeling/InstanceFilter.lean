import InstanceFilter.Text.CaseFold
import InstanceFilter.Text.Blank
import InstanceFilter.Text.Identifier
import InstanceFilter.Text.Quoted
import InstanceFilter.Decimal.Layout
import InstanceFilter.DateTime.Printer
import InstanceFilter.DateTime.Parser
import InstanceFilter.ObjectPath.Parser
import InstanceFilter.ObjectPath.Printer
import InstanceFilter.Value.Access
import InstanceFilter.Value.Order
import InstanceFilter.Value.Coercion
import InstanceFilter.Value.Printer
import InstanceFilter.Program.Printer
import InstanceFilter.Source.Instance
import InstanceFilter.Pattern.Like
import InstanceFilter.Evaluation.Quantification
import InstanceFilter.Evaluation.Resolution
import InstanceFilter.Evaluation.Trace
import InstanceFilter.Filter
import InstanceFilter.Settings.Toml
import InstanceFilter.Persisted.Encoder
import InstanceFilter.Persisted.Decoder
import InstanceFilter.Proofs.Evaluation.Formula
import InstanceFilter.Proofs.Evaluation.Shape
import InstanceFilter.Proofs.Text.Identifier
import InstanceFilter.Proofs.ObjectPath.Nesting
import InstanceFilter.Proofs.ObjectPath.Reading
import InstanceFilter.Proofs.ObjectPath.Keys
import InstanceFilter.Proofs.ObjectPath.RoundTrip
import InstanceFilter.Proofs.ObjectPath.Spelling
import InstanceFilter.Proofs.DateTime.Columns
import InstanceFilter.Proofs.DateTime.Precision
import InstanceFilter.Proofs.DateTime.RoundTrip
import InstanceFilter.Proofs.Evaluation.Quantification
import InstanceFilter.Proofs.Pattern.Atom
import InstanceFilter.Proofs.Pattern.Bracket
import InstanceFilter.Proofs.Pattern.Enclosing
import InstanceFilter.Proofs.Pattern.Like
import InstanceFilter.Proofs.Schema.Building
import InstanceFilter.Proofs.Schema.RoundTrip
import InstanceFilter.Proofs.Evaluation.Substitution
import InstanceFilter.Proofs.Source.Restriction
import InstanceFilter.Proofs.Evaluation.Missing
import InstanceFilter.Proofs.ObjectPath.Unchanged
import InstanceFilter.Proofs.Persisted.Values
import InstanceFilter.Proofs.Persisted.RoundTrip
import InstanceFilter.Proofs.Evaluation.Typing
import InstanceFilter.Proofs.Evaluation.Exposure
import InstanceFilter.Proofs.Value.Place
import InstanceFilter.Proofs.Evaluation.Ordering
import InstanceFilter.Proofs.ObjectPath.Grammar
import InstanceFilter.Proofs.ObjectPath.Denotation
import InstanceFilter.Proofs.ObjectPath.Rendering
import InstanceFilter.Proofs.Comparing
import InstanceFilter.Proofs.Text.Bytes
import InstanceFilter.Proofs.DateTime.Calendar
import InstanceFilter.Proofs.DateTime.Ordering
import InstanceFilter.Proofs.Evaluation.Coercion
import InstanceFilter.Proofs.Value.Sameness
import InstanceFilter.Proofs.Evaluation.Sameness
import InstanceFilter.Proofs.Evaluation.Arrays
import InstanceFilter.Proofs.ObjectPath.Binding
import InstanceFilter.Proofs.ObjectPath.Arranged
import InstanceFilter.Proofs.ObjectPath.Listing
import InstanceFilter.Proofs.Schema.Obtained
import InstanceFilter.Proofs.ObjectPath.Extensionality
import InstanceFilter.Proofs.Schema.Completeness
import InstanceFilter.Proofs.Evaluation.Chaining
import InstanceFilter.Proofs.Source.History
import InstanceFilter.Proofs.Source.Alike
import InstanceFilter.Proofs.Evaluation.Defences
import InstanceFilter.Proofs.ObjectPath.Depth
import InstanceFilter.Proofs.Evaluation.Settings
import InstanceFilter.Proofs.Program.Names
import InstanceFilter.Proofs.Schema.Qualifying
import InstanceFilter.Proofs.Value.Elements
import InstanceFilter.Proofs.Text.Quoted
import InstanceFilter.Proofs.Value.Precision
import InstanceFilter.Proofs.Value.Rendering
import InstanceFilter.Proofs.Evaluation.Trace
import InstanceFilter.Proofs.ObjectPath.Quoted
import InstanceFilter.Proofs.DateTime.Words
