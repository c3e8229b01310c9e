import QueryBinding.Choice
import QueryBinding.Coercion
import QueryBinding.Document
import QueryBinding.Failure
import QueryBinding.Fault
import QueryBinding.FieldSpec
import QueryBinding.FieldType
import QueryBinding.Identifier
import QueryBinding.Instance
import QueryBinding.Keyed
import QueryBinding.Log
import QueryBinding.Markup.Character
import QueryBinding.Markup.Encoding
import QueryBinding.Markup.Html.Element
import QueryBinding.Markup.Html.Page
import QueryBinding.Markup.Html.Reference
import QueryBinding.Markup.Html.Token
import QueryBinding.Markup.Queries
import QueryBinding.Markup.Table
import QueryBinding.Markup.Tree
import QueryBinding.Markup.Xml
import QueryBinding.Materialize
import QueryBinding.Model
import QueryBinding.Number.Decimal
import QueryBinding.Number.Integer
import QueryBinding.Number.Real
import QueryBinding.Proofs.Acceptance
import QueryBinding.Proofs.Assembly
import QueryBinding.Proofs.Blanks
import QueryBinding.Proofs.Calls
import QueryBinding.Proofs.Closure
import QueryBinding.Proofs.Containers
import QueryBinding.Proofs.DeclarationOrder
import QueryBinding.Proofs.Defaults
import QueryBinding.Proofs.Descent
import QueryBinding.Proofs.Directives
import QueryBinding.Proofs.Failures
import QueryBinding.Proofs.Grouping
import QueryBinding.Proofs.Inference
import QueryBinding.Proofs.ListFields
import QueryBinding.Proofs.Nesting
import QueryBinding.Proofs.Numerals
import QueryBinding.Proofs.Outcomes
import QueryBinding.Proofs.Outlines
import QueryBinding.Proofs.OwnValues
import QueryBinding.Proofs.Pairs
import QueryBinding.Proofs.Preorder
import QueryBinding.Proofs.Presets
import QueryBinding.Proofs.Rearranged
import QueryBinding.Proofs.Registration
import QueryBinding.Proofs.Rejections
import QueryBinding.Proofs.Reorderings
import QueryBinding.Proofs.Resting
import QueryBinding.Proofs.Rollback
import QueryBinding.Proofs.Runs
import QueryBinding.Proofs.Schemas
import QueryBinding.Proofs.Stubs
import QueryBinding.Proofs.Transparency
import QueryBinding.Reader
import QueryBinding.Registry
import QueryBinding.Schema
import QueryBinding.Session
import QueryBinding.Settings
import QueryBinding.Settings.DotEnv
import QueryBinding.Shape
import QueryBinding.Stub
import QueryBinding.Text.Blank
import QueryBinding.Text.Case
import QueryBinding.Text.CaseTable
import QueryBinding.Text.CharClass
import QueryBinding.Text.Digit
import QueryBinding.Text.HostFold
import QueryBinding.Text.Printable
import QueryBinding.Text.Quoted
import QueryBinding.Text.Utf8
import QueryBinding.Transform
import QueryBinding.Url
import QueryBinding.Validation
import QueryBinding.Value
import QueryBinding.XPath.Eval
import QueryBinding.XPath.Expr
import QueryBinding.XPath.Function
import QueryBinding.XPath.Grammar
import QueryBinding.XPath.Numeral
import QueryBinding.XPath.Place
import QueryBinding.XPath.Result
import QueryBinding.Proofs.Addresses
import QueryBinding.Proofs.Resolving
import QueryBinding.Proofs.SpecialValues
import QueryBinding.Proofs.Itemwise
import QueryBinding.Proofs.Words
import QueryBinding.Proofs.Quiet
import QueryBinding.Proofs.BoundValues
import QueryBinding.Proofs.Events
import QueryBinding.Proofs.Restyling
