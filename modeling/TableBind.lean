import TableBind.Text.Blank
import TableBind.Text.Quoted
import TableBind.Page.Search
import TableBind.Engine.Read
import TableBind.Engine.Write
import TableBind.Engine.Header
import TableBind.Engine.Outline
import TableBind.Format.Json
import TableBind.Table.Decode
import TableBind.Table.Encode
import TableBind.Text.IdentChars
import TableBind.Text.Uppercase
import TableBind.Derive.Token
import TableBind.Derive.Lexer
import TableBind.Derive.Cursor
import TableBind.Derive.Grammar
import TableBind.Derive.Item
import TableBind.Derive.Attrs
import TableBind.Derive.Expand
import TableBind.Format.Yaml.Token
import TableBind.Format.Yaml.Node
import TableBind.Format.Yaml.Scalar
import TableBind.Format.Yaml
import TableBind.Proofs.Schema
import TableBind.Proofs.Run
import TableBind.Proofs.Read
import TableBind.Proofs.Write
import TableBind.Proofs.Tree
import TableBind.Proofs.Search
import TableBind.Proofs.Criteria
import TableBind.Proofs.Sections
import TableBind.Proofs.TextTable
import TableBind.Proofs.Plan
import TableBind.Proofs.Compound
import TableBind.Proofs.Builder
import TableBind.Proofs.Literal
import TableBind.Proofs.Expansion
import TableBind.Proofs.Derive
import TableBind.Proofs.Range
import TableBind.Proofs.Merge
import TableBind.Proofs.Fields
import TableBind.Proofs.Header
import TableBind.Proofs.Selection
import TableBind.Proofs.Locator
import TableBind.Proofs.Refusal
import TableBind.Proofs.ConstantNames
