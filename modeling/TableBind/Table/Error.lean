import TableBind.Table.Cell
import TableBind.Table.Route
import TableBind.Page.Locator

/-! The errors of table operations, one constructor per cause. `kind` groups them as the
error kinds callers see, and `message` gives the wording. -/

namespace TableBind

inductive Operation where
  | insert
  | filter
  deriving DecidableEq, Repr

def Operation.verb : Operation → String
  | .insert => "insert"
  | .filter => "filter"

/-- Why a table operation failed. -/
inductive TableError where
  /-- A field named by a call is not in the schema. -/
  | unboundField (field : String)
  /-- Two bindings of a schema share a field name. -/
  | duplicateField (field : String)
  /-- A binding names a section the table does not declare. -/
  | undeclaredSection (field sectionName : String)
  /-- Rows were asked of a section the table does not declare. -/
  | unknownSection (sectionName : String)
  /-- A set field has no insertion route. -/
  | noInsertionRoute (field : String)
  /-- A filtered field has no filter route. -/
  | noFilterRoute (field : String)
  /-- A field used through its header has no header locator. -/
  | noHeaderLocator (field : String)
  /-- The table container is not on the page. -/
  | containerNotFound (container : Locator)
  /-- The header row is not in the container. -/
  | headerRowNotFound (headerRow : Locator)
  /-- The header cell of a field is not in the header row. -/
  | headerCellNotFound (field : String) (header : Locator)
  /-- A section has no row at a position (1-based). -/
  | rowNotInSection (position : Nat) (sectionName : String)
  /-- A field's cell is not in its row; `none` stands for the row itself. -/
  | cellNotFound (field : String) (cell : Option Locator)
  /-- No row contains every keyword. -/
  | noMatchingRow (keywords : List String)
  /-- A row index is outside `[1, count]`. -/
  | rowIndexOutOfRange (index count : Nat)
  /-- A cell index is 0 or past the last cell. -/
  | invalidCellIndex (index : Nat)
  /-- A value of one shape was written to a field that takes the other. -/
  | typeMismatch (field : String) (expected actual : Shape)
  /-- A component route was used with no service registry. -/
  | registryUnavailable (op : Operation) (field : String)
  /-- No service of a component's kind is registered. -/
  | registryLookup (op : Operation) (component : Component)
  /-- A sort was asked for with no header sorter. -/
  | sorterNotConfigured (field : String)
  /-- A service, action or sorter failed. -/
  | cellOperation (field : String) (message : String)

namespace TableError

/-- The kind of an error. -/
def kind : TableError → String
  | unboundField .. | duplicateField .. | undeclaredSection .. | unknownSection ..
  | noInsertionRoute .. | noFilterRoute .. | noHeaderLocator .. => "Configuration"
  | containerNotFound .. | headerRowNotFound .. | headerCellNotFound .. | rowNotInSection ..
  | cellNotFound .. | noMatchingRow .. => "NotFound"
  | rowIndexOutOfRange .. | invalidCellIndex .. => "IndexRange"
  | typeMismatch .. => "TypeMismatch"
  | registryUnavailable .. => "RegistryUnavailable"
  | registryLookup .. => "RegistryLookup"
  | sorterNotConfigured .. => "SorterNotConfigured"
  | cellOperation .. => "CellOperation"

def configurationText : TableError → String
  | unboundField f => "field '" ++ f ++ "' is not bound to a table cell"
  | duplicateField f => "field '" ++ f ++ "' is bound more than once"
  | undeclaredSection f s => "field '" ++ f ++ "' belongs to undeclared section '" ++ s ++ "'"
  | unknownSection s => "table declares no section '" ++ s ++ "'"
  | noInsertionRoute f => "No table cell insertion method provided for field: " ++ f
  | noFilterRoute f => "No table cell filter method provided for field: " ++ f
  | noHeaderLocator f => "field '" ++ f ++ "' has no header cell locator"
  | _ => ""

/-- The message of an error. -/
def message : TableError → String
  | containerNotFound l => "Table container not found: " ++ l.render
  | headerRowNotFound l => "Header row not found: " ++ l.render
  | headerCellNotFound f l => "Header cell for field '" ++ f ++ "' not found: " ++ l.render
  | rowNotInSection p s => "Row " ++ toString p ++ " not found in section '" ++ s ++ "'"
  | cellNotFound f l => "Cell for field '" ++ f ++ "' not found: " ++ ((l.map Locator.render).getD "<row>")
  | noMatchingRow ks => "No row found containing all criteria: " ++ Text.quoteList ks
  | rowIndexOutOfRange i n =>
    "Row index " ++ toString i ++ " is out of range; valid range is [1, " ++ toString n ++ "]"
  | invalidCellIndex i => "Invalid cell index: " ++ toString i
  | typeMismatch f e a =>
    "type mismatch for field '" ++ f ++ "': expected " ++ e.name ++ ", got " ++ a.name
  | registryUnavailable op f =>
    "service registry is not configured; cannot " ++ op.verb ++ " field '" ++ f ++ "'"
  | registryLookup op c =>
    "Failed to " ++ op.verb ++ " using component: no service registered for component '" ++
      c.kind ++ "' (key '" ++ c.key ++ "')"
  | sorterNotConfigured f => "no header sorter configured; cannot sort by field '" ++ f ++ "'"
  | cellOperation f m => "cell operation failed for field '" ++ f ++ "': " ++ m
  | e => "configuration error: " ++ e.configurationText

end TableError

end TableBind
