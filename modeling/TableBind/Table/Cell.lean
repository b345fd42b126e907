import TableBind.Page.Element
import TableBind.Text.Outline

/-! Cells and cell values. A cell is a text, and the element it was read from when it was
read from a page. Two cells are the same when their texts are. A field holds either one
cell or a list of cells; its shape says which. -/

namespace TableBind

/-- A text read from (or meant for) a table cell, with the element it came from. -/
structure Cell where
  text : String
  source : Option Element := none

namespace Cell

instance : BEq Cell := ⟨fun a b => a.text == b.text⟩

/-- The outline of a cell: its text, and whether it is tied to an element. -/
def outline (c : Cell) : String :=
  Outline.record "TableCell" [("text", Outline.text c.text), ("bound", Outline.bool c.source.isSome)]

end Cell

/-- The two shapes a field can have. -/
inductive Shape where
  | single
  | list
  deriving DecidableEq, Repr

def Shape.name : Shape → String
  | .single => "single cell"
  | .list => "cell list"

def Shape.ofCollection (collection : Bool) : Shape := if collection then .list else .single

def Shape.flip : Shape → Shape
  | .single => .list
  | .list => .single

/-- The value of a field: one cell, or a list of cells. -/
inductive CellValue where
  | single (c : Cell)
  | list (cs : List Cell)

namespace CellValue

def shape : CellValue → Shape
  | single _ => .single
  | list _ => .list

def texts : CellValue → List String
  | single c => [c.text]
  | list cs => cs.map (·.text)

def same : CellValue → CellValue → Bool
  | single a, single b => a == b
  | list as, list bs => as == bs
  | _, _ => false

/-- The outline of a value, such as `Single(TableCell { text: "x", bound: false })`. -/
def outline : CellValue → String
  | single c => Outline.variant "Single" [c.outline]
  | list cs => Outline.variant "List" [Outline.seq (cs.map Cell.outline)]

/-- A value of one cell per text, in the given shape; a single value takes the first text. -/
def ofTexts : Shape → List String → CellValue
  | .single, ts => single ⟨ts.headD "", none⟩
  | .list, ts => list (ts.map fun t => ⟨t, none⟩)

end CellValue

end TableBind
