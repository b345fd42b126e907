import TableBind.Table.Schema
import TableBind.Page.Search

/-! Reading a field from a row element: the cell its locator finds (or the row), then the text
its text locator finds there (or the cell), own or rendered. A list field takes every cell
found. -/

namespace TableBind

namespace Place

def cellsIn (p : Place) (row : Element) : List Element :=
  match p.cell with
  | some l => row.findAll l
  | none => [row]

def cellIn? (p : Place) (row : Element) : Option Element :=
  match p.cell with
  | some l => row.find? l
  | none => some row

/-- The cell read from a cell element, if its text source is there. -/
def readCell (p : Place) (cell : Element) : Option Cell :=
  let source := match p.cellText with
    | some l => cell.find? l
    | none => some cell
  source.map fun s => ⟨if p.directText then s.ownText else s.renderedText, some cell⟩

/-- The value read from a row: always a list for a list field, possibly empty; else the
single cell, if found. -/
def readValue (p : Place) (row : Element) : Option CellValue :=
  if p.collection then some (.list ((p.cellsIn row).filterMap p.readCell))
  else ((p.cellIn? row).bind p.readCell).map .single

end Place

/-- The row record read from a row element for some bindings: each value found is written
through its binding, in order. -/
def populate (row : Element) (members : List Binding) : Except TableError Row :=
  members.foldlM (fun r b =>
    match b.place.readValue row with
    | some v => b.set r v
    | none => .ok r) Row.empty

end TableBind
