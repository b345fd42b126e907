import TableBind.Table.Descriptor
import TableBind.Table.Route
import TableBind.Table.Cell

/-! Field bindings tie a field of a row record to the table: its cell, text and header locators,
its section, its shape, and the routes that insert into it and filter by it. -/

namespace TableBind

/-- Where a field's value is on the page. -/
structure Place where
  cell : Option Locator := none
  cellText : Option Locator := none
  headerCell : Option Locator := none
  sectionName : String := ""
  collection : Bool := false
  directText : Bool := false
  deriving DecidableEq, Repr

/-- A field of a row record bound to the table. A `mismatched` binding writes values of the
other shape into a slot that its reads never see, so writing a value of the field's own
shape fails. -/
structure Binding where
  name : String
  place : Place := {}
  insertion : Option Route := none
  filter : Option Route := none
  mismatched : Bool := false

namespace Binding

def shape (b : Binding) : Shape := Shape.ofCollection b.place.collection

/-- The shape of the values the field's writer takes. -/
def accepts (b : Binding) : Shape := if b.mismatched then b.shape.flip else b.shape

def sameRoute : Option Route → Option Route → Bool
  | some a, some b => a.same b
  | none, none => true
  | _, _ => false

/-- Binding equality: name, place and both routes. -/
def same (a b : Binding) : Bool :=
  a.name == b.name && a.place == b.place && sameRoute a.insertion b.insertion &&
    sameRoute a.filter b.filter

def placeOutline (p : Place) : String :=
  Outline.record "CellDescriptor"
    [("cell", Outline.option (p.cell.map Locator.outline)),
     ("cell_text", Outline.option (p.cellText.map Locator.outline)),
     ("header_cell", Outline.option (p.headerCell.map Locator.outline)),
     ("section", Outline.text p.sectionName),
     ("collection", Outline.bool p.collection),
     ("direct_text", Outline.bool p.directText)]

def outline (b : Binding) : String :=
  Outline.record "FieldBinding"
    [("name", Outline.text b.name),
     ("cell", placeOutline b.place),
     ("insertion", Outline.option (b.insertion.map Route.outline)),
     ("filter", Outline.option (b.filter.map Route.outline))]

end Binding

end TableBind
