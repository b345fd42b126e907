import TableBind.Page.Locator

/-! Table descriptors: where a table is (its container), how its rows and its header row are
found, and its named sections, each with its own rows. The section named by the empty
text is the default one: its rows are the table's rows. Any other name picks the first
section declared with that name. -/

namespace TableBind

/-- A named group of rows, such as a footer. -/
structure Section where
  name : String
  rows : Locator
  deriving DecidableEq, Repr

/-- Where a table is and how its rows are found. -/
structure Descriptor where
  container : Locator
  rows : Locator
  headerRow : Locator
  sections : List Section := []
  deriving DecidableEq, Repr

namespace Descriptor

/-- The rows locator of a section: the table's rows for the default section `""`, else that
of the first section with the name. -/
def rowsFor (d : Descriptor) (name : String) : Option Locator :=
  if name = "" then some d.rows else (d.sections.find? (·.name == name)).map (·.rows)

end Descriptor

end TableBind
