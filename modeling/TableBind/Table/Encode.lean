import TableBind.Format.Json
import TableBind.Table.Descriptor
import TableBind.Text.Uppercase

/-! Writing locators and table descriptors as documents. Strategy names are the variant names in
snake case, except `xpath` and `testid`; a descriptor leaves out `sections` when it has none. -/

namespace TableBind

/-- The snake case of a variant name: an underscore before every uppercase character but the
first, and ASCII letters lowercased. -/
def snakeCase (name : String) : String :=
  String.ofList (go true name.toList)
where
  go : Bool → List Char → List Char
    | _, [] => []
    | first, c :: rest =>
      (if !first && Text.isUppercase c then ['_'] else []) ++ c.toLower :: go false rest

namespace Strategy

def documentRename : Strategy → Option String
  | xpath => some "xpath"
  | testId => some "testid"
  | _ => none

/-- The name of a strategy in documents: its explicit name, else its variant name in snake
case. -/
def documentName (s : Strategy) : String := s.documentRename.getD (snakeCase s.label)

end Strategy

def Locator.toJson (l : Locator) : JsonValue :=
  .obj [("by", .str (some l.strategy.documentName)), ("value", .str (some l.value))]

def Section.toJson (s : Section) : JsonValue :=
  .obj [("name", .str (some s.name)), ("rows", s.rows.toJson)]

/-- The document form of a descriptor; the sections are left out when there are none. -/
def Descriptor.toJson (d : Descriptor) : JsonValue :=
  .obj ([("container", d.container.toJson), ("rows", d.rows.toJson), ("header_row", d.headerRow.toJson)] ++
    if d.sections.isEmpty then [] else [("sections", .arr (d.sections.map Section.toJson))])

end TableBind
