/-! Document views: what a decoder asks of a parsed document, whatever its format. A node may
read as a text, as keyed members or as items, and may be read as a self-describing value before
it is read as a text. -/

namespace TableBind

/-- How the nodes of a document read as texts, keyed members and items. -/
structure DataView (V : Type) where
  text? : V → Option String
  fields? : V → Option (List (String × V))
  items? : V → Option (List V)
  content? : V → Option String

end TableBind
