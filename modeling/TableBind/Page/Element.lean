import TableBind.Text.Blank

/-! Page elements: a tree of elements with tags, ids, classes, attributes and texts. A node is
named by its path of child indices from the element searched from; an element's rendered text
joins its trimmed own text and its children's non-empty rendered texts. -/

namespace TableBind

/-- An element of a page. `track` names an element whose waits are reported. -/
structure Element where
  tag : String := "div"
  id : Option String := none
  classes : List String := []
  attrs : List (String × String) := []
  text : String := ""
  children : List Element := []
  track : Option String := none

/-- The child indices leading from an element to one of its nodes. -/
abbrev Path := List Nat

namespace Element

mutual
/-- The rendered text: trimmed own text, then the children's rendered texts, the empty ones
left out, joined by single spaces. -/
def renderedText : Element → String
  | ⟨_, _, _, _, text, children, _⟩ =>
    let own := Text.trim text
    " ".intercalate ((if own.isEmpty then [] else [own]) ++ renderedTexts children)
def renderedTexts : List Element → List String
  | [] => []
  | c :: cs =>
    let t := c.renderedText
    if t.isEmpty then renderedTexts cs else t :: renderedTexts cs
end

def ownText (e : Element) : String := Text.trim e.text

/-- The value of an attribute: `id` is the id, `class` is the classes joined by a space when
there are any, and every other name is looked up among the named attributes. -/
def attrValue (e : Element) (name : String) : Option String :=
  if name = "id" then e.id
  else if name = "class" ∧ e.classes ≠ [] then some (" ".intercalate e.classes)
  else e.attrs.lookup name

def classText (e : Element) : Option String := e.attrValue "class"

/-- The label of an element in a record of calls: its id, else its rendered text. -/
def label (e : Element) : String := e.id.getD e.renderedText

mutual
/-- The element and every element below it in pre-order, each with its path. -/
def nodes : Element → List (Path × Element)
  | e@⟨_, _, _, _, _, children, _⟩ => ([], e) :: childNodes 0 children
def childNodes : Nat → List Element → List (Path × Element)
  | _, [] => []
  | i, c :: cs => (c.nodes.map fun n => (i :: n.1, n.2)) ++ childNodes (i + 1) cs
end

/-- The elements strictly below an element, in pre-order, with their paths. -/
def descendants (e : Element) : List (Path × Element) := childNodes 0 e.children

theorem nodes_eq (e : Element) : e.nodes = ([], e) :: e.descendants := by
  cases e; rfl

/-- A table of texts: `table#id` with a header row of `th` cells, one per column, each with
the column as class and text, and a body of rows whose `td` cells pair each value with its
column, a row being cut to the shorter of the two. -/
def textTable (id : String) (columns : List String) (rows : List (List String)) : Element :=
  let header : Element := { tag := "tr", children := columns.map fun c => { tag := "th", classes := [c], text := c } }
  let body : Element :=
    { tag := "tbody"
      children := rows.map fun row =>
        { tag := "tr", children := (columns.zip row).map fun p => { tag := "td", classes := [p.1], text := p.2 } } }
  { tag := "table", id := some id, children := [{ tag := "thead", children := [header] }, body] }

end Element

end TableBind
