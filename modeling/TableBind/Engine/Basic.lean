import TableBind.Table.Read
import TableBind.Table.Plan
import TableBind.Table.RowSelector
import TableBind.Table.Range

/-! Table engines over a page. An operation reads the page and changes only a session: the waits
on elements, the calls made, and whether the schema is cached; what an error interrupts stays.
Searches are `Element.findAll` and `Element.locate?`; the page's own search also fails where
`Locator.searchFault?` says (`Element.locateAllUtf8_eq`), so statements about engines describe
runs whose locators have no search fault. -/

namespace TableBind

/-- Services by component kind, one list per operation; a later entry for a kind replaces
an earlier one. -/
structure Registry where
  insertion : List (String × Action) := []
  filter : List (String × Action) := []

namespace Registry

def entries (r : Registry) : Operation → List (String × Action)
  | .insert => r.insertion
  | .filter => r.filter

/-- The service registered last for a kind. -/
def service? (r : Registry) (op : Operation) (kind : String) : Option Action :=
  ((r.entries op).filter (·.1 == kind)).getLast?.map (·.2)

end Registry

inductive FilterMode where
  | select
  | unselect
  deriving DecidableEq, Repr

inductive SortOrder where
  | ascending
  | descending
  deriving DecidableEq, Repr

/-- A call made to a service, an action or the sorter, with the label of the element it
acted on. -/
inductive Call where
  | insert (cell : String) (component : Option Component) (values : List String)
  | filter (cell : String) (component : Option Component) (mode : FilterMode) (values : List String)
  | sort (cell : String) (order : SortOrder)

/-- What running operations changes: waits on elements (by path from the page root), calls
made, and whether the schema is cached. -/
structure Session where
  waits : List (Path × Locator) := []
  calls : List Call := []
  cached : Bool := false

/-- An engine operation: it may change the session, and gives a value or an error. -/
abbrev Run := ExceptT TableError (StateM Session)

/-- A table engine over a page. -/
structure Engine where
  root : Element
  table : Descriptor
  bindings : List Binding
  registry : Option Registry := none
  sorter : Option Action := none
  caching : Bool := false

namespace Engine

/-- The schema, built and checked on every call; with caching on, a successful build is
remembered. -/
def schema (e : Engine) : Run Schema := do
  let s ← ExceptT.mk (pure (Schema.build e.table e.bindings))
  if e.caching then modify fun ss => { ss with cached := true }
  pure s

def container (e : Engine) (d : Descriptor) : Run (Path × Element) :=
  match e.root.locate? d.container with
  | some c => pure c
  | none => throw (.containerNotFound d.container)

def waitFor (path : Path) (l : Locator) : Run Unit :=
  modify fun s => { s with waits := s.waits ++ [(path, l)] }

def note (c : Call) : Run Unit :=
  modify fun s => { s with calls := s.calls ++ [c] }

/-- The rows of a section: a wait on the container, then every match of the section's rows
locator in it. -/
def sectionRows (c : Path × Element) (d : Descriptor) (name : String) : Run (List Element) :=
  match d.rowsFor name with
  | none => throw (.unknownSection name)
  | some l => do
    waitFor c.1 l
    pure (c.2.findAll l)

/-- Carries out an action: the call is recorded, then a failing action fails for `field`. -/
def perform (a : Action) (field : String) (c : Call) : Run Unit := do
  note c
  match a with
  | .record => pure ()
  | .fail m => throw (.cellOperation field m)

def pick (rows : List Element) (sel : RowSelector) : Run Nat :=
  ExceptT.mk (pure (sel.position (rows.map Element.renderedText)))

end Engine

end TableBind
