import TableBind.Table.Row

/-! Schemas: a table descriptor and the ordered bindings of a row record. Building checks names
and sections, a call selects bindings by name, bindings group by section, and two rows merge
field by field. -/

namespace TableBind

/-- A table descriptor with the bindings of a row record, in order. -/
structure Schema where
  table : Descriptor
  bindings : List Binding

namespace Schema

def checkBindings (table : Descriptor) : List String → List Binding → Except TableError Unit
  | _, [] => .ok ()
  | seen, b :: rest =>
    if b.name ∈ seen then .error (.duplicateField b.name)
    else if (table.rowsFor b.place.sectionName).isNone then
      .error (.undeclaredSection b.name b.place.sectionName)
    else checkBindings table (b.name :: seen) rest

/-- The schema of a descriptor and bindings, once they are checked. -/
def build (table : Descriptor) (bindings : List Binding) : Except TableError Schema :=
  (checkBindings table [] bindings).map fun _ => ⟨table, bindings⟩

def binding (s : Schema) (name : String) : Except TableError Binding :=
  match s.bindings.find? (·.name == name) with
  | some b => .ok b
  | none => .error (.unboundField name)

/-- The bindings a call works on: all of them for no names, else the named ones in schema
order, once every name is checked to be bound. -/
def select (s : Schema) (names : List String) : Except TableError (List Binding) :=
  if names.isEmpty then .ok s.bindings
  else
    match names.find? (fun n => !s.bindings.any (·.name == n)) with
    | some n => .error (.unboundField n)
    | none => .ok (s.bindings.filter fun b => names.contains b.name)

/-- Merges two rows: each binding unset in the first takes the second's value, when the
binding accepts it. -/
def mergeRows (s : Schema) (a b : Row) : Row :=
  s.bindings.foldl (fun m bd =>
    match bd.get m, bd.get b with
    | none, some v =>
      match bd.set m v with
      | .ok m' => m'
      | .error _ => m
    | _, _ => m) a

/-- Merges two optional rows; a missing row gives the other. -/
def merge (s : Schema) : Option Row → Option Row → Option Row
  | none, b => b
  | a, none => a
  | some a, some b => some (s.mergeRows a b)

end Schema

def addToGroup (b : Binding) : List (String × List Binding) → List (String × List Binding)
  | [] => [(b.place.sectionName, [b])]
  | g :: gs => if g.1 == b.place.sectionName then (g.1, g.2 ++ [b]) :: gs else g :: addToGroup b gs

/-- Bindings grouped by section, sections in order of first appearance, each group in
input order. -/
def groupBySection (bs : List Binding) : List (String × List Binding) :=
  bs.foldl (fun gs b => addToGroup b gs) []

end TableBind
