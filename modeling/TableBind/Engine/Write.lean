import TableBind.Engine.Basic

/-! Writing through an engine. Inserting a row record runs the steps of its insertion plan on
the row the selector picks, each in its own section; inserting into one cell picks the cell by
its 1-based index. The first failure stops the run. -/

namespace TableBind

namespace Engine

/-- Sends texts to a cell through a binding's insertion route. -/
def dispatchInsert (e : Engine) (b : Binding) (cell : Element) (values : List String) : Run Unit :=
  match b.insertion with
  | none => throw (.noInsertionRoute b.name)
  | some r =>
    match r.target with
    | .component c =>
      match e.registry with
      | none => throw (.registryUnavailable .insert b.name)
      | some reg =>
        match reg.service? .insert c.kind with
        | none => throw (.registryLookup .insert c)
        | some a => perform a b.name (.insert cell.label (some c) values)
    | .custom a => perform a b.name (.insert cell.label none values)

/-- The row at a position of a section, the default section's rows being known. -/
def rowIn (c : Path × Element) (d : Descriptor) (primary : List Element) (name : String)
    (p : Nat) : Run Element := do
  let rows ← if name = "" then pure primary else sectionRows c d name
  match rows[p]? with
  | some row => pure row
  | none => throw (.rowNotInSection (p + 1) name)

def runStep (e : Engine) (c : Path × Element) (d : Descriptor) (primary : List Element)
    (p : Nat) (st : Step) : Run Unit := do
  let row ← rowIn c d primary st.binding.place.sectionName p
  match st.binding.place.cellIn? row with
  | none => throw (.cellNotFound st.binding.name st.binding.place.cell)
  | some cell => e.dispatchInsert st.binding cell st.values

/-- Writes a row record into the row a selector picks. -/
def insertRow (e : Engine) (sel : RowSelector) (data : Row) : Run Unit := do
  let s ← e.schema
  let plan ← ExceptT.mk (pure (insertionPlan s data))
  let c ← e.container s.table
  let primary ← sectionRows c s.table ""
  let p ← pick primary sel
  plan.forM (e.runStep c s.table primary p)

/-- Writes texts into the `index`-th (1-based) cell of a field in the row a selector picks. -/
def insertCellValue (e : Engine) (sel : RowSelector) (field : String) (index : Nat)
    (values : List String) : Run Unit := do
  let s ← e.schema
  let b ← ExceptT.mk (pure (s.binding field))
  if b.insertion.isNone then throw (.noInsertionRoute b.name)
  let c ← e.container s.table
  let primary ← sectionRows c s.table ""
  let p ← pick primary sel
  let row ← rowIn c s.table primary b.place.sectionName p
  match (b.place.cellsIn row)[index - 1]? with
  | some cell => if index = 0 then throw (.invalidCellIndex index) else e.dispatchInsert b cell values
  | none => throw (.invalidCellIndex index)

end Engine

end TableBind
