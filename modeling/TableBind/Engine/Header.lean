import TableBind.Engine.Basic

/-! Filtering and sorting through an engine. Both act on a field's header cell: the field's
header locator is searched in the header row, which is searched in the container after a
wait on it. A filter goes through the field's filter route, a sort through the engine's
header sorter. -/

namespace TableBind

namespace Engine

def headerCell (e : Engine) (d : Descriptor) (b : Binding) : Run Element := do
  let some l := b.place.headerCell | throw (.noHeaderLocator b.name)
  let c ← e.container d
  waitFor c.1 d.headerRow
  let some hr := c.2.find? d.headerRow | throw (.headerRowNotFound d.headerRow)
  let some h := hr.find? l | throw (.headerCellNotFound b.name l)
  pure h

/-- Filters the table by a field's values. -/
def filterTable (e : Engine) (field : String) (mode : FilterMode) (values : List String) :
    Run Unit := do
  let s ← e.schema
  let b ← ExceptT.mk (pure (s.binding field))
  let some r := b.filter | throw (.noFilterRoute b.name)
  let h ← e.headerCell s.table b
  match r.target with
  | .component c =>
    match e.registry with
    | none => throw (.registryUnavailable .filter b.name)
    | some reg =>
      match reg.service? .filter c.kind with
      | none => throw (.registryLookup .filter c)
      | some a => perform a b.name (.filter h.label (some c) mode values)
  | .custom a => perform a b.name (.filter h.label none mode values)

/-- Sorts the table by a field. -/
def sortTable (e : Engine) (field : String) (order : SortOrder) : Run Unit := do
  let s ← e.schema
  let b ← ExceptT.mk (pure (s.binding field))
  let some a := e.sorter | throw (.sorterNotConfigured b.name)
  let h ← e.headerCell s.table b
  perform a b.name (.sort h.label order)

end Engine

end TableBind
