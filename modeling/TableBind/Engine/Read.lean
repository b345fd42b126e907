import TableBind.Engine.Basic

/-! Reading rows through an engine. A range read groups the selected bindings by section and
merges, at each position, what every group reads from its section's row there; reading one row
picks its position among the default section's rows. -/

namespace TableBind

namespace Engine

/-- The row record at a position, merged over the groups that have a row there. -/
def rowAt (s : Schema) (groups : List (List Element × List Binding)) (p : Nat) :
    Except TableError Row :=
  (groups.foldlM (fun (acc : Option Row) (g : List Element × List Binding) =>
    match g.1[p]? with
    | some row => (populate row g.2).map fun part => s.merge acc (some part)
    | none => .ok acc) none).map fun (r : Option Row) => r.getD Row.empty

def rowsBetween (s : Schema) (groups : List (List Element × List Binding)) (first last : Nat) :
    Except TableError (List Row) :=
  (List.range' first (last + 1 - first)).mapM (rowAt s groups)

/-- The rows `start..stop` (1-based, both included) of the named fields. -/
def readTableRange (e : Engine) (start stop : Nat) (fields : List String) : Run (List Row) := do
  let s ← e.schema
  let bs ← ExceptT.mk (pure (s.select fields))
  let c ← e.container s.table
  let groups ← (groupBySection bs).mapM fun g => do
    let rows ← sectionRows c s.table g.1
    pure (rows, g.2)
  let available ← if groups.isEmpty then do
      let rows ← sectionRows c s.table ""
      pure rows.length
    else pure ((groups.map (·.1.length)).foldl max 0)
  if available = 0 then return []
  match resolveRange start stop available with
  | none => return []
  | some (first, last) => ExceptT.mk (pure (rowsBetween s groups first last))

def readTable (e : Engine) (fields : List String) : Run (List Row) :=
  e.readTableRange 1 (Nat.pow 2 64 - 1) fields

/-- The row a selector picks, for the named fields. -/
def readRow (e : Engine) (sel : RowSelector) (fields : List String) : Run Row := do
  let s ← e.schema
  let bs ← ExceptT.mk (pure (s.select fields))
  let c ← e.container s.table
  let primary ← sectionRows c s.table ""
  let p ← pick primary sel
  let merged ← (groupBySection bs).foldlM (fun (acc : Option Row) (g : String × List Binding) => do
    let rows ← if g.1 = "" then pure primary else sectionRows c s.table g.1
    match rows[p]? with
    | some row =>
      let part ← ExceptT.mk (pure (populate row g.2))
      pure (s.merge acc (some part))
    | none => pure acc) none
  pure (merged.getD Row.empty)

end Engine

end TableBind
