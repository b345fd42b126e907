import TableBind.Table.Schema

/-! Insertion plans: the steps that write a row record into a table row. Every set field,
in schema order, becomes a step carrying its texts; a set field without an insertion route
stops the plan. The steps then run by increasing route order, steps of equal order keeping
schema order. -/

namespace TableBind

/-- One step of an insertion plan: a binding and the texts to write. -/
structure Step where
  binding : Binding
  values : List String

def Step.order (s : Step) : Int := (s.binding.insertion.map (·.order)).getD 0

/-- The steps of the set fields, in schema order, or the first set field with no route. -/
def planSteps (data : Row) : List Binding → Except TableError (List Step)
  | [] => .ok []
  | b :: rest =>
    match b.get data with
    | none => planSteps data rest
    | some v =>
      if b.insertion.isNone then .error (.noInsertionRoute b.name)
      else (planSteps data rest).map fun steps => ⟨b, v.texts⟩ :: steps

/-- The insertion plan of a row record: the set fields' steps, stably sorted by order. -/
def insertionPlan (s : Schema) (data : Row) : Except TableError (List Step) :=
  (planSteps data s.bindings).map fun steps => steps.mergeSort fun a b => a.order ≤ b.order

end TableBind
