import TableBind.Table.Binding
import TableBind.Table.Error

/-! Row records: a value, possibly unset, for each field name. Writing a field through its
binding checks the value's shape. -/

namespace TableBind

/-- A row record: the value of each field, `none` when unset. -/
structure Row where
  get : String → Option CellValue

namespace Row

def empty : Row := ⟨fun _ => none⟩

def put (r : Row) (name : String) (v : CellValue) : Row :=
  ⟨fun n => if n = name then some v else r.get n⟩

def ofList (entries : List (String × CellValue)) : Row :=
  entries.foldl (fun r e => r.put e.1 e.2) empty

theorem put_get (r : Row) (name : String) (v : CellValue) : (r.put name v).get name = some v := by
  simp [put]

end Row

namespace Binding

def get (b : Binding) (r : Row) : Option CellValue := r.get b.name

/-- Writes a value to the field. A value of the wrong shape is a type mismatch; a mismatched
binding's write leaves what reads see unchanged. -/
def set (b : Binding) (r : Row) (v : CellValue) : Except TableError Row :=
  if v.shape = b.accepts then .ok (if b.mismatched then r else r.put b.name v)
  else .error (.typeMismatch b.name b.accepts v.shape)

end Binding

end TableBind
