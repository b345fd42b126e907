import TableBind.Table.Error
import TableBind.Text.Blank

/-! Row selectors: a row is picked by its 1-based index, or as the first row whose rendered
text contains every keyword. -/

namespace TableBind

/-- How a row is picked. -/
inductive RowSelector where
  | index (i : Nat)
  | criteria (keywords : List String)

namespace RowSelector

/-- The text form: `row 3`, or `row containing ["a", "b"]`. -/
def render : RowSelector → String
  | index i => "row " ++ toString i
  | criteria ks => "row containing " ++ Text.quoteList ks

def fits (keywords : List String) (text : String) : Bool :=
  keywords.all (Text.contains text)

def firstFit (keywords : List String) : List String → Option Nat
  | [] => none
  | t :: ts => if fits keywords t then some 0 else (firstFit keywords ts).map (· + 1)

/-- The 0-based position of the row a selector picks among rows with the given rendered
texts. An index must lie in `[1, count]`; criteria need a row containing every keyword. -/
def position (texts : List String) : RowSelector → Except TableError Nat
  | index i =>
    if 1 ≤ i ∧ i ≤ texts.length then .ok (i - 1) else .error (.rowIndexOutOfRange i texts.length)
  | criteria ks =>
    match firstFit ks texts with
    | some p => .ok p
    | none => .error (.noMatchingRow ks)

/-- The row a selector picks among rows, each read through its text. -/
def findRow {α : Type} [Inhabited α] (text : α → String) (rows : List α) (sel : RowSelector) :
    Except TableError α :=
  (sel.position (rows.map text)).map fun p => rows[p]!

end RowSelector

end TableBind
