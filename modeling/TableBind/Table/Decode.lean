import TableBind.Format.View
import TableBind.Table.Descriptor

/-! Reading locators and table descriptors from documents, as objects with named members or as
lists of items. A member given twice is refused, other members are ignored, and `sections` may
be absent. -/

namespace TableBind

variable {V : Type}

/-- The value of the member `k`: `none` when absent, and no answer when repeated. -/
def memberOnce (fs : List (String × V)) (k : String) : Option (Option V) :=
  match fs.filter (·.1 == k) with
  | [] => some none
  | [(_, y)] => some (some y)
  | _ => none

def memberRequired (fs : List (String × V)) (k : String) : Option V := (memberOnce fs k).bind id

def Locator.ofNodes (v : DataView V) (tag content : V) : Option Locator := do
  let s ← Strategy.ofKeyword? (← v.text? tag)
  pure ⟨s, ← v.text? content⟩

/-- Whether the `value` member of a locator comes before its `by` member. The value is
then held as a self-describing value until the strategy is known, so it must read as a
text that way. -/
def valueFirst (fs : List (String × V)) : Bool :=
  ((fs.find? fun f => f.1 == "by" || f.1 == "value").map (·.1)) == some "value"

def Locator.decode (v : DataView V) (x : V) : Option Locator :=
  match v.fields? x with
  | some fs => do
    let tag ← memberRequired fs "by"
    let content ← memberRequired fs "value"
    if valueFirst fs then
      pure ⟨← Strategy.ofKeyword? (← v.text? tag), ← v.content? content⟩
    else Locator.ofNodes v tag content
  | none =>
    match v.items? x with
    | some [t, c] => Locator.ofNodes v t c
    | _ => none

def Section.decode (v : DataView V) (x : V) : Option Section :=
  match v.fields? x with
  | some fs => do
    let name ← v.text? (← memberRequired fs "name")
    pure ⟨name, ← Locator.decode v (← memberRequired fs "rows")⟩
  | none =>
    match v.items? x with
    | some [n, r] => do pure ⟨← v.text? n, ← Locator.decode v r⟩
    | _ => none

def Section.decodeAll (v : DataView V) (x : V) : Option (List Section) := do
  (← v.items? x).mapM (Section.decode v)

/-- Reads a table descriptor. -/
def Descriptor.decode (v : DataView V) (x : V) : Option Descriptor :=
  match v.fields? x with
  | some fs => do
    let container ← Locator.decode v (← memberRequired fs "container")
    let rows ← Locator.decode v (← memberRequired fs "rows")
    let headerRow ← Locator.decode v (← memberRequired fs "header_row")
    let sections ← match ← memberOnce fs "sections" with
      | none => some []
      | some y => Section.decodeAll v y
    pure ⟨container, rows, headerRow, sections⟩
  | none =>
    match v.items? x with
    | some (c :: r :: h :: more) => do
      let sections ← match more with
        | [] => some []
        | [s] => Section.decodeAll v s
        | _ => none
      pure ⟨← Locator.decode v c, ← Locator.decode v r, ← Locator.decode v h, sections⟩
    | _ => none

end TableBind
