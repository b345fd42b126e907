import TableBind.Page.Compound
import TableBind.Page.Locator

/-! Searching below an element, which is never itself found. An id, test id or text locator
keeps the matching nodes in pre-order, XPath finds nothing, and a CSS selector applies its
compounds one descendant step after another, each node kept once at its first place. -/

namespace TableBind

namespace Element

def addNew (acc : List (Path × Element)) : List (Path × Element) → List (Path × Element)
  | [] => acc
  | n :: rest => if acc.any (·.1 == n.1) then addNew acc rest else addNew (acc ++ [n]) rest

/-- One descendant step: the nodes below each of `scope` that match `c`, first places kept. -/
def stepBelow (c : Compound) (scope : List (Path × Element)) : List (Path × Element) :=
  scope.foldl (fun acc n =>
    addNew acc ((n.2.descendants.filter fun d => c.selects d.2).map fun d => (n.1 ++ d.1, d.2))) []

/-- The nodes below `e` that a CSS selector picks, with their paths. -/
def selectCss (e : Element) (selector : String) : List (Path × Element) :=
  match ((Text.words selector).filter (· != ">")).map Compound.parse with
  | [] => []
  | first :: rest => rest.foldl (fun cur c => stepBelow c cur) (e.descendants.filter fun d => first.selects d.2)

/-- The nodes below `e` that a locator finds, in order, with their paths. -/
def locateAll (e : Element) (l : Locator) : List (Path × Element) :=
  match l.strategy with
  | .css => e.selectCss l.value
  | .id => e.descendants.filter fun d => d.2.id == some l.value
  | .testId => e.descendants.filter fun d => d.2.attrs.lookup "data-testid" == some l.value
  | .text => e.descendants.filter fun d => Text.contains d.2.renderedText l.value
  | .xpath => []

def locate? (e : Element) (l : Locator) : Option (Path × Element) := (e.locateAll l).head?

def findAll (e : Element) (l : Locator) : List Element := (e.locateAll l).map (·.2)

def find? (e : Element) (l : Locator) : Option Element := (e.locate? l).map (·.2)

end Element

namespace Locator

/-- Where reading the compounds of a CSS selector slices inside a character, at the first
compound, in order, whose reading does: searching with that selector panics. -/
def cssFault? (selector : String) : Option Text.SliceFault :=
  ((Text.words selector).filter (· != ">")).findSome? fun w =>
    match Compound.parseUtf8 w.toList with
    | .error f => some f
    | .ok _ => none

/-- Where a search with a locator panics; only a CSS selector is read by slicing. -/
def searchFault? (l : Locator) : Option Text.SliceFault :=
  match l.strategy with
  | .css => cssFault? l.value
  | _ => none

end Locator

namespace Element

/-- The nodes below `e` that a locator finds, searched the way the page does it: the compounds
of a CSS selector are all read by byte offsets first, and the search fails at the first
slice that falls inside a character. -/
def locateAllUtf8 (e : Element) (l : Locator) : Except Text.SliceFault (List (Path × Element)) :=
  match l.strategy with
  | .css =>
    (((Text.words l.value).filter (· != ">")).mapM fun w => Compound.parseUtf8 w.toList).map
      fun steps => match steps with
        | [] => []
        | first :: rest =>
          rest.foldl (fun cur c => stepBelow c cur) (e.descendants.filter fun d => first.selects d.2)
  | _ => .ok (e.locateAll l)

end Element

end TableBind
