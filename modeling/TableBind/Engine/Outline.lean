import TableBind.Engine.Basic

/-! Outlines of an engine and of its page, as the inspection outputs show them. An element
shows its tag, id, classes, attributes sorted by name, raw own text, children and the waits
recorded on it; the registry shows the kinds it serves, sorted and without repeats. -/

namespace TableBind

namespace Element

mutual
/-- The outline of the element at `path`, with the waits recorded on it. -/
def outlineAt (waits : List (Path × Locator)) (path : Path) : Element → String
  | ⟨tag, id, classes, attrs, text, children, _⟩ =>
    Outline.record "MockElement"
      [("tag", Outline.text tag),
       ("id", Outline.option (id.map Outline.text)),
       ("classes", Outline.seq (classes.map Outline.text)),
       ("attributes", Outline.map ((attrs.mergeSort fun a b => decide (a.1 ≤ b.1)).map
          fun a => (Outline.text a.1, Outline.text a.2))),
       ("text", Outline.text text),
       ("children", Outline.seq (outlineChildren waits path 0 children)),
       ("waits", "Mutex \x7b data: " ++
          Outline.seq ((waits.filter (·.1 == path)).map (·.2.outline)) ++ ", poisoned: false, .. \x7d")]
def outlineChildren (waits : List (Path × Locator)) (path : Path) : Nat → List Element → List String
  | _, [] => []
  | i, c :: cs => outlineAt waits (path ++ [i]) c :: outlineChildren waits path (i + 1) cs
end

end Element

def sortedKinds (entries : List (String × Action)) : List String :=
  ((entries.map (·.1)).mergeSort fun a b => decide (a ≤ b)).eraseDups

def Registry.outline (r : Registry) : String :=
  Outline.record "ServiceRegistry"
    [("insertion", Outline.seq ((sortedKinds r.insertion).map Outline.text)),
     ("filter", Outline.seq ((sortedKinds r.filter).map Outline.text))]

/-- The outline of a schema cache holding `n` schemas. -/
def cacheOutline (n : Nat) : String := Outline.record "SchemaCache" [("entries", toString n)]

/-- The outline of an engine in a session. -/
def Engine.outline (e : Engine) (s : Session) : String :=
  Outline.record "TableEngine"
    [("root", e.root.outlineAt s.waits [] ),
     ("registry", Outline.option (e.registry.map Registry.outline)),
     ("sorter", Outline.bool e.sorter.isSome),
     ("cache", if e.caching then Outline.option (some (cacheOutline (if s.cached then 1 else 0))) else "None")]

end TableBind
