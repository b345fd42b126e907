import TableBind.Text.Outline

/-! Routes: how a value reaches a cell, or a filter reaches a column. A route either names a
component, which a registered service of that kind carries out, or runs an action of its
own. Each route has an order: an insertion plan runs the routes by increasing order. Two
routes with actions of their own are equal when their orders are. -/

namespace TableBind

/-- A kind of on-page component and the key of the variant wanted. -/
structure Component where
  kind : String
  key : String
  deriving DecidableEq, Repr

def Component.render (c : Component) : String := c.kind ++ ":" ++ c.key

/-- What a service or an action does when called: it records the call, or records it and
then fails with a message. -/
inductive Action where
  | record
  | fail (message : String)
  deriving DecidableEq, Repr

inductive Target where
  | component (c : Component)
  | custom (act : Action)
  deriving Repr

/-- A route: a target and the order it runs in. -/
structure Route where
  target : Target
  order : Int
  deriving Repr

namespace Route

def component? (r : Route) : Option Component :=
  match r.target with
  | .component c => some c
  | .custom _ => none

/-- Route equality: the same component and order, or two actions with the same order. -/
def same (a b : Route) : Bool :=
  match a.target, b.target with
  | .component c, .component d => c == d && a.order == b.order
  | .custom _, .custom _ => a.order == b.order
  | _, _ => false

/-- The outline of a route, such as `Custom { order: 0 }`. -/
def outline (r : Route) : String :=
  match r.target with
  | .component c =>
    Outline.record "Component"
      [("component", Outline.record "ComponentType" [("kind", Outline.text c.kind), ("key", Outline.text c.key)]),
       ("order", toString r.order)]
  | .custom _ => Outline.record "Custom" [("order", toString r.order)]

end Route

end TableBind
