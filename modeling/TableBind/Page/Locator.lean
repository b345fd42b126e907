import TableBind.Text.Outline

/-! Locators: a strategy (CSS, XPath, id, test id or text) and a value. The text form is
`strategy=value`; a text whose part before the first `=` is no strategy name is a CSS selector
made of the whole text. -/

namespace TableBind

/-- How a locator searches. -/
inductive Strategy where
  | css
  | xpath
  | id
  | testId
  | text
  deriving DecidableEq, Repr

namespace Strategy

def keyword : Strategy → String
  | css => "css"
  | xpath => "xpath"
  | id => "id"
  | testId => "testid"
  | text => "text"

/-- The strategy with a given name; names are case-sensitive. -/
def ofKeyword? : String → Option Strategy
  | "css" => some css
  | "xpath" => some xpath
  | "id" => some id
  | "testid" => some testId
  | "text" => some text
  | _ => none

def label : Strategy → String
  | css => "Css"
  | xpath => "XPath"
  | id => "Id"
  | testId => "TestId"
  | text => "Text"

theorem ofKeyword?_keyword (s : Strategy) : ofKeyword? s.keyword = some s := by
  cases s <;> rfl

theorem keyword_of_ofKeyword? {w : String} {s : Strategy} (h : ofKeyword? w = some s) :
    s.keyword = w := by
  unfold ofKeyword? at h
  split at h <;> (try simp at h) <;> (subst h; rfl)

end Strategy

/-- A search for elements: a strategy and its value. -/
structure Locator where
  strategy : Strategy
  value : String
  deriving DecidableEq, Repr

namespace Locator

def css (value : String) : Locator := ⟨.css, value⟩

def render (l : Locator) : String := l.strategy.keyword ++ "=" ++ l.value

instance : ToString Locator := ⟨render⟩

def parseChars (cs : List Char) : Locator :=
  match cs.span (· != '=') with
  | (pre, _ :: rest) =>
    match Strategy.ofKeyword? (String.ofList pre) with
    | some s => ⟨s, String.ofList rest⟩
    | none => ⟨.css, String.ofList cs⟩
  | (_, []) => ⟨.css, String.ofList cs⟩

/-- Reads the text form of a locator. A text without `=`, or whose part before the first
`=` is not a strategy name, is a CSS selector with the whole text as value. -/
def parse (raw : String) : Locator := parseChars raw.toList

/-- The outline of a locator, such as `Css("td")`. -/
def outline (l : Locator) : String := Outline.variant l.strategy.label [Outline.text l.value]

end Locator

end TableBind
