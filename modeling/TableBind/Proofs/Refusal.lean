import TableBind.Proofs.Derive

/-! When deriving refuses a type definition, and which error it reports. Each attribute list is
read by a fold whose step fails on an item whatever came before, so a fold fails at its first
bad item; deriving fails at the first of the shape, a table attribute, a missing container, rows
or header row, and a field. -/

namespace TableBind.Derive

/-- The error an outcome carries, if any. -/
def errorOf {ε α : Type} : Except ε α → Option ε
  | .error e => some e
  | .ok _ => none

section Errors

variable {ε α β : Type}

@[simp] theorem errorOf_ok (a : α) : errorOf (.ok a : Except ε α) = none := rfl

@[simp] theorem errorOf_error (e : ε) : errorOf (.error e : Except ε α) = some e := rfl

theorem errorOf_eq_none_iff {x : Except ε α} : errorOf x = none ↔ ∃ a, x = .ok a := by
  cases x <;> simp

theorem errorOf_eq_some_iff {x : Except ε α} {e : ε} : errorOf x = some e ↔ x = .error e := by
  cases x <;> simp

/-- A fold whose step fails on an element whatever the accumulator fails at the first element
it fails on. -/
theorem errorOf_foldlM {f : β → α → Except ε β} {err : α → Option ε}
    (hf : ∀ acc x, errorOf (f acc x) = err x) (xs : List α) (init : β) :
    errorOf (xs.foldlM f init) = xs.findSome? err := by
  induction xs generalizing init with
  | nil => rfl
  | cons x xs ih =>
    rw [List.foldlM_cons, List.findSome?_cons, ← hf init x]
    cases f init x with
    | error e => rfl
    | ok acc => exact ih acc

theorem errorOf_foldlM_eq_none {f : β → α → Except ε β} {P : α → Prop} {xs : List α}
    (hf : ∀ x ∈ xs, ∀ acc, errorOf (f acc x) = none ↔ P x) (init : β) :
    errorOf (xs.foldlM f init) = none ↔ ∀ x ∈ xs, P x := by
  induction xs generalizing init with
  | nil => exact iff_of_true rfl (by simp)
  | cons x xs ih =>
    rw [List.foldlM_cons, List.forall_mem_cons, ← hf x List.mem_cons_self init]
    cases f init x with
    | error e => simp
    | ok acc => simpa using ih (fun y hy => hf y (List.mem_cons_of_mem x hy)) acc

@[simp] theorem errorOf_map (g : α → β) (x : Except ε α) : errorOf (g <$> x) = errorOf x := by
  cases x <;> rfl

theorem errorOf_bind_pure (x : Except ε α) (g : α → β) :
    errorOf (x >>= fun a => pure (g a)) = errorOf x := by
  cases x <;> rfl

theorem errorOf_bind_of_const {x : Except ε α} {k : α → Except ε β} {e : Option ε}
    (hk : ∀ a, errorOf (k a) = e) : errorOf (x >>= k) = (errorOf x).or e := by
  cases x <;> simp [bind, Except.bind, hk]

end Errors

/-! ### Items -/

def MetaItem.IsStringLit (m : MetaItem) : Prop :=
  ∃ t toks s, m.args = .value (.lit t) toks ∧ isStrText t = true ∧ strValue t = some s

/-- An item `key = "..."`. -/
def StrItem (key : String) (m : MetaItem) : Prop := m.name = some key ∧ m.IsStringLit

theorem errorOf_stringValue (key : String) (m : MetaItem) :
    errorOf (stringValue key m) = none ↔ m.IsStringLit := by
  unfold stringValue MetaItem.IsStringLit
  split
  · next t toks hargs =>
    by_cases ht : isStrText t = true
    · cases hs : strValue t with
      | none => simp [ht, hs, hargs]
      | some s => simp [ht, hs, hargs]
    · simp [ht, hargs]
  · next hargs =>
    simp only [errorOf_error, reduceCtorEq, false_iff, not_exists, not_and]
    intro t toks s h
    exact absurd h (hargs t toks)

theorem StrItem.args {key : String} {m : MetaItem} (h : StrItem key m) : ∃ sh ts, m.args = .value sh ts := by
  obtain ⟨-, t, toks, -, hargs, -⟩ := h
  exact ⟨_, _, hargs⟩

theorem StrItem.elim {key : String} {m : MetaItem} (h : StrItem key m)
    (hno : ∀ sh ts, m.name = some key → m.args = .value sh ts → False) : False := by
  obtain ⟨sh, ts, hargs⟩ := h.args
  exact hno sh ts h.1 hargs

def MetaItem.ListsItems (m : MetaItem) (items : List MetaItem) : Prop :=
  ∃ ts, m.args = .list ts ∧ listItems ts = .ok items

theorem argItems_eq_ok {name : String} {m : MetaItem} {items : List MetaItem} :
    argItems name m = .ok items ↔ m.ListsItems items := by
  unfold argItems MetaItem.ListsItems
  split <;> simp [*]

def Given (key : String) (items : List MetaItem) : Prop := ∃ i ∈ items, i.name = some key

instance (key : String) (items : List MetaItem) : Decidable (Given key items) :=
  inferInstanceAs (Decidable (∃ i ∈ items, i.name = some key))

theorem errorOf_argItems_bind {β : Type} (name : String) (m : MetaItem)
    {k : List MetaItem → Except String β} {P : List MetaItem → Prop}
    (hk : ∀ items, m.ListsItems items → (errorOf (k items) = none ↔ P items)) :
    errorOf (argItems name m >>= k) = none ↔ ∃ items, m.ListsItems items ∧ P items := by
  cases ha : argItems name m with
  | error e =>
    simp only [bind, Except.bind, errorOf_error, reduceCtorEq, false_iff, not_exists, not_and]
    intro items hl
    have hok : argItems name m = .ok items := argItems_eq_ok.2 hl
    rw [ha] at hok
    cases hok
  | ok items =>
    have hl : m.ListsItems items := argItems_eq_ok.1 ha
    simp only [bind, Except.bind]
    rw [hk items hl]
    constructor
    · exact fun h => ⟨items, hl, h⟩
    · rintro ⟨items', hl', h⟩
      have hok : argItems name m = .ok items' := argItems_eq_ok.2 hl'
      rw [ha] at hok
      cases hok
      exact h

theorem lastGiven_isSome_iff {β : Type} (f : MetaItem → Option β) (items : List MetaItem) :
    (lastGiven f items).isSome ↔ ∃ i ∈ items, (f i).isSome := by
  simp [lastGiven, Option.isSome_iff_ne_none]

theorem textItem_isSome_iff (key : String) (m : MetaItem) :
    (textItem key m).isSome ↔ StrItem key m := by
  unfold textItem StrItem
  by_cases hname : m.name = some key
  · rw [← errorOf_stringValue key]
    cases stringValue key m <;> simp [hname, Except.toOption]
  · simp [hname]

theorem lastText_isSome_iff {key : String} {items : List MetaItem}
    (h : ∀ i ∈ items, i.name = some key → StrItem key i) :
    (lastText key items).isSome ↔ Given key items := by
  rw [lastText, lastGiven_isSome_iff, Given]
  constructor
  · rintro ⟨i, hi, hs⟩
    exact ⟨i, hi, ((textItem_isSome_iff key i).1 hs).1⟩
  · rintro ⟨i, hi, hn⟩
    exact ⟨i, hi, (textItem_isSome_iff key i).2 (h i hi hn)⟩

theorem StrItem.name_eq {key key' : String} {m : MetaItem} (h : StrItem key m)
    (h' : m.name = some key') : key = key' := by
  simpa [h.1] using h'

/-! ### Sections -/

/-- The items of a `section(...)`: each a name or rows given as a string, both present. -/
def SectionArgs (items : List MetaItem) : Prop :=
  (∀ i ∈ items, StrItem "name" i ∨ StrItem "rows" i) ∧ Given "name" items ∧ Given "rows" items

theorem errorOf_sectionStep (acc : Option String × Option String) (m : MetaItem) :
    errorOf (sectionStep acc m) = none ↔ StrItem "name" m ∨ StrItem "rows" m := by
  unfold sectionStep
  split
  · next hname _ => simp [StrItem, hname, errorOf_stringValue]
  · next hname _ => simp [StrItem, hname, errorOf_stringValue]
  · next hname hrows =>
    simp only [errorOf_error, reduceCtorEq, false_iff, not_or]
    exact ⟨fun h => h.elim hname, fun h => h.elim hrows⟩

theorem sectionArgs_iff (items : List MetaItem) :
    SectionArgs items ↔ ∃ n r, items.foldlM sectionStep (none, none) = .ok (some n, some r) := by
  have hall : errorOf (items.foldlM sectionStep (none, none)) = none ↔
      ∀ i ∈ items, StrItem "name" i ∨ StrItem "rows" i :=
    errorOf_foldlM_eq_none (fun x _ acc => errorOf_sectionStep acc x) _
  -- among name and rows items, an item named `name` or `rows` gives its string
  have hkey : (∀ i ∈ items, StrItem "name" i ∨ StrItem "rows" i) →
      (∀ i ∈ items, i.name = some "name" → StrItem "name" i) ∧
        ∀ i ∈ items, i.name = some "rows" → StrItem "rows" i := by
    intro hvalid
    refine ⟨fun i hi hn => ?_, fun i hi hn => ?_⟩
    · exact (hvalid i hi).resolve_right fun hs => absurd (hs.name_eq hn) (by simp)
    · exact (hvalid i hi).resolve_left fun hs => absurd (hs.name_eq hn) (by simp)
  constructor
  · rintro ⟨hvalid, hname, hrows⟩
    obtain ⟨p, hp⟩ := errorOf_eq_none_iff.1 (hall.2 hvalid)
    obtain ⟨h1, h2⟩ := foldlM_sectionStep hp
    obtain ⟨n, hn⟩ := Option.isSome_iff_exists.1 ((lastText_isSome_iff (hkey hvalid).1).2 hname)
    obtain ⟨r, hr⟩ := Option.isSome_iff_exists.1 ((lastText_isSome_iff (hkey hvalid).2).2 hrows)
    have hp' : p = (some n, some r) := by
      simp only [Option.or_none] at h1 h2
      exact Prod.ext (h1.trans hn) (h2.trans hr)
    exact ⟨n, r, by rw [hp, hp']⟩
  · rintro ⟨n, r, h⟩
    have hvalid := hall.1 (by rw [h]; rfl)
    obtain ⟨h1, h2⟩ := foldlM_sectionStep h
    simp only [Option.or_none] at h1 h2
    refine ⟨hvalid, (lastText_isSome_iff (hkey hvalid).1).1 ?_,
      (lastText_isSome_iff (hkey hvalid).2).1 ?_⟩
    · rw [← h1]; rfl
    · rw [← h2]; rfl

/-! ### Table attributes -/

/-- An item of `#[table(...)]`: a container, rows or header row string, or a section. -/
def TableItem (m : MetaItem) : Prop :=
  StrItem "container" m ∨ StrItem "rows" m ∨ StrItem "header_row" m ∨
    (m.name = some "section" ∧ ∃ items, m.ListsItems items ∧ SectionArgs items)

theorem errorOf_tableStep (acc : TableAttr) (m : MetaItem) :
    errorOf (tableStep acc m) = none ↔ TableItem m := by
  unfold tableStep TableItem
  split
  · next hname _ => simp [StrItem, hname, errorOf_stringValue]
  · next hname _ => simp [StrItem, hname, errorOf_stringValue]
  · next hname _ => simp [StrItem, hname, errorOf_stringValue]
  · next ts hname hargs =>
    simp only [StrItem, hname, MetaItem.ListsItems, hargs, Option.some.injEq, true_and,
      MetaArgs.list.injEq, exists_eq_left']
    cases hl : listItems ts with
    | error e => simp [bind, Except.bind]
    | ok items =>
      simp only [bind, Except.bind, Except.ok.injEq, exists_eq_left', sectionArgs_iff]
      cases hf : items.foldlM sectionStep (none, none) with
      | error e => simp
      | ok p =>
        obtain ⟨_ | n, _ | r⟩ := p <;> simp [pure, Except.pure]
  · next hcontainer hrows hheader hsection =>
    simp only [errorOf_error, reduceCtorEq, false_iff, not_or, not_and, not_exists]
    -- every table item has one of the forms matched before
    exact ⟨fun h => h.elim hcontainer, fun h => h.elim hrows, fun h => h.elim hheader,
      fun h _ hl _ => hl.elim fun ts hts => hsection ts h hts.1⟩

def TableAttrOk (m : MetaItem) : Prop := ∃ items, m.ListsItems items ∧ ∀ i ∈ items, TableItem i

def tableAttrError (m : MetaItem) : Option String :=
  if m.name = some "table" then errorOf (argItems "table" m >>= fun items => items.foldlM tableStep {})
  else none

theorem tableAttrError_eq_none_iff (m : MetaItem) :
    tableAttrError m = none ↔ (m.name = some "table" → TableAttrOk m) := by
  unfold tableAttrError TableAttrOk
  by_cases hname : m.name = some "table"
  · simp only [hname, if_true, true_implies]
    exact errorOf_argItems_bind "table" m fun items _ =>
      errorOf_foldlM_eq_none (fun x _ acc => errorOf_tableStep acc x) _
  · simp [hname]

theorem errorOf_tableAttrs (attrs : List MetaItem) :
    errorOf (tableAttrs attrs) = attrs.findSome? tableAttrError := by
  unfold tableAttrs
  refine errorOf_foldlM (fun acc m => ?_) attrs ({} : TableAttr)
  unfold tableAttrError
  by_cases hname : m.name = some "table"
  · simp only [hname, beq_self_eq_true, if_true]
    cases argItems "table" m with
    | error e => rfl
    | ok items =>
      simp only [bind, Except.bind]
      cases items.foldlM tableStep {} <;> rfl
  · simp [hname, pure, Except.pure]

theorem tableItem_of_mem {attrs : List MetaItem}
    (hok : ∀ a ∈ attrs, a.name = some "table" → TableAttrOk a) {i : MetaItem}
    (hi : i ∈ tableItems attrs) : TableItem i := by
  simp only [tableItems, List.mem_flatMap, List.mem_filter, beq_iff_eq] at hi
  obtain ⟨a, ⟨ha, hname⟩, hi⟩ := hi
  obtain ⟨items, ⟨ts, hargs, hts⟩, hall⟩ := hok a ha hname
  rw [items_of_list hargs hts] at hi
  exact hall i hi

theorem TableItem.strItem {key : String} (hkey : key = "container" ∨ key = "rows" ∨ key = "header_row")
    {i : MetaItem} (h : TableItem i) (hn : i.name = some key) : StrItem key i := by
  rcases h with h | h | h | ⟨h, -⟩ <;> rcases hkey with rfl | rfl | rfl
  all_goals first | exact h | exact absurd (h.name_eq hn) (by simp) | simp [h] at hn

def missingError (key : String) (attrs : List MetaItem) : Option String :=
  if Given key (tableItems attrs) then none
  else some ("missing #[table(" ++ key ++ " = \"...\")] attribute")

theorem missingError_eq_none_iff (key : String) (attrs : List MetaItem) :
    missingError key attrs = none ↔ Given key (tableItems attrs) := by
  unfold missingError
  split_ifs with h <;> simp [h]

theorem errorOf_required_lastText {attrs : List MetaItem}
    (hok : ∀ a ∈ attrs, a.name = some "table" → TableAttrOk a) {key : String}
    (hkey : key = "container" ∨ key = "rows" ∨ key = "header_row") :
    errorOf (required key (lastText key (tableItems attrs))) = missingError key attrs := by
  have hsome := lastText_isSome_iff fun i hi hn => (tableItem_of_mem hok hi).strItem hkey hn
  unfold missingError
  cases hl : lastText key (tableItems attrs) with
  | none =>
    rw [hl] at hsome
    simp only [Option.isSome_none, Bool.false_eq_true, false_iff] at hsome
    simp [required, hsome]
  | some v =>
    rw [hl] at hsome
    simp only [Option.isSome_some, true_iff] at hsome
    simp [required, hsome]

theorem errorOf_required_bind {β : Type} {attrs : List MetaItem}
    (hok : ∀ a ∈ attrs, a.name = some "table" → TableAttrOk a) {key : String}
    (hkey : key = "container" ∨ key = "rows" ∨ key = "header_row") {k : String → Except String β}
    {e : Option String} (hk : ∀ v, errorOf (k v) = e) :
    errorOf (required key (lastText key (tableItems attrs)) >>= k) = (missingError key attrs).or e := by
  rw [errorOf_bind_of_const hk, errorOf_required_lastText hok hkey]

/-! ### Cell attributes -/

/-- An item of `#[cell(...)]`: the flag `direct_text`, or a locator, text, header or section
string. -/
def CellEntry (m : MetaItem) : Prop :=
  (m.name = some "direct_text" ∧ m.args = .none) ∨ StrItem "locator" m ∨ StrItem "text" m ∨
    StrItem "header" m ∨ StrItem "section" m

def CellAttrOk (m : MetaItem) : Prop :=
  m.args = .none ∨ ∃ items, m.ListsItems items ∧ ∀ i ∈ items, CellEntry i

theorem errorOf_cellStep (acc : CellAttr) (m : MetaItem) :
    errorOf (cellStep acc m) = none ↔ CellEntry m := by
  unfold cellStep CellEntry
  split
  · next hname hargs => simp [StrItem, hname, hargs, pure, Except.pure]
  · next hname _ => simp [StrItem, hname, errorOf_stringValue]
  · next hname _ => simp [StrItem, hname, errorOf_stringValue]
  · next hname _ => simp [StrItem, hname, errorOf_stringValue]
  · next hname _ => simp [StrItem, hname, errorOf_stringValue]
  · next hdirect hlocator htext hheader hsection =>
    simp only [errorOf_error, reduceCtorEq, false_iff, not_or, not_and]
    -- every cell item has one of the forms matched before
    exact ⟨hdirect, fun h => h.elim hlocator, fun h => h.elim htext, fun h => h.elim hheader,
      fun h => h.elim hsection⟩

/-! ### Orders -/

def Shape.intValue : Shape → Option Int
  | .lit t => (intLiteral t).map (·.1)
  | .neg (some t) => (intLiteral t).map fun p => -p.1
  | _ => none

def OrderFits (sh : Shape) : Prop := ∃ v, sh.intValue = some v ∧ -2147483648 ≤ v ∧ v ≤ 2147483647

/-- A negated literal of magnitude `2147483648`. The literal is read into 32 bits before it is
negated, so `-2147483648` is refused although it fits. -/
def Shape.negatedBound : Shape → Bool
  | .neg (some t) => (intLiteral t).any fun p => p.1.natAbs == 2147483648
  | _ => false

theorem errorOf_fitI32 (v : Int) : errorOf (fitI32 v) = none ↔ -2147483648 ≤ v ∧ v ≤ 2147483647 := by
  unfold fitI32
  split_ifs <;> simp <;> omega

theorem errorOf_orderValue (sh : Shape) (h : sh.negatedBound = false) :
    errorOf (orderValue sh) = none ↔ OrderFits sh := by
  unfold OrderFits
  cases sh with
  | lit t =>
    cases hl : intLiteral t with
    | none => simp [orderValue, Shape.intValue, hl]
    | some p => simp [orderValue, Shape.intValue, hl, errorOf_fitI32]
  | neg o =>
    cases o with
    | none => simp [orderValue, Shape.intValue]
    | some t =>
      cases hl : intLiteral t with
      | none => simp [orderValue, Shape.intValue, hl]
      | some p =>
        -- negation keeps the range except at its bounds, which the hypothesis excludes
        have hp : ¬(p.1 = 2147483648 ∨ p.1 = -2147483648) := by
          have := h
          simp only [Shape.negatedBound, hl, Option.any_some, beq_eq_false_iff_ne, ne_eq] at this
          rwa [Int.natAbs_eq_iff] at this
        have hmap : errorOf ((fitI32 p.1).map (- ·)) = errorOf (fitI32 p.1) := by
          cases fitI32 p.1 <;> rfl
        simp only [orderValue, Shape.intValue, hl, Option.map_some, Option.some.injEq,
          exists_eq_left', hmap, errorOf_fitI32]
        omega
  | _ => simp [orderValue, Shape.intValue]

/-! ### Route attributes -/

/-- An item of `#[insert(...)]` or `#[filter(...)]`: a component or key string, a custom
function given as any expression, or an order that fits. -/
def RouteEntry (m : MetaItem) : Prop :=
  StrItem "component" m ∨ StrItem "key" m ∨ (m.name = some "custom" ∧ ∃ sh ts, m.args = .value sh ts) ∨
    (m.name = some "order" ∧ ∃ sh ts, m.args = .value sh ts ∧ OrderFits sh)

def MetaItem.negatedBoundOrder (m : MetaItem) : Bool :=
  m.name == some "order" &&
    match m.args with
    | .value sh _ => sh.negatedBound
    | _ => false

theorem errorOf_routeStep (acc : RouteItems) (m : MetaItem) (h : m.negatedBoundOrder = false) :
    errorOf (routeStep acc m) = none ↔ RouteEntry m := by
  obtain ⟨component, key, custom, order⟩ := acc
  unfold routeStep RouteEntry
  dsimp only
  split
  · next hname _ => simp [StrItem, hname, errorOf_stringValue]
  · next hname _ => simp [StrItem, hname, errorOf_stringValue]
  · next toks hname hargs => simp [StrItem, hname, hargs, pure, Except.pure]
  · next sh toks hname hargs =>
    have hbound : sh.negatedBound = false := by
      simpa [MetaItem.negatedBoundOrder, hname, hargs] using h
    simp only [StrItem, hname, hargs, Option.some.injEq, MetaArgs.value.injEq]
    rw [errorOf_bind_pure, errorOf_orderValue sh hbound]
    simp
  · next hcomponent hkey hcustom horder =>
    simp only [errorOf_error, reduceCtorEq, false_iff, not_or, not_and, not_exists]
    -- every route item has one of the forms matched before
    exact ⟨fun h => h.elim hcomponent, fun h => h.elim hkey, fun h sh ts hargs => hcustom sh ts h hargs,
      fun h sh ts hargs _ => horder sh ts h hargs⟩

/-- The items of a route: each a route item; a component and no custom function, or a custom
function with neither a component nor a key. -/
def RouteArgs (items : List MetaItem) : Prop :=
  (∀ i ∈ items, RouteEntry i) ∧
    ((Given "component" items ∧ ¬Given "custom" items) ∨
      (¬Given "component" items ∧ Given "custom" items ∧ ¬Given "key" items))

def RouteAttrOk (m : MetaItem) : Prop := ∃ items, m.ListsItems items ∧ RouteArgs items

theorem RouteEntry.strItem {key : String} (hkey : key = "component" ∨ key = "key") {i : MetaItem}
    (h : RouteEntry i) (hn : i.name = some key) : StrItem key i := by
  rcases h with h | h | ⟨h, -⟩ | ⟨h, -⟩ <;> rcases hkey with rfl | rfl
  all_goals first | exact h | exact absurd (h.name_eq hn) (by simp) | simp [h] at hn

theorem RouteEntry.custom {i : MetaItem} (h : RouteEntry i) (hn : i.name = some "custom") :
    ∃ sh ts, i.args = .value sh ts := by
  rcases h with h | h | ⟨-, h⟩ | ⟨h, -⟩
  · exact h.args
  · exact h.args
  · exact h
  · simp [h] at hn

theorem customItem_isSome_iff (m : MetaItem) :
    (customItem m).isSome ↔ m.name = some "custom" ∧ ∃ sh ts, m.args = .value sh ts := by
  unfold customItem
  by_cases hname : m.name = some "custom"
  · cases hargs : m.args <;> simp [hname]
  · simp [hname]

theorem errorOf_routeAttr (items : List MetaItem) (h : ∀ i ∈ items, i.negatedBoundOrder = false) :
    errorOf (routeAttr items) = none ↔ RouteArgs items := by
  have hall : errorOf (items.foldlM routeStep (none, none, none, 0)) = none ↔
      ∀ i ∈ items, RouteEntry i :=
    errorOf_foldlM_eq_none (fun x hx acc => errorOf_routeStep acc x (h x hx)) _
  unfold routeAttr RouteArgs
  cases hfold : items.foldlM routeStep (none, none, none, 0) with
  | error e =>
    rw [hfold] at hall
    simp only [errorOf_error, reduceCtorEq, false_iff] at hall
    simp only [bind, Except.bind, errorOf_error, reduceCtorEq, false_iff, not_and]
    exact fun hvalid => absurd hvalid hall
  | ok r =>
    obtain ⟨c, k, cu, o⟩ := r
    have hvalid := hall.1 (by rw [hfold]; rfl)
    -- what the fold read is what the items give last
    have hc := foldlM_lastGiven Prod.fst (textItem "component")
      (fun _ _ _ h => (routeStep_view h).1) hfold
    have hk := foldlM_lastGiven (fun acc : RouteItems => acc.2.1) (textItem "key")
      (fun _ _ _ h => (routeStep_view h).2.1) hfold
    have hcu := foldlM_lastGiven (fun acc : RouteItems => acc.2.2.1) customItem
      (fun _ _ _ h => (routeStep_view h).2.2.1) hfold
    simp only [Option.or_none] at hc hk hcu
    have hcs : c.isSome ↔ Given "component" items := by
      rw [hc]
      exact lastText_isSome_iff fun i hi hn => (hvalid i hi).strItem (.inl rfl) hn
    have hks : k.isSome ↔ Given "key" items := by
      rw [hk]
      exact lastText_isSome_iff fun i hi hn => (hvalid i hi).strItem (.inr rfl) hn
    have hcus : cu.isSome ↔ Given "custom" items := by
      rw [hcu, lastGiven_isSome_iff, Given]
      constructor
      · rintro ⟨i, hi, hs⟩
        exact ⟨i, hi, ((customItem_isSome_iff i).1 hs).1⟩
      · rintro ⟨i, hi, hn⟩
        exact ⟨i, hi, (customItem_isSome_iff i).2 ⟨hn, (hvalid i hi).custom hn⟩⟩
    rw [and_iff_right hvalid, ← hcs, ← hks, ← hcus]
    -- exactly one of component and custom; a key only with a component
    cases c <;> cases cu <;> cases k <;> simp [bind, Except.bind, pure, Except.pure]

/-! ### Field attributes -/

/-- The attributes a field may carry at most once. -/
def fieldSlots : List String := ["cell", "insert", "filter"]

def FieldAttrs.holds (fa : FieldAttrs) : String → Bool
  | "cell" => fa.cell.isSome
  | "insert" => fa.insert.isSome
  | "filter" => fa.filter.isSome
  | _ => false

@[simp] theorem FieldAttrs.holds_empty (s : String) : ({} : FieldAttrs).holds s = false := by
  unfold holds
  split <;> rfl

/-- A field attribute: a cell attribute is bare or lists cell items; an insert or filter
attribute lists route items. Other attributes are left alone. -/
def AttrOk (m : MetaItem) : Prop :=
  (m.name = some "cell" → CellAttrOk m) ∧
    (m.name = some "insert" ∨ m.name = some "filter" → RouteAttrOk m)

def MetaItem.routeItems (m : MetaItem) : List MetaItem :=
  if m.name = some "insert" ∨ m.name = some "filter" then m.items else []

theorem errorOf_routeAttr_bind {β : Type} (name : String) (m : MetaItem)
    (h : ∀ i ∈ m.items, i.negatedBoundOrder = false) (g : RouteAttr → β) :
    errorOf (argItems name m >>= fun items => g <$> routeAttr items) = none ↔ RouteAttrOk m :=
  errorOf_argItems_bind name m fun items ⟨_, hargs, hts⟩ => by
    rw [errorOf_map]
    exact errorOf_routeAttr items fun i hi => h i (by rwa [items_of_list hargs hts])

theorem errorOf_cellAttr_bind {β : Type} (m : MetaItem) (g : CellAttr → β) :
    errorOf (argItems "cell" m >>= fun items => g <$> items.foldlM cellStep {}) = none ↔
      ∃ items, m.ListsItems items ∧ ∀ i ∈ items, CellEntry i :=
  errorOf_argItems_bind "cell" m fun _ _ => by
    rw [errorOf_map]
    exact errorOf_foldlM_eq_none (fun x _ acc => errorOf_cellStep acc x) _

theorem errorOf_fieldStep (acc : FieldAttrs) (m : MetaItem)
    (h : ∀ i ∈ m.routeItems, i.negatedBoundOrder = false) :
    errorOf (fieldStep acc m) = none ↔
      (∀ s ∈ fieldSlots, m.name = some s → acc.holds s = false) ∧ AttrOk m := by
  unfold fieldStep AttrOk
  split
  case h_1 hname =>
    simp only [fieldSlots, hname, List.mem_cons, Option.some.injEq, forall_eq_or_imp,
      FieldAttrs.holds]
    split_ifs with hc
    · simp [hc]
    · simp only [Option.not_isSome_iff_eq_none.1 hc]
      split
      · next hargs => simp [hargs, CellAttrOk, pure, Except.pure]
      · next hargs =>
        simp only [imp_false] at hargs
        simp [hargs, CellAttrOk, errorOf_cellAttr_bind]
  -- an insert or filter attribute is read the same way, into its own slot
  case h_2 hname | h_3 hname =>
    have hitems : ∀ i ∈ m.items, i.negatedBoundOrder = false := by
      simpa [MetaItem.routeItems, hname] using h
    simp only [fieldSlots, hname, List.mem_cons, Option.some.injEq, forall_eq_or_imp,
      FieldAttrs.holds]
    split_ifs with hi
    · simp [hi]
    · simp [Option.not_isSome_iff_eq_none.1 hi, errorOf_routeAttr_bind _ m hitems]
  case h_4 hcell hinsert hfilter =>
    simp only [imp_false] at hcell hinsert hfilter
    simp [fieldSlots, hcell, hinsert, hfilter, pure, Except.pure]

theorem fieldStep_holds {acc acc' : FieldAttrs} {m : MetaItem} (h : fieldStep acc m = .ok acc')
    {s : String} (hs : s ∈ fieldSlots) : acc'.holds s = (acc.holds s || m.name == some s) := by
  unfold fieldStep at h
  simp only [fieldSlots, List.mem_cons, List.not_mem_nil, or_false] at hs
  split at h
  case h_1 hname =>
    split_ifs at h
    split at h
    · simp only [pure, Except.pure, Except.ok.injEq] at h
      subst h
      rcases hs with rfl | rfl | rfl <;> simp [FieldAttrs.holds, hname]
    · obtain ⟨items, -, h⟩ := Except.bind_eq_ok.1 h
      obtain ⟨c, -, rfl⟩ := bind_pure_ok h
      rcases hs with rfl | rfl | rfl <;> simp [FieldAttrs.holds, hname]
  case h_2 hname | h_3 hname =>
    split_ifs at h
    obtain ⟨items, -, h⟩ := Except.bind_eq_ok.1 h
    obtain ⟨r, -, rfl⟩ := bind_pure_ok h
    rcases hs with rfl | rfl | rfl <;> simp [FieldAttrs.holds, hname]
  case h_4 hcell hinsert hfilter =>
    simp only [imp_false] at hcell hinsert hfilter
    simp only [pure, Except.pure, Except.ok.injEq] at h
    subst h
    rcases hs with rfl | rfl | rfl <;> simp [hcell, hinsert, hfilter]

def slotCount (s : String) (attrs : List MetaItem) : Nat := attrs.countP (·.name == some s)

/-- Reading a field's attributes after `acc` succeeds exactly when each attribute is right,
no slot is given twice, and no slot `acc` holds is given again. -/
theorem errorOf_foldlM_fieldStep (attrs : List MetaItem) (acc : FieldAttrs)
    (h : ∀ a ∈ attrs, ∀ i ∈ a.routeItems, i.negatedBoundOrder = false) :
    errorOf (attrs.foldlM fieldStep acc) = none ↔
      (∀ s ∈ fieldSlots, (acc.holds s = true → slotCount s attrs = 0) ∧ slotCount s attrs ≤ 1) ∧
        ∀ a ∈ attrs, AttrOk a := by
  induction attrs generalizing acc with
  | nil => simp [slotCount, pure, Except.pure]
  | cons a rest ih =>
    have hstep := errorOf_fieldStep acc a (h a List.mem_cons_self)
    rw [List.foldlM_cons, List.forall_mem_cons]
    cases hs : fieldStep acc a with
    | error e =>
      rw [hs, errorOf_error] at hstep
      simp only [reduceCtorEq, false_iff, not_and] at hstep
      simp only [bind, Except.bind, errorOf_error, reduceCtorEq, false_iff, not_and]
      intro hslots hattr
      -- the step failed on a slot already held, which the counts forbid
      refine absurd hattr (hstep fun s hs' hn => ?_)
      by_contra hheld
      have := (hslots s hs').1 (by simpa using hheld)
      simp [slotCount, hn] at this
    | ok acc' =>
      rw [hs, errorOf_ok] at hstep
      obtain ⟨hpre, hattr⟩ := hstep.1 rfl
      simp only [bind, Except.bind]
      rw [ih acc' fun b hb => h b (List.mem_cons_of_mem a hb)]
      simp only [hattr, true_and]
      refine and_congr_left' (forall₂_congr fun s hs' => ?_)
      rw [fieldStep_holds hs hs']
      by_cases hn : a.name = some s
      · simp only [slotCount, List.countP_cons, hn, beq_self_eq_true, hpre s hs' hn, Bool.or_true,
          Bool.false_eq_true, if_true, true_implies, false_implies, true_and]
        omega
      · simp [slotCount, hn]

theorem fieldAttrs_holds {attrs : List MetaItem} {fa : FieldAttrs} (h : fieldAttrs attrs = .ok fa)
    {s : String} (hs : s ∈ fieldSlots) : fa.holds s = attrs.any (·.name == some s) := by
  rw [foldlM_view (fun fa : FieldAttrs => fa.holds s) (fun b m => b || m.name == some s)
    (fun _ _ _ h => fieldStep_holds h hs) attrs {} fa h, foldl_or_any, FieldAttrs.holds_empty,
    Bool.false_or]

theorem given_iff_any (key : String) (items : List MetaItem) :
    Given key items ↔ items.any (·.name == some key) = true := by
  simp [Given]

def fieldError (f : Field) : Option String := errorOf (fieldsCode [f])

theorem errorOf_fieldsCode (fs : List Field) : errorOf (fieldsCode fs) = fs.findSome? fieldError := by
  induction fs with
  | nil => rfl
  | cons f rest ih =>
    rw [List.findSome?_cons, ← ih, fieldError]
    simp only [fieldsCode]
    cases fieldAttrs f.attrs with
    | error e => rfl
    | ok fa =>
      simp only [bind, Except.bind]
      cases fa.cell with
      | none =>
        by_cases hroute : (fa.insert.isSome || fa.filter.isSome) = true
        · simp [hroute]
        · simp [hroute, ih]
      | some cell =>
        -- a bound field fails the same way as the fields after it
        cases fieldsCode rest <;> rfl

theorem errorOf_fieldsCode_bind {β : Type} (fs : List Field) (g : List Tok × List Tok → β) :
    errorOf (fieldsCode fs >>= fun p => pure (g p)) = fs.findSome? fieldError := by
  rw [errorOf_bind_pure, errorOf_fieldsCode]

/-- A field: no cell, insert or filter attribute twice, each attribute right, and an insert or
filter attribute only beside a cell attribute. -/
def FieldOk (f : Field) : Prop :=
  (∀ s ∈ fieldSlots, slotCount s f.attrs ≤ 1) ∧ (∀ a ∈ f.attrs, AttrOk a) ∧
    (Given "insert" f.attrs ∨ Given "filter" f.attrs → Given "cell" f.attrs)

theorem fieldError_eq_none_iff (f : Field)
    (h : ∀ a ∈ f.attrs, ∀ i ∈ a.routeItems, i.negatedBoundOrder = false) :
    fieldError f = none ↔ FieldOk f := by
  have hattrs : errorOf (fieldAttrs f.attrs) = none ↔
      (∀ s ∈ fieldSlots, slotCount s f.attrs ≤ 1) ∧ ∀ a ∈ f.attrs, AttrOk a := by
    rw [fieldAttrs, errorOf_foldlM_fieldStep f.attrs {} h]
    simp
  unfold fieldError FieldOk
  simp only [fieldsCode]
  cases hfa : fieldAttrs f.attrs with
  | error e =>
    rw [hfa] at hattrs
    simp only [errorOf_error, reduceCtorEq, false_iff] at hattrs
    simp only [bind, Except.bind, errorOf_error, reduceCtorEq, false_iff]
    rintro ⟨hslots, hok, -⟩
    exact hattrs ⟨hslots, hok⟩
  | ok fa =>
    rw [hfa, errorOf_ok] at hattrs
    obtain ⟨hslots, hok⟩ := hattrs.1 rfl
    -- the slots read are those the attributes name
    have hgiven : ∀ s ∈ fieldSlots, (fa.holds s = true ↔ Given s f.attrs) := fun s hs => by
      rw [given_iff_any, fieldAttrs_holds hfa hs]
    have hcell := hgiven "cell" (by simp [fieldSlots])
    have hinsert := hgiven "insert" (by simp [fieldSlots])
    have hfilter := hgiven "filter" (by simp [fieldSlots])
    simp only [FieldAttrs.holds] at hcell hinsert hfilter
    rw [and_iff_right hslots, and_iff_right hok, ← hcell, ← hinsert, ← hfilter]
    simp only [bind, Except.bind]
    cases fa.cell with
    | none =>
      -- without a cell attribute, an insert or filter attribute is refused
      cases fa.insert <;> cases fa.filter <;> simp
    | some cell => simp [pure, Except.pure]

/-! ### Deriving -/

/-- The error deriving reports, found in the order the checks run: the shape of the type,
each table attribute in order, a missing container, rows and header row, and each field in
order. -/
def firstRefusal (it : Item) : Option String :=
  match it.body with
  | .named fs =>
    (it.attrs.findSome? tableAttrError).or <|
      (missingError "container" it.attrs).or <| (missingError "rows" it.attrs).or <|
        (missingError "header_row" it.attrs).or (fs.findSome? fieldError)
  | .tuple | .unit => some "TableRow can only be derived for structs with named fields"
  | .enum | .union => some "TableRow can only be derived for structs"

theorem errorOf_generate (it : Item) : errorOf (generate it) = firstRefusal it := by
  unfold generate firstRefusal
  cases hbody : it.body with
  | named fs =>
    simp only [pure_bind]
    cases htab : tableAttrs it.attrs with
    | error e =>
      rw [← errorOf_tableAttrs, htab]
      rfl
    | ok t =>
      have hnone : it.attrs.findSome? tableAttrError = none := by
        rw [← errorOf_tableAttrs, htab]
        rfl
      have hok : ∀ a ∈ it.attrs, a.name = some "table" → TableAttrOk a := fun a ha =>
        (tableAttrError_eq_none_iff a).1 (List.findSome?_eq_none_iff.1 hnone a ha)
      obtain ⟨hc, hr, hh, -⟩ := tableAttrs_spec htab
      simp only [hnone, Option.none_or]
      change errorOf (required "container" t.container >>= _) = _
      rw [hc, hr, hh]
      -- each step fails the same way whatever the values read before it
      exact errorOf_required_bind hok (by simp) fun _ => errorOf_required_bind hok (by simp) fun _ =>
        errorOf_required_bind hok (by simp) fun _ => errorOf_fieldsCode_bind fs _
  | tuple => rfl
  | unit => rfl
  | enum => rfl
  | union => rfl

/-! ### What deriving accepts -/

def Item.fields (it : Item) : List Field :=
  match it.body with
  | .named fs => fs
  | _ => []

/-- No insert or filter attribute holds an `order` written as a negated literal of magnitude
`2147483648`. -/
def Item.NoNegatedBound (it : Item) : Prop :=
  ∀ f ∈ it.fields, ∀ a ∈ f.attrs, ∀ i ∈ a.routeItems, i.negatedBoundOrder = false

/-- What deriving accepts: a struct with named fields; each table attribute an argument list
of table items; a container, rows and header row each named by some table item; and each
field right. -/
def Accepted (it : Item) : Prop :=
  ∃ fs, it.body = .named fs ∧ (∀ a ∈ it.attrs, a.name = some "table" → TableAttrOk a) ∧
    (∀ key ∈ ["container", "rows", "header_row"], Given key (tableItems it.attrs)) ∧
    ∀ f ∈ fs, FieldOk f

theorem firstRefusal_eq_none_iff (it : Item) (h : it.NoNegatedBound) :
    firstRefusal it = none ↔ Accepted it := by
  unfold firstRefusal Accepted
  cases hbody : it.body with
  | named fs =>
    have hfields : (∀ f ∈ fs, fieldError f = none) ↔ ∀ f ∈ fs, FieldOk f :=
      forall₂_congr fun f hf => fieldError_eq_none_iff f (h f (by simpa [Item.fields, hbody] using hf))
    simp only [Option.or_eq_none_iff, List.findSome?_eq_none_iff, tableAttrError_eq_none_iff,
      missingError_eq_none_iff, hfields, Body.named.injEq, exists_eq_left', List.mem_cons,
      List.not_mem_nil, or_false, forall_eq_or_imp, forall_eq, and_assoc]
  | tuple => simp
  | unit => simp
  | enum => simp
  | union => simp

/-- Deriving refuses a type definition exactly when one of its checks fails, and reports the
first failing check in the order they run: the shape, each table attribute, the container,
rows and header row, each field. A table attribute passes exactly when it is an argument list
of table items, a key is present when some table item names it, and a field passes exactly
when it is right, so long as no order in it is a negated `2147483648`. -/
theorem generate_refusal_spec (it : Item) :
    (∀ m, generate it = .error m ↔ firstRefusal it = some m) ∧
    (∀ a, tableAttrError a = none ↔ (a.name = some "table" → TableAttrOk a)) ∧
    (∀ key attrs, missingError key attrs = none ↔ Given key (tableItems attrs)) ∧
    (∀ f, (∀ a ∈ f.attrs, ∀ i ∈ a.routeItems, i.negatedBoundOrder = false) →
      (fieldError f = none ↔ FieldOk f)) ∧
    (it.NoNegatedBound → ((∃ m, generate it = .error m) ↔ ¬Accepted it)) := by
  refine ⟨fun m => ?_, tableAttrError_eq_none_iff, missingError_eq_none_iff, fieldError_eq_none_iff,
    fun h => ?_⟩
  · rw [← errorOf_generate, errorOf_eq_some_iff]
  · rw [← firstRefusal_eq_none_iff it h, ← errorOf_generate]
    cases generate it <;> simp

theorem orderLineItem_accepted : orderLineItem.NoNegatedBound ∧ Accepted orderLineItem := by
  -- the quantity's filter order is the negated literal `1`, not the bound
  have h : orderLineItem.NoNegatedBound := by
    simp [Item.NoNegatedBound, Item.fields, orderLineItem, orderLineFields, MetaItem.routeItems]
    decide
  have hok : (generate orderLineItem).toBool = true := by decide +kernel
  refine ⟨h, by_contra fun hn => ?_⟩
  obtain ⟨m, hm⟩ := ((generate_refusal_spec orderLineItem).2.2.2.2 h).2 hn
  rw [hm] at hok
  cases hok

def Outcome.isCode : Outcome → Bool
  | .code _ => true
  | _ => false

theorem Outcome.isCode_iff (o : Outcome) : o.isCode = true ↔ ∃ text, o = .code text := by
  cases o <;> simp [isCode]

/-- An argument list in brackets is read as one in parentheses: a table attribute written
`#[table[...]]` is accepted. -/
theorem bracketed_table_attribute_accepted : ∃ text, derive
    "#[table[container = \"a\", rows = \"b\", header_row = \"c\"]] struct S \x7b #[cell] x: String \x7d" =
      .code text :=
  (Outcome.isCode_iff _).1 (by decide +kernel)

end TableBind.Derive
