import Mathlib
import TableBind.Page.Search

/-! Reading back written compound selectors, and reading them by byte offsets. A compound's
written form reads back to it when no part can be taken for the start of the next one
(`parse_render`). The byte-offset reader reads the same parts, but after an attribute test it
slices one byte into the next character, and fails there when that character is wider than a
byte (`parseUtf8_eq`). -/

namespace TableBind.Compound

section Runs

variable {p : Char → Bool} {xs ys : List Char}

theorem dropWhile_of_stop (hy : ∀ y ∈ ys.head?, p y = false) : ys.dropWhile p = ys := by
  cases ys with
  | nil => rfl
  | cons y ys => exact List.dropWhile_cons_of_neg (by simpa using hy)

theorem takeWhile_append_stop (hx : ∀ x ∈ xs, p x) (hy : ∀ y ∈ ys.head?, p y = false) :
    (xs ++ ys).takeWhile p = xs := by
  rw [List.takeWhile_append_of_pos hx]
  cases ys with
  | nil => simp
  | cons y ys => simp [List.takeWhile_cons_of_neg (by simpa using hy)]

theorem dropWhile_append_stop (hx : ∀ x ∈ xs, p x) (hy : ∀ y ∈ ys.head?, p y = false) :
    (xs ++ ys).dropWhile p = ys := by
  rw [List.dropWhile_append_of_pos hx, dropWhile_of_stop hy]

theorem dropWhile_reverse_dropWhile (hh : ∀ x ∈ xs.head?, p x = false)
    (hl : ∀ x ∈ xs.getLast?, p x = false) :
    ((xs.dropWhile p).reverse.dropWhile p).reverse = xs := by
  rw [dropWhile_of_stop hh, dropWhile_of_stop (by simpa [List.head?_reverse] using hl),
    List.reverse_reverse]

end Runs

theorem trimChars_of_plain {cs : List Char} (h : ∀ x ∈ cs, Text.isBlank x = false) :
    Text.trimChars cs = cs :=
  dropWhile_reverse_dropWhile
    (fun x hx => h x (List.mem_of_mem_head? hx)) (fun x hx => h x (List.mem_of_mem_getLast? hx))

theorem stripQuotes_quoted {q : Option Char} {v : List Char} (hq : ∀ x ∈ q, isQuote x)
    (hh : ∀ x ∈ v.head?, isQuote x = false) (hl : ∀ x ∈ v.getLast?, isQuote x = false) :
    stripQuotes (q.toList ++ (v ++ q.toList)) = v := by
  have hq' : ∀ x ∈ q.toList, isQuote x := by simpa using hq
  unfold stripQuotes
  rw [List.dropWhile_append_of_pos hq']
  cases v with
  | nil => simp [List.dropWhile_eq_nil_iff.2 hq']
  | cons x v =>
    have hl' : ∀ y ∈ (x :: v).reverse.head?, isQuote y = false := by
      rw [List.head?_reverse]
      exact hl
    rw [List.cons_append, List.dropWhile_cons_of_neg (by simpa using hh), ← List.cons_append,
      List.reverse_append, List.dropWhile_append_of_pos (by simpa using hq'), dropWhile_of_stop hl',
      List.reverse_reverse]

/-- An attribute test that reads back from its written form: no `=` or `]` in its name, no
`]` in its value, no blank in either, and no quote at either end of the value. -/
structure PlainAttr (a : String × Option String) : Prop where
  name : ∀ x ∈ a.1.toList, x ≠ '=' ∧ x ≠ ']' ∧ Text.isBlank x = false
  value : ∀ v ∈ a.2, ∀ x ∈ v.toList, x ≠ ']' ∧ Text.isBlank x = false
  head : ∀ v ∈ a.2, ∀ x ∈ v.toList.head?, isQuote x = false
  last : ∀ v ∈ a.2, ∀ x ∈ v.toList.getLast?, isQuote x = false

/-- A compound that reads back from its written form: a tag, when there is one, that is
neither empty nor `*`; no marker in the tag, the classes or the id; plain attribute tests. -/
structure Plain (c : Compound) : Prop where
  tag : ∀ t ∈ c.tag, t ≠ "" ∧ t ≠ "*" ∧ ∀ x ∈ t.toList, isMarker x = false
  classes : ∀ n ∈ c.classes, ∀ x ∈ n.toList, isMarker x = false
  id : ∀ i ∈ c.id, ∀ x ∈ i.toList, isMarker x = false
  attrs : ∀ a ∈ c.attrs, PlainAttr a

def attrInside (q : Option Char) (a : String × Option String) : List Char :=
  a.1.toList ++ (a.2.map fun v => '=' :: (q.toList ++ (v.toList ++ q.toList))).getD []

def attrChars (q : Option Char) (a : String × Option String) : List Char :=
  '[' :: (attrInside q a ++ [']'])

def attrsChars : List (Option Char) → List (String × Option String) → List Char
  | _, [] => []
  | qs, a :: as => attrChars qs.head?.join a ++ attrsChars qs.tail as

/-- The written form of a compound: the tag, each class after a `.`, the id after a `#`, then
the attribute tests, quoted as `qs` says. -/
def writtenChars (qs : List (Option Char)) (c : Compound) : List Char :=
  (c.tag.getD "").toList ++ (c.classes.flatMap ('.' :: ·.toList) ++
    ((c.id.map ('#' :: ·.toList)).getD [] ++ attrsChars qs c.attrs))

theorem attrsChars_nil_quotes (as : List (String × Option String)) :
    attrsChars [] as = as.flatMap (attrChars none) := by
  induction as with
  | nil => rfl
  | cons a as ih => simp [attrsChars, ih]

theorem render_toList (c : Compound) : (render c).toList = writtenChars [] c := by
  have hdot : ".".toList = ['.'] := rfl
  have hhash : "#".toList = ['#'] := rfl
  have hopen : "[".toList = ['['] := rfl
  have hclose : "]".toList = [']'] := rfl
  have heq : "=".toList = ['='] := rfl
  have hclasses : (String.join (c.classes.map ("." ++ ·))).toList =
      c.classes.flatMap ('.' :: ·.toList) := by
    simp [String.toList_join, List.flatMap_map, hdot]
  have hid : ((c.id.map ("#" ++ ·)).getD "").toList = (c.id.map ('#' :: ·.toList)).getD [] := by
    cases c.id <;> simp [hhash]
  have hattrs : (String.join (c.attrs.map fun a =>
      "[" ++ a.1 ++ (a.2.map ("=" ++ ·)).getD "" ++ "]")).toList = attrsChars [] c.attrs := by
    rw [attrsChars_nil_quotes, String.toList_join, List.flatMap_map]
    refine List.flatMap_congr fun a _ => ?_
    rcases a with ⟨name, _ | v⟩ <;> simp [attrChars, attrInside, hopen, hclose, heq]
  simp only [render, String.toList_append, hclasses, hid, hattrs, writtenChars, List.append_assoc]

def OpensPart (cs : List Char) : Prop := ∀ y ∈ cs.head?, isMarker y = true

theorem OpensPart.append {a b : List Char} (ha : OpensPart a) (hb : OpensPart b) :
    OpensPart (a ++ b) := by
  cases a with
  | nil => simpa using hb
  | cons x a => simpa [OpensPart] using ha

theorem opensPart_classes (ns : List String) : OpensPart (ns.flatMap ('.' :: ·.toList)) := by
  cases ns <;> simp [OpensPart, isMarker]

theorem opensPart_id (i : Option String) : OpensPart ((i.map ('#' :: ·.toList)).getD []) := by
  cases i <;> simp [OpensPart, isMarker]

theorem opensPart_attrsChars (qs : List (Option Char)) (as : List (String × Option String)) :
    OpensPart (attrsChars qs as) := by
  cases as <;> simp [OpensPart, attrsChars, attrChars, isMarker]

theorem attrTest_bare {name : List Char} (h : ∀ x ∈ name, x ≠ '=') :
    attrTest name = (String.ofList (Text.trimChars name), none) := by
  have hname : ∀ x ∈ name, (x != '=') = true := by simpa using h
  unfold attrTest
  rw [List.span_eq_takeWhile_dropWhile, List.dropWhile_eq_nil_iff.2 hname]

theorem attrTest_valued {name value : List Char} (h : ∀ x ∈ name, x ≠ '=') :
    attrTest (name ++ '=' :: value) =
      (String.ofList (Text.trimChars name), some (String.ofList (stripQuotes (Text.trimChars value)))) := by
  have hname : ∀ x ∈ name, (x != '=') = true := by simpa using h
  unfold attrTest
  rw [List.span_eq_takeWhile_dropWhile, takeWhile_append_stop hname (by simp),
    dropWhile_append_stop hname (by simp)]

theorem isBlank_of_isQuote {x : Char} (h : isQuote x) : Text.isBlank x = false := by
  simp only [isQuote, Bool.or_eq_true, decide_eq_true_eq] at h
  rcases h with rfl | rfl <;> decide

theorem ne_close_of_isQuote {x : Char} (h : isQuote x) : x ≠ ']' := by
  simp only [isQuote, Bool.or_eq_true, decide_eq_true_eq] at h
  rcases h with rfl | rfl <;> decide

theorem attrTest_attrInside {q : Option Char} {a : String × Option String} (ha : PlainAttr a)
    (hq : ∀ x ∈ q, isQuote x) : attrTest (attrInside q a) = a := by
  have hname : ∀ x ∈ a.1.toList, x ≠ '=' := fun x hx => (ha.name x hx).1
  have htrim : Text.trimChars a.1.toList = a.1.toList := trimChars_of_plain fun x hx => (ha.name x hx).2.2
  rcases a with ⟨name, _ | v⟩
  · simp [attrInside, attrTest_bare hname, htrim]
  · have hquoted : ∀ x ∈ q.toList ++ (v.toList ++ q.toList), Text.isBlank x = false := by
      intro x hx
      simp only [List.mem_append, Option.mem_toList] at hx
      rcases hx with hx | hx | hx
      · exact isBlank_of_isQuote (hq x hx)
      · exact (ha.value v rfl x hx).2
      · exact isBlank_of_isQuote (hq x hx)
    simp [attrInside, attrTest_valued hname, htrim, trimChars_of_plain hquoted,
      stripQuotes_quoted hq (ha.head v rfl) (ha.last v rfl)]

theorem attrInside_ne_close {q : Option Char} {a : String × Option String} (ha : PlainAttr a)
    (hq : ∀ x ∈ q, isQuote x) : ∀ x ∈ attrInside q a, x ≠ ']' := by
  rcases a with ⟨name, _ | v⟩ <;> simp only [attrInside, Option.map_none, Option.map_some,
    Option.getD_none, Option.getD_some, List.append_nil, List.mem_append, List.mem_cons,
    Option.mem_toList]
  · exact fun x hx => (ha.name x hx).2.1
  · rintro x (hx | rfl | hx | hx | hx)
    · exact (ha.name x hx).2.1
    · decide
    · exact ne_close_of_isQuote (hq x hx)
    · exact (ha.value v rfl x hx).1
    · exact ne_close_of_isQuote (hq x hx)

theorem parseParts_named (c : Compound) {m : Char} (hm : m ≠ '[') {name rest : List Char}
    (hname : ∀ x ∈ name, isMarker x = false) (hrest : OpensPart rest) :
    parseParts c (m :: (name ++ rest)) =
      parseParts (if m = '.' then { c with classes := c.classes ++ [String.ofList name] }
        else { c with id := some (String.ofList name) }) rest := by
  have hrun : ∀ x ∈ name, (!isMarker x) = true := by simpa using hname
  have hstop : ∀ y ∈ rest.head?, (!isMarker y) = false := by simpa [OpensPart] using hrest
  rw [parseParts.eq_2, if_neg hm]
  simp only [takeWhile_append_stop hrun hstop, dropWhile_append_stop hrun hstop]

theorem parseParts_classes (c : Compound) {ns : List String}
    (hns : ∀ n ∈ ns, ∀ x ∈ n.toList, isMarker x = false) {rest : List Char} (hrest : OpensPart rest) :
    parseParts c (ns.flatMap ('.' :: ·.toList) ++ rest) =
      parseParts { c with classes := c.classes ++ ns } rest := by
  induction ns generalizing c with
  | nil => simp
  | cons n ns ih =>
    have hmore : OpensPart (ns.flatMap ('.' :: ·.toList) ++ rest) :=
      (opensPart_classes ns).append hrest
    simp only [List.flatMap_cons, List.cons_append, List.append_assoc]
    rw [parseParts_named c (by decide) (hns n List.mem_cons_self) hmore, if_pos rfl,
      ih _ fun n' hn' => hns n' (List.mem_cons_of_mem _ hn')]
    simp

theorem parseParts_attrs (c : Compound) {as : List (String × Option String)}
    (has : ∀ a ∈ as, PlainAttr a) {qs : List (Option Char)} (hqs : ∀ q ∈ qs, ∀ x ∈ q, isQuote x) :
    parseParts c (attrsChars qs as) = { c with attrs := c.attrs ++ as } := by
  induction as generalizing c qs with
  | nil => simp [attrsChars, parseParts.eq_1]
  | cons a as ih =>
    have hq : ∀ x ∈ qs.head?.join, isQuote x := by
      intro x hx
      cases qs with
      | nil => simp at hx
      | cons q qs => exact hqs q List.mem_cons_self x (by simpa using hx)
    have ha := has a List.mem_cons_self
    have hrun : ∀ x ∈ attrInside qs.head?.join a, (x != ']') = true := by
      simpa using attrInside_ne_close ha hq
    have hstop : ∀ y ∈ (']' :: attrsChars qs.tail as).head?, (y != ']') = false := by simp
    rw [attrsChars, attrChars, List.cons_append, parseParts.eq_2, if_pos rfl]
    simp only [List.append_assoc, List.singleton_append, takeWhile_append_stop hrun hstop,
      dropWhile_append_stop hrun hstop, List.drop_one, List.tail_cons, attrTest_attrInside ha hq]
    rw [ih _ (fun a' ha' => has a' (List.mem_cons_of_mem _ ha'))
      (fun q hq' => hqs q (List.mem_of_mem_tail hq'))]
    simp

theorem tag_written {tag : Option String} (h : ∀ t ∈ tag, t ≠ "" ∧ t ≠ "*") :
    (if (tag.getD "").toList = [] ∨ (tag.getD "").toList = ['*'] then none
      else some (String.ofList (tag.getD "").toList)) = tag := by
  cases tag with
  | none => simp
  | some t =>
    obtain ⟨hne, hstar⟩ := h t rfl
    have hnil : t.toList ≠ [] := by simpa using hne
    have hstar' : t.toList ≠ ['*'] := fun h => hstar (by rw [← String.ofList_toList (s := t), h])
    simp [hnil, hstar']

/-- Reading a plain compound's written form gives the compound back, every attribute value
quoted or not. -/
theorem parseChars_writtenChars {c : Compound} (hc : c.Plain) {qs : List (Option Char)}
    (hqs : ∀ q ∈ qs, ∀ x ∈ q, isQuote x) : parseChars (writtenChars qs c) = c := by
  rcases c with ⟨tag, id, classes, attrs⟩
  have hparts : OpensPart (classes.flatMap ('.' :: ·.toList) ++
      ((id.map ('#' :: ·.toList)).getD [] ++ attrsChars qs attrs)) :=
    (opensPart_classes classes).append ((opensPart_id id).append (opensPart_attrsChars qs attrs))
  have htagRun : ∀ x ∈ (tag.getD "").toList, (!isMarker x) = true := by
    cases tag with
    | none => simp
    | some t => simpa using (hc.tag t rfl).2.2
  have hstop' : ∀ y ∈ (classes.flatMap ('.' :: ·.toList) ++
      ((id.map ('#' :: ·.toList)).getD [] ++ attrsChars qs attrs)).head?, (!isMarker y) = false :=
    fun y hy => by simp [hparts y hy]
  unfold parseChars writtenChars
  simp only [takeWhile_append_stop htagRun hstop', dropWhile_append_stop htagRun hstop']
  rw [parseParts_classes _ hc.classes ((opensPart_id id).append (opensPart_attrsChars qs attrs))]
  rw [tag_written fun t ht => ⟨(hc.tag t ht).1, (hc.tag t ht).2.1⟩]
  cases id with
  | none =>
    simp only [Option.map_none, Option.getD_none, List.nil_append]
    rw [parseParts_attrs _ hc.attrs hqs]
    simp
  | some i =>
    simp only [Option.map_some, Option.getD_some, List.cons_append]
    rw [parseParts_named _ (m := '#') (by decide) (hc.id i rfl) (opensPart_attrsChars qs attrs),
      if_neg (by decide), parseParts_attrs _ hc.attrs hqs]
    simp

/-- Reading the written form of a compound gives it back, when no part of it can be taken for
the start of the next one and trimming and unquoting take nothing off its attribute tests;
wrapping any values in quotes changes nothing. -/
theorem parse_render {c : Compound} (hc : c.Plain) :
    parse (render c) = c ∧
      ∀ qs : List (Option Char), (∀ q ∈ qs, ∀ x ∈ q, isQuote x) →
        parse (String.ofList (writtenChars qs c)) = c := by
  refine ⟨?_, fun qs hqs => ?_⟩
  · rw [parse, render_toList]
    exact parseChars_writtenChars hc (by simp)
  · rw [parse, String.toList_ofList]
    exact parseChars_writtenChars hc hqs

def tdCompound : Compound :=
  { tag := some "td", id := some "x", classes := ["a", "b"], attrs := [("k", some "v")] }

theorem parse_render_td :
    tdCompound.Plain ∧ (parse (render tdCompound) = tdCompound ∧
      ∀ qs : List (Option Char), (∀ q ∈ qs, ∀ x ∈ q, isQuote x) →
        parse (String.ofList (writtenChars qs tdCompound)) = tdCompound) := by
  have hplain : tdCompound.Plain := by
    have htd : "td".toList = ['t', 'd'] := rfl
    have ha : "a".toList = ['a'] := rfl
    have hb : "b".toList = ['b'] := rfl
    have hx : "x".toList = ['x'] := rfl
    have hk : "k".toList = ['k'] := rfl
    have hv : "v".toList = ['v'] := rfl
    refine ⟨?_, ?_, ?_, ?_⟩
    · simp [tdCompound, htd, isMarker]
    · simp [tdCompound, ha, hb, isMarker]
    · simp [tdCompound, hx, isMarker]
    · simp only [tdCompound, List.mem_singleton, forall_eq]
      constructor <;> simp [hk, hv] <;> decide
  exact ⟨hplain, parse_render hplain⟩

end TableBind.Compound

namespace TableBind.Text

theorem splitAtByte_append_add (xs ys : List Char) (k : Nat) :
    splitAtByte (xs ++ ys) (String.utf8Len xs + k) = (splitAtByte ys k).map fun q => (xs ++ q.1, q.2) := by
  induction xs with
  | nil => simp
  | cons x xs ih =>
    have hx := x.utf8Size_pos
    obtain ⟨n, hn⟩ : ∃ n, String.utf8Len xs + x.utf8Size + k = n + 1 :=
      ⟨String.utf8Len xs + x.utf8Size + k - 1, by omega⟩
    rw [String.utf8Len_cons, List.cons_append, hn, splitAtByte.eq_3, if_pos (by omega),
      show n + 1 - x.utf8Size = String.utf8Len xs + k by omega, ih, Option.map_map]
    rfl

theorem splitAtByte_append (xs ys : List Char) :
    splitAtByte (xs ++ ys) (String.utf8Len xs) = some (xs, ys) := by
  simpa [splitAtByte.eq_1] using splitAtByte_append_add xs ys 0

theorem splitAtByte_cons_one (m : Char) (r : List Char) :
    splitAtByte (m :: r) 1 = if m.utf8Size = 1 then some ([m], r) else none := by
  have hm := m.utf8Size_pos
  rw [splitAtByte.eq_3]
  by_cases h : m.utf8Size = 1
  · rw [if_pos (by omega), if_pos h, h, Nat.sub_self, splitAtByte.eq_1]
    rfl
  · rw [if_neg (by omega), if_neg h]

theorem findByteOrEnd_eq (p : Char → Bool) (cs : List Char) :
    findByteOrEnd p cs = String.utf8Len (cs.takeWhile (!p ·)) := by
  induction cs with
  | nil => rfl
  | cons c r ih =>
    by_cases hc : p c
    · simp [findByteOrEnd, hc]
    · simp [findByteOrEnd, hc, ih, Nat.add_comm]

theorem splitAtByte_takeWhile (q : Char → Bool) (cs : List Char) :
    splitAtByte cs (String.utf8Len (cs.takeWhile q)) = some (cs.takeWhile q, cs.dropWhile q) := by
  have h := splitAtByte_append (cs.takeWhile q) (cs.dropWhile q)
  rwa [List.takeWhile_append_dropWhile] at h

end TableBind.Text

namespace TableBind.Compound

def nextPart (m : Char) (body : List Char) : List Char :=
  if m = '[' then (body.dropWhile (· != ']')).drop 1 else body.dropWhile (!isMarker ·)

theorem nextPart_suffix (m : Char) (body : List Char) : nextPart m body <:+ body := by
  unfold nextPart
  split
  · exact (List.drop_suffix 1 _).trans (List.dropWhile_suffix _)
  · exact List.dropWhile_suffix _

/-- What remains of a selector each time the reader of parts starts a part. -/
def partCursors : List Char → List (List Char)
  | [] => []
  | m :: body => (m :: body) :: partCursors (nextPart m body)
termination_by rest => rest.length
decreasing_by
  have := (nextPart_suffix m body).length_le
  simp only [List.length_cons]
  omega

theorem mem_partCursors {rest r : List Char} (h : r ∈ partCursors rest) : r ≠ [] ∧ r <:+ rest := by
  induction rest using partCursors.induct with
  | case1 => simp [partCursors.eq_1] at h
  | case2 m body ih =>
    rw [partCursors.eq_2, List.mem_cons] at h
    rcases h with rfl | h
    · exact ⟨List.cons_ne_nil _ _, List.suffix_refl _⟩
    · obtain ⟨hne, hsuf⟩ := ih h
      exact ⟨hne, (hsuf.trans (nextPart_suffix m body)).trans (List.suffix_cons m body)⟩

/-- Whether a part starts at a character longer than one byte. -/
def startsWide (r : List Char) : Bool := r.head?.any (·.utf8Size != 1)

theorem sliceRange_attr (body : List Char) :
    Text.sliceRange ('[' :: body) 1 (Text.findByteOrEnd (· == ']') ('[' :: body)) =
      .ok (body.takeWhile (· != ']')) := by
  have hrun : Text.findByteOrEnd (· == ']') ('[' :: body) =
      1 + String.utf8Len (body.takeWhile (· != ']')) := by
    rw [Text.findByteOrEnd, if_neg (by decide), Text.findByteOrEnd_eq]
    rfl
  rw [hrun, Text.sliceRange, if_pos (by omega), Text.splitAtByte_cons_one,
    if_pos (show '['.utf8Size = 1 from rfl)]
  simp only [Nat.add_sub_cancel_left]
  rw [Text.splitAtByte_takeWhile]

theorem splitAtByte_after_attr (body : List Char) :
    (Text.splitAtByte ('[' :: body) (Text.findByteOrEnd (· == ']') ('[' :: body) + 1)).map (·.2) =
      match body.dropWhile (· != ']') with
      | [] => none
      | _ :: more => some more := by
  have hsplit : '[' :: body = ('[' :: body.takeWhile (· != ']')) ++ body.dropWhile (· != ']') := by
    rw [List.cons_append, List.takeWhile_append_dropWhile]
  have hrun : Text.findByteOrEnd (· == ']') ('[' :: body) =
      String.utf8Len ('[' :: body.takeWhile (· != ']')) := by
    rw [Text.findByteOrEnd_eq]
    rfl
  rw [hrun, hsplit, Text.splitAtByte_append_add, Option.map_map]
  have hhead := List.head?_dropWhile_not (· != ']') body
  cases hd : body.dropWhile (· != ']') with
  | nil => rfl
  | cons y more =>
    rw [hd] at hhead
    have hy : y = ']' := by simpa using hhead
    subst hy
    rw [Text.splitAtByte_cons_one, if_pos (show ']'.utf8Size = 1 from rfl)]
    rfl

theorem splitAtByte_after_attr_some {body : List Char} {p : List Char × List Char}
    (h : Text.splitAtByte ('[' :: body) (Text.findByteOrEnd (· == ']') ('[' :: body) + 1) = some p) :
    p.2 = nextPart '[' body := by
  have hafter := splitAtByte_after_attr body
  rw [h, Option.map_some] at hafter
  rw [nextPart, if_pos rfl]
  cases hd : body.dropWhile (· != ']') with
  | nil =>
    rw [hd] at hafter
    cases hafter
  | cons y more =>
    rw [hd] at hafter
    exact Option.some.inj hafter

theorem splitAtByte_after_attr_none {body : List Char}
    (h : Text.splitAtByte ('[' :: body) (Text.findByteOrEnd (· == ']') ('[' :: body) + 1) = none) :
    nextPart '[' body = [] := by
  have hafter := splitAtByte_after_attr body
  rw [h, Option.map_none] at hafter
  rw [nextPart, if_pos rfl]
  cases hd : body.dropWhile (· != ']') with
  | nil => rfl
  | cons y more =>
    rw [hd] at hafter
    cases hafter

theorem sliceTo_findByteOrEnd (q : Char → Bool) (cs : List Char) :
    Text.sliceTo cs (Text.findByteOrEnd q cs) = .ok (cs.takeWhile (!q ·)) := by
  rw [Text.sliceTo, Text.findByteOrEnd_eq, Text.splitAtByte_takeWhile]

/-- The scanner fails at the first part that starts at a character longer than one byte, one
byte into it; otherwise it reads what the character reader reads. -/
theorem partsUtf8_eq (c : Compound) (rest : List Char) :
    partsUtf8 c rest =
      match (partCursors rest).find? startsWide with
      | some r => .error ⟨r, 1⟩
      | none => .ok (parseParts c rest) := by
  induction rest using partCursors.induct generalizing c with
  | case1 => rw [partsUtf8.eq_1, partCursors.eq_1, parseParts.eq_1]; rfl
  | case2 m body ih =>
    rw [partCursors.eq_2, List.find?_cons]
    by_cases hm : m = '['
    · -- an attribute test: the scanner goes on where the reader does
      subst hm
      have hnarrow : startsWide ('[' :: body) = false := rfl
      rw [hnarrow, partsUtf8.eq_2, if_pos rfl, parseParts.eq_2, if_pos rfl]
      dsimp only
      rw [sliceRange_attr]
      dsimp only
      split
      · rename_i p hp
        rw [splitAtByte_after_attr_some hp, ih]
        rfl
      · rename_i hp
        rw [← splitAtByte_after_attr_none hp, ih]
        rfl
    · have hnext : nextPart m body = body.dropWhile (!isMarker ·) := if_neg hm
      rw [hnext] at ih ⊢
      rw [partsUtf8.eq_2, if_neg hm, parseParts.eq_2, if_neg hm]
      by_cases hw : m.utf8Size = 1
      · -- a one-byte marker: the name and the rest are sliced where the reader cuts them
        have hnarrow : startsWide (m :: body) = false := by simp [startsWide, hw]
        rw [hnarrow]
        dsimp only
        split
        · rename_i hp
          rw [Text.splitAtByte_cons_one, if_pos hw] at hp
          cases hp
        · rename_i p hp
          rw [Text.splitAtByte_cons_one, if_pos hw, Option.some.injEq] at hp
          subst hp
          dsimp only
          rw [sliceTo_findByteOrEnd]
          dsimp only
          split
          · rename_i hq
            rw [Text.findByteOrEnd_eq, Text.splitAtByte_takeWhile] at hq
            cases hq
          · rename_i q hq
            rw [Text.findByteOrEnd_eq, Text.splitAtByte_takeWhile, Option.some.injEq] at hq
            subst hq
            dsimp only
            rw [ih]
      · -- a wide first character: slicing one byte into it fails
        have hwide : startsWide (m :: body) = true := by simp [startsWide, hw]
        rw [hwide]
        dsimp only
        split
        · rfl
        · rename_i p hp
          rw [Text.splitAtByte_cons_one, if_neg hw] at hp
          cases hp

/-- Reading a compound by byte offsets fails exactly where a part starts at a character longer
than one byte, one byte into it; otherwise it gives what reading by characters gives. -/
theorem parseUtf8_eq (cs : List Char) :
    parseUtf8 cs =
      match (partCursors (cs.dropWhile (!isMarker ·))).find? startsWide with
      | some r => .error ⟨r, 1⟩
      | none => .ok (parseChars cs) := by
  rw [parseUtf8, Text.findByteOrEnd_eq, Text.splitAtByte_takeWhile]
  dsimp only
  rw [partsUtf8_eq]
  rfl

/-- A selector of one-byte characters is read by byte offsets without a failure. -/
theorem parseUtf8_of_ascii {cs : List Char} (h : ∀ x ∈ cs, x.utf8Size = 1) :
    parseUtf8 cs = .ok (parseChars cs) := by
  have hnone : (partCursors (cs.dropWhile (!isMarker ·))).find? startsWide = none := by
    rw [List.find?_eq_none]
    intro r hr
    obtain ⟨hne, hsuf⟩ := mem_partCursors hr
    obtain ⟨x, r', rfl⟩ := List.exists_cons_of_ne_nil hne
    have hx : x ∈ cs := (hsuf.trans (List.dropWhile_suffix _)).subset List.mem_cons_self
    simp [startsWide, h x hx]
  rw [parseUtf8_eq, hnone]

theorem parseUtf8_of_ok {cs : List Char} {c : Compound} (h : parseUtf8 cs = .ok c) :
    c = parseChars cs := by
  rw [parseUtf8_eq] at h
  split at h
  · cases h
  · exact (Except.ok.inj h).symm

theorem mapM_parseUtf8 (ws : List String) :
    ws.mapM (fun w => parseUtf8 w.toList) =
      match ws.findSome? (fun w => match parseUtf8 w.toList with
        | .error f => some f
        | .ok _ => none) with
      | some f => .error f
      | none => .ok (ws.map parse) := by
  induction ws with
  | nil => rfl
  | cons w ws ih =>
    rw [List.mapM_cons, List.findSome?_cons]
    cases hw : parseUtf8 w.toList with
    | error f => rfl
    | ok c =>
      -- a word read without a fault is read as the character reader reads it
      rw [parseUtf8_of_ok hw, ih]
      dsimp only
      cases ws.findSome? _ <;> rfl

end TableBind.Compound

namespace TableBind.Element

/-- The page's search fails exactly where `searchFault?` says, and otherwise finds what
`locateAll` finds: statements about `locateAll` describe the searches that return. -/
theorem locateAllUtf8_eq (e : Element) (l : Locator) :
    e.locateAllUtf8 l = match l.searchFault? with
      | some f => .error f
      | none => .ok (e.locateAll l) := by
  unfold locateAllUtf8 Locator.searchFault? locateAll
  cases l.strategy with
  | css =>
    dsimp only
    rw [Compound.mapM_parseUtf8]
    unfold Locator.cssFault? selectCss
    cases ((Text.words l.value).filter (· != ">")).findSome? _ with
    | some f => rfl
    | none =>
      dsimp only
      cases ((Text.words l.value).filter (· != ">")).map Compound.parse <;> rfl
  | xpath => rfl
  | id => rfl
  | testId => rfl
  | text => rfl

/-- Searching any page with the selector `[a]é` fails: after the attribute test the reader
slices one byte into `é`. -/
theorem search_slices_inside_char_after_attribute (e : Element) :
    e.locateAllUtf8 (Locator.css "[a]é") = .error ⟨['é'], 1⟩ := by
  -- after the attribute test `[a]` the next part starts at `é`, two bytes wide
  have hparts : Compound.partCursors ['[', 'a', ']', 'é'] = [['[', 'a', ']', 'é'], ['é']] := by
    simp [Compound.partCursors, Compound.nextPart]
  have hread : Compound.parseUtf8 "[a]é".toList = .error ⟨['é'], 1⟩ := by
    rw [Compound.parseUtf8_eq]
    have hdrop : "[a]é".toList.dropWhile (!Compound.isMarker ·) = ['[', 'a', ']', 'é'] := by cbv
    rw [hdrop, hparts]
    rfl
  have hfault : (Locator.css "[a]é").searchFault? = some ⟨['é'], 1⟩ := by
    have hwords : (Text.words "[a]é").filter (· != ">") = ["[a]é"] := by cbv
    simp only [Locator.searchFault?, Locator.css, Locator.cssFault?, hwords, List.findSome?_cons,
      hread]
  rw [locateAllUtf8_eq, hfault]

end TableBind.Element
