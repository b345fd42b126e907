import Mathlib
import TableBind.Table.Decode
import TableBind.Table.Encode
import TableBind.Proofs.Compound

/-! The encodings of a locator agree: its text form and its document form read back to it, and a
text reads back to itself exactly when it starts with a strategy name and `=`. -/

namespace TableBind

namespace Strategy

/-- The document names are the names of the text form: snake case with the two renames. -/
theorem documentName_eq_keyword (s : Strategy) : s.documentName = s.keyword := by
  cases s <;> decide

theorem eq_not_mem_keyword (s : Strategy) : '=' ∉ s.keyword.toList := by
  cases s <;> simp [keyword]

end Strategy

/-- Without the renames, snake case would write `XPath` as `x_path`. -/
example : snakeCase Strategy.xpath.label = "x_path" := by decide

namespace JsonValue

@[simp] theorem view_text?_str (s : Option String) : view.text? (.str s) = s := rfl

@[simp] theorem view_fields?_obj (fs : List (String × JsonValue)) : view.fields? (.obj fs) = some fs :=
  rfl

@[simp] theorem view_items?_arr (xs : List JsonValue) : view.items? (.arr xs) = some xs := rfl

end JsonValue

namespace Locator

theorem parseChars_keyword (st : Strategy) (rest : List Char) :
    parseChars (st.keyword.toList ++ '=' :: rest) = ⟨st, String.ofList rest⟩ := by
  have hname : ∀ c ∈ st.keyword.toList, (c != '=') = true := fun c hc => by
    have := st.eq_not_mem_keyword
    simp only [bne_iff_ne, ne_eq]
    rintro rfl
    exact this hc
  unfold parseChars
  rw [List.span_eq_takeWhile_dropWhile, Compound.takeWhile_append_stop hname (by simp),
    Compound.dropWhile_append_stop hname (by simp)]
  simp [Strategy.ofKeyword?_keyword]

theorem parseChars_of_not_keyword {cs : List Char}
    (h : ∀ (st : Strategy) rest, cs ≠ st.keyword.toList ++ '=' :: rest) :
    parseChars cs = ⟨.css, String.ofList cs⟩ := by
  unfold parseChars
  rw [List.span_eq_takeWhile_dropWhile]
  cases hd : cs.dropWhile (· != '=') with
  | nil => rfl
  | cons c rest =>
    -- the run stops at `c`, which is therefore the first `=`
    have hc : c = '=' := by
      have := List.head_dropWhile_not (· != '=') (l := cs) (by simp [hd])
      simpa [hd] using this
    dsimp only
    cases hk : Strategy.ofKeyword? (String.ofList (cs.takeWhile (· != '='))) with
    | none => rfl
    | some st =>
      -- a strategy name before that `=` is the case excluded
      exfalso
      apply h st rest
      have hname := congrArg String.toList (Strategy.keyword_of_ofKeyword? hk)
      rw [String.toList_ofList] at hname
      rw [← @List.takeWhile_append_dropWhile _ (· != '=') cs, hd, hc, hname]

theorem parse_render_eq_self (l : Locator) : parse l.render = l := by
  have hchars : l.render.toList = l.strategy.keyword.toList ++ '=' :: l.value.toList := by
    simp [render]
  rw [parse, hchars, parseChars_keyword, String.ofList_toList]

/-- A text starts with a strategy name and `=`. -/
def Prefixed (s : String) : Prop := ∃ st : Strategy, (st.keyword ++ "=").toList <+: s.toList

theorem prefixed_iff (s : String) :
    Prefixed s ↔ ∃ (st : Strategy) (rest : List Char), s.toList = st.keyword.toList ++ '=' :: rest := by
  unfold Prefixed
  constructor
  · rintro ⟨st, rest, hrest⟩
    exact ⟨st, rest, by simp [← hrest]⟩
  · rintro ⟨st, rest, hrest⟩
    exact ⟨st, rest, by simp [hrest]⟩

theorem render_parse_of_prefixed {s : String} (h : Prefixed s) : (parse s).render = s := by
  obtain ⟨st, rest, hrest⟩ := (prefixed_iff s).1 h
  rw [parse, hrest, parseChars_keyword]
  apply String.toList_injective
  simp [render, hrest]

theorem render_parse_of_not_prefixed {s : String} (h : ¬Prefixed s) :
    (parse s).render = "css=" ++ s := by
  have hnot : ∀ (st : Strategy) rest, s.toList ≠ st.keyword.toList ++ '=' :: rest :=
    fun st rest hs => h ((prefixed_iff s).2 ⟨st, rest, hs⟩)
  rw [parse, parseChars_of_not_keyword hnot, String.ofList_toList]
  rfl

/-- A text is its own text form after reading exactly when it starts with a strategy name
and `=`. -/
theorem render_parse_eq_self_iff (s : String) : (parse s).render = s ↔ Prefixed s := by
  refine ⟨fun h => by_contra fun hp => ?_, render_parse_of_prefixed⟩
  rw [render_parse_of_not_prefixed hp] at h
  have hlen := congrArg String.length h
  simp at hlen

/-- The document form reads back to the locator. -/
@[simp] theorem decode_toJson (l : Locator) : decode JsonValue.view l.toJson = some l := by
  simp [toJson, decode, memberRequired, memberOnce, valueFirst, ofNodes,
    Strategy.documentName_eq_keyword, Strategy.ofKeyword?_keyword]

end Locator

@[simp] theorem Section.decode_toJson (s : Section) : Section.decode JsonValue.view s.toJson = some s := by
  simp [Section.toJson, Section.decode, memberRequired, memberOnce]

theorem Section.decodeAll_toJson (ss : List Section) :
    Section.decodeAll JsonValue.view (.arr (ss.map Section.toJson)) = some ss := by
  have hmap : (ss.map Section.toJson).mapM (Section.decode JsonValue.view) = some ss := by
    induction ss with
    | nil => rfl
    | cons s ss ih => simp [List.mapM_cons, ih]
  simp [Section.decodeAll, hmap]

namespace Descriptor

/-- The document form reads back to the descriptor, with or without sections. -/
theorem decode_toJson (d : Descriptor) : decode JsonValue.view d.toJson = some d := by
  obtain ⟨container, rows, headerRow, sections⟩ := d
  by_cases hs : sections = []
  · subst hs
    simp [toJson, decode, memberRequired, memberOnce]
  · simp [toJson, decode, memberRequired, memberOnce, hs, Section.decodeAll_toJson]

theorem decode_sections_of_absent {fs : List (String × JsonValue)} {d : Descriptor}
    (hfs : ∀ f ∈ fs, f.1 ≠ "sections") (h : decode JsonValue.view (.obj fs) = some d) :
    d.sections = [] := by
  have habsent : memberOnce fs "sections" = some none := by
    unfold memberOnce
    rw [List.filter_eq_nil_iff.2 fun f hf => by simpa using hfs f hf]
  simp only [decode, JsonValue.view_fields?_obj, habsent, Option.bind_eq_bind,
    Option.bind_eq_some_iff, Option.bind_some, Option.pure_def, Option.some.injEq] at h
  obtain ⟨_, -, _, -, _, -, _, -, _, -, _, -, rfl⟩ := h
  rfl

end Descriptor

/-- The three encodings of a locator agree. The text form reads back to the locator; a text
reads back to itself exactly when it starts with a strategy name and `=`, and otherwise
becomes `css=` before the text. The document form is `by` with the strategy's name in the text
form and `value` with the value, and reads back to the locator. A table descriptor reads back
from its document form, which leaves out the sections when there are none; a document
without them reads as no sections. -/
theorem locator_encodings_agree :
    (∀ l : Locator, Locator.parse l.render = l) ∧
    (∀ s : String, (Locator.parse s).render = s ↔ Locator.Prefixed s) ∧
    (∀ s : String, ¬Locator.Prefixed s → (Locator.parse s).render = "css=" ++ s) ∧
    (∀ l : Locator,
      l.toJson = .obj [("by", .str (some l.strategy.keyword)), ("value", .str (some l.value))] ∧
      Locator.decode JsonValue.view l.toJson = some l) ∧
    (∀ d : Descriptor, Descriptor.decode JsonValue.view d.toJson = some d) ∧
    (∀ d : Descriptor, d.sections = [] →
      d.toJson = .obj [("container", d.container.toJson), ("rows", d.rows.toJson),
        ("header_row", d.headerRow.toJson)]) ∧
    (∀ fs d, (∀ f ∈ fs, f.1 ≠ "sections") →
      Descriptor.decode JsonValue.view (.obj fs) = some d → d.sections = []) :=
  ⟨Locator.parse_render_eq_self, Locator.render_parse_eq_self_iff,
    fun _ => Locator.render_parse_of_not_prefixed,
    fun l => ⟨by simp [Locator.toJson, Strategy.documentName_eq_keyword], Locator.decode_toJson l⟩,
    Descriptor.decode_toJson,
    fun d hs => by simp [Descriptor.toJson, hs],
    fun _ _ => Descriptor.decode_sections_of_absent⟩

end TableBind
