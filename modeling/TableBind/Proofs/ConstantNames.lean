import TableBind.Proofs.Derive

/-! Names of the field constants of generated code, in screaming snake case. The conversion
merges spellings (`unitPrice` and `unit_price` both give `UNIT_PRICE`); on names without
uppercase characters it loses nothing. -/

namespace TableBind.Text

/-- A text without uppercase characters, as snake case names are. -/
def NoUppercase (s : String) : Prop := ∀ c ∈ s.toList, isUppercase c = false

instance : DecidablePred NoUppercase := fun s =>
  inferInstanceAs (Decidable (∀ c ∈ s.toList, isUppercase c = false))

theorem toNat_toUpper (c : Char) :
    c.toUpper.toNat = if 97 ≤ c.toNat ∧ c.toNat ≤ 122 then c.toNat - 32 else c.toNat := by
  have hrange : ('a'.val ≤ c.val ∧ c.val ≤ 'z'.val) ↔ 97 ≤ c.toNat ∧ c.toNat ≤ 122 := by
    simp [UInt32.le_iff_toNat_le, ← Char.toNat_val]
  unfold Char.toUpper
  split
  · rename_i h
    rw [if_pos (hrange.1 h)]
    have hshift : ('A'.val - 'a'.val).toNat = 4294967264 := by decide
    have hc := hrange.1 h
    show (c.val + ('A'.val - 'a'.val)).toNat = c.toNat - 32
    rw [UInt32.toNat_add, hshift, Char.toNat_val]
    omega
  · rename_i h
    rw [if_neg (mt hrange.2 h)]

theorem isUppercase_of_ascii {c : Char} (h : 65 ≤ c.toNat ∧ c.toNat ≤ 90) :
    isUppercase c = true := by
  have hlt : c.toNat < 0x80 := by omega
  unfold isUppercase
  rw [if_pos hlt]
  simp only [Char.le_def, UInt32.le_iff_toNat_le, Bool.and_eq_true, decide_eq_true_eq]
  exact h

/-- Uppercasing ASCII letters loses nothing on characters that are not uppercase: only a
lowercase letter moves, and it lands on a capital, which is uppercase. -/
theorem toUpper_inj {c d : Char} (hc : isUppercase c = false) (hd : isUppercase d = false)
    (h : c.toUpper = d.toUpper) : c = d := by
  -- neither is a capital, where a moved lowercase letter would land
  have hc' : ¬(65 ≤ c.toNat ∧ c.toNat ≤ 90) := fun h' => by
    simp [isUppercase_of_ascii h'] at hc
  have hd' : ¬(65 ≤ d.toNat ∧ d.toNat ≤ 90) := fun h' => by
    simp [isUppercase_of_ascii h'] at hd
  have hn := congrArg Char.toNat h
  rw [toNat_toUpper, toNat_toUpper] at hn
  apply Char.toNat_inj.1
  split_ifs at hn <;> omega

theorem map_toUpper_inj {cs ds : List Char} (hc : ∀ c ∈ cs, isUppercase c = false)
    (hd : ∀ d ∈ ds, isUppercase d = false) (h : cs.map Char.toUpper = ds.map Char.toUpper) :
    cs = ds := by
  induction cs generalizing ds with
  | nil => exact (List.map_eq_nil_iff.1 h.symm).symm
  | cons c cs ih =>
    cases ds with
    | nil => cases h
    | cons d ds =>
      rw [List.map_cons, List.map_cons, List.cons.injEq] at h
      rw [toUpper_inj (hc c List.mem_cons_self) (hd d List.mem_cons_self) h.1,
        ih (fun c' hc' => hc c' (List.mem_cons_of_mem _ hc'))
          (fun d' hd' => hd d' (List.mem_cons_of_mem _ hd')) h.2]

end TableBind.Text

namespace TableBind.Derive

open Builder

theorem screamingChars_of_noUpper {cs : List Char} (h : ∀ c ∈ cs, Text.isUppercase c = false)
    (afterLower : Bool) : screamingChars cs afterLower = cs.map Char.toUpper := by
  induction cs generalizing afterLower with
  | nil => rfl
  | cons c cs ih =>
    have hrest := ih fun c' hc' => h c' (List.mem_cons_of_mem _ hc')
    rw [screamingChars, if_neg (by simp [h c List.mem_cons_self]), List.map_cons]
    split
    · rename_i hu
      subst hu
      rw [hrest]
      rfl
    · rw [hrest]

/-- Names without uppercase characters have distinct constant names. -/
theorem screaming_inj {s t : String} (hs : Text.NoUppercase s) (ht : Text.NoUppercase t)
    (h : screaming s = screaming t) : s = t := by
  have hl := congrArg String.toList h
  rw [screaming, screaming, String.toList_ofList, String.toList_ofList,
    screamingChars_of_noUpper hs, screamingChars_of_noUpper ht] at hl
  exact String.toList_inj.1 (Text.map_toUpper_inj hs ht hl)

example : screaming "unitPrice" = screaming "unit_price" := by decide

/-- Generated code opens with the inherent implementation of the type, whose block holds one
constant per bound field, in field order, each named by the field's name (without its raw
prefix) in screaming snake case and registering that name. -/
theorem generate_constants {it : Item} {fs : List Field} {code : List Tok}
    (hbody : it.body = .named fs) (hgen : generate it = .ok code) :
    ∃ cs rest, code = .ident "impl" false :: (implGenerics it.params ++
        it.name :: (typeGenerics it.params ++ it.whereClause) ++
          .group .brace cs :: .ident "impl" false :: rest) ∧
      constants cs =
        (fs.filter Field.bound).map fun f => (screaming f.name.bareName, f.name.bareName) := by
  obtain ⟨t, c, r, h, cs, bs, -, -, -, -, hfields, rfl⟩ := generate_ok hbody hgen
  have hfs := fieldAttrs_of_fieldsCode hfields
  refine ⟨cs, _, by rw [List.append_assoc, List.singleton_append], ?_⟩
  rw [(fieldsCode_eq hfields).1, constants_fieldCode, ← boundFields_fst hfs, List.map_map]
  rfl

/-- Generated code declares one constant per bound field, in field order, named by the
field's name without its raw prefix in screaming snake case; fields whose names are distinct
and hold no uppercase character get constants of distinct names. -/
theorem generated_constants_distinct {it : Item} {fs : List Field} {code : List Tok}
    (hbody : it.body = .named fs) (hgen : generate it = .ok code) :
    ∃ cs rest, code = .ident "impl" false :: (implGenerics it.params ++
        it.name :: (typeGenerics it.params ++ it.whereClause) ++
          .group .brace cs :: .ident "impl" false :: rest) ∧
      constants cs =
        (fs.filter Field.bound).map (fun f => (screaming f.name.bareName, f.name.bareName)) ∧
      (((fs.filter Field.bound).map (·.name.bareName)).Nodup →
        (∀ f ∈ fs.filter Field.bound, Text.NoUppercase f.name.bareName) →
        ((constants cs).map Prod.fst).Nodup) := by
  obtain ⟨cs, rest, hcode, hconsts⟩ := generate_constants hbody hgen
  refine ⟨cs, rest, hcode, hconsts, fun hnames hlower => ?_⟩
  have hkeys : (constants cs).map Prod.fst =
      ((fs.filter Field.bound).map (·.name.bareName)).map screaming := by
    rw [hconsts, List.map_map, List.map_map]
    rfl
  rw [hkeys]
  refine hnames.map_on fun n hn m hm h => ?_
  obtain ⟨f, hf, rfl⟩ := List.mem_map.1 hn
  obtain ⟨g, hg, rfl⟩ := List.mem_map.1 hm
  exact screaming_inj (hlower f hf) (hlower g hg) h

/-- A struct `LineItem` with bound fields `unit_price` and `quantity` and an unbound `note`. -/
def lineItem : Item where
  attrs := [⟨some "table", .list [.ident "container" false, .punct '=' false, .lit "\"a\"",
    .punct ',' false, .ident "rows" false, .punct '=' false, .lit "\"b\"", .punct ',' false,
    .ident "header_row" false, .punct '=' false, .lit "\"c\""]⟩]
  name := .ident "LineItem" false
  params := []
  whereClause := []
  body := .named [⟨[⟨some "cell", .none⟩], .ident "unit_price" false⟩,
    ⟨[⟨some "cell", .none⟩], .ident "quantity" false⟩, ⟨[], .ident "note" false⟩]

theorem lineItem_constants_distinct : ∃ code, generate lineItem = .ok code ∧ ∃ cs rest,
    code = .ident "impl" false :: .ident "LineItem" false :: .group .brace cs ::
        .ident "impl" false :: rest ∧
      constants cs = [("UNIT_PRICE", "unit_price"), ("QUANTITY", "quantity")] ∧
      ((constants cs).map Prod.fst).Nodup := by
  have hbody : lineItem.body = .named [⟨[⟨some "cell", .none⟩], .ident "unit_price" false⟩,
      ⟨[⟨some "cell", .none⟩], .ident "quantity" false⟩, ⟨[], .ident "note" false⟩] := rfl
  obtain ⟨code, hgen⟩ := exists_generate_eq_ok hbody rfl rfl rfl rfl rfl
  obtain ⟨cs, rest, hshape, hconsts, hdistinct⟩ := generated_constants_distinct hbody hgen
  refine ⟨code, hgen, cs, rest, hshape, by rw [hconsts]; decide, hdistinct (by decide) ?_⟩
  -- the bound names are written in lowercase letters and underscores
  have hu : "unit_price".toList = ['u', 'n', 'i', 't', '_', 'p', 'r', 'i', 'c', 'e'] := rfl
  have hq : "quantity".toList = ['q', 'u', 'a', 'n', 't', 'i', 't', 'y'] := rfl
  simp [Field.bound, Tok.bareName, Text.NoUppercase, hu, hq, Text.isUppercase]

/-- A struct `PriceRow` with bound fields `unit_price` and `unitPrice`. -/
def priceItem : Item where
  attrs := [⟨some "table", .list [.ident "container" false, .punct '=' false, .lit "\"a\"",
    .punct ',' false, .ident "rows" false, .punct '=' false, .lit "\"b\"", .punct ',' false,
    .ident "header_row" false, .punct '=' false, .lit "\"c\""]⟩]
  name := .ident "PriceRow" false
  params := []
  whereClause := []
  body := .named [⟨[⟨some "cell", .none⟩], .ident "unit_price" false⟩,
    ⟨[⟨some "cell", .none⟩], .ident "unitPrice" false⟩]

/-- A camel case field and its snake case spelling are both accepted, and their constants
share the name `UNIT_PRICE`. -/
theorem camel_and_snake_fields_share_constant :
    ∃ code, generate priceItem = .ok code ∧ ∃ cs rest,
      code = .ident "impl" false :: .ident "PriceRow" false :: .group .brace cs ::
          .ident "impl" false :: rest ∧
        constants cs = [("UNIT_PRICE", "unit_price"), ("UNIT_PRICE", "unitPrice")] := by
  have hbody : priceItem.body = .named [⟨[⟨some "cell", .none⟩], .ident "unit_price" false⟩,
      ⟨[⟨some "cell", .none⟩], .ident "unitPrice" false⟩] := rfl
  obtain ⟨code, hgen⟩ := exists_generate_eq_ok hbody rfl rfl rfl rfl rfl
  obtain ⟨cs, rest, hshape, hconsts⟩ := generate_constants hbody hgen
  exact ⟨code, hgen, cs, rest, hshape, by rw [hconsts]; decide⟩

end TableBind.Derive
