import Mathlib
import TableBind.Derive.Cursor
import TableBind.Text.Quoted

/-! Literals of generated code read back. The string literal written for a text (quotes,
backslash escapes, `\u` escapes of hex codes, NUL as `\0` or `\x00`) decodes to the text,
and the `i32` literal written for a number reads as the number with its suffix. -/

namespace TableBind.Derive

open TableBind.Text

/-! ### Digits -/

theorem hexVal_digitChar {d : Nat} (h : d < 16) : Lex.hexVal d.digitChar = some d := by
  revert d
  decide

theorem digitChar_ne_escape_end {d : Nat} (h : d < 16) :
    d.digitChar ≠ '_' ∧ d.digitChar ≠ '\x7d' := by
  revert d
  decide

theorem unicodeDigits_digit {d : Nat} (hd : d < 16) (rest : List Char) (v len : Nat)
    (hlen : len < 6) :
    Lex.unicodeDigits (d.digitChar :: rest) v len = Lex.unicodeDigits rest (v * 16 + d) (len + 1) := by
  obtain ⟨hu, hb⟩ := digitChar_ne_escape_end hd
  simp [Lex.unicodeDigits, hu, hb, hexVal_digitChar hd, show len ≠ 6 by omega]

theorem unicodeDigits_toDigits (n : Nat) (rest : List Char) (v len : Nat)
    (h : len + (Nat.toDigits 16 n).length ≤ 6) :
    Lex.unicodeDigits (Nat.toDigits 16 n ++ rest) v len =
      Lex.unicodeDigits rest (v * 16 ^ (Nat.toDigits 16 n).length + n)
        (len + (Nat.toDigits 16 n).length) := by
  induction n using Nat.strong_induction_on generalizing v len rest with
  | _ n ih =>
    rw [Nat.toDigits_eq_if (by norm_num)] at h ⊢
    by_cases hn : n < 16
    · simp only [hn, if_true, List.singleton_append, List.length_singleton, pow_one] at h ⊢
      exact unicodeDigits_digit hn rest v len (by omega)
    · simp only [hn, if_false, List.length_append, List.length_singleton, List.append_assoc,
        List.singleton_append] at h ⊢
      rw [ih (n / 16) (by omega) _ v len (by omega),
        unicodeDigits_digit (Nat.mod_lt n (by norm_num)) rest _ _ (by omega)]
      have hsplit := Nat.div_add_mod n 16
      congr 1
      rw [pow_succ]
      nlinarith

theorem length_hexDigits_le (c : Char) : (hexDigits c.toNat).length ≤ 6 := by
  have hc : c.toNat < 16 ^ 6 := by
    have : c.toNat < 0xd800 ∨ (0xdfff < c.toNat ∧ c.toNat < 0x110000) := c.valid
    omega
  exact (Nat.length_toDigits_le_iff (by norm_num) (by norm_num)).2 hc

theorem unicodeEscape_hexDigits (c : Char) (rest : List Char) :
    Lex.unicodeEscape ('\x7b' :: (hexDigits c.toNat ++ '\x7d' :: rest)) = some (rest, c.toNat) := by
  have hlen := length_hexDigits_le c
  rw [Lex.unicodeEscape, hexDigits, unicodeDigits_toDigits _ _ _ _ (by simpa [hexDigits] using hlen)]
  have hvalid : c.toNat < 0xd800 ∨ (0xdfff < c.toNat ∧ c.toNat < 0x110000) := c.valid
  simp only [Nat.zero_mul, Nat.zero_add]
  rw [Lex.unicodeDigits]
  have hk : 0 < (Nat.toDigits 16 c.toNat).length := Nat.length_toDigits_pos
  simp [hk]
  omega

/-! ### String literals -/

theorem cookStr_escapeChar {c : Char} (hc : c ≠ '\x00') (n : Nat) (rest : List Char) :
    cookStr (n + 1) (escapeChar c ++ rest) = c :: cookStr n rest := by
  unfold escapeChar
  -- the NUL branch is ruled out by `hc`; each escape is decoded by its own case of `cookStr`
  split_ifs with ht hr hn hb hq hu
  · subst ht; simp [cookStr]
  · subst hr; simp [cookStr]
  · subst hn; simp [cookStr]
  · subst hb; simp [cookStr]
  · subst hq; simp [cookStr]
  · simp [cookStr, unicodeEscape_hexDigits]
  · simp [cookStr, hq, hr, hb]

theorem length_le_escapeLiteral (cs : List Char) : cs.length ≤ (escapeLiteral cs).length := by
  induction cs with
  | nil => simp
  | cons c cs ih =>
    have hesc : 1 ≤ (escapeChar c).length := by
      unfold escapeChar
      split_ifs <;> simp
    rw [escapeLiteral]
    split_ifs <;> simp <;> omega

/-- The escaped text before a closing quote decodes to the text, given one unit of fuel per
character. -/
theorem cookStr_escapeLiteral (cs rest : List Char) (n : Nat) (h : cs.length ≤ n) :
    cookStr n (escapeLiteral cs ++ '"' :: rest) = cs := by
  induction cs generalizing n with
  | nil =>
    cases n <;> simp [escapeLiteral, cookStr]
  | cons c cs ih =>
    obtain ⟨m, rfl⟩ : ∃ m, n = m + 1 := ⟨n - 1, by simp at h; omega⟩
    have hm : cs.length ≤ m := by simpa using h
    rw [escapeLiteral]
    split_ifs with h0 hoct
    · subst h0
      simp [cookStr, Lex.hexVal, ih m hm]
    · subst h0
      simp [cookStr, ih m hm]
    · rw [List.append_assoc, cookStr_escapeChar h0, ih m hm]

/-- The string literal written for a text decodes to the text. -/
theorem strValue_quoteLiteral (s : String) : strValue (quoteLiteral s) = some s := by
  have hlen := length_le_escapeLiteral s.toList
  simp only [strValue, quoteLiteral, String.toList_ofList, List.cons_append]
  rw [cookStr_escapeLiteral _ _ _ (by simp; omega)]
  simp

theorem isStrText_quoteLiteral (s : String) : isStrText (quoteLiteral s) = true := by
  simp [isStrText, quoteLiteral]

/-! ### Integer literals -/

theorem intBody_digit {d : Nat} (hd : d < 10) (rest : List Char) (v : Nat) (seen : Bool) :
    intBody 10 (d.digitChar :: rest) v seen = intBody 10 rest (v * 10 + d) true := by
  have hdig : Lex.isDigit d.digitChar = true := by
    revert d
    decide
  have hne : d.digitChar ≠ '_' ∧ d.digitChar ≠ '.' ∧ d.digitChar ≠ 'e' ∧ d.digitChar ≠ 'E' := by
    revert d
    decide
  obtain ⟨hu, hdot, he, hE⟩ := hne
  simp [intBody, hu, hdot, he, hE, hdig, Nat.toNat_digitChar_sub_48_of_lt_ten hd, hd]

theorem intBody_toDigits (n : Nat) (rest : List Char) (v : Nat) (seen : Bool) :
    intBody 10 (Nat.toDigits 10 n ++ rest) v seen =
      intBody 10 rest (v * 10 ^ (Nat.toDigits 10 n).length + n) true := by
  induction n using Nat.strong_induction_on generalizing v seen rest with
  | _ n ih =>
    rw [Nat.toDigits_eq_if (by norm_num)]
    by_cases hn : n < 10
    · simp only [hn, if_true, List.singleton_append, List.length_singleton, pow_one]
      exact intBody_digit hn rest v seen
    · simp only [hn, if_false, List.length_append, List.length_singleton, List.append_assoc,
        List.singleton_append]
      rw [ih (n / 10) (by omega), intBody_digit (Nat.mod_lt n (by norm_num))]
      have hsplit := Nat.div_add_mod n 10
      congr 1
      rw [pow_succ]
      nlinarith

/-- The `i32` literal of a number reads as the number with its suffix. -/
theorem intLiteral_i32 (n : Nat) : intLiteral (toString n ++ "i32") = some ((n : Int), "i32") := by
  have hlist : (toString n ++ "i32").toList = Nat.toDigits 10 n ++ ['i', '3', '2'] := by
    simp
  have hdigits : ∀ x ∈ Nat.toDigits 10 n, Lex.isDigit x = true := by
    intro x hx
    exact Nat.isDigit_of_mem_toDigits (by norm_num) (by norm_num) hx
  have hbody : intBody 10 (Nat.toDigits 10 n ++ ['i', '3', '2']) 0 false =
      some (n, true, ['i', '3', '2']) := by
    rw [intBody_toDigits]
    simp [intBody, Lex.isDigit]
  have hsfx : isIdentText ['i', '3', '2'] = true := by
    simp [isIdentText, Text.isIdentStart, Text.isIdentContinue]
  have hi32 : String.ofList ['i', '3', '2'] = "i32" := rfl
  -- the first digit is no sign, and what follows it is no base prefix
  obtain ⟨c, r, hcr⟩ := List.exists_cons_of_ne_nil (Nat.toDigits_ne_nil (n := n) (b := 10))
  have hc : Lex.isDigit c = true := hdigits c (by simp [hcr])
  have hminus : c ≠ '-' := by
    rintro rfl
    simp [Lex.isDigit] at hc
  rw [intLiteral, hlist, hcr]
  rw [hcr] at hbody
  cases r with
  | nil =>
    simp only [List.cons_append, List.nil_append] at hbody
    simp [hminus, hc, hbody, hsfx, hi32]
  | cons c2 r2 =>
    have hc2 : Lex.isDigit c2 = true := hdigits c2 (by simp [hcr])
    have hx : c2 ≠ 'x' ∧ c2 ≠ 'o' ∧ c2 ≠ 'b' := by
      refine ⟨?_, ?_, ?_⟩ <;> (rintro rfl; simp [Lex.isDigit] at hc2)
    simp only [List.cons_append] at hbody
    simp [hminus, hc, hx, hbody, hsfx, hi32]

end TableBind.Derive
