/-! Byte offsets into the UTF-8 encoding of a text, as string slicing counts them: a text is
split at a byte offset only at a character boundary, and a search gives the byte offset of
the first character it finds. -/

namespace TableBind.Text

/-- Splits a text at byte `i` of its UTF-8 encoding into the parts before and after, or gives
nothing when `i` falls inside a character or past the end. -/
def splitAtByte : List Char → Nat → Option (List Char × List Char)
  | cs, 0 => some ([], cs)
  | [], _ + 1 => none
  | c :: r, n + 1 =>
    if c.utf8Size ≤ n + 1 then (splitAtByte r (n + 1 - c.utf8Size)).map fun p => (c :: p.1, p.2)
    else none

def findByteOrEnd (p : Char → Bool) : List Char → Nat
  | [] => 0
  | c :: r => if p c then 0 else c.utf8Size + findByteOrEnd p r

/-- Where slicing a text fails: byte `index` of `text` falls inside a character or past the
end. -/
structure SliceFault where
  text : List Char
  index : Nat
  deriving DecidableEq, Repr

def sliceTo (cs : List Char) (i : Nat) : Except SliceFault (List Char) :=
  match splitAtByte cs i with
  | some p => .ok p.1
  | none => .error ⟨cs, i⟩

/-- The text from byte `a` to byte `b`; the start is checked before the end. -/
def sliceRange (cs : List Char) (a b : Nat) : Except SliceFault (List Char) :=
  if a ≤ b then
    match splitAtByte cs a with
    | none => .error ⟨cs, a⟩
    | some p =>
      match splitAtByte p.2 (b - a) with
      | none => .error ⟨cs, b⟩
      | some q => .ok q.1
  else .error ⟨cs, a⟩

theorem splitAtByte_length_le {cs : List Char} {i : Nat} {p : List Char × List Char}
    (h : splitAtByte cs i = some p) : p.2.length ≤ cs.length := by
  induction cs generalizing i p with
  | nil =>
    cases i with
    | zero =>
      simp only [splitAtByte, Option.some.injEq] at h
      simp [← h]
    | succ n => simp [splitAtByte] at h
  | cons c r ih =>
    cases i with
    | zero =>
      simp only [splitAtByte, Option.some.injEq] at h
      simp [← h]
    | succ n =>
      simp only [splitAtByte] at h
      split at h
      · obtain ⟨q, hq, rfl⟩ := Option.map_eq_some_iff.1 h
        have := ih hq
        simp only [List.length_cons]
        omega
      · cases h

theorem splitAtByte_length_lt {cs : List Char} {n : Nat} {p : List Char × List Char}
    (h : splitAtByte cs (n + 1) = some p) : p.2.length < cs.length := by
  cases cs with
  | nil => simp [splitAtByte] at h
  | cons c r =>
    simp only [splitAtByte] at h
    split at h
    · obtain ⟨q, hq, rfl⟩ := Option.map_eq_some_iff.1 h
      have := splitAtByte_length_le hq
      simp only [List.length_cons]
      omega
    · cases h

end TableBind.Text
