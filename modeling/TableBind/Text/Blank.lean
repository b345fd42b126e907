/-! Blank characters and the text operations built on them: trimming, splitting into
words, and finding one text inside another. Blank means the Unicode `White_Space`
property, so a no-break or ideographic space counts as blank. -/

namespace TableBind.Text

/-- The Unicode `White_Space` characters: tab to carriage return, space, next line,
no-break space, ogham space mark, en quad to hair space, the line and paragraph
separators, narrow no-break space, medium mathematical space and ideographic space. -/
def isBlank (c : Char) : Bool :=
  let n := c.toNat
  (0x09 ≤ n && n ≤ 0x0d) || n == 0x20 || n == 0x85 || n == 0xa0 || n == 0x1680 ||
    (0x2000 ≤ n && n ≤ 0x200a) || n == 0x2028 || n == 0x2029 || n == 0x202f ||
    n == 0x205f || n == 0x3000

def trimChars (cs : List Char) : List Char :=
  ((cs.dropWhile isBlank).reverse.dropWhile isBlank).reverse

def trim (s : String) : String := String.ofList (trimChars s.toList)

/-- The words of `cs` after the word `cur` (kept reversed): maximal runs of
non-blank characters, in order. -/
def wordsFrom (cur : List Char) : List Char → List (List Char)
  | [] => if cur.isEmpty then [] else [cur.reverse]
  | c :: rest =>
    if isBlank c then
      if cur.isEmpty then wordsFrom [] rest else cur.reverse :: wordsFrom [] rest
    else wordsFrom (c :: cur) rest

def words (s : String) : List String := (wordsFrom [] s.toList).map String.ofList

/-- Whether `needle` occurs as a contiguous piece of `hay`; the empty text occurs
everywhere. -/
def occursIn (needle : List Char) : List Char → Bool
  | [] => needle.isEmpty
  | c :: rest => needle.isPrefixOf (c :: rest) || occursIn needle rest

def contains (hay needle : String) : Bool := occursIn needle.toList hay.toList

theorem occursIn_iff (needle hay : List Char) : occursIn needle hay = true ↔ needle <:+: hay := by
  induction hay with
  | nil =>
    cases needle <;> simp [occursIn]
  | cons c rest ih =>
    simp only [occursIn, Bool.or_eq_true, ih, List.isPrefixOf_iff_prefix]
    constructor
    · rintro (h | h)
      · exact h.isInfix
      · exact h.trans (List.suffix_cons c rest).isInfix
    · intro h
      rw [List.infix_cons_iff] at h
      exact h

end TableBind.Text
