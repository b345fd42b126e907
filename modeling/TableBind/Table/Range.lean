/-! Row ranges. Rows are asked for by 1-based positions `start` to `stop`, both included;
the table has `available` rows. The answer is the 0-based first and last positions of the
rows that are both asked for and present, or nothing when there are none. -/

namespace TableBind

/-- The 0-based first and last positions of the rows `start..stop` (1-based, both included)
among `available` rows, or `none` when no row is both asked for and present. -/
def resolveRange (start stop available : Nat) : Option (Nat × Nat) :=
  if stop < start ∨ available = 0 ∨ stop < 1 ∨ available < start then none
  else some (max start 1 - 1, min stop available - 1)

end TableBind
