namespace Docking

/-! How deeply the parts of a pattern are nested. A single part is no deeper for standing
in a row; two or more are one level below the row. -/

def patternDepthLimit : Nat := 250

/-- The parts read so far in one bracket or group: those since the last separator, and the
depth of all that stands before it. -/
structure PatternRow where
  count : Nat
  deepest : Nat
  earlier : Option Nat
deriving DecidableEq, Inhabited

namespace PatternRow

def empty : PatternRow := ⟨0, 0, none⟩

def add (row : PatternRow) (depth : Nat) : PatternRow :=
  { row with count := row.count + 1, deepest := max row.deepest depth }

def current (row : PatternRow) : Nat :=
  if row.count ≤ 1 then row.deepest else row.deepest + 1

def depth (row : PatternRow) : Nat :=
  match row.earlier with
  | none => row.current
  | some earlier => max earlier row.current + 1

/-- Behind a bar, all alternatives stand at one level. -/
def behindBar (row : PatternRow) : PatternRow :=
  ⟨0, 0, some ((row.earlier.map fun earlier => max earlier row.current).getD row.current)⟩

/-- Behind an operator, its two sides stand one level below it. -/
def behindOperator (row : PatternRow) : PatternRow :=
  ⟨0, 0, some row.depth⟩

end PatternRow
end Docking
