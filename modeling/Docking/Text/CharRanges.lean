namespace Docking

/-! Classes of characters, given as closed ranges of code points. -/

abbrev CharRanges := List (Nat × Nat)

namespace CharRanges

def contains (ranges : CharRanges) (char : Char) : Bool :=
  ranges.any fun range => range.1 ≤ char.toNat && char.toNat ≤ range.2

end CharRanges
end Docking
