/-! Sets of characters given by closed ranges of code points. -/

namespace HybridSearch.Text

/-- A set of characters, as closed ranges of code points in ascending order. -/
abbrev Ranges := List (Nat × Nat)

namespace Ranges

def contains (ranges : Ranges) (character : Char) : Bool :=
  ranges.any fun range => range.1 ≤ character.toNat && character.toNat ≤ range.2

end Ranges

end HybridSearch.Text
