/-!
# Ranges of characters

A class of characters is given by the ranges of their numbers.
-/

namespace OutboxRelay
namespace Text

/-- Whether a character lies in one of some ranges, each given by its ends. -/
def isWithin (ranges : List (Nat × Nat)) (c : Char) : Bool :=
  ranges.any fun (first, last) => first ≤ c.toNat && c.toNat ≤ last

end Text
end OutboxRelay
