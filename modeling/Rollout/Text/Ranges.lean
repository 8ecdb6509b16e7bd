/-!
# Ranges of code points

* `Ranges`: a property of characters, as the list of the ranges that have it.
* `Ranges.has`: whether a character has the property.
-/

namespace Rollout.Text

/-- Inclusive ranges of code points, in ascending order. -/
abbrev Ranges := Array (Nat × Nat)

/-- Whether `c` lies in one of the ranges. -/
def Ranges.has (r : Ranges) (c : Char) : Bool :=
  r.any fun (first, last) => first ≤ c.toNat && c.toNat ≤ last

end Rollout.Text
