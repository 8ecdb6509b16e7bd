/-!
# Powers of two and ten

* `twoTo`, `tenTo`.
-/

namespace Rollout

/-- The power `2 ^ k`. -/
def twoTo (k : Nat) : Nat := Nat.pow 2 k

/-- The power `10 ^ k`. -/
def tenTo (k : Nat) : Nat := Nat.pow 10 k

end Rollout
