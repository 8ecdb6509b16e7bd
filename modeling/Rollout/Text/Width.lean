import Rollout.Text.Width.Table

/-!
# Display columns

* `columns`: how many terminal columns a text takes.
-/

namespace Rollout.Text

/-- The columns of one character: none, one or two. -/
def charColumns (c : Char) : Nat :=
  if weightlessRanges.has c then 0 else if wideRanges.has c then 2 else 1

/-- The columns of a line of text. -/
def columns (cs : List Char) : Nat := cs.foldl (fun n c => n + charColumns c) 0

end Rollout.Text
