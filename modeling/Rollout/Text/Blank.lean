import Rollout.Text.Ranges

/-!
# Blank text

* `isBlank`: the white space of Unicode.
* `allBlank`: texts that hold nothing else.
-/

namespace Rollout.Text

/-- The property `White_Space`. -/
def blankRanges : Ranges := #[
  (0x0009, 0x000D), (0x0020, 0x0020), (0x0085, 0x0085), (0x00A0, 0x00A0), (0x1680, 0x1680),
  (0x2000, 0x200A), (0x2028, 0x2029), (0x202F, 0x202F), (0x205F, 0x205F), (0x3000, 0x3000)]

/-- A white-space character. -/
def isBlank (c : Char) : Bool := blankRanges.has c

/-- A text of white space only. -/
def allBlank (cs : List Char) : Bool := cs.all isBlank

end Rollout.Text
