/-!
# Characters of YAML

* `isBreak`, `isBlank`: line ends, and the blanks inside a line.
* `startsBlank`: where a word ends.
* `isAllowed`, `isPrintable`: what a document may hold, and what is written as it is.
-/

namespace Rollout.Yaml

/-- Characters that end a line. -/
def isBreak (c : Char) : Bool := c ∈ ['\n', '\r', '\u0085', '\u2028', '\u2029']

/-- Blanks inside a line. -/
def isBlank (c : Char) : Bool := c = ' ' || c = '\t'

/-- Whether a text ends here or goes on with a blank or a line end. -/
def startsBlank : List Char → Bool
  | [] => true
  | c :: _ => isBlank c || c = '\x00' || isBreak c

/-- Characters that a document may hold. -/
def isAllowed (c : Char) : Bool :=
  c ∈ ['\t', '\n', '\r', '\u0085'] || (0x20 ≤ c.toNat && c.toNat ≤ 0x7E)
    || (0xA0 ≤ c.toNat && !(c.toNat ∈ [0xFFFE, 0xFFFF]))

/-- Characters that can be written as they are. -/
def isPrintable (c : Char) : Bool :=
  c = '\n' || (0x20 ≤ c.toNat && c.toNat ≤ 0x7E)
    || (0xA0 ≤ c.toNat && !(c.toNat ∈ [0xFEFF, 0xFFFE, 0xFFFF]))

/-- Whether a text starts like the line between two documents. -/
def startsDocument (cs : List Char) : Bool :=
  cs.take 3 == ['-', '-', '-'] || cs.take 3 == ['.', '.', '.']

end Rollout.Yaml
