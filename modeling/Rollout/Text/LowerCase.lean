import Rollout.Text.LowerCase.Table

/-!
# Lower case

The full Unicode mapping of a text to lower case, which may lengthen it.

* `lowerChar`: one character, without its surroundings.
* `lower`: a text; a capital sigma at the end of a word becomes the final form.
-/

namespace Rollout.Text

/-- A cased letter. -/
def isCased (c : Char) : Bool := casedRanges.has c

/-- A mark that may stand inside a word. -/
def isCaseIgnorable (c : Char) : Bool := caseIgnorableRanges.has c

/-- The distance from a capital beyond ASCII to its small letter, if it is one. -/
def lowerDistance? (c : Char) : Option Int :=
  (lowerRuns.find? fun r =>
    r.first ≤ c.toNat && c.toNat ≤ r.last && (c.toNat - r.first) % r.step == 0).map (·.distance)

/-- The lower case of one character: the dotted capital `İ` is the only one that becomes two. -/
def lowerChar (c : Char) : List Char :=
  if c.toNat < 128 then [c.toLower]
  else if c = 'İ' then ['i', '\u0307']
  else match lowerDistance? c with
    | some d => [Char.ofNat (Int.toNat (c.toNat + d))]
    | none => [c]

/-- Whether the nearest character that is not ignorable is a cased letter. -/
def meetsCased (cs : List Char) : Bool :=
  match cs.dropWhile isCaseIgnorable with
  | [] => false
  | c :: _ => isCased c

/-- The lower case of a text that follows `before`, whose nearest character comes first. -/
def lowerFrom (before : List Char) : List Char → List Char
  | [] => []
  | c :: rest =>
    let small :=
      if c = 'Σ' then if meetsCased before && !meetsCased rest then ['ς'] else ['σ']
      else lowerChar c
    small ++ lowerFrom (c :: before) rest

/-- The lower case of a text. -/
def lower (cs : List Char) : List Char := lowerFrom [] cs

end Rollout.Text
