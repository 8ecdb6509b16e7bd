import Rollout.Text.LowerCase

/-!
# Identifiers

Lower-case names of letters, digits and single dashes, safe as resource names and job keys.

* `sanitize`: the identifier of any display text.
* `clusterIdentity`: the identity of a cluster, by its name or else its address.
* `maxNameLength`: the longest name a resource may have.
-/

namespace Rollout

/-- The longest name a resource may have. -/
def maxNameLength : Nat := 63

/-- The text after a prefix, if it starts with it. -/
def dropPrefix? (start : List Char) (cs : List Char) : Option (List Char) :=
  if start.isPrefixOf cs then some (cs.drop start.length) else none

/-- The text without one leading web scheme. -/
def dropScheme (cs : List Char) : List Char :=
  ((dropPrefix? "https://".toList cs).or (dropPrefix? "http://".toList cs)).getD cs

/-- The letters and digits of a text that follows one of them. A dash stands for whatever comes
between two of them; `gap` tells that one is owed. -/
def dashed (gap : Bool) : List Char → List Char
  | [] => []
  | c :: cs =>
    if c.isAlphanum then (if gap then ['-', c] else [c]) ++ dashed false cs else dashed true cs

/-- The runs of letters and digits of a text, with dashes between them. -/
def dashedRuns (cs : List Char) : List Char :=
  dashed false (cs.dropWhile fun c => !c.isAlphanum)

/-- The identifier of a display text: lower case, without a leading web scheme, its runs of ASCII
letters and digits joined by dashes. -/
def sanitize (raw : String) : String :=
  String.ofList (dashedRuns (dropScheme (Text.lower raw.toList)))

-- Names are not computed to compare them.
attribute [irreducible] sanitize

/-- A text that is given and not empty. -/
def filled? (s : Option String) : Option String := s.filter fun s => !s.isEmpty

/-- The identity of a cluster: its name in lower case, or else the identifier of its address. -/
def clusterIdentity (name server : Option String) : String :=
  match filled? name with
  | some name => String.ofList (Text.lower name.toList)
  | none => sanitize (server.getD "")

/-- What tells one deployment target from another: the cluster's identifier and the namespace. -/
structure DestinationKey where
  text : String
  deriving DecidableEq, Inhabited

/-- The key of a namespace on a cluster. -/
def DestinationKey.of (identity space : String) : DestinationKey :=
  ⟨sanitize identity ++ "/namespace/" ++ space⟩

end Rollout
