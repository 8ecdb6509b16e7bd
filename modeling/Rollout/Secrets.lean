import Rollout.Document.Codec

/-!
# Secrets policies

* `SecretsPolicy`: which secrets a called workflow receives.
* `SecretsPolicy.codec`: the word `inherit`, or a map from names to expressions.
-/

namespace Rollout

/-- Which secrets a called workflow receives. -/
inductive SecretsPolicy where
  /-- All of the caller's. -/
  | inherit
  /-- Only those listed, each by an expression. -/
  | explicit (secrets : OrderedMap String String)
  deriving DecidableEq

instance : Inhabited SecretsPolicy := ⟨.inherit⟩

namespace SecretsPolicy

/-- The document form. -/
def encode : SecretsPolicy → Value
  | .inherit => .text "inherit"
  | .explicit m => Codec.text.map.encode m

/-- Reads a policy from a tree whose words have types: a word other than `inherit` is a fault of
its own. -/
def ofSettled : Node → Except Fault SecretsPolicy
  | .text s => if s = "inherit" then .ok .inherit else .error (.secretsPolicy s)
  | .map entries =>
    match Codec.text.map.decode .settled (.map entries) with
    | .ok m => .ok (.explicit m)
    | .error _ => .error .unsuitable
  | _ => .error .unsuitable

/-- The codec of policies. Both forms are told apart only after every word has its type. -/
def codec : Codec SecretsPolicy := ⟨encode, fun _ n => do ofSettled (← n.settle)⟩

end SecretsPolicy

end Rollout
