import Rollout.Application.Codec
import Rollout.Promotion

/-!
# Artifacts

* `ArtifactSet`: the generated documents and their paths, no path twice.
* `ArtifactSet.assemble`: manifests first, then the workflows, those that are called first.
-/

namespace Rollout

/-- A generated document. -/
inductive Artifact.Content where
  | manifest (a : Application)
  | workflow (w : Workflow)
  deriving DecidableEq, Inhabited

/-- A generated document and its path in the repository. -/
structure Artifact where
  path : String
  content : Artifact.Content
  deriving DecidableEq, Inhabited

/-- The document tree of an artifact. -/
def Artifact.Content.encode : Artifact.Content → Value
  | .manifest a => Application.schema.codec.encode a
  | .workflow w => Workflow.schema.codec.encode w

/-- A manifest as an artifact. -/
def ManifestRecord.artifact (m : ManifestRecord) : Artifact := ⟨m.path, .manifest m.application⟩

/-- A workflow as an artifact. -/
def WorkflowRecord.artifact (w : WorkflowRecord) : Artifact := ⟨w.path, .workflow w.workflow⟩

/-- The artifacts of one run, in order. -/
structure ArtifactSet where
  toList : List Artifact
  /-- No path is used twice. -/
  nodup : (toList.map (·.path)).Nodup

/-- The first path that repeats one before it. -/
def repeated? (seen : List String) : List String → Option String
  | [] => none
  | p :: rest => if p ∈ seen then some p else repeated? (p :: seen) rest

theorem nodup_of_repeated? {seen paths : List String} (h : repeated? seen paths = none) :
    paths.Nodup ∧ ∀ p ∈ paths, p ∉ seen := by
  induction paths generalizing seen with
  | nil => exact ⟨.nil, by simp⟩
  | cons p rest ih =>
    rw [repeated?] at h
    split at h
    · cases h
    · rename_i hp
      obtain ⟨hn, hs⟩ := ih h
      refine ⟨List.nodup_cons.mpr ⟨fun hm => hs p hm List.mem_cons_self, hn⟩, fun q hq => ?_⟩
      rcases List.mem_cons.mp hq with hq | hq
      · exact hq ▸ hp
      · exact fun hm => hs q hq (List.mem_cons_of_mem _ hm)

namespace ArtifactSet

/-- Artifacts in order, unless two share a path. -/
def ofList (as : List Artifact) : Except SynthesisError ArtifactSet :=
  match h : repeated? [] (as.map (·.path)) with
  | some p => .error (.duplicatePath p)
  | none => .ok ⟨as, (nodup_of_repeated? h).1⟩

/-- The manifests, then the workflows of a pipeline. -/
def assemble (manifests : List ManifestRecord) (p : Pipeline) :
    Except SynthesisError ArtifactSet :=
  ofList (manifests.map (·.artifact) ++ p.workflows.map (·.artifact))

/-- The number of artifacts. -/
def size (s : ArtifactSet) : Nat := s.toList.length

/-- The manifests and their paths. -/
def manifests (s : ArtifactSet) : List (String × Application) :=
  s.toList.filterMap fun a => match a.content with
    | .manifest m => some (a.path, m)
    | .workflow _ => none

/-- The workflows and their paths. -/
def workflows (s : ArtifactSet) : List (String × Workflow) :=
  s.toList.filterMap fun a => match a.content with
    | .workflow w => some (a.path, w)
    | .manifest _ => none

/-- The document at a path. -/
def get? (s : ArtifactSet) (path : String) : Option Artifact.Content :=
  (s.toList.find? (·.path = path)).map (·.content)

end ArtifactSet

end Rollout
