import Rollout.Document.Codec
import Rollout.Document.Toml.Reader
import Rollout.Promotion

/-!
# Configuration files

* `Config`: settings that flags take precedence over.
* `Config.ofText?`: reads a configuration file.
-/

namespace Rollout.CommandLine

/-- Settings of a configuration file. -/
structure Config where
  repoUrl : Option String := none
  targetRevision : Option String := none
  manifestDir : Option String := none
  workflowDir : Option String := none
  applicationNamespace : Option String := none
  project : Option String := none
  runsOn : Option (List String) := none
  deriving DecidableEq, Inhabited

namespace Config

/-- The text under a key, if there is one; anything else there is refused. -/
def text? (es : Toml.Entries) (name : String) : Option (Option String) :=
  match es.lookup name with
  | none => some none
  | some (.text s) => some (some s)
  | some _ => none

/-- The texts of a list; anything else in it is refused. -/
def texts? : List Toml.Item → Option (List String)
  | [] => some []
  | .text s :: rest => (texts? rest).map (s :: ·)
  | _ => none

/-- The list of texts under a key, if there is one; anything else there is refused. -/
def list? (es : Toml.Entries) (name : String) : Option (Option (List String)) :=
  match es.lookup name with
  | none => some none
  | some (.list items) => (texts? items).map some
  | some _ => none

/-- Reads a configuration file. Keys that are not known are passed over. -/
def ofText? (s : String) : Option Config := do
  let es ← Toml.read? s
  return {
    repoUrl := ← text? es "repo_url"
    targetRevision := ← text? es "target_revision"
    manifestDir := ← text? es "manifest_output_path"
    workflowDir := ← text? es "workflow_output_path"
    applicationNamespace := ← text? es "application_namespace"
    project := ← text? es "project"
    runsOn := ← list? es "runs_on" }

/-- The settings by name. -/
def encode (c : Config) : Value :=
  let text := Codec.text.option.encode
  .object [
    ("repo_url", text c.repoUrl),
    ("target_revision", text c.targetRevision),
    ("manifest_output_path", text c.manifestDir),
    ("workflow_output_path", text c.workflowDir),
    ("application_namespace", text c.applicationNamespace),
    ("project", text c.project),
    ("runs_on", Codec.text.list.option.encode c.runsOn)]

end Config

end Rollout.CommandLine
