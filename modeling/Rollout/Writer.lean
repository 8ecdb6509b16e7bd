import Rollout.ArtifactSet
import Rollout.Document.Yaml.Writer
import Rollout.FileTree

/-!
# Writing artifacts

Artifacts of an earlier run are removed before new ones are written: workflow files by their name,
manifest files by their first line. Nothing else in either directory is touched.

* `ArtifactSet.render`: the files of an artifact set.
* `Writer.clean`, `Writer.write`.
-/

namespace Rollout

/-- The first line of every generated file. -/
def generatedHeader : String := "# Code generated by rollgate. DO NOT EDIT.\n"

/-- A file to be written. -/
structure RenderedArtifact where
  path : String
  contents : String
  deriving DecidableEq, Inhabited

/-- The file of an artifact. -/
def Artifact.render (a : Artifact) : RenderedArtifact :=
  ⟨a.path, generatedHeader ++ Yaml.write a.content.encode⟩

/-- The files of an artifact set, in order. -/
def ArtifactSet.render (s : ArtifactSet) : List RenderedArtifact := s.toList.map (·.render)

/-- Where generated files are kept. -/
structure Writer where
  manifestDir : String
  workflowDir : String
  /-- What the names of generated workflow files start with. -/
  filePrefix : String
  deriving DecidableEq, Inhabited

/-- Whether a text starts with another one. -/
def startsWith (s start : String) : Bool := start.toList.isPrefixOf s.toList

/-- Whether a text ends with another one. -/
def endsWith (s ending : String) : Bool := ending.toList.isSuffixOf s.toList

namespace Writer

/-- Whether a file name is that of a generated workflow. -/
def ownsWorkflow (w : Writer) (name : String) : Bool :=
  startsWith name (w.filePrefix ++ "-") && endsWith name ".yml"

/-- Whether contents start with the generated first line. -/
def isGenerated (contents : Bytes) : Bool :=
  (Bytes.toText? contents).any fun s => startsWith s generatedHeader

/-- Whether a file is a generated manifest, by its name and what can be read of it. -/
def ownsManifest (name : String) (contents : Option Bytes) : Bool :=
  endsWith name ".yaml" && contents.any isGenerated

/-- What can be read of the file at a place. -/
def readable (r : Refusals) (p : Place) (contents : Bytes) : Option Bytes :=
  if (r.refuses .read p).isNone then some contents else none

/-- Whether a name in a directory is a text and that of a file that satisfies a test. -/
def takes (r : Refusals) (d : Place) (owns : String → Option Bytes → Bool) (t : FileTree) :
    FileName → Bool
  | .text name =>
    match t.get? (d ++ [.text name]) with
    | some (.file contents) => owns name (readable r (d ++ [.text name]) contents)
    | _ => false
  | .bytes .. => false

/-- Removes the files among some names of a directory that satisfy a test, one by one, and counts
them. What was removed before a failure is gone. -/
def removeEach (r : Refusals) (d : Place) (owns : String → Option Bytes → Bool) (t : FileTree) :
    List FileName → FileTree × Except IoError Nat
  | [] => (t, (r.check .next d).map fun () => 0)
  | name :: rest =>
    match r.check .next (d ++ [name]) with
    | .error e => (t, .error e)
    | .ok () =>
      if takes r d owns t name then
        match r.check .remove (d ++ [name]) with
        | .error e => (t, .error e)
        | .ok () =>
          let (t, result) := removeEach r d owns (t.remove (d ++ [name])) rest
          (t, result.map (1 + ·))
      else removeEach r d owns t rest

/-- Removes the files directly inside a directory that satisfy a test, and counts them. A directory
that is missing has none. -/
def removeIn (r : Refusals) (dir : String) (owns : String → Option Bytes → Bool) (t : FileTree) :
    FileTree × Except IoError Nat :=
  match t.directory? (.ofPath dir) with
  | none => (t, .ok 0)
  | some d =>
    match r.check .list d with
    | .error e => (t, .error e)
    | .ok () => removeEach r d owns t (t.namesIn d)

/-- Removes the files of an earlier run, and counts them. -/
def clean (w : Writer) (r : Refusals) (t : FileTree) : FileTree × Except IoError Nat :=
  match removeIn r w.workflowDir (fun name _ => w.ownsWorkflow name) t with
  | (t, .error e) => (t, .error e)
  | (t, .ok workflows) =>
    let (t, result) := removeIn r w.manifestDir ownsManifest t
    (t, result.map (workflows + ·))

/-- Writes files from left to right. What was written before a failure stays. -/
def writeAll (r : Refusals) (t : FileTree) : List RenderedArtifact → FileTree × Except IoError Unit
  | [] => (t, .ok ())
  | a :: rest =>
    match t.writePath r a.path (.ofText a.contents) with
    | (t, .error e) => (t, .error e)
    | (t, .ok ()) => writeAll r t rest

/-- Removes the files of an earlier run and writes new ones; counts those. -/
def write (w : Writer) (r : Refusals) (t : FileTree) (artifacts : List RenderedArtifact) :
    FileTree × Except IoError Nat :=
  match w.clean r t with
  | (t, .error e) => (t, .error e)
  | (t, .ok _) =>
    let (t, result) := writeAll r t artifacts
    (t, result.map fun () => artifacts.length)

end Writer

end Rollout
