import Rollout.CommandLine.Run

/-!
# The program

Gathers what a run looks at, runs it as a function and carries out what it did. Only then does the
system refuse anything, so that the function is told of no refusals.

* `main`.
-/

namespace Rollout.CommandLine

/-- The path of a place, from the root of all files on. -/
def pathText (p : Place) : String := String.join (p.map fun
  | .text name => "/" ++ name
  | .bytes .. => "/")

/-- The place of a path from the root of all files on. -/
def placeOf (path : String) : Place := (Way.ofPath path).place []

/-- Puts the file or directory at a place into a tree, if there is one. -/
def gather (t : FileTree) (p : Place) : IO FileTree := do
  let path := (← IO.currentDir) / pathText p
  if t.isGiven p then return t
  else if ← path.isDir then return t.put p .directory
  else if ← path.pathExists then return t.put p (.file (← IO.FS.readBinFile path).toList)
  else return t

/-- Puts what stands at a path into a tree, with the directories on the way to it and, if it is a
directory itself, what it holds. -/
def gatherAll (t : FileTree) (path : String) : IO FileTree := do
  let w := Way.ofPath path
  let p := w.place t.here
  let mut t := t
  for n in List.range w.names.length do
    t ← gather t (Way.place { w with names := w.names.take (n + 1) } t.here)
  let dir := (← IO.currentDir) / pathText p
  if ← dir.isDir then
    for entry in ← dir.readDir do
      t ← gather t (p ++ [.text entry.fileName])
  return t

/-- Reads a stream to its end. -/
partial def readAll (input : IO.FS.Stream) (before : ByteArray) : IO ByteArray := do
  let more ← input.read 65536
  if more.isEmpty then return before else readAll input (before ++ more)

/-- Brings the files of the working directory from one tree to another. -/
def carryOut (before after : FileTree) : IO Unit := do
  let here ← IO.currentDir
  for (p, _) in before.entries.toList do
    unless after.entries.contains p do IO.FS.removeFile (here / pathText p)
  for (p, e) in after.entries.toList do
    unless before.entries.get? p = some e do
      match e with
      | .directory => IO.FS.createDirAll (here / pathText p)
      | .file contents => IO.FS.writeBinFile (here / pathText p) ⟨contents.toArray⟩

/-- Where the user's own configuration files are kept, if there is such a directory. -/
def configHome : IO (Option String) := do
  let dir := (← IO.getEnv "XDG_CONFIG_HOME").filter fun dir => (Way.ofPath dir).absolute
  let home := (← IO.getEnv "HOME").filter fun home => !home.isEmpty
  return dir.or (home.map (· ++ "/.config"))

/-- What this run starts from. Files are gathered in two rounds, since the configuration file tells
which directories are written to. -/
def gatherSession (args : List String) : IO Session := do
  let config ← IO.getEnv "ROLLGATE_CONFIG"
  let repoUrl ← IO.getEnv "ROLLGATE_REPO_URL"
  let s : Session := {
    args
    env := fun name =>
      if name = "ROLLGATE_CONFIG" then config
      else if name = "ROLLGATE_REPO_URL" then repoUrl
      else none
    files := { here := placeOf (← IO.currentDir).toString }
    userConfig := (← configHome).map (· ++ "/rollgate/config.toml") }
  let files ← s.needs.paths.foldlM gatherAll s.files
  let s := { s with files }
  let files ← s.needs.paths.foldlM gatherAll s.files
  let s := { s with files }
  let input ← IO.getStdin
  if !s.needs.stdin then return s
  else if ← input.isTty then return { s with stdin := .terminal }
  else return { s with stdin := .bytes (← readAll input .empty).toList }

end Rollout.CommandLine

/-- Runs the program on its arguments. -/
def main (args : List String) : IO UInt32 := do
  let s ← Rollout.CommandLine.gatherSession args
  let outcome := Rollout.CommandLine.run s
  Rollout.CommandLine.carryOut s.files outcome.files
  IO.print outcome.stdout
  IO.eprint outcome.stderr
  return .ofNat outcome.code
