import Rollout.OrderedMap

/-!
# File trees

Files and directories as one run meets them. Nothing else changes them meanwhile, and there are no
links. What stands at a place can always be looked up; what is done to it can be refused, in the
same way whenever it is tried.

* `FileName`, `Place`, `Way`: where something stands, and a way there.
* `FileTree`: files and directories, and the working directory among them.
* `Refusals`: what the system does not let a run do.
* `FileTree.createDirectories`, `FileTree.writeFile`, `FileTree.readFile`: what can be done, and how
  it can fail.
-/

namespace Rollout

/-! ## Bytes -/

/-- The bytes of a file. -/
abbrev Bytes := List UInt8

/-- The bytes of a text. -/
def Bytes.ofText (s : String) : Bytes := s.toUTF8.toList

/-- The text of some bytes, if they are one. -/
def Bytes.toText? (b : Bytes) : Option String := String.fromUTF8? ⟨b.toArray⟩

/-! ## Places -/

/-- What something is called in its directory: a text, or bytes that are none. -/
inductive FileName where
  | text (name : String)
  | bytes (name : Bytes) (no_text : name.toText? = none)
  deriving DecidableEq

instance : Inhabited FileName := ⟨.text ""⟩

instance : Coe String FileName := ⟨.text⟩

/-- A place by its names from the root of all files on. -/
abbrev Place := List FileName

/-- Where a name leads from a place; `..` leads to the directory above, and from the root nowhere
else. -/
def Place.step (p : Place) (name : String) : Place :=
  if name = ".." then p.dropLast else p ++ [.text name]

/-- A way from the root of all files or from the working directory, by its names, of which `..`
leads back. -/
@[ext]
structure Way where
  /-- Whether it starts at the root. -/
  absolute : Bool := false
  names : List String
  deriving DecidableEq, Inhabited

/-- The names of a path. -/
def pathNames (path : String) : List String := (path.toList.splitOn '/').map String.ofList

namespace Way

/-- The way that a path describes. -/
def ofPath (path : String) : Way where
  absolute := path.toList.head? = some '/'
  names := (pathNames path).filter fun name => name != "" && name != "."

/-- The way without its last name. -/
def above (w : Way) : Way := { w with names := w.names.dropLast }

/-- Where a way starts, seen from the working directory. -/
def start (w : Way) (here : Place) : Place := if w.absolute then [] else here

/-- Where a way leads, if every name on it is that of a directory. -/
def place (w : Way) (here : Place) : Place := w.names.foldl Place.step (w.start here)

end Way

/-! ## Trees -/

/-- What stands at a place. -/
inductive Entry where
  | file (contents : Bytes)
  | directory
  deriving DecidableEq, Inhabited

/-- Files and directories. -/
structure FileTree where
  /-- The working directory. It is always there, with the directories above it. -/
  here : Place := []
  entries : OrderedMap Place Entry := .empty
  deriving Inhabited

/-- Why a file operation fails. -/
inductive IoError where
  | notFound
  | alreadyExists
  | notADirectory
  | isADirectory
  /-- A name that is too long. -/
  | invalidFilename
  /-- Contents that are no text. -/
  | invalidData
  /-- The system does not allow it. -/
  | refused (reason : String)
  deriving DecidableEq, Inhabited

/-- The message of a failure. -/
def IoError.text : IoError → String
  | .notFound => "No such file or directory (os error 2)"
  | .alreadyExists => "File exists (os error 17)"
  | .notADirectory => "Not a directory (os error 20)"
  | .isADirectory => "Is a directory (os error 21)"
  | .invalidFilename => "File name too long (os error 36)"
  | .invalidData => "stream did not contain valid UTF-8"
  | .refused reason => reason

namespace FileTree

/-- Whether a place is the working directory or above it. -/
def isGiven (t : FileTree) (p : Place) : Bool := p.isPrefixOf t.here

/-- What stands at a place. -/
def get? (t : FileTree) (p : Place) : Option Entry :=
  if t.isGiven p then some .directory else t.entries.get? p

/-- Puts an entry at a place. -/
def put (t : FileTree) (p : Place) (e : Entry) : FileTree :=
  { t with entries := t.entries.insert p e }

/-- Removes what stands at a place. -/
def remove (t : FileTree) (p : Place) : FileTree :=
  { t with entries := ⟨t.entries.toList.filter fun e => e.1 ≠ p,
    (List.filter_sublist.map Prod.fst).nodup t.entries.nodup⟩ }

/-- Whether a directory stands at a place. -/
def isDirectory (t : FileTree) (p : Place) : Bool := t.get? p = some .directory

/-- The names in a directory, in the order in which the tree has them. -/
def namesIn (t : FileTree) (d : Place) : List FileName :=
  t.entries.keys.filterMap fun p => if p.dropLast = d then p.getLast? else none

end FileTree

/-! ## Refusals -/

/-- What can be refused. -/
inductive Access where
  /-- To open a directory that is listed. -/
  | list
  /-- To hand out a name of that directory, or to tell that there are no more. -/
  | next
  | read
  /-- To create a directory. -/
  | create
  /-- To open a file that is written. -/
  | write
  | remove
  deriving DecidableEq

/-- What the system does not let a run do, and why. Left to itself, it refuses nothing. -/
structure Refusals where
  refuses : Access → Place → Option String := fun _ _ => none
  /-- How many bytes it takes of the file at a place, and why no more. -/
  room : Place → Option (Nat × String) := fun _ => none
  deriving Inhabited

namespace Refusals

/-- Fails if the access is refused. -/
def check (r : Refusals) (a : Access) (p : Place) : Except IoError Unit :=
  match r.refuses a p with
  | some reason => .error (.refused reason)
  | none => .ok ()

/-- How much of some contents the system takes, and whether that is all. -/
def store (r : Refusals) (p : Place) (contents : Bytes) : Bytes × Except IoError Unit :=
  match r.room p with
  | some (n, reason) =>
    if n < contents.length then (contents.take n, .error (.refused reason)) else (contents, .ok ())
  | none => (contents, .ok ())

end Refusals

/-! ## Operations -/

namespace FileTree

/-- The longest file name in bytes. -/
def maxFileName : Nat := 255

/-- Where names lead from a place on. Each name but the last has to be that of a directory. -/
def locateFrom (t : FileTree) (before : Place) : List String → Except IoError Place
  | [] => .ok before
  | name :: rest =>
    if maxFileName < name.utf8ByteSize then .error .invalidFilename
    else if rest.isEmpty then .ok (before.step name)
    else match t.get? (before.step name) with
      | none => .error .notFound
      | some (.file _) => .error .notADirectory
      | some .directory => locateFrom t (before.step name) rest

/-- Where a way leads. -/
def locate (t : FileTree) (w : Way) : Except IoError Place := t.locateFrom (w.start t.here) w.names

/-- The directory to which a way leads. -/
def directory? (t : FileTree) (w : Way) : Option Place :=
  match t.locate w with
  | .ok p => if t.isDirectory p then some p else none
  | .error _ => none

/-- Whether a way leads to a directory. -/
def leadsToDirectory (t : FileTree) (w : Way) : Bool := (t.directory? w).isSome

/-- Creates one directory. -/
def createDirectory (r : Refusals) (t : FileTree) (w : Way) : Except IoError FileTree := do
  let p ← t.locate w
  match t.get? p with
  | some _ => .error .alreadyExists
  | none =>
    r.check .create p
    return t.put p .directory

/-- Creates a directory and those on the way to it, given the names of the way backwards. What was
created before a failure stays. -/
def createWay (r : Refusals) (absolute : Bool) (t : FileTree) :
    (backwards : List String) → FileTree × Except IoError Unit
  | [] => (t, .ok ())
  | name :: back =>
    let w : Way := ⟨absolute, (name :: back).reverse⟩
    match t.createDirectory r w with
    | .ok t => (t, .ok ())
    | .error .notFound =>
      match createWay r absolute t back with
      | (t, .error e) => (t, .error e)
      | (t, .ok ()) =>
        match t.createDirectory r w with
        | .ok t => (t, .ok ())
        | .error e => (t, if t.leadsToDirectory w then .ok () else .error e)
    | .error e => (t, if t.leadsToDirectory w then .ok () else .error e)

/-- Creates a directory and those on the way to it, unless they exist. -/
def createDirectories (r : Refusals) (t : FileTree) (w : Way) : FileTree × Except IoError Unit :=
  t.createWay r w.absolute w.names.reverse

/-- Writes a file whose directory exists. What the system took before a failure stays. -/
def writeFile (r : Refusals) (t : FileTree) (w : Way) (contents : Bytes) :
    FileTree × Except IoError Unit :=
  match t.locate w with
  | .error e => (t, .error e)
  | .ok p =>
    if t.isDirectory p then (t, .error .isADirectory)
    else match r.check .write p with
      | .error e => (t, .error e)
      | .ok () => (t.put p (.file (r.store p contents).1), (r.store p contents).2)

/-- The contents of a file. -/
def readFile (r : Refusals) (t : FileTree) (w : Way) : Except IoError Bytes := do
  let p ← t.locate w
  match t.get? p with
  | none => .error .notFound
  | some e =>
    r.check .read p
    match e with
    | .directory => .error .isADirectory
    | .file contents => return contents

/-! ## Paths -/

/-- Whether a path ends in a slash. -/
def endsInSlash (path : String) : Bool := path.toList.getLast? = some '/'

/-- Whether a path ends in a name that only a directory has. -/
def endsInDirectory (path : String) : Bool :=
  endsInSlash path || (pathNames path).getLast? = some "."

/-- The text of the file at a path. -/
def readText (r : Refusals) (t : FileTree) (path : String) : Except IoError String := do
  if path.isEmpty then .error .notFound
  let contents ← t.readFile r (.ofPath path)
  if endsInDirectory path then .error .notADirectory
  match Bytes.toText? contents with
  | some s => return s
  | none => .error .invalidData

/-- Whether anything stands at a path. -/
def hasPath (t : FileTree) (path : String) : Bool :=
  match t.locate (.ofPath path) with
  | .ok p =>
    !path.isEmpty && (t.get? p).isSome && !(endsInDirectory path && !t.isDirectory p)
  | .error _ => false

/-- Writes a file at a path, after creating its directory. What was done before a failure stays. -/
def writePath (r : Refusals) (t : FileTree) (path : String) (contents : Bytes) :
    FileTree × Except IoError Unit :=
  let w := Way.ofPath path
  match t.createDirectories r w.above with
  | (t, .error e) => (t, .error e)
  | (t, .ok ()) =>
    if endsInSlash path then (t, .error .isADirectory)
    else if endsInDirectory path then
      (t, (t.readFile {} w).bind fun _ => .error .notADirectory)
    else t.writeFile r w contents

end FileTree

end Rollout
