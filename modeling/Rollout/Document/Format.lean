import Rollout.Document.Codec
import Rollout.Document.Yaml.Reader

/-!
# Document formats

* `Format.decode`: reads a value from a text in one of the two formats.
* `Format.ofPath`: the format that a file name tells.
-/

namespace Rollout

/-- The formats of documents. -/
inductive Format where
  | json
  | yaml
  deriving DecidableEq

namespace Format

/-- The source tree of a text. -/
def read : Format → String → Document
  | .json => Json.read
  | .yaml => Yaml.read

/-- How source trees of the format are understood. -/
def dialect : Format → Dialect
  | .json => .json
  | .yaml => .yaml

/-- Reads a value. What follows the document counts only after the value itself. -/
def decode {α : Type} (f : Format) (c : Codec α) (text : String) : Except Fault α := do
  let doc := f.read text
  let x ← c.decode f.dialect doc.root
  match doc.rest with
  | none => return x
  | some fault => .error fault

/-! ## Formats of files -/

/-- The last component of a path, unless it leads upwards. -/
def fileName? (path : String) : Option (List Char) :=
  let parts := (path.toList.splitOn '/').filter fun p => !p.isEmpty && p != ['.']
  parts.getLast?.filter (· != ['.', '.'])

/-- What follows the last dot of a file name, unless it starts with that dot. -/
def extension? (name : List Char) : Option (List Char) :=
  let reversed := name.reverse
  let ending := reversed.takeWhile (· != '.')
  if ending.length + 1 < name.length then some ending.reverse else none

/-- JSON for a file called so, in any case; otherwise YAML. -/
def ofPath (path : Option String) : Format :=
  match (path.bind fileName?).bind extension? with
  | some ending => if ending.map Char.toLower = ['j', 's', 'o', 'n'] then .json else .yaml
  | none => .yaml

end Format

end Rollout
