import Rollout.Resolved.Basic

/-!
# Generated names

The names under which a destination appears in the generated documents.

* `ResolvedDestination.resourceName`, `ResolvedDestination.jobName`: the name of the application
  and the job key in the group's workflow.
* `ResolvedService.deriveNames`: the names of all destinations, or everything that prevents them.
-/

namespace Rollout

/-! ## Why a name cannot be derived -/

/-- Why a name cannot be derived. -/
inductive NameError where
  /-- Longer than resource names may be. -/
  | tooLong (name : String)
  | empty
  /-- Two destinations would share a resource name. -/
  | collision (name : String) (first second : DestinationKey)
  /-- A failure for one destination. -/
  | destination (key : DestinationKey) (cause : NameError)
  deriving DecidableEq, Inhabited

/-- The message of a failure. -/
def NameError.text : NameError → String
  | .tooLong n => "name length exceeds " ++ toString maxNameLength ++ " characters: " ++ n
      ++ " (" ++ toString n.length ++ " characters)"
  | .empty => "derived name is empty"
  | .collision n a b => "name " ++ n ++ " derived for both " ++ a.text ++ " and " ++ b.text
  | .destination k e => "deriving names for destination: " ++ k.text ++ ": " ++ e.text

/-- The messages of some failures, one under the other. -/
def NameError.textAll (es : List NameError) : String := String.intercalate "\n" (es.map (·.text))

/-! ## One destination -/

/-- A name, if it is neither empty nor too long. -/
def checkName (name : String) : Except NameError String :=
  if name.isEmpty then .error .empty
  else if maxNameLength < name.length then .error (.tooLong name)
  else .ok name

namespace ResolvedDestination

/-- The parts of the resource name. -/
def nameParts (d : ResolvedDestination) (service group : String) (scheme : NamingScheme) :
    List String :=
  [service] ++ (if scheme.withGroup then [group] else []) ++ [d.identity]
    ++ (if scheme.withNamespace then [d.space.value] else [])

/-- The name of the destination's application and workflow. -/
def resourceName (d : ResolvedDestination) (service group : String) (scheme : NamingScheme) :
    Except NameError String :=
  checkName (sanitize (String.intercalate "-" (d.nameParts service group scheme)))

/-- The parts of the job name. -/
def jobParts (d : ResolvedDestination) (scheme : NamingScheme) : List String :=
  [d.identity] ++ (if scheme.withNamespace then [d.space.value] else [])

/-- The job key of the destination in its group's workflow. -/
def jobName (d : ResolvedDestination) (scheme : NamingScheme) : Except NameError String :=
  checkName (sanitize (String.intercalate "-" (d.jobParts scheme)))

end ResolvedDestination

/-! ## All destinations -/

/-- The names of one destination. -/
structure Names where
  resource : String
  job : String
  deriving DecidableEq, Inhabited

/-- The names of one destination, or the first failure. -/
def ResolvedDestination.names (d : ResolvedDestination) (service group : String)
    (scheme : NamingScheme) : Except NameError Names := do
  let resource ← d.resourceName service group scheme
  let job ← d.jobName scheme
  return ⟨resource, job⟩

/-- Names by destination, in declared order. Only look-ups read them. -/
abbrev NameTable := OrderedMap DestinationKey Names

/-- Derives names from left to right. `owners` tells which destination took a resource name. -/
def deriveFrom (s : ResolvedService) (owners : List (String × DestinationKey))
    (table : NameTable) : List (ResolvedGroup × ResolvedDestination) → List NameError × NameTable
  | [] => ([], table)
  | (g, d) :: rest =>
    match d.names s.name g.name s.naming with
    | .error e =>
      let (errors, table) := deriveFrom s owners table rest
      (.destination d.key e :: errors, table)
    | .ok names =>
      match owners.lookup names.resource with
      | some first =>
        let (errors, table) := deriveFrom s owners table rest
        (.collision names.resource first d.key :: errors, table)
      | none =>
        deriveFrom s ((names.resource, d.key) :: owners) (table.insert d.key names) rest

/-- The names of every destination, or all failures in declared order. -/
def ResolvedService.deriveNames (s : ResolvedService) : Except (List NameError) NameTable :=
  match deriveFrom s [] .empty s.destinations with
  | ([], table) => .ok table
  | (errors, _) => .error errors

end Rollout
