import Rollout.CommandLine.Table
import Rollout.Compile
import Rollout.Document.Value

/-!
# The listing of a plan

* `PlanRow`: one destination with its stage, names and main settings.
* `Plan.rows`: the rows of a plan, in declared order.
-/

namespace Rollout

/-- One destination of a plan. -/
structure PlanRow where
  /-- The number of the stage, from one. -/
  stage : Nat
  group : String
  /-- The group that the stage waits for. -/
  after : String
  destination : String
  resource : String
  job : String
  space : String
  hostname : String
  timeout : String
  retries : String
  secrets : String
  deriving DecidableEq, Inhabited

/-- A value, followed by its level unless it is the destination itself. -/
def Resolved.shown {α : Type} (write : α → String) (r : Resolved α) : String :=
  match r.origin with
  | .destination => write r.value
  | origin => write r.value ++ " (" ++ origin.label ++ ")"

/-- A secrets policy in a word. -/
def SecretsPolicy.shown : SecretsPolicy → String
  | .inherit => "inherit"
  | .explicit m => String.intercalate "," m.keys

/-- The row of a destination. -/
def planRow (names : NameTable) (stage : Nat) (after : String) (g : ResolvedGroup)
    (d : ResolvedDestination) : PlanRow :=
  let derived := (names.get? d.key).getD ⟨"", ""⟩
  { stage
    group := g.name
    after
    destination := d.key.text
    resource := derived.resource
    job := derived.job
    space := d.space.shown id
    hostname := d.settings.hostname.shown id
    timeout := d.settings.syncTimeoutSeconds.shown fun n => toString n.toNat
    retries := d.settings.retryLimit.shown fun n => toString n.toNat
    secrets := d.settings.secrets.shown (·.shown) }

/-- The rows of groups from a stage on. -/
def planRowsFrom (names : NameTable) (stage : Nat) (after : String) :
    List ResolvedGroup → List PlanRow
  | [] => []
  | g :: rest =>
    g.destinations.map (planRow names stage after g) ++ planRowsFrom names (stage + 1) g.name rest

/-- The rows of a plan. -/
def Plan.rows (p : Plan) : List PlanRow := planRowsFrom p.names 1 "-" p.service.groups

namespace PlanRow

/-- The names of the columns. -/
def titles : List String :=
  ["stage", "group", "after", "destination", "resource", "job", "namespace", "hostname",
    "timeout", "retries", "secrets"]

/-- The columns after the first. -/
def texts (r : PlanRow) : List String :=
  [r.group, r.after, r.destination, r.resource, r.job, r.space, r.hostname, r.timeout, r.retries,
    r.secrets]

/-- The columns as a row of a table. -/
def cells (r : PlanRow) : List String := toString r.stage :: r.texts

/-- The columns as a document. -/
def encode (r : PlanRow) : Value :=
  .object (titles.zip (.int r.stage :: r.texts.map .text))

end PlanRow

end Rollout
