import Rollout.CommandLine.Arguments
import Rollout.CommandLine.Config
import Rollout.CommandLine.Listing
import Rollout.Document.Json.Writer
import Rollout.Service.Input
import Rollout.Writer

/-!
# Commands

What each command prints and writes.

* `Session`: what a run of the program starts from.
* `Outcome`: what it ends with.
* `run`: the whole program as a function.
* `Session.needs`: which files a run looks at.
-/

namespace Rollout.CommandLine

/-- What standard input is. -/
inductive Input where
  | terminal
  | bytes (contents : Bytes)
  /-- It cannot be read to its end. -/
  | broken (reason : String)
  deriving DecidableEq, Inhabited

/-- What a run of the program starts from. -/
structure Session where
  args : List String
  /-- Variables of the environment. -/
  env : String → Option String := fun _ => none
  stdin : Input := .bytes []
  files : FileTree := {}
  refusals : Refusals := {}
  /-- The path of the user's own configuration file, unless the user has no directory for it. -/
  userConfig : Option String := some ".config/rollgate/config.toml"

/-- What a run of the program ends with. -/
structure Outcome where
  code : Nat
  stdout : String
  stderr : String
  files : FileTree
  deriving Inhabited

/-! ## Failures -/

/-- Why a command fails. -/
inductive Failure where
  | config (reason : String)
  | invalidInput (reason : String)
  | compile (error : CompileError)
  | io (error : IoError)
  | document (format : Format) (fault : Fault)
  deriving Inhabited

/-- What a fault of a document says for itself. -/
def faultText : Fault → String
  | .malformed => "malformed document"
  | .truncated => "unexpected end of document"
  | .unsuitable => "unexpected value"
  | .secretsPolicy given =>
    "unknown secrets policy " ++ Text.quoted given ++ ", expected \"inherit\" or a map"

/-- The message of a failure. -/
def Failure.text : Failure → String
  | .config reason => "Configuration error: " ++ reason
  | .invalidInput reason => "Invalid input: " ++ reason
  | .compile e => e.text
  | .io e => "IO error: " ++ e.text
  | .document .json f => "JSON error: " ++ faultText f
  | .document .yaml f => "YAML error: " ++ faultText f

/-- A message of success. -/
def successLine (message : String) : String := "✓ " ++ message ++ "\n"

/-- A message of failure. -/
def failureLine (message : String) : String := "✗ " ++ message ++ "\n"

/-! ## Input -/

/-- The settings of the given configuration file, or else of the user's own; a file that does not
exist has none. -/
def loadConfig (s : Session) (path : Option String) : Except Failure Config :=
  match path.or s.userConfig with
  | none => .error (.config "Cannot find config directory")
  | some path =>
    if !s.files.hasPath path then .ok {}
    else match s.files.readText s.refusals path with
      | .error e => .error (.io e)
      | .ok text =>
        match Config.ofText? text with
        | some c => .ok c
        | none => .error (.config "malformed configuration file")

/-- The text on standard input, which must not be a terminal. -/
def readInput (s : Session) : Except Failure String :=
  match s.stdin with
  | .terminal => .error (.invalidInput "stdin is from a terminal")
  | .broken reason => .error (.io (.refused reason))
  | .bytes contents =>
    match contents.toText? with
    | some text => .ok text
    | none => .error (.io .invalidData)

/-- The service in a file, or on standard input when there is none or its name is `-`. -/
def readService (s : Session) (path : Option String) : Except Failure (Option Service) := do
  let path := path.filter (· != "-")
  let text ← match path with
    | some path => (s.files.readText s.refusals path).mapError .io
    | none => readInput s
  let format := Format.ofPath path
  match Service.ofDocument format text with
  | .ok service => return service
  | .error f => .error (.document format f)

/-- The service, which has to be there. -/
def loadService (s : Session) (path : Option String) : Except Failure Service := do
  match ← readService s path with
  | some service => return service
  | none => .error (.compile (.invalid [.nilService]))

/-! ## Commands -/

/-- The settings of a run of `generate`: flags before the configuration file before what is built
in. -/
def compileOptions (g : GenerateOptions) (c : Config) : Except Failure CompileOptions :=
  match filled? (g.repoUrl.or c.repoUrl) with
  | none => .error (.invalidInput "--repo-url is required")
  | some repoUrl =>
    let m : ManifestOptions := { repoUrl }
    let w : WorkflowOptions := {}
    .ok {
      manifests := {
        repoUrl
        targetRevision := (g.targetRevision.or c.targetRevision).getD m.targetRevision
        applicationNamespace := c.applicationNamespace.getD m.applicationNamespace
        project := c.project.getD m.project
        outputDir := (g.manifestDir.or c.manifestDir).getD m.outputDir }
      workflows := { w with
        outputDir := (g.workflowDir.or c.workflowDir).getD w.outputDir
        runsOn := (c.runsOn.filter fun r => !r.isEmpty).getD w.runsOn } }

/-- What a command has done. -/
structure Done where
  stdout : String := ""
  /-- Complaints, and whether the command failed with them. -/
  stderr : String := ""
  failed : Bool := false
  files : FileTree
  deriving Inhabited

/-- The files of a run of `generate`, where they go, and the name of the service. -/
structure Generation where
  service : String
  rendered : List RenderedArtifact
  writer : Writer

/-- Everything that `generate` does before it prints or writes. -/
def prepare (s : Session) (g : GenerateOptions) (c : Config) : Except Failure Generation := do
  let options ← compileOptions g c
  let service ← loadService s g.serviceFile
  match service.compile options with
  | .error e => .error (.compile e)
  | .ok set =>
    return ⟨service.name, set.render,
      ⟨options.manifests.outputDir, options.workflows.outputDir, options.workflows.filePrefix⟩⟩

/-- The files, one after the other, as a dry run prints them. -/
def dryRunText (rendered : List RenderedArtifact) : String :=
  String.intercalate "---\n"
    (rendered.map fun a => "# Source: " ++ a.path ++ "\n" ++ a.contents)

/-- A command that has failed. -/
def Failure.done (e : Failure) (files : FileTree) : Done :=
  { stderr := failureLine e.text, failed := true, files }

/-- Writes the generated files, or prints them in a dry run. -/
def generate (s : Session) (g : GenerateOptions) (c : Config) : Done :=
  match prepare s g c with
  | .error e => e.done s.files
  | .ok generation =>
    if g.dryRun then { stdout := dryRunText generation.rendered, files := s.files }
    else
      match generation.writer.write s.refusals s.files generation.rendered with
      | (files, .error e) => (Failure.io e).done files
      | (files, .ok written) =>
        { stdout := successLine ("Generated " ++ toString written ++ " artifacts for service "
            ++ generation.service)
          files }

/-- Complaints one under the other, and their number. -/
def report (s : Session) (complaints : List String) : Done :=
  { stderr := String.join (complaints.map failureLine)
      ++ failureLine ("Invalid input: " ++ toString complaints.length ++ " validation error(s)")
    failed := true
    files := s.files }

/-- Tells whether a service is valid, or everything that is wrong with it. -/
def validate (s : Session) (file : Option String) : Done :=
  match loadService s file with
  | .error (.compile (.invalid ps)) => report s (Problem.leaves ps)
  | .error e => e.done s.files
  | .ok service =>
    match service.plan with
    | .ok p =>
      { stdout := successLine ("Service " ++ p.service.name ++ " is valid ("
          ++ toString p.service.groups.length ++ " groups, " ++ toString p.names.size
          ++ " destinations)")
        files := s.files }
    | .error (.invalid ps) => report s (Problem.leaves ps)
    | .error (.naming es) => report s (es.map (·.text))
    | .error e => (Failure.compile e).done s.files

/-- Rows in a format. -/
def printRows (rows : List PlanRow) : OutputFormat → String
  | .table =>
    if rows.isEmpty then "No results\n"
    else Table.render (PlanRow.titles :: rows.map (·.cells)) ++ "\n"
  | .json => Json.pretty (.list (rows.map (·.encode))) ++ "\n"
  | .yaml => Yaml.write (.list (rows.map (·.encode)))

/-- Prints the plan of a service. -/
def plan (s : Session) (file : Option String) (output : OutputFormat) : Done :=
  match loadService s file with
  | .error e => e.done s.files
  | .ok service =>
    match service.plan with
    | .ok p => { stdout := printRows p.rows output, files := s.files }
    | .error e => (Failure.compile e).done s.files

/-- Prints the configuration. -/
def showConfig (s : Session) (c : Config) (output : OutputFormat) : Done :=
  let stdout := match output with
    | .table | .json => Json.pretty c.encode ++ "\n"
    | .yaml => Yaml.write c.encode
  { stdout, files := s.files }

/-- Does what a request asks for. -/
def perform (s : Session) (r : Request) : Done :=
  match loadConfig s r.configFile with
  | .error e => e.done s.files
  | .ok c =>
    match r.command with
    | .generate g => generate s g c
    | .validate file => validate s file
    | .plan file => plan s file r.output
    | .config => showConfig s c r.output

/-- How the program is used. -/
def usage : String := "Usage: rollgate [OPTIONS] <COMMAND>\n"

/-- The program's name and version. -/
def version : String := "rollgate 0.1.0\n"

/-- The whole program. -/
def run (s : Session) : Outcome :=
  match Arguments.parse s.args s.env with
  | .misuse => ⟨2, "", usage, s.files⟩
  | .version => ⟨0, version, "", s.files⟩
  | .run r =>
    let done := perform s r
    ⟨if done.failed then 1 else 0, done.stdout, done.stderr, done.files⟩

/-! ## What a run looks at -/

/-- The paths at which a run looks, and whether it reads standard input. -/
structure Needs where
  paths : List String := []
  stdin : Bool := false
  deriving Inhabited

/-- What reading a service document needs. -/
def Needs.service (file : Option String) : Needs :=
  match file.filter (· != "-") with
  | some file => { paths := [file] }
  | none => { stdin := true }

/-- What a run of the session needs, as far as the files that it has tell: the configuration file,
the service document, and the directories that are written to. -/
def Session.needs (s : Session) : Needs :=
  match Arguments.parse s.args s.env with
  | .misuse | .version => {}
  | .run r =>
    let config := (loadConfig s r.configFile).toOption.getD {}
    let needs : Needs := match r.command with
      | .generate g =>
        let needs := Needs.service g.serviceFile
        match compileOptions g config with
        | .ok o => { needs with
            paths := needs.paths ++ [o.manifests.outputDir, o.workflows.outputDir] }
        | .error _ => needs
      | .validate file | .plan file => .service file
      | .config => {}
    { needs with paths := (r.configFile.or s.userConfig).toList ++ needs.paths }

end Rollout.CommandLine
