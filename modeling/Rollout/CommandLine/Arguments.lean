/-!
# Arguments

What the command line asks for.

* `Request`: a command with its options.
* `Arguments.parse`: reads the arguments; options may stand in any order, before and after the
  command where both understand them.
-/

namespace Rollout.CommandLine

/-! ## Requests -/

/-- How results are printed. -/
inductive OutputFormat where
  | table
  | json
  | yaml
  deriving DecidableEq, Inhabited

/-- The options of `generate`. -/
structure GenerateOptions where
  repoUrl : Option String := none
  serviceFile : Option String := none
  targetRevision : Option String := none
  manifestDir : Option String := none
  workflowDir : Option String := none
  dryRun : Bool := false
  deriving DecidableEq, Inhabited

/-- What is to be done. -/
inductive Command where
  | generate (options : GenerateOptions)
  | validate (serviceFile : Option String)
  | plan (serviceFile : Option String)
  | config
  deriving DecidableEq, Inhabited

/-- A command with the options that every command has. -/
structure Request where
  configFile : Option String
  output : OutputFormat
  command : Command
  deriving DecidableEq, Inhabited

/-- What arguments lead to. -/
inductive Parsed where
  | run (request : Request)
  /-- The version is asked for. -/
  | version
  /-- The arguments make no sense. -/
  | misuse
  deriving DecidableEq, Inhabited

namespace Arguments

/-! ## Options -/

/-- An option of the command line. -/
structure OptionSpec where
  /-- Its long name, which also tells it from others. -/
  long : String
  short : Option Char := none
  takesValue : Bool := true
  deriving DecidableEq, Inhabited

/-- The options that every command has. -/
def globalOptions : List OptionSpec :=
  [⟨"config", some 'c', true⟩, ⟨"output", some 'o', true⟩, ⟨"verbose", some 'v', false⟩]

/-- The option of the commands that read a service. -/
def serviceOption : OptionSpec := ⟨"service-file", some 's', true⟩

/-- The options of `generate`. -/
def generateOptions : List OptionSpec :=
  [⟨"repo-url", some 'r', true⟩, serviceOption, ⟨"target-revision", none, true⟩,
    ⟨"manifest-output-path", none, true⟩, ⟨"workflow-output-path", none, true⟩,
    ⟨"dry-run", none, false⟩]

/-- The options given at one place, by their long names. -/
abbrev Given := List (String × String)

/-- One step of reading options: the options so far and the arguments that are left. -/
abbrev Step := Option (Given × List (List Char))

/-- Notes an option with its value; an option can be given once. The way to print results is one
of three words. -/
def note (given : Given) (o : OptionSpec) (value : String) : Option Given :=
  if (given.lookup o.long).isSome then none
  else if o.long = "output" && value ∉ ["table", "json", "yaml"] then none
  else some ((o.long, value) :: given)

/-- Takes the value of an option from the next argument, which may not look like an option. -/
def takeValue (given : Given) (o : OptionSpec) : List (List Char) → Step
  | [] => none
  | arg :: rest =>
    if arg.head? = some '-' && arg != ['-'] then none
    else do return (← note given o (String.ofList arg), rest)

/-- Reads an argument that gives an option by its long name. -/
def readLong (options : List OptionSpec) (given : Given) (arg : List Char)
    (rest : List (List Char)) : Step := do
  let name := arg.takeWhile (· != '=')
  let o ← options.find? (·.long == String.ofList name)
  match arg.drop name.length with
  | '=' :: value =>
    if o.takesValue then return (← note given o (String.ofList value), rest) else none
  | _ => if o.takesValue then takeValue given o rest else return (← note given o "", rest)

/-- Reads an argument that gives options by their letters; what follows the letter of an option
with a value is the value. -/
def readShort (options : List OptionSpec) (rest : List (List Char)) (given : Given) :
    List Char → Step
  | [] => some (given, rest)
  | c :: cs => do
    let o ← options.find? (·.short == some c)
    if o.takesValue then
      match cs with
      | [] => takeValue given o rest
      | '=' :: value => return (← note given o (String.ofList value), rest)
      | value => return (← note given o (String.ofList value), rest)
    else
      readShort options rest (← note given o "") cs

/-! ## Levels -/

/-- Options read at one level and what stopped the reading. -/
inductive Level where
  /-- A word that is no option, and the arguments after it. -/
  | word (given : Given) (w : List Char) (rest : List (List Char))
  /-- Nothing is left. -/
  | finished (given : Given)
  | version
  | misuse

/-- Whether letters ask for the version, before anything that makes no sense. -/
def asksVersion (options : List OptionSpec) (given : Given) : List Char → Bool
  | [] => false
  | 'V' :: _ => true
  | c :: cs =>
    match options.find? fun o => o.short = some c && !o.takesValue with
    | none => false
    | some o =>
      match note given o "" with
      | some given => asksVersion options given cs
      | none => false

/-- Reads options up to the first other word; only the outer level knows the version. -/
def readLevel (outer : Bool) (options : List OptionSpec) (given : Given) :
    (fuel : Nat) → List (List Char) → Level
  | 0, _ => .misuse
  | _, [] => .finished given
  | fuel + 1, arg :: rest =>
    match arg with
    | ['-', '-'] =>
      match rest with
      | [] => .finished given
      | _ => .misuse
    | '-' :: '-' :: name =>
      if outer && name = "version".toList then .version
      else match readLong options given name rest with
        | some (given, rest) => readLevel outer options given fuel rest
        | none => .misuse
    | '-' :: c :: cs =>
      if outer && asksVersion options given (c :: cs) then .version
      else match readShort options rest given (c :: cs) with
        | some (given, rest) => readLevel outer options given fuel rest
        | none => .misuse
    | w => .word given w rest

/-- The options of a command by its name. -/
def commandOptions? (name : List Char) : Option (List OptionSpec) :=
  match String.ofList name with
  | "generate" | "gen" => some generateOptions
  | "validate" | "plan" => some [serviceOption]
  | "config" => some []
  | _ => none

/-- The command of a name with its options. -/
def commandOf (name : String) (given : Given) (repoUrl : Option String) : Command :=
  let file := given.lookup "service-file"
  match name with
  | "validate" => .validate file
  | "plan" => .plan file
  | "config" => .config
  | _ => .generate {
      repoUrl := (given.lookup "repo-url").or repoUrl
      serviceFile := file
      targetRevision := given.lookup "target-revision"
      manifestDir := given.lookup "manifest-output-path"
      workflowDir := given.lookup "workflow-output-path"
      dryRun := (given.lookup "dry-run").isSome }

/-- The way to print results. -/
def outputOf (name : Option String) : OutputFormat :=
  match name with
  | some "json" => .json
  | some "yaml" => .yaml
  | _ => .table

/-- Reads the arguments. An option after the command prevails over the same one before it, and
variables of the environment stand in for options that are not given. -/
def parse (args : List String) (env : String → Option String) : Parsed :=
  match readLevel true globalOptions [] (args.length + 1) (args.map (·.toList)) with
  | .version => .version
  | .misuse | .finished _ => .misuse
  | .word outer name rest =>
    match commandOptions? name with
    | none => .misuse
    | some own =>
      match readLevel false (globalOptions ++ own) [] (rest.length + 1) rest with
      | .finished inner =>
        let find (name : String) := (inner.lookup name).or (outer.lookup name)
        .run {
          configFile := (find "config").or (env "ROLLGATE_CONFIG")
          output := outputOf (find "output")
          command := commandOf (String.ofList name) inner (env "ROLLGATE_REPO_URL") }
      | _ => .misuse

end Arguments

end Rollout.CommandLine
