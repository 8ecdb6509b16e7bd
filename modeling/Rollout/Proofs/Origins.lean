import Rollout.Compile
import Rollout.Proofs.OrderedMap

/-!
# Nothing asks where a value came from

Once a service is resolved, validation, naming, manifests and workflows read its values and never
their origins. Each of them is therefore the same on a service whose origins are forgotten.

* `ResolvedService.plain`: the service with every origin forgotten.
* `problems_plain`, `deriveNames_plain`, `buildManifests_plain`, `synthesize_plain`: the stages.
* `ResolvedService.compile`: what is left to do once a service is resolved.
* **`compile_congr`**: services whose resolved values are equal have the same artifacts, or the same
  reason why there are none.
-/

namespace Rollout

/-! ## Forgetting origins -/

/-- The value alone. -/
def Resolved.plain {α : Type} (r : Resolved α) : Resolved α := ⟨r.value, .default⟩

/-- The settings without their origins. -/
def ResolvedSettings.plain (s : ResolvedSettings) : ResolvedSettings where
  hostname := s.hostname.plain
  loginArgs := s.loginArgs.plain
  extraArgs := s.extraArgs.plain
  kubeContext := s.kubeContext.plain
  syncTimeoutSeconds := s.syncTimeoutSeconds.plain
  retryLimit := s.retryLimit.plain
  syncPolicy := s.syncPolicy.plain
  preDeploySteps := s.preDeploySteps.plain
  postDeploySteps := s.postDeploySteps.plain
  extraDeployJobs := s.extraDeployJobs.plain
  env := s.env.plain
  secrets := s.secrets.plain

/-- The destination without its origins. -/
def ResolvedDestination.plain (d : ResolvedDestination) : ResolvedDestination :=
  { d with space := d.space.plain, settings := d.settings.plain }

/-- The group without its origins. -/
def ResolvedGroup.plain (g : ResolvedGroup) : ResolvedGroup where
  name := g.name
  space := g.space.plain
  settings := g.settings.plain
  destinations := g.destinations.map (·.plain)

/-- The service without its origins. -/
def ResolvedService.plain (s : ResolvedService) : ResolvedService :=
  { s with groups := s.groups.map (·.plain) }

theorem destinations_plain (s : ResolvedService) :
    s.plain.destinations = s.destinations.map fun x => (x.1.plain, x.2.plain) := by
  unfold ResolvedService.destinations ResolvedService.plain
  rw [List.flatMap_map, List.map_flatMap]
  refine List.flatMap_congr fun g _ => ?_
  simp only [ResolvedGroup.plain, List.map_map]
  rfl

theorem toSpec_plain (s : ResolvedService) : s.plain.toSpec = s.toSpec := by
  have hd (d : ResolvedDestination) : d.plain.toSpec = d.toSpec := rfl
  have hg (g : ResolvedGroup) : g.plain.toSpec = g.toSpec := by
    simp only [ResolvedGroup.toSpec, ResolvedGroup.plain, List.map_map]
    congr 1
  simp only [ResolvedService.toSpec, ResolvedService.plain, List.map_map]
  congr 1
  exact List.map_congr_left fun g _ => hg g

/-! ## Validation -/

theorem checkDestinations_plain (keys : Tracker DestinationKey) (i : Nat)
    (ds : List ResolvedDestination) :
    checkDestinations keys i (ds.map (·.plain)) = checkDestinations keys i ds := by
  induction ds generalizing keys i with
  | nil => rfl
  | cons d ds ih =>
    -- a destination is checked and labelled by its values alone
    have hown : d.plain.ownProblems i = d.ownProblems i := rfl
    have hkey : d.plain.key = d.key := rfl
    have hhas : d.plain.hasKey = d.hasKey := rfl
    simp only [List.map_cons, checkDestinations, hown, hkey, hhas, ih]

theorem checkGroup_plain (keys : Tracker DestinationKey) (g : ResolvedGroup) :
    checkGroup keys g.plain = checkGroup keys g := by
  have hds : checkDestinations keys 0 g.plain.destinations =
      checkDestinations keys 0 g.destinations := checkDestinations_plain keys 0 g.destinations
  have hempty : g.plain.destinations.isEmpty = g.destinations.isEmpty := List.isEmpty_map
  have hname : g.plain.nameProblems = g.nameProblems := rfl
  simp only [checkGroup, hds, hempty, hname]

theorem checkGroups_plain (t : Trackers) (gs : List ResolvedGroup) :
    checkGroups t (gs.map (·.plain)) = checkGroups t gs := by
  induction gs generalizing t with
  | nil => rfl
  | cons g gs ih =>
    have hlabel : g.plain.label = g.label := rfl
    have hname : g.plain.name = g.name := rfl
    have hstage (stages : StageKeys) : stages.observe g.plain = stages.observe g := rfl
    simp only [List.map_cons, checkGroups, checkGroup_plain, hlabel, hname, hstage, ih]

theorem problems_plain (s : ResolvedService) : s.plain.problems = s.problems := by
  have hempty : s.plain.groups.isEmpty = s.groups.isEmpty := List.isEmpty_map
  have hgroups : checkGroups {} s.plain.groups = checkGroups {} s.groups :=
    checkGroups_plain {} s.groups
  have hname : s.plain.name = s.name := rfl
  simp only [ResolvedService.problems, hempty, hgroups, hname]

/-! ## Names -/

theorem deriveFrom_plain (s : ResolvedService) (owners : List (String × DestinationKey))
    (table : NameTable) (xs : List (ResolvedGroup × ResolvedDestination)) :
    deriveFrom s.plain owners table (xs.map fun x => (x.1.plain, x.2.plain)) =
      deriveFrom s owners table xs := by
  induction xs generalizing owners table with
  | nil => rfl
  | cons x xs ih =>
    obtain ⟨g, d⟩ := x
    have hnames : d.plain.names s.plain.name g.plain.name s.plain.naming =
        d.names s.name g.name s.naming := rfl
    have hkey : d.plain.key = d.key := rfl
    rw [List.map_cons, deriveFrom.eq_def, deriveFrom.eq_def s owners table (_ :: _)]
    simp only [hnames, hkey, ih]

theorem deriveNames_plain (s : ResolvedService) : s.plain.deriveNames = s.deriveNames := by
  simp only [ResolvedService.deriveNames, destinations_plain, deriveFrom_plain]

/-! ## Manifests -/

theorem buildFrom_plain (s : ResolvedService) (names : NameTable) (options : ManifestOptions)
    (index : ManifestIndex) (ds : List ResolvedDestination) :
    buildFrom s.plain names options index (ds.map (·.plain)) =
      buildFrom s names options index ds := by
  induction ds generalizing index with
  | nil => rfl
  | cons d ds ih =>
    have hkey : d.plain.key = d.key := rfl
    have happ (name : String) : d.plain.application s.plain name options =
        d.application s name options := rfl
    simp only [List.map_cons, buildFrom, hkey, happ, ih]

theorem buildManifests_plain (s : ResolvedService) (names : NameTable)
    (options : ManifestOptions) :
    buildManifests s.plain names options = buildManifests s names options := by
  have hds : s.plain.destinations.map (·.2) = (s.destinations.map (·.2)).map (·.plain) := by
    rw [destinations_plain, List.map_map, List.map_map]
    rfl
  rw [buildManifests, hds, buildFrom_plain, buildManifests]

/-! ## Workflows -/

section Workflows

variable (s : ResolvedService) (t : Tables) (o : WorkflowOptions)

theorem synthesizeDestinations_plain (w : String) (jobs : Jobs) (ds : List ResolvedDestination) :
    synthesizeDestinations s.plain t o w jobs (ds.map (·.plain)) =
      synthesizeDestinations s t o w jobs ds := by
  induction ds generalizing jobs with
  | nil => rfl
  | cons d ds ih =>
    have hkey : d.plain.key = d.key := rfl
    have hcall (names : Names) : destinationCall d.plain names o = destinationCall d names o := rfl
    have hwork (names : Names) (path : String) : destinationWorkflow s.plain d.plain names path o =
        destinationWorkflow s d names path o := rfl
    simp only [List.map_cons, synthesizeDestinations, hkey, hcall, hwork, ih]

theorem synthesizeGroup_plain (g : ResolvedGroup) :
    synthesizeGroup s.plain t o g.plain = synthesizeGroup s t o g := by
  have hds := synthesizeDestinations_plain s t o (groupWorkflowName s g) .empty g.destinations
  unfold synthesizeGroup
  change (synthesizeDestinations s.plain t o (groupWorkflowName s g) .empty
    (g.destinations.map (·.plain)) >>= _) = _
  rw [hds]
  rfl

theorem synthesizeGroups_plain (gs : List ResolvedGroup) :
    synthesizeGroups s.plain t o (gs.map (·.plain)) = synthesizeGroups s t o gs := by
  induction gs with
  | nil => rfl
  | cons g gs ih => simp only [List.map_cons, synthesizeGroups, synthesizeGroup_plain, ih]

theorem addStages_plain (jobs : Jobs) (previous : Option String) (gs : List ResolvedGroup) :
    addStages s.plain o jobs previous (gs.map (·.plain)) = addStages s o jobs previous gs := by
  induction gs generalizing jobs previous with
  | nil => rfl
  | cons g gs ih =>
    have hname : s.plain.name = s.name := rfl
    have hkey : g.plain.stageKey = g.stageKey := rfl
    have hcall (previous : Option String) : stageCall s.plain o g.plain previous =
        stageCall s o g previous := rfl
    simp only [List.map_cons, addStages, hname, hkey, hcall, ih]

theorem synthesize_plain : synthesize s.plain t o = synthesize s t o := by
  unfold synthesize
  change (synthesizeGroups s.plain t o (s.groups.map (·.plain)) >>= fun tiers =>
    addStages s.plain o .empty none (s.groups.map (·.plain)) >>= _) = _
  rw [synthesizeGroups_plain, addStages_plain]
  rfl

end Workflows

/-! ## Compilation -/

/-- What is left to do once a service is resolved. -/
def ResolvedService.compile (s : ResolvedService) (o : CompileOptions) :
    Except CompileError ArtifactSet :=
  match s.problems with
  | [] =>
    match s.deriveNames with
    | .ok names => (Plan.artifacts ⟨s, names⟩ o).mapError .synthesis
    | .error es => .error (.naming es)
  | ps => .error (.invalid ps)

theorem compile_eq_compile_resolve (s : Service) (o : CompileOptions) :
    s.compile o = s.resolve.compile o := by
  unfold Service.compile Service.plan ResolvedService.compile
  dsimp only
  cases s.resolve.problems with
  | cons p ps => rfl
  | nil =>
    cases s.resolve.deriveNames with
    | error es => rfl
    | ok names =>
      dsimp only
      rw [bind_ok]
      cases Plan.artifacts ⟨s.resolve, names⟩ o <;> rfl

theorem compile_plain (s : ResolvedService) (o : CompileOptions) :
    s.plain.compile o = s.compile o := by
  have hartifacts (names : NameTable) :
      Plan.artifacts ⟨s.plain, names⟩ o = Plan.artifacts ⟨s, names⟩ o := by
    simp only [Plan.artifacts, buildManifests_plain, synthesize_plain]
  simp only [ResolvedService.compile, problems_plain, deriveNames_plain, hartifacts]

/-- **Services whose resolved values are equal are compiled alike.** -/
theorem compile_congr {s t : Service} (h : s.resolve.plain = t.resolve.plain)
    (o : CompileOptions) : s.compile o = t.compile o := by
  calc s.compile o = s.resolve.plain.compile o := by
        rw [compile_plain, compile_eq_compile_resolve]
    _ = t.resolve.plain.compile o := by rw [h]
    _ = t.compile o := by rw [compile_plain, compile_eq_compile_resolve]

end Rollout
