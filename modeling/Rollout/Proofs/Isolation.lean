import Rollout.Proofs.References

/-!
# What is written for a destination

The names of a destination, its manifest and its workflow come out of tables that are filled with
all destinations of a service. Still they follow from the destination, the settings of its group and
those of the service, so whatever else is in the tree leaves them alone.

* `Output`: what is written for one destination.
* `Service.Yields`: a run yields an output for a destination of a group.
* `Destination.output`: the output as a function of the levels above the destination.
* `yields_iff`: a run that succeeds yields this output and no other.
* **`outputs_isolated`**: services that differ in other destinations and groups yield the same.
-/

namespace Rollout

/-- What is written for one destination. -/
structure Output where
  names : Names
  manifest : ManifestRecord
  workflow : WorkflowRecord

/-- The output stands at the place of the destination among all, and the tables have its names and
the path of its manifest under the key of the destination. -/
structure Output.BelongsTo (out : Output) (x : ResolvedGroup × ResolvedDestination) (p : Plan)
    (ms : List ManifestRecord) (index : ManifestIndex) (pl : Pipeline) : Prop where
  names : p.names.get? x.2.key = some out.names
  path : index.get? x.2.key = some out.manifest.path
  place : ∃ n : Nat, p.service.destinations[n]? = some x ∧ ms[n]? = some out.manifest ∧
    pl.destinations[n]? = some out.workflow

/-- A run writes a set of artifacts and in it the manifest and the workflow of an output, which
belongs to a destination of a group. -/
def Service.Yields (s : Service) (o : CompileOptions) (set : ArtifactSet) (g : Group)
    (d : Destination) (out : Output) : Prop :=
  ∃ p ms index pl, s.plan = .ok p ∧
    buildManifests p.service p.names o.manifests = .ok (ms, index) ∧
    synthesize p.service ⟨p.names, index⟩ o.workflows = .ok pl ∧
    ArtifactSet.assemble ms pl = .ok set ∧
    out.BelongsTo (g.resolve s, d.resolve s g) p ms index pl ∧
    out.manifest.artifact ∈ set.toList ∧ out.workflow.artifact ∈ set.toList

/-! ## The output as a function -/

/-- The output of a destination of a resolved service. -/
def ResolvedService.output (s : ResolvedService) (o : CompileOptions)
    (x : ResolvedGroup × ResolvedDestination) : Output where
  names := s.namesOf x
  manifest := x.2.manifest s o.manifests (s.namesOf x).resource
  workflow := Deployment.record ⟨x.2, s.namesOf x,
    manifestPath o.manifests (s.namesOf x).resource⟩ s o.workflows

/-- At the place of a destination stands its output and nothing else. -/
theorem belongsTo_iff {p : Plan} (h : p.Valid) (o : CompileOptions)
    {x : ResolvedGroup × ResolvedDestination} (hx : x ∈ p.service.destinations) {out : Output} :
    out.BelongsTo x p (p.manifests o.manifests) (p.tables o.manifests).manifests
      (pipeline p.service (p.tables o.manifests) o.workflows) ↔
        out = p.service.output o x := by
  have hmanifest {n : Nat} (hn : p.service.destinations[n]? = some x) :
      (p.manifests o.manifests)[n]? = some (p.service.output o x).manifest := by
    rw [Plan.manifests, List.getElem?_map, hn]
    rfl
  constructor
  · rintro ⟨hn, -, n, hplace, hm, hw⟩
    have hnames := hn.symm.trans (h.get?_names hx)
    have hmanifests := hm.symm.trans (hmanifest hplace)
    have hworkflows := hw.symm.trans (getElem?_destinations h hplace)
    cases out
    rw [ResolvedService.output, Output.mk.injEq]
    exact ⟨Option.some_inj.mp hnames, Option.some_inj.mp hmanifests, Option.some_inj.mp hworkflows⟩
  · rintro rfl
    obtain ⟨n, hn⟩ := List.mem_iff_getElem?.mp hx
    exact ⟨h.get?_names hx, h.get?_manifests o.manifests hx, n, hn, hmanifest hn,
      getElem?_destinations h hn⟩

/-- What follows for a destination from the settings of its group and those of the service. -/
def Destination.output (s : Service) (g : Group) (o : CompileOptions) (d : Destination) : Output :=
  s.resolve.output o (g.resolve s, d.resolve s g)

/-- **The rest of the tree is not asked.** -/
theorem output_withGroups (s : Service) (gs : List Group) (g : Group) (ds : List Destination)
    (o : CompileOptions) (d : Destination) :
    d.output { s with groups := gs } { g with destinations := ds } o = d.output s g o := rfl

section Yields

variable {s : Service} {o : CompileOptions} {set : ArtifactSet} {g : Group} {d : Destination}

theorem resolve_mem_destinations (hg : g ∈ s.groups) (hd : d ∈ g.destinations) :
    (g.resolve s, d.resolve s g) ∈ s.resolve.destinations := by
  refine List.mem_flatMap.mpr ⟨g.resolve s, List.mem_map_of_mem hg, ?_⟩
  exact List.mem_map_of_mem (List.mem_map_of_mem hd)

theorem output_mem {p : Plan} {x : ResolvedGroup × ResolvedDestination} {ms : List ManifestRecord}
    {index : ManifestIndex} {pl : Pipeline} {out : Output} (h : out.BelongsTo x p ms index pl)
    (hset : set.toList = ms.map (·.artifact) ++ pl.workflows.map (·.artifact)) :
    out.manifest.artifact ∈ set.toList ∧ out.workflow.artifact ∈ set.toList := by
  obtain ⟨n, -, hm, hw⟩ := h.place
  have hworkflow : out.workflow ∈ pl.workflows :=
    List.mem_append_left _ (List.mem_append_left _ (List.mem_of_getElem? hw))
  rw [hset]
  exact ⟨List.mem_append_left _ (List.mem_map_of_mem (List.mem_of_getElem? hm)),
    List.mem_append_right _ (List.mem_map_of_mem hworkflow)⟩

/-- **A run yields what follows from the destination and the levels above it.** -/
theorem yields_iff (hs : s.compile o = .ok set) (hg : g ∈ s.groups) (hd : d ∈ g.destinations)
    {out : Output} : s.Yields o set g d out ↔ out = d.output s g o := by
  obtain ⟨p, hp, hf, hset⟩ := compile_eq_ok_iff.mp hs
  obtain ⟨hservice, hv⟩ := plan_eq_ok_iff.mp hp
  have hx : (g.resolve s, d.resolve s g) ∈ p.service.destinations :=
    hservice ▸ resolve_mem_destinations hg hd
  have hout : p.service.output o (g.resolve s, d.resolve s g) = d.output s g o := by
    rw [hservice, Destination.output]
  have hiff := @belongsTo_iff p hv o _ hx out
  rw [← hout]
  constructor
  · rintro ⟨p', ms, index, pl, hp', hms, hpl, -, hbelongs, -⟩
    obtain rfl := Except.ok.inj (hp.symm.trans hp')
    obtain ⟨rfl, rfl⟩ := Prod.mk.inj (Except.ok.inj (hv.buildManifests.symm.trans hms))
    obtain rfl := (synthesize_eq_ok_iff.mp hpl).2
    exact hiff.mp hbelongs
  · intro h
    have hbelongs := hiff.mpr h
    exact ⟨p, _, _, _, hp, hv.buildManifests, synthesize_eq_ok_iff.mpr ⟨hf, rfl⟩,
      ofList_eq_ok_iff.mpr hset, hbelongs, output_mem hbelongs hset⟩

end Yields

/-- **Only its own chain decides what is written for a destination.** -/
theorem outputs_isolated {s t : Service} {o : CompileOptions} {set set' : ArtifactSet}
    (hs : s.compile o = .ok set) (ht : t.compile o = .ok set')
    (hst : t = { s with groups := t.groups }) {g h : Group} (hg : g ∈ s.groups)
    (hh : h ∈ t.groups) (hgh : h = { g with destinations := h.destinations }) {d : Destination}
    (hd : d ∈ g.destinations) (hd' : d ∈ h.destinations) :
    (∃! out, s.Yields o set g d out) ∧
      ∀ out, s.Yields o set g d out ↔ t.Yields o set' h d out := by
  have hout : d.output t h o = d.output s g o := by
    rw [hst, hgh]
    exact output_withGroups s t.groups g h.destinations o d
  refine ⟨⟨d.output s g o, (yields_iff hs hg hd).mpr rfl, fun out => (yields_iff hs hg hd).mp⟩,
    fun out => ?_⟩
  rw [yields_iff hs hg hd, yields_iff ht hh hd', hout]

/-- The small service with its stages exchanged and other destinations in them. -/
def Service.rearranged : Service :=
  { Service.sample with
    groups := [
      { name := "production", destinations := [.named "us-2" "shop"], space := some "spare" },
      { name := "canary", destinations := [.named "us-1" "shop", .named "eu-1" "shop"] }] }

theorem outputs_isolated_rearranged : ∃ set set' g h d,
    Service.sample.compile { manifests := { repoUrl := "." } } = .ok set ∧
    Service.rearranged.compile { manifests := { repoUrl := "." } } = .ok set' ∧
    Service.rearranged = { Service.sample with groups := Service.rearranged.groups } ∧
    g ∈ Service.sample.groups ∧ h ∈ Service.rearranged.groups ∧
    h = { g with destinations := h.destinations } ∧
    d ∈ g.destinations ∧ d ∈ h.destinations ∧
    (∃! out, Service.sample.Yields { manifests := { repoUrl := "." } } set g d out) ∧
    ∀ out, Service.sample.Yields { manifests := { repoUrl := "." } } set g d out ↔
      Service.rearranged.Yields { manifests := { repoUrl := "." } } set' h d out := by
  have hs := isSome_toOption_iff.mp (show
    (Service.sample.compile { manifests := { repoUrl := "." } }).toOption.isSome = true by
      decide +kernel)
  have ht := isSome_toOption_iff.mp (show
    (Service.rearranged.compile { manifests := { repoUrl := "." } }).toOption.isSome = true by
      decide +kernel)
  obtain ⟨set, hs⟩ := hs
  obtain ⟨set', ht⟩ := ht
  have hg : { name := "canary", destinations := [.named "eu-1" "shop"] } ∈ Service.sample.groups :=
    List.mem_cons_self
  have hh : { name := "canary", destinations := [.named "us-1" "shop", .named "eu-1" "shop"] } ∈
      Service.rearranged.groups := List.mem_cons_of_mem _ List.mem_cons_self
  have hd : Destination.named "eu-1" "shop" ∈ [Destination.named "eu-1" "shop"] :=
    List.mem_cons_self
  have hd' : Destination.named "eu-1" "shop" ∈
      [Destination.named "us-1" "shop", Destination.named "eu-1" "shop"] :=
    List.mem_cons_of_mem _ List.mem_cons_self
  exact ⟨set, set', _, _, _, hs, ht, rfl, hg, hh, rfl, hd, hd',
    outputs_isolated hs ht rfl hg hh rfl hd hd'⟩

end Rollout
