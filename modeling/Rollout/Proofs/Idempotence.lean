import Rollout.Proofs.Cascade
import Rollout.Proofs.Origins

/-!
# Resolving twice

A resolved service can be written out: every group and destination then gives each of its values
itself. Resolving that again finds each value where it is used, or finds nothing where the value was
empty all along, since a level below a set value is never empty.

* `ownLevel`: the level that gives values which were resolved before.
* `Setting.Own`, `ResolvedService.WrittenOut`: the same values, each from the place that has it.
* `nearest_own`: where nothing above sets more, the nearest values are the place's own.
* `writtenOut_resolve`: a written-out service resolves to the same values.
* **`resolve_idempotent`**: it is written out as itself and has the same artifacts.
-/

namespace Rollout

/-! ## Values from where they are used -/

/-- The level that gives values which were resolved before. -/
def ownLevel (space : Resolved String) (settings : ResolvedSettings) : Level where
  space := nonEmpty? space.value
  controller := settings.toController
  ci := settings.toCi

namespace Setting

/-- A value, from the origin named if it counts as set. -/
structure Own (f : Setting) (origin : Origin) (v : f.Value) (r : Resolved f.Value) : Prop where
  value : r.value = v
  origin_of_isSet : f.IsSet v → r.origin = origin
  origin_of_not : ¬ f.IsSet v → r.origin = .default

theorem not_sets_blank (f : Setting) (v : f.Value) : ¬ f.Sets ⟨none, {}, {}⟩ v := by
  rintro ⟨hgives, hset⟩
  cases f <;> simp_all [Gives, IsSet]

theorem nonEmpty?_eq_some_iff {text v : String} : nonEmpty? text = some v ↔ text = v ∧ v ≠ "" := by
  unfold nonEmpty?
  split
  · rename_i h
    rw [String.isEmpty_iff] at h
    simp [h]
  · rename_i h
    rw [String.isEmpty_iff] at h
    rw [Option.some_inj]
    exact ⟨fun hv => ⟨hv, hv ▸ h⟩, And.left⟩

/-- **What is written out is set again**, as far as it counts as set. -/
theorem sets_ownLevel_iff {f : Setting} {space : Resolved String} {settings : ResolvedSettings}
    {v : f.Value} : f.Sets (ownLevel space settings) v ↔
      (read space settings f).value = v ∧ f.IsSet v := by
  rw [Sets, and_congr_left_iff]
  intro hset
  cases f <;> simp_all [Gives, IsSet, ownLevel, read, ResolvedSettings.toController,
    ResolvedSettings.toCi, nonEmpty?_eq_some_iff]

/-- A value that does not count as set is the default, and no level of the chain sets another. -/
theorem Nearest.of_not_isSet {f : Setting} {chain : Chain} {r : Resolved f.Value}
    (h : f.Nearest chain r) (hr : ¬ f.IsSet r.value) :
    (∀ x ∈ chain, ∀ v, ¬ f.Sets x.2 v) ∧ r = ⟨f.fallback, .default⟩ := by
  rcases FirstSet.cases_value h with ⟨x, -, hx⟩ | h
  · exact absurd hx.2 hr
  · exact h

/-- **Values that were written out are found where they are**, if the levels above set nothing that
is not set here. -/
theorem nearest_own {f : Setting} {origin : Origin} {space : Resolved String}
    {settings : ResolvedSettings} {above : Chain} {r : Resolved f.Value}
    (h : f.Nearest ((origin, ownLevel space settings) :: above) r)
    (hn : ¬ f.IsSet (read space settings f).value →
      (read space settings f).value = f.fallback ∧ ∀ x ∈ above, ∀ v, ¬ f.Sets x.2 v) :
    f.Own origin (read space settings f).value r := by
  by_cases hset : f.IsSet (read space settings f).value
  · have hown : f.Nearest ((origin, ownLevel space settings) :: above)
        ⟨(read space settings f).value, origin⟩ := .here (sets_ownLevel_iff.mpr ⟨rfl, hset⟩)
    obtain rfl := h.unique hown
    exact ⟨rfl, fun _ => rfl, fun hnot => absurd hset hnot⟩
  · obtain ⟨hvalue, habove⟩ := hn hset
    have hhere (v : f.Value) : ¬ f.Sets (ownLevel space settings) v := by
      rw [sets_ownLevel_iff]
      rintro ⟨rfl, hv⟩
      exact hset hv
    have hdefault : f.Nearest ((origin, ownLevel space settings) :: above)
        ⟨f.fallback, .default⟩ := firstSet_of_forall_not (List.forall_mem_cons.mpr ⟨hhere, habove⟩)
    obtain rfl := h.unique hdefault
    exact ⟨hvalue.symm, fun hv => absurd hv hset, fun _ => rfl⟩

end Setting

/-! ## Trees with the same values -/

/-- The destination has the other's values, each from the destination itself. -/
structure ResolvedDestination.WrittenOut (d d' : ResolvedDestination) : Prop where
  name : d'.name = d.name
  server : d'.server = d.server
  own : ∀ f : Setting, f.Own .destination (d.get f).value (d'.get f)

/-- The group has the other's values, each from the group itself. -/
structure ResolvedGroup.WrittenOut (g g' : ResolvedGroup) : Prop where
  name : g'.name = g.name
  own : ∀ f : Setting, f.Own .group (g.get f).value (g'.get f)
  destinations : List.Forall₂ ResolvedDestination.WrittenOut g.destinations g'.destinations

/-- The service has the other's values, each from the place that has it. -/
structure ResolvedService.WrittenOut (s s' : ResolvedService) : Prop where
  name : s'.name = s.name
  source : s'.source = s.source
  naming : s'.naming = s.naming
  triggers : s'.triggers = s.triggers
  groups : List.Forall₂ ResolvedGroup.WrittenOut s.groups s'.groups

section Plain

theorem read_plain (space : Resolved String) (settings : ResolvedSettings) (f : Setting) :
    Setting.read space.plain settings.plain f = (Setting.read space settings f).plain := by
  cases f <;> rfl

/-- Resolved values that agree in every setting differ in their origins alone. -/
theorem plain_eq_of_value_eq {space space' : Resolved String}
    {settings settings' : ResolvedSettings}
    (h : ∀ f, (Setting.read space settings f).value = (Setting.read space' settings' f).value) :
    space.plain = space'.plain ∧ settings.plain = settings'.plain := by
  refine Setting.eq_of_read_eq fun f => ?_
  rw [read_plain, read_plain, Resolved.plain, Resolved.plain, h]

theorem ResolvedDestination.WrittenOut.plain_eq {d d' : ResolvedDestination}
    (h : d.WrittenOut d') : d'.plain = d.plain := by
  obtain ⟨hspace, hsettings⟩ := plain_eq_of_value_eq fun f => (h.own f).value
  rw [ResolvedDestination.plain, ResolvedDestination.mk.injEq]
  exact ⟨h.name, h.server, hspace, hsettings⟩

theorem ResolvedGroup.WrittenOut.plain_eq {g g' : ResolvedGroup} (h : g.WrittenOut g') :
    g'.plain = g.plain := by
  obtain ⟨hspace, hsettings⟩ := plain_eq_of_value_eq fun f => (h.own f).value
  have hds : g'.destinations.map (·.plain) = g.destinations.map (·.plain) :=
    map_eq_map_of_forall₂ h.destinations fun _ _ hd => hd.plain_eq
  rw [ResolvedGroup.plain, ResolvedGroup.mk.injEq]
  exact ⟨h.name, hspace, hsettings, hds⟩

/-- **A service that is written out differs in its origins alone.** -/
theorem ResolvedService.WrittenOut.plain_eq {s s' : ResolvedService} (h : s.WrittenOut s') :
    s'.plain = s.plain := by
  have hgs : s'.groups.map (·.plain) = s.groups.map (·.plain) :=
    map_eq_map_of_forall₂ h.groups fun _ _ hg => hg.plain_eq
  rw [ResolvedService.plain, ResolvedService.mk.injEq]
  exact ⟨h.name, h.source, h.naming, h.triggers, hgs⟩

end Plain

/-! ## Resolving what was written out -/

section Resolve

variable (s : Service)

/-- The group that gives every value of a group itself has these values. -/
theorem own_group (g : Group) (f : Setting) :
    f.Own .group ((g.resolve s).get f).value
      (((g.resolve s).toSpec.resolve s.resolve.toSpec).get f) := by
  refine Setting.nearest_own (nearest_group s.resolve.toSpec (g.resolve s).toSpec f) fun hn => ?_
  obtain ⟨-, hdefault⟩ := (nearest_group s g f).of_not_isSet hn
  exact ⟨congrArg Resolved.value hdefault, List.forall_mem_singleton.mpr f.not_sets_blank⟩

/-- **A value that is empty at a destination was empty at its group**, so the group's written-out
value does not take its place. -/
theorem own_destination (g : Group) (d : Destination) (f : Setting) :
    f.Own .destination ((d.resolve s g).get f).value
      (((d.resolve s g).toSpec.resolve s.resolve.toSpec (g.resolve s).toSpec).get f) := by
  refine Setting.nearest_own
    (nearest_destination s.resolve.toSpec (g.resolve s).toSpec (d.resolve s g).toSpec f)
    fun hn => ?_
  obtain ⟨hnone, hdefault⟩ := (nearest_destination s g d f).of_not_isSet hn
  have hvalue : ((d.resolve s g).get f).value = f.fallback := congrArg Resolved.value hdefault
  have hgroup : (g.resolve s).get f = ⟨f.fallback, .default⟩ :=
    (nearest_group s g f).unique (firstSet_of_forall_not (List.forall_mem_cons.mp hnone).2)
  refine ⟨hvalue, List.forall_mem_cons.mpr ⟨fun v hv => ?_,
    List.forall_mem_singleton.mpr f.not_sets_blank⟩⟩
  -- the group's own value would be the default, which does not count as set
  obtain ⟨rfl, hset⟩ := Setting.sets_ownLevel_iff.mp hv
  have hv : (Setting.read (g.resolve s).space (g.resolve s).settings f).value = f.fallback :=
    congrArg Resolved.value hgroup
  rw [hv, ← hvalue] at hset
  exact hn hset

theorem writtenOut_group (g : Group) :
    (g.resolve s).WrittenOut ((g.resolve s).toSpec.resolve s.resolve.toSpec) where
  name := rfl
  own := own_group s g
  destinations := by
    simp only [Group.resolve, ResolvedGroup.toSpec, List.map_map, List.forall₂_map_left_iff,
      List.forall₂_map_right_iff, List.forall₂_same]
    exact fun d _ => ⟨rfl, rfl, own_destination s g d⟩

theorem GivenOr.again {α : Type} {given : Option α} {blank fallback v : α}
    (h : GivenOr given blank fallback v) (hf : fallback ≠ blank) :
    GivenOr (some v) blank fallback v := by
  rcases h with ⟨-, hv⟩ | ⟨-, rfl⟩
  · exact .inl ⟨rfl, hv⟩
  · exact .inl ⟨rfl, hf⟩

theorem defaulted_toSpec : s.resolve.toSpec.source.Defaulted s.resolve.source := by
  obtain ⟨hpath, hbranch, hincluded, hexcluded⟩ := defaulted_resolve s.source
  refine ⟨hpath.again (by decide), hbranch.again (by decide), hincluded.again (by decide), ?_⟩
  exact fun v => iff_self_and.mpr fun hv => ((hexcluded v).mp hv).2

theorem resolve_source : s.resolve.toSpec.source.resolve = s.resolve.source :=
  (defaulted_resolve _).unique (defaulted_toSpec s)

theorem topTriggers_toSpec : s.resolve.toSpec.ci.topTriggers = s.resolve.triggers :=
  (givenOr_topTriggers _).unique ((givenOr_topTriggers s.ci).again (by decide))

/-- **What was written out resolves to the same values.** -/
theorem writtenOut_resolve : s.resolve.WrittenOut s.resolve.toSpec.resolve where
  name := rfl
  source := resolve_source s
  naming := rfl
  triggers := topTriggers_toSpec s
  groups := by
    have hgs : s.resolve.toSpec.resolve.groups =
        s.groups.map fun g => (g.resolve s).toSpec.resolve s.resolve.toSpec := by
      change (s.resolve.groups.map (·.toSpec)).map (·.resolve s.resolve.toSpec) = _
      rw [List.map_map]
      exact List.map_map
    rw [hgs]
    unfold Service.resolve
    rw [List.forall₂_map_left_iff, List.forall₂_map_right_iff, List.forall₂_same]
    exact fun g _ => writtenOut_group s g

end Resolve

/-- **Resolving twice is resolving once.** A service with every value written out where it is used
resolves to these values, from there, and differs in nothing else; it is then written out as itself,
and its artifacts, or the reason why there are none, are those of the service. -/
theorem resolve_idempotent (s : Service) :
    s.resolve.WrittenOut s.resolve.toSpec.resolve ∧
      s.resolve.toSpec.resolve.plain = s.resolve.plain ∧
      s.resolve.toSpec.resolve.toSpec = s.resolve.toSpec ∧
      ∀ o, s.resolve.toSpec.compile o = s.compile o := by
  have hplain : s.resolve.toSpec.resolve.plain = s.resolve.plain := (writtenOut_resolve s).plain_eq
  refine ⟨writtenOut_resolve s, hplain, ?_, compile_congr hplain⟩
  calc s.resolve.toSpec.resolve.toSpec = s.resolve.toSpec.resolve.plain.toSpec :=
        (toSpec_plain _).symm
    _ = s.resolve.plain.toSpec := by rw [hplain]
    _ = s.resolve.toSpec := toSpec_plain _

end Rollout
