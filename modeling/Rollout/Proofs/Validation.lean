import Mathlib
import Rollout.Validation

/-!
# What validation accepts

* `ResolvedDestination.Sound`, `ResolvedGroup.Sound`: a destination or a group on its own.
* `ResolvedService.WellFormed`: every group is sound, no stage key and no destination comes twice.
* `Trackers.clean`: what groups without problems leave behind.
* **`problems_eq_nil_iff`**: a service has no problems exactly when it is well formed.
* **`accepted_iff`**: what that asks of the names, clusters and namespaces that it is made of.
-/

namespace Rollout

/-! ## Values met once -/

namespace Tracker

variable {α : Type} [DecidableEq α] {a : α} {seen : List α}

theorem observe_of_notMem (h : a ∉ seen) :
    (⟨seen, []⟩ : Tracker α).observe a = (false, ⟨a :: seen, []⟩) := by
  unfold observe
  rw [if_pos h]

theorem observe_of_mem (h : a ∈ seen) :
    (⟨seen, []⟩ : Tracker α).observe a = (true, ⟨seen, [a]⟩) := by
  unfold observe
  rw [if_neg (not_not.mpr h), if_pos List.not_mem_nil]

end Tracker

/-! ## Destinations -/

namespace ResolvedDestination

/-- A destination in a namespace of exactly one cluster, with a host to log in to. -/
structure Sound (d : ResolvedDestination) : Prop where
  space_ne : d.space.value ≠ ""
  identified : d.hasName ≠ d.hasServer
  hostname_ne : d.settings.hostname.value ≠ ""

variable {d : ResolvedDestination}

theorem identityProblems_eq_nil_iff : d.identityProblems = [] ↔ d.hasName ≠ d.hasServer := by
  unfold identityProblems
  cases d.hasName <;> cases d.hasServer <;> simp

theorem problems_eq_nil_iff : d.problems = [] ↔ d.Sound := by
  unfold problems
  simp only [List.append_eq_nil_iff, identityProblems_eq_nil_iff]
  constructor
  · rintro ⟨⟨hs, hi⟩, hh⟩
    exact ⟨by simpa using hs, hi, by simpa using hh⟩
  · rintro ⟨hs, hi, hh⟩
    exact ⟨⟨by simpa using hs, hi⟩, by simpa using hh⟩

theorem ownProblems_eq_nil_iff {i : Nat} : d.ownProblems i = [] ↔ d.Sound := by
  unfold ownProblems
  rw [← problems_eq_nil_iff]
  cases d.problems <;> simp

/-- A sound destination has a key. -/
theorem Sound.hasKey (h : d.Sound) : d.hasKey = true := by
  rw [ResolvedDestination.hasKey, Bool.and_eq_true]
  exact ⟨by simpa using h.space_ne, by simpa using h.identified⟩

end ResolvedDestination

/-! ## Groups -/

namespace ResolvedGroup

/-- The keys of the group's destinations. -/
def keys (g : ResolvedGroup) : List DestinationKey := g.destinations.map (·.key)

/-- A group that can be a stage, with sound destinations. -/
structure Sound (g : ResolvedGroup) : Prop where
  stageKey_ne : g.stageKey ≠ ""
  destinations_ne : g.destinations ≠ []
  destination : ∀ d ∈ g.destinations, d.Sound

theorem nameProblems_eq_nil_iff {g : ResolvedGroup} : g.nameProblems = [] ↔ g.stageKey ≠ "" := by
  unfold nameProblems
  split
  · rename_i hn
    have hk : g.stageKey = "" := by
      unfold stageKey
      rw [String.isEmpty_iff.mp hn]
      cbv
    simp [hk]
  · split
    · rename_i hk
      simp [String.isEmpty_iff.mp hk]
    · rename_i hk
      simpa using hk

end ResolvedGroup

section Destinations

variable {d : ResolvedDestination} {ds : List ResolvedDestination} {seen : List DestinationKey}
  {i : Nat}

theorem checkDestinations_cons (hd : d.Sound) (hk : d.key ∉ seen) :
    checkDestinations ⟨seen, []⟩ i (d :: ds) =
      checkDestinations ⟨d.key :: seen, []⟩ (i + 1) ds := by
  have ho : d.ownProblems i = [] := ResolvedDestination.ownProblems_eq_nil_iff.mpr hd
  rw [checkDestinations, if_pos hd.hasKey, Tracker.observe_of_notMem hk, ho]
  rfl

/-- Nothing is told of sound destinations whose keys are new, and the keys are remembered. -/
theorem checkDestinations_of_sound (hd : ∀ d ∈ ds, d.Sound)
    (hk : (ds.map (·.key) ++ seen).Nodup) : checkDestinations ⟨seen, []⟩ i ds =
      ([], ⟨(ds.map (·.key)).reverse ++ seen, []⟩) := by
  induction ds generalizing seen i with
  | nil => rfl
  | cons d ds ih =>
    rw [List.map_cons, List.cons_append, List.nodup_middle.symm] at hk
    have hn : d.key ∉ seen := by
      intro hm
      have := (List.nodup_append.mp hk).2.1
      exact (List.nodup_cons.mp this).1 hm
    rw [checkDestinations_cons (hd d List.mem_cons_self) hn,
      ih (fun x hx => hd x (List.mem_cons_of_mem _ hx)) hk, List.map_cons, List.reverse_cons,
      List.append_assoc, List.singleton_append]

/-- **Destinations of a group.** Nothing is told exactly of sound destinations with new keys. -/
theorem checkDestinations_eq_nil_iff (hs : seen.Nodup) :
    (checkDestinations ⟨seen, []⟩ i ds).1 = [] ↔
      (∀ d ∈ ds, d.Sound) ∧ (ds.map (·.key) ++ seen).Nodup := by
  constructor
  · intro h
    induction ds generalizing seen i with
    | nil => simpa using hs
    | cons d ds ih =>
      have hd : d.Sound := by
        simp only [checkDestinations, List.append_eq_nil_iff] at h
        exact ResolvedDestination.ownProblems_eq_nil_iff.mp h.1.1
      have hk : d.key ∉ seen := by
        intro hk
        simp only [checkDestinations, if_pos hd.hasKey, Tracker.observe_of_mem hk,
          List.append_eq_nil_iff] at h
        cases h.1.2
      rw [checkDestinations_cons hd hk] at h
      obtain ⟨hds, hn⟩ := ih (List.nodup_cons.mpr ⟨hk, hs⟩) h
      exact ⟨List.forall_mem_cons.mpr ⟨hd, hds⟩, List.nodup_middle.mp hn⟩
  · rintro ⟨hd, hn⟩
    rw [checkDestinations_of_sound hd hn]

end Destinations

section Group

variable {g : ResolvedGroup} {seen : List DestinationKey}

theorem checkGroup_of_sound (hg : g.Sound) (hk : (g.keys ++ seen).Nodup) :
    checkGroup ⟨seen, []⟩ g = ([], ⟨g.keys.reverse ++ seen, []⟩) := by
  have hd : g.destinations.isEmpty = false := by simpa using hg.destinations_ne
  unfold checkGroup
  rw [checkDestinations_of_sound hg.destination hk,
    ResolvedGroup.nameProblems_eq_nil_iff.mpr hg.stageKey_ne, hd]
  rfl

/-- **One group.** It has no problems of its own exactly when it is sound and its keys are new. -/
theorem checkGroup_eq_nil_iff (hs : seen.Nodup) :
    (checkGroup ⟨seen, []⟩ g).1 = [] ↔ g.Sound ∧ (g.keys ++ seen).Nodup := by
  constructor
  · intro h
    unfold checkGroup at h
    rw [List.append_eq_nil_iff, ResolvedGroup.nameProblems_eq_nil_iff] at h
    obtain ⟨hn, hi⟩ := h
    have hi : (if g.destinations.isEmpty then [Problem.noDestinations] else []) ++
        (checkDestinations ⟨seen, []⟩ 0 g.destinations).1 = [] := by
      by_contra hne
      rw [if_neg (by simpa using hne)] at hi
      cases hi
    rw [List.append_eq_nil_iff, checkDestinations_eq_nil_iff hs] at hi
    obtain ⟨he, hd, hk⟩ := hi
    refine ⟨⟨hn, ?_, hd⟩, hk⟩
    intro hnil
    rw [hnil] at he
    cases he
  · rintro ⟨hg, hk⟩
    rw [checkGroup_of_sound hg hk]

end Group

/-! ## The groups of a service -/

/-- What groups without problems leave: their names, last first, and the keys of their
destinations. -/
def Trackers.clean (names : List String) (keys : List DestinationKey) : Trackers where
  names := ⟨names, []⟩
  stages := ⟨names.map fun n => (sanitize n, n), []⟩
  keys := ⟨keys, []⟩

section Groups

variable {g : ResolvedGroup} {gs : List ResolvedGroup} {names : List String}
  {keys : List DestinationKey}

theorem observe_stages_of_notMem (h : g.stageKey ∉ names.map sanitize) :
    (Trackers.clean names keys).stages.observe g =
      ([], (Trackers.clean (g.name :: names) keys).stages) := by
  have hl : (names.map fun n => (sanitize n, n)).lookup g.stageKey = none := by
    rw [List.lookup_eq_none_iff]
    rintro e he
    obtain ⟨n, hn, rfl⟩ := List.mem_map.mp he
    have : g.stageKey ≠ sanitize n := fun hk => h (hk ▸ List.mem_map_of_mem hn)
    simpa using this
  unfold StageKeys.observe Trackers.clean
  rw [hl]
  rfl

theorem observe_stages_of_mem (h : g.stageKey ∈ names.map sanitize) (hn : g.name ∉ names) :
    ((Trackers.clean names keys).stages.observe g).1 ≠ [] := by
  unfold StageKeys.observe Trackers.clean
  cases hl : (names.map fun n => (sanitize n, n)).lookup g.stageKey with
  | none =>
    obtain ⟨n, hm, hk⟩ := List.mem_map.mp h
    have := List.lookup_eq_none_iff.mp hl _ (List.mem_map_of_mem hm)
    simp [hk] at this
  | some first =>
    have hf : first ≠ g.name := by
      obtain ⟨l₁, l₂, heq, -⟩ := List.lookup_eq_some_iff.mp hl
      have hm : (g.stageKey, first) ∈ names.map fun n => (sanitize n, n) := by
        rw [heq]
        exact List.mem_append_right _ List.mem_cons_self
      obtain ⟨n, hfirst, he⟩ := List.mem_map.mp hm
      obtain ⟨-, rfl⟩ := Prod.mk.inj he
      exact fun h => hn (h ▸ hfirst)
    simp [hf]

/-- A sound group that takes new keys leaves no problem. -/
theorem checkGroups_cons (hg : g.Sound) (hk : (g.keys ++ keys).Nodup)
    (hs : g.stageKey ∉ names.map sanitize) : checkGroups (.clean names keys) (g :: gs) =
      checkGroups (.clean (g.name :: names) (g.keys.reverse ++ keys)) gs := by
  have hn : g.name ∉ names := fun hn => hs (List.mem_map_of_mem hn)
  have ht : (Trackers.clean names keys).names.observe g.name =
      (false, (Trackers.clean (g.name :: names) keys).names) := Tracker.observe_of_notMem hn
  rw [checkGroups, show (Trackers.clean names keys).keys = ⟨keys, []⟩ from rfl,
    checkGroup_of_sound hg hk]
  dsimp only
  rw [ht, observe_stages_of_notMem hs]
  rfl

theorem of_checkGroups_cons (hk : keys.Nodup)
    (h : checkGroups (.clean names keys) (g :: gs) = []) :
    (g.Sound ∧ (g.keys ++ keys).Nodup) ∧ g.stageKey ∉ names.map sanitize := by
  rw [checkGroups, show (Trackers.clean names keys).keys = ⟨keys, []⟩ from rfl] at h
  dsimp only at h
  have hg : (checkGroup ⟨keys, []⟩ g).1 = [] := by
    by_contra hne
    rw [if_pos (by simpa using hne)] at h
    cases h
  refine ⟨(checkGroup_eq_nil_iff hk).mp hg, fun hs => ?_⟩
  rw [hg, if_neg (by simp)] at h
  by_cases hn : g.name ∈ names
  · rw [show (Trackers.clean names keys).names = ⟨names, []⟩ from rfl,
      Tracker.observe_of_mem hn] at h
    cases h
  · rw [show (Trackers.clean names keys).names = ⟨names, []⟩ from rfl,
      Tracker.observe_of_notMem hn] at h
    exact observe_stages_of_mem hs hn (List.append_eq_nil_iff.mp h).1

theorem nodup_reverse_append_iff :
    (g.keys.reverse ++ keys).Nodup ↔ (g.keys ++ keys).Nodup :=
  ((List.reverse_perm g.keys).append_right keys).nodup_iff

theorem nodup_keys_iff : ((g :: gs).flatMap (·.keys) ++ keys).Nodup ↔
    (gs.flatMap (·.keys) ++ (g.keys.reverse ++ keys)).Nodup := by
  refine List.Perm.nodup_iff ?_
  rw [List.flatMap_cons, List.append_assoc]
  exact (List.perm_append_comm_assoc ..).trans
    (((List.reverse_perm g.keys).symm.append_right keys).append_left _)

/-- **All groups.** Nothing is told exactly of sound groups whose stage keys and destinations are
new. -/
theorem checkGroups_eq_nil_iff (hk : keys.Nodup) (hn : (names.map sanitize).Nodup) :
    checkGroups (.clean names keys) gs = [] ↔ (∀ g ∈ gs, g.Sound) ∧
      (gs.map (·.stageKey) ++ names.map sanitize).Nodup ∧
      (gs.flatMap (·.keys) ++ keys).Nodup := by
  induction gs generalizing names keys with
  | nil => simp [checkGroups, hn, hk]
  | cons g gs ih =>
    rw [List.forall_mem_cons, nodup_keys_iff, List.map_cons, List.cons_append,
      ← List.nodup_middle]
    constructor
    · intro h
      obtain ⟨⟨hg, hgk⟩, hs⟩ := of_checkGroups_cons hk h
      have hr : (g.keys.reverse ++ keys).Nodup := nodup_reverse_append_iff.mpr hgk
      have hs' : ((g.name :: names).map sanitize).Nodup := List.nodup_cons.mpr ⟨hs, hn⟩
      rw [checkGroups_cons hg hgk hs, ih hr hs'] at h
      exact ⟨⟨hg, h.1⟩, h.2⟩
    · rintro ⟨⟨hg, hgs⟩, hstage, hkeys⟩
      have hr : (g.keys.reverse ++ keys).Nodup := (List.nodup_append.mp hkeys).2.1
      have hs' : ((g.name :: names).map sanitize).Nodup := (List.nodup_append.mp hstage).2.1
      rw [checkGroups_cons hg (nodup_reverse_append_iff.mp hr) (List.nodup_cons.mp hs').1]
      exact (ih hr hs').mpr ⟨hgs, hstage, hkeys⟩

end Groups

/-! ## The service -/

/-- A service whose groups are sound, with no stage key and no destination twice. -/
structure ResolvedService.WellFormed (s : ResolvedService) : Prop where
  name_ne : s.name ≠ ""
  groups_ne : s.groups ≠ []
  group : ∀ g ∈ s.groups, g.Sound
  stageKeys_nodup : (s.groups.map (·.stageKey)).Nodup
  keys_nodup : (s.groups.flatMap (·.keys)).Nodup

/-- **A service has no problems exactly when it is well formed.** -/
theorem problems_eq_nil_iff {s : ResolvedService} : s.problems = [] ↔ s.WellFormed := by
  have h := @checkGroups_eq_nil_iff s.groups [] [] .nil .nil
  simp only [List.map_nil, List.append_nil] at h
  unfold ResolvedService.problems
  simp only [List.append_eq_nil_iff]
  constructor
  · rintro ⟨⟨hn, hg⟩, hc⟩
    obtain ⟨hs, hstage, hkeys⟩ := h.mp hc
    exact ⟨by simpa using hn, by simpa using hg, hs, hstage, hkeys⟩
  · rintro ⟨hn, hg, hs, hstage, hkeys⟩
    exact ⟨⟨by simpa using hn, by simpa using hg⟩, h.mpr ⟨hs, hstage, hkeys⟩⟩

/-! ## What well-formed services are made of -/

/-- A text that is given and not empty. -/
def Given (text : Option String) : Prop := ∃ v, text = some v ∧ v ≠ ""

theorem isSome_filled?_iff {text : Option String} : (filled? text).isSome = true ↔ Given text := by
  cases text <;> simp [filled?, Given, Option.filter]

namespace ResolvedDestination

variable {d : ResolvedDestination}

theorem hasName_ne_hasServer_iff :
    d.hasName ≠ d.hasServer ↔ Xor (Given d.name) (Given d.server) := by
  rw [xor_iff_not_iff, ← isSome_filled?_iff, ← isSome_filled?_iff, ← Bool.eq_iff_iff]
  rfl

theorem sound_iff : d.Sound ↔ d.space.value ≠ "" ∧ d.settings.hostname.value ≠ "" ∧
    Xor (Given d.name) (Given d.server) := by
  rw [← hasName_ne_hasServer_iff]
  constructor
  · rintro ⟨hs, hi, hh⟩
    exact ⟨hs, hh, hi⟩
  · rintro ⟨hs, hh, hi⟩
    exact ⟨hs, hi, hh⟩

end ResolvedDestination

/-- The keys of all destinations, read group by group. -/
theorem map_key_destinations (s : ResolvedService) :
    s.destinations.map (·.2.key) = s.groups.flatMap (·.keys) := by
  unfold ResolvedService.destinations
  rw [List.map_flatMap]
  refine List.flatMap_congr fun g _ => ?_
  rw [List.map_map]
  rfl

theorem forall_destinations_iff {s : ResolvedService} {P : ResolvedDestination → Prop} :
    (∀ x ∈ s.destinations, P x.2) ↔ ∀ g ∈ s.groups, ∀ d ∈ g.destinations, P d := by
  simp only [ResolvedService.destinations, List.forall_mem_flatMap, List.forall_mem_map]

/-- **What is accepted.** A service is told of no problem exactly when it and its groups are named,
no group is empty, every destination is in a namespace of one cluster with a host to log in to, and
neither a stage key nor a destination comes twice. -/
theorem accepted_iff (s : ResolvedService) : s.problems = [] ↔
    s.name ≠ "" ∧ s.groups ≠ [] ∧
      (∀ g ∈ s.groups, g.destinations ≠ [] ∧ g.stageKey ≠ "") ∧
      (∀ x ∈ s.destinations, x.2.space.value ≠ "" ∧ x.2.settings.hostname.value ≠ "" ∧
        Xor (Given x.2.name) (Given x.2.server)) ∧
      (s.groups.map (·.stageKey)).Nodup ∧ (s.destinations.map (·.2.key)).Nodup := by
  simp only [← ResolvedDestination.sound_iff]
  rw [problems_eq_nil_iff, map_key_destinations, forall_destinations_iff]
  constructor
  · intro h
    exact ⟨h.name_ne, h.groups_ne, fun g hg => ⟨(h.group g hg).destinations_ne,
      (h.group g hg).stageKey_ne⟩, fun g hg => (h.group g hg).destination, h.stageKeys_nodup,
      h.keys_nodup⟩
  · rintro ⟨hn, hne, hg, hd, hs, hk⟩
    exact ⟨hn, hne, fun g hgs => ⟨(hg g hgs).2, (hg g hgs).1, hd g hgs⟩, hs, hk⟩

end Rollout
