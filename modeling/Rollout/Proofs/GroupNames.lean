import Rollout.Cascade
import Rollout.Proofs.Findings

/-!
# Names of groups that come again

A group takes its name only if nothing else is wrong with it or with its destinations. So a name
that two groups carry is told of when it comes again among the groups without faults, and a fault in
one of them hides it.

* `ResolvedGroup.FaultlessAfter`: a sound group none of whose destinations is the second with its
  key.
* `ResolvedService.faultless`: the groups without faults.
* **`checkGroup_eq_nil_iff_faultless`**: nothing is found in a group exactly when it has no fault.
* **`count_repeatsName`**: a name is told of once if two groups without faults carry it, else not at
  all.
* `repeatsName_hiddenTwins`: two groups of one name, of which nothing is told.
-/

namespace Rollout

open Problem

/-- Whether a problem tells that a name of a group comes again. -/
def Problem.repeatsName (n : String) : Problem → Bool
  | .duplicateGroupName m => m = n
  | _ => false

/-! ## Faults -/

instance (d : ResolvedDestination) : Decidable d.Sound :=
  decidable_of_iff (d.problems.isEmpty = true)
    (List.isEmpty_iff.trans ResolvedDestination.problems_eq_nil_iff)

instance (g : ResolvedGroup) : Decidable g.Sound :=
  decidable_of_iff (g.stageKey ≠ "" ∧ g.destinations ≠ [] ∧ ∀ d ∈ g.destinations, d.Sound)
    ⟨fun h => ⟨h.1, h.2.1, h.2.2⟩, fun h => ⟨h.stageKey_ne, h.destinations_ne, h.destination⟩⟩

/-- The group is sound, and none of its destinations is the second of the service with its key,
where destinations with the keys `before` were declared before it. -/
def ResolvedGroup.FaultlessAfter (before : List DestinationKey) (g : ResolvedGroup) : Prop :=
  g.Sound ∧ ∀ k ∈ g.keys, ¬ (before.count k < 2 ∧ 2 ≤ (before ++ g.keys).count k)

instance (before : List DestinationKey) (g : ResolvedGroup) :
    Decidable (g.FaultlessAfter before) := by
  unfold ResolvedGroup.FaultlessAfter; infer_instance

/-- The groups without faults, after destinations with the keys `before`. -/
def faultlessFrom (before : List DestinationKey) : List ResolvedGroup → List ResolvedGroup
  | [] => []
  | g :: rest =>
    let others := faultlessFrom (before ++ heldKeys g.destinations) rest
    if g.FaultlessAfter before then g :: others else others

/-- The groups of a service without faults. -/
def ResolvedService.faultless (s : ResolvedService) : List ResolvedGroup :=
  faultlessFrom [] s.groups

theorem faultlessFrom_sublist (before : List DestinationKey) (gs : List ResolvedGroup) :
    (faultlessFrom before gs).Sublist gs := by
  induction gs generalizing before with
  | nil => exact .slnil
  | cons g gs ih =>
    simp only [faultlessFrom]
    split
    · exact (ih _).cons_cons g
    · exact (ih _).cons g

/-! ## What is found in a group -/

section Group

variable {keys : Tracker DestinationKey} {before : List DestinationKey} {g : ResolvedGroup}
  {ds : List ResolvedDestination} {i : Nat}

theorem heldKeys_of_sound (h : ∀ d ∈ ds, d.Sound) : heldKeys ds = ds.map (·.key) := by
  rw [heldKeys, List.filter_eq_self.mpr fun d hd => (h d hd).hasKey]

theorem fst_checkDestinations_eq_nil_iff : (checkDestinations keys i ds).1 = [] ↔
    (∀ d ∈ ds, d.Sound) ∧ (keys.observeAll (heldKeys ds)).1 = [] := by
  induction ds generalizing keys i with
  | nil => simp [checkDestinations, heldKeys, Tracker.observeAll]
  | cons d ds ih =>
    simp only [checkDestinations, List.append_eq_nil_iff, List.forall_mem_cons,
      ResolvedDestination.ownProblems_eq_nil_iff, ih, and_assoc]
    refine and_congr_right fun hd => ?_
    have hk : heldKeys (d :: ds) = d.key :: heldKeys ds := by simp [heldKeys, hd.hasKey]
    rw [hk]
    simp only [hd.hasKey, if_true, Tracker.observeAll]
    cases (keys.observe d.key).1 <;> simp

/-- **Nothing is found in a group exactly when it has no fault.** -/
theorem checkGroup_eq_nil_iff_faultless (h : keys.Tracks before) :
    (checkGroup keys g).1 = [] ↔ g.FaultlessAfter before := by
  have hinside : (if g.destinations.isEmpty then [Problem.noDestinations] else []) ++
      (checkDestinations keys 0 g.destinations).1 = [] ↔ g.destinations ≠ [] ∧
        (∀ d ∈ g.destinations, d.Sound) ∧ (keys.observeAll (heldKeys g.destinations)).1 = [] := by
    rw [List.append_eq_nil_iff, fst_checkDestinations_eq_nil_iff]
    simp
  have hwrap (ps : List Problem) :
      (if ps.isEmpty then [] else [Problem.destinations ps]) = [] ↔ ps = [] := by
    cases ps <;> simp
  unfold checkGroup
  rw [List.append_eq_nil_iff, ResolvedGroup.nameProblems_eq_nil_iff, hwrap, hinside]
  constructor
  · rintro ⟨hs, hne, hd, hk⟩
    rw [heldKeys_of_sound hd, h.fst_observeAll_eq_nil_iff] at hk
    exact ⟨⟨hs, hne, hd⟩, hk⟩
  · rintro ⟨⟨hs, hne, hd⟩, hk⟩
    refine ⟨hs, hne, hd, ?_⟩
    rw [heldKeys_of_sound hd]
    exact h.fst_observeAll_eq_nil_iff.mpr hk

/-- The groups that pass their own checks are those without faults. -/
theorem passing_eq_faultlessFrom (gs : List ResolvedGroup) (h : keys.Tracks before) :
    passing keys gs = faultlessFrom before gs := by
  induction gs generalizing keys before with
  | nil => rfl
  | cons g gs ih =>
    have hkeys : (checkGroup keys g).2.Tracks (before ++ heldKeys g.destinations) := by
      rw [snd_checkGroup]
      exact h.snd_observeAll
    have hrest := ih hkeys
    simp only [passing, faultlessFrom, List.isEmpty_iff, checkGroup_eq_nil_iff_faultless h, hrest]

end Group

/-! ## Names -/

section Names

variable (n : String)

theorem onlyRepetitions_repeatsName : OnlyRepetitions (repeatsName n) := by
  intro q h
  cases q with
  | duplicateGroupName => rfl
  | _ => cases h

theorem countP_repeatsName (t : Trackers) (gs : List ResolvedGroup) :
    (repetitions t gs).countP (repeatsName n) =
      (t.names.observeAll ((passing t.keys gs).map (·.name))).1.count n := by
  have hclash : (stageClashes t.names t.stages (passing t.keys gs)).countP (repeatsName n) = 0 :=
    countP_stageClashes_eq_zero fun _ _ _ => rfl
  simp only [repetitions, List.countP_append, hclash, List.countP_map, Function.comp_def,
    repeatsName, List.countP_false, Function.const_apply, Nat.zero_add, Nat.add_zero,
    List.count_eq_countP, beq_eq_decide]

end Names

/-- **A name of a group is told of once if two groups without faults carry it, else not at all.** -/
theorem count_repeatsName (s : ResolvedService) :
    s.faultless.Sublist s.groups ∧ ∀ n, count (repeatsName n) s.problems =
      if 2 ≤ (s.faultless.map (·.name)).count n then 1 else 0 := by
  refine ⟨faultlessFrom_sublist [] s.groups, fun n => ?_⟩
  rw [count_problems_eq_countP (onlyRepetitions_repeatsName n), countP_repeatsName,
    passing_eq_faultlessFrom s.groups Tracker.tracks_empty, Tracker.tracks_empty.count_observeAll,
    List.nil_append, ResolvedService.faultless]
  exact if_congr (and_iff_right Nat.two_pos) rfl rfl

/-- Two groups of one name, one of them with a destination in no namespace. -/
def ResolvedService.hiddenTwins : ResolvedService :=
  Service.resolve
    { name := "checkout"
      groups := [
        { name := "foo", destinations := [.named "c1" "ns"] },
        { name := "foo", destinations := [{ name := some "c2" }] }]
      controller := { hostname := some "argocd.example.com" } }

/-- **Two groups carry a name, and nothing is told of it.** -/
theorem repeatsName_hiddenTwins :
    (ResolvedService.hiddenTwins.groups.map (·.name)).count "foo" = 2 ∧
      count (repeatsName "foo") ResolvedService.hiddenTwins.problems = 0 := by
  decide +kernel

end Rollout
