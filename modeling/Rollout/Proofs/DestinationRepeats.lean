import Rollout.Proofs.Reordering
import Rollout.Proofs.Reports
import Rollout.Proofs.Requirements

/-!
# Destinations that come again

One tracker follows the keys of destinations through all groups. It meets every destination that has
a key, whatever else is wrong with it or with its group, so a key is told of where it comes for the
second time and nowhere else.

* `ResolvedDestination.Holds`: a destination in a namespace of exactly one cluster, with a key.
* `ResolvedService.SecondIn`: the group at a place has the second destination that holds a key.
* `count_repeatsKey`, `count_report`: how often a key is told of, in all and in one group.
* **`repeatedKeys_told`**: a key that is held twice is told of once, in the group of the second
  destination, and another order tells of the same keys.
-/

namespace Rollout

open Problem

/-- Whether a problem tells that a destination comes again. -/
def Problem.repeatsKey (k : DestinationKey) : Problem → Bool
  | .duplicateDestination text => text = k.text
  | _ => false

/-- The destination is in a namespace of exactly one cluster, and together they have the key. -/
def ResolvedDestination.Holds (k : DestinationKey) (d : ResolvedDestination) : Prop :=
  d.space.value ≠ "" ∧ Xor (Given d.name) (Given d.server) ∧ d.key = k

instance (k : DestinationKey) (d : ResolvedDestination) : Decidable (d.Holds k) := by
  unfold ResolvedDestination.Holds Xor; infer_instance

/-- The destinations of the groups before a place. -/
def ResolvedService.destinationsBefore (s : ResolvedService) (i : Nat) : List ResolvedDestination :=
  (s.groups.take i).flatMap (·.destinations)

/-- The group at a place of the service has the second destination that holds a key: of those
declared before that one, exactly one holds it. -/
def ResolvedService.SecondIn (s : ResolvedService) (k : DestinationKey) (i : Nat) : Prop :=
  ∃ g before d after, s.groups[i]? = some g ∧ g.destinations = before ++ d :: after ∧ d.Holds k ∧
    (s.destinationsBefore i ++ before).countP (·.Holds k) = 1

/-! ## Keys that are held -/

section Held

variable {k : DestinationKey} {ds : List ResolvedDestination} {gs : List ResolvedGroup}

theorem hasKey_iff {d : ResolvedDestination} :
    d.hasKey = true ↔ d.space.value ≠ "" ∧ Xor (Given d.name) (Given d.server) := by
  rw [← ResolvedDestination.hasName_ne_hasServer_iff, ResolvedDestination.hasKey, Bool.and_eq_true,
    Bool.not_eq_true', String.isEmpty_eq_false_iff, bne_iff_ne]

theorem count_heldKeys (k : DestinationKey) (ds : List ResolvedDestination) :
    (heldKeys ds).count k = ds.countP (·.Holds k) := by
  rw [heldKeys, List.count_eq_countP, List.countP_map, List.countP_filter]
  refine List.countP_congr fun d _ => ?_
  rw [decide_eq_true_iff, Bool.and_eq_true, hasKey_iff, Function.comp_apply, beq_iff_eq, and_comm,
    and_assoc]
  rfl

theorem flatMap_heldKeys (gs : List ResolvedGroup) :
    gs.flatMap (fun g => heldKeys g.destinations) = heldKeys (gs.flatMap (·.destinations)) := by
  simp only [heldKeys, List.filter_flatMap, List.map_flatMap]

theorem map_snd_destinations (s : ResolvedService) :
    s.destinations.map Prod.snd = s.groups.flatMap (·.destinations) := by
  unfold ResolvedService.destinations
  rw [List.map_flatMap]
  refine List.flatMap_congr fun g _ => ?_
  rw [List.map_map]
  exact List.map_id _

theorem countP_destinations (s : ResolvedService) (k : DestinationKey) :
    s.destinations.countP (fun x => x.2.Holds k) =
      (s.groups.flatMap (·.destinations)).countP (·.Holds k) := by
  rw [← map_snd_destinations, List.countP_map]
  rfl

end Held

/-! ## The second one -/

/-- Where fewer than two values of a list pass a test, and with those of another list at least two
do, the second is in the other list. -/
theorem exists_second_iff {α : Type} {p : α → Bool} {as bs : List α} :
    (∃ before b after, bs = before ++ b :: after ∧ p b = true ∧ (as ++ before).countP p = 1) ↔
      as.countP p < 2 ∧ 2 ≤ (as ++ bs).countP p := by
  constructor
  · rintro ⟨before, b, after, rfl, hb, h⟩
    rw [List.countP_append] at h
    rw [List.countP_append, List.countP_append, List.countP_cons_of_pos hb]
    omega
  · rintro ⟨has, hbs⟩
    induction bs generalizing as with
    | nil =>
      rw [List.append_nil] at hbs
      omega
    | cons b bs ih =>
      by_cases hsecond : p b = true ∧ as.countP p = 1
      · exact ⟨[], b, bs, rfl, hsecond.1, by rw [List.append_nil, hsecond.2]⟩
      · have hb : (as ++ [b]).countP p < 2 := by
          rw [List.countP_append, List.countP_singleton]
          split <;> rename_i hp
          · have : as.countP p ≠ 1 := fun h => hsecond ⟨hp, h⟩
            omega
          · exact has
        obtain ⟨before, c, after, rfl, hc, h⟩ := ih hb (by simpa using hbs)
        exact ⟨b :: before, c, after, rfl, hc, by simpa using h⟩

section Second

variable {s : ResolvedService} {k : DestinationKey} {i : Nat} {g : ResolvedGroup}

theorem secondIn_iff (hg : s.groups[i]? = some g) : s.SecondIn k i ↔
    (s.destinationsBefore i).countP (·.Holds k) < 2 ∧
      2 ≤ (s.destinationsBefore i ++ g.destinations).countP (·.Holds k) := by
  rw [← exists_second_iff]
  unfold ResolvedService.SecondIn
  constructor
  · rintro ⟨g', before, d, after, hg', hds, hd, h⟩
    obtain rfl : g = g' := Option.some.inj (hg.symm.trans hg')
    exact ⟨before, d, after, hds, decide_eq_true hd, h⟩
  · rintro ⟨before, d, after, hds, hd, h⟩
    exact ⟨g, before, d, after, hg, hds, of_decide_eq_true hd, h⟩

instance : Decidable (s.SecondIn k i) :=
  match hg : s.groups[i]? with
  | none => .isFalse fun ⟨_, _, _, _, hg', _⟩ => by rw [hg] at hg'; cases hg'
  | some _ => decidable_of_iff _ (secondIn_iff hg).symm

end Second

/-! ## What is told -/

section Told

variable (k : DestinationKey) {s : ResolvedService}

theorem onlyRepetitions_repeatsKey : OnlyRepetitions (repeatsKey k) := by
  intro q h
  cases q with
  | duplicateDestination => rfl
  | _ => cases h

theorem countP_repeatsKey_map (ks : List DestinationKey) :
    (ks.map fun k => Problem.duplicateDestination k.text).countP (repeatsKey k) = ks.count k := by
  rw [List.countP_map, List.count_eq_countP]
  refine List.countP_congr fun k' _ => ?_
  obtain ⟨text⟩ := k
  obtain ⟨text'⟩ := k'
  simp [repeatsKey]

/-- **A key is told of once if two destinations hold it, else not at all.** -/
theorem count_repeatsKey (s : ResolvedService) : count (repeatsKey k) s.problems =
    if 2 ≤ s.destinations.countP (fun x => x.2.Holds k) then 1 else 0 := by
  have hnames := countP_map_eq_zero (p := repeatsKey k) (f := .duplicateGroupName) fun _ => rfl
  have hstages (gs : List ResolvedGroup) : (stageClashes {} {} gs).countP (repeatsKey k) = 0 :=
    countP_stageClashes_eq_zero fun _ _ _ => rfl
  rw [count_problems_eq_countP (onlyRepetitions_repeatsKey k), repetitions,
    List.countP_append, List.countP_append, hnames, hstages, countP_repeatsKey_map,
    Tracker.tracks_empty.count_observeAll, List.nil_append, flatMap_heldKeys, count_heldKeys,
    countP_destinations]
  exact if_congr (and_iff_right Nat.two_pos) rfl rfl

/-- **In one group** a key is told of if the second destination that holds it is there. -/
theorem count_report {i : Nat} {own : List Problem} (h : s.reports[i]? = some own) :
    count (repeatsKey k) own = if s.SecondIn k i then 1 else 0 := by
  rw [ResolvedService.reports, getElem?_reportsFrom, Option.map_eq_some_iff] at h
  obtain ⟨g, hg, rfl⟩ := h
  have htracks : (({} : Tracker DestinationKey).observeAll
      ((s.groups.take i).flatMap fun g => heldKeys g.destinations)).2.Tracks
        ([] ++ (s.groups.take i).flatMap fun g => heldKeys g.destinations) :=
    Tracker.tracks_empty.snd_observeAll
  have honly := onlyRepetitions_repeatsKey k
  rw [count_checkGroup honly.ignoresParts, count_append, honly.count_faults, Nat.zero_add,
    count_of_leaves, countP_repeatsKey_map, htracks.count_observeAll, List.nil_append,
    flatMap_heldKeys, List.count_append, count_heldKeys, count_heldKeys, ← List.countP_append]
  · exact if_congr (secondIn_iff hg).symm rfl rfl
  · intro q hq
    obtain ⟨k', -, rfl⟩ := List.mem_map.mp hq
    rfl

/-- **Another order tells of the same keys.** -/
theorem count_repeatsKey_reordered {t : ResolvedService} (h : s.Reordered t) :
    count (repeatsKey k) t.problems = count (repeatsKey k) s.problems := by
  have hperm := perm_destinations h (f := Prod.snd) fun _ _ _ => rfl
  rw [count_repeatsKey, count_repeatsKey, countP_destinations, countP_destinations,
    ← map_snd_destinations, ← map_snd_destinations, hperm.countP_eq]

end Told

/-- **A destination that comes again is told of once.** Whatever else is wrong, a key is told of
once if at least two destinations hold it, and else not at all. It is told of in the group that has
the second of them in declared order, and in any other order of groups and destinations as well. -/
theorem repeatedKeys_told (s : ResolvedService) :
    (∀ k, count (repeatsKey k) s.problems =
      if 2 ≤ s.destinations.countP (fun x => x.2.Holds k) then 1 else 0) ∧
    (s.reports.length = s.groups.length ∧
      s.problems.filter isGroup = handedOn s.groups s.reports ∧
      ∀ k i own, s.reports[i]? = some own →
        count (repeatsKey k) own = if s.SecondIn k i then 1 else 0) ∧
    ∀ t, s.Reordered t → ∀ k, count (repeatsKey k) t.problems = count (repeatsKey k) s.problems :=
  ⟨fun k => count_repeatsKey k s,
    ⟨length_reportsFrom {} s.groups, filter_isGroup_problems s, fun k _ _ => count_report k⟩,
    fun _ h k => count_repeatsKey_reordered k h⟩

/-- One destination in two groups of one name, both with faults of their own. -/
def ResolvedService.keyTwins : ResolvedService :=
  Service.resolve
    { name := "checkout"
      groups := [
        { name := "foo", destinations := [.named "Prod.East" "ns", { name := some "c2" }] },
        { name := "foo", destinations := [.named "c3" "ns", .named "prod-east" "ns"] }] }

/-- The second group is the one that tells of it, and the first one when it comes second. -/
theorem repeatedKeys_told_keyTwins :
    (∃ own, ResolvedService.keyTwins.reports[1]? = some own ∧
      ResolvedService.keyTwins.SecondIn (.of "prod-east" "ns") 1 ∧
      count (repeatsKey (.of "prod-east" "ns")) own = 1) ∧
    ∃ t, ResolvedService.keyTwins.Reordered t ∧
      t.groups = ResolvedService.keyTwins.groups.reverse ∧
      count (repeatsKey (.of "prod-east" "ns")) t.problems = 1 := by
  have hsecond : ResolvedService.keyTwins.SecondIn (.of "prod-east" "ns") 1 := by decide +kernel
  have htwo : 2 ≤ ResolvedService.keyTwins.destinations.countP
      (fun x => x.2.Holds (.of "prod-east" "ns")) := by decide +kernel
  obtain ⟨own, hown⟩ : ∃ own, ResolvedService.keyTwins.reports[1]? = some own := ⟨_, rfl⟩
  have hturned : ResolvedService.keyTwins.Reordered
      { ResolvedService.keyTwins with groups := ResolvedService.keyTwins.groups.reverse } :=
    ⟨rfl, _, .swap .., .cons ⟨rfl, .refl _⟩ (.cons ⟨rfl, .refl _⟩ .nil)⟩
  obtain ⟨hcount, ⟨-, -, hreport⟩, horder⟩ := repeatedKeys_told ResolvedService.keyTwins
  refine ⟨⟨own, hown, hsecond, ?_⟩, _, hturned, rfl, ?_⟩
  · rw [hreport _ 1 own hown, if_pos hsecond]
  · rw [horder _ hturned, hcount, if_pos htwo]

end Rollout
