import Rollout.Cascade
import Rollout.Proofs.Reports

/-!
# Stage keys that two names share

A name that comes for the second time is told of as such and does not get to the stage keys, but
from the third time on it does. That makes no difference: a name that has come before changes
nothing there.

* `clashOf`: the first name with a stage key, and the first other one.
* `StageKeys.Follows`: what is remembered of the groups met so far; **`StageKeys.Follows.observe`**:
  a step.
* **`filter_stageClashes`**: what is told of a stage key over a whole run.
* **`stageClashes_told`**: a stage key of two names is told of once, with the first two of them.
-/

namespace Rollout

open Problem

/-- Whether a problem tells that two names make a stage key. -/
def Problem.clashesAt (k : String) : Problem → Bool
  | .duplicateGroupKey key _ _ => key = k
  | _ => false

/-- The name of the first group with a stage key, and that of the first group that has the key with
another name. -/
def clashOf (gs : List ResolvedGroup) (k : String) : Option (String × String) :=
  (gs.find? (·.stageKey = k)).bind fun g =>
    (gs.find? fun h => h.stageKey = k ∧ h.name ≠ g.name).map fun h => (g.name, h.name)

/-! ## The first two names -/

section Clash

variable {gs hs : List ResolvedGroup} {g : ResolvedGroup} {k : String} {c : String × String}

theorem stageKey_eq_of_name_eq {g h : ResolvedGroup} (hn : g.name = h.name) :
    g.stageKey = h.stageKey := congrArg sanitize hn

theorem clashOf_eq_some_iff : clashOf gs k = some c ↔ ∃ g h,
    gs.find? (·.stageKey = k) = some g ∧ g.name = c.1 ∧
      gs.find? (fun h => h.stageKey = k ∧ h.name ≠ c.1) = some h ∧ h.name = c.2 := by
  unfold clashOf
  simp only [Option.bind_eq_some_iff, Option.map_eq_some_iff, Prod.ext_iff]
  constructor
  · rintro ⟨g, hg, h, hh, hgc, hhc⟩
    exact ⟨g, h, hg, hgc, hgc ▸ hh, hhc⟩
  · rintro ⟨g, h, hg, hgc, hh, hhc⟩
    exact ⟨g, hg, h, hgc ▸ hh, hgc, hhc⟩

/-- **Two names make a stage key** exactly when there is a first and another one. -/
theorem isSome_clashOf_iff : (clashOf gs k).isSome = true ↔
    ∃ g ∈ gs, ∃ h ∈ gs, g.stageKey = k ∧ h.stageKey = k ∧ g.name ≠ h.name := by
  constructor
  · intro hc
    obtain ⟨c, hc⟩ := Option.isSome_iff_exists.mp hc
    obtain ⟨g, h, hg, hgc, hh, -⟩ := clashOf_eq_some_iff.mp hc
    have hgk := List.find?_some hg
    have hhk := List.find?_some hh
    simp only [decide_eq_true_eq] at hgk hhk
    exact ⟨g, List.mem_of_find?_eq_some hg, h, List.mem_of_find?_eq_some hh, hgk, hhk.1,
      hgc ▸ Ne.symm hhk.2⟩
  · rintro ⟨g, hg, h, hh, hgk, hhk, hne⟩
    obtain ⟨f, hf⟩ := Option.isSome_iff_exists.mp
      (List.find?_isSome (p := fun x : ResolvedGroup => decide (x.stageKey = k)).mpr
        ⟨g, hg, decide_eq_true hgk⟩)
    -- one of the two differs from the first
    have hother : (gs.find? fun x => x.stageKey = k ∧ x.name ≠ f.name).isSome = true := by
      rw [List.find?_isSome]
      by_cases hgf : g.name = f.name
      · exact ⟨h, hh, decide_eq_true ⟨hhk, fun hhf => hne (hgf.trans hhf.symm)⟩⟩
      · exact ⟨g, hg, decide_eq_true ⟨hgk, hgf⟩⟩
    rw [clashOf, hf, Option.bind_some, Option.isSome_map]
    exact hother

/-- The first two names stay when more groups come. -/
theorem clashOf_append_of_some (h : clashOf gs k = some c) : clashOf (gs ++ hs) k = some c := by
  obtain ⟨g, h, hg, hgc, hh, hhc⟩ := clashOf_eq_some_iff.mp h
  refine clashOf_eq_some_iff.mpr ⟨g, h, ?_, hgc, ?_, hhc⟩
  · rw [List.find?_append, hg, Option.some_or]
  · rw [List.find?_append, hh, Option.some_or]

/-- A group with another stage key changes nothing. -/
theorem clashOf_concat_of_ne (h : g.stageKey ≠ k) : clashOf (gs ++ [g]) k = clashOf gs k := by
  unfold clashOf
  simp [List.find?_append, h]

/-- The first group with a stage key makes no clash. -/
theorem clashOf_concat_of_find?_none (h : gs.find? (·.stageKey = k) = none) :
    clashOf (gs ++ [g]) k = none := by
  have hother (n : String) : gs.find? (fun x => x.stageKey = k ∧ x.name ≠ n) = none := by
    rw [List.find?_eq_none] at h ⊢
    intro x hx hp
    simp only [decide_eq_true_eq] at hp
    exact h x hx (decide_eq_true hp.1)
  unfold clashOf
  rw [List.find?_append, h, Option.none_or, List.find?_singleton]
  split
  · rw [Option.bind_some, List.find?_append, hother, Option.none_or, List.find?_singleton]
    simp
  · rfl

/-- A later group makes a clash by a name other than the first. -/
theorem clashOf_concat_of_find?_some {f : ResolvedGroup} (hf : gs.find? (·.stageKey = g.stageKey) =
    some f) : clashOf (gs ++ [g]) g.stageKey = (clashOf gs g.stageKey).or
      (if g.name = f.name then none else some (f.name, g.name)) := by
  unfold clashOf
  rw [List.find?_append, hf, Option.some_or, Option.bind_some, Option.bind_some, List.find?_append,
    Option.map_or, List.find?_singleton]
  by_cases hn : g.name = f.name <;> simp [hn]

/-- A name that has come before changes nothing. -/
theorem clashOf_concat_of_mem (h : g.name ∈ gs.map (·.name)) (k : String) :
    clashOf (gs ++ [g]) k = clashOf gs k := by
  by_cases hk : g.stageKey = k
  · subst hk
    obtain ⟨x, hx, hxn⟩ := List.mem_map.mp h
    have hxk := stageKey_eq_of_name_eq hxn
    cases hf : gs.find? (·.stageKey = g.stageKey) with
    | none =>
      exact absurd (decide_eq_true hxk) (List.find?_eq_none.mp hf x hx)
    | some f =>
      rw [clashOf_concat_of_find?_some hf]
      by_cases hn : g.name = f.name
      · rw [if_pos hn, Option.or_none]
      · -- the clash is there already
        have hfk := List.find?_some hf
        simp only [decide_eq_true_eq] at hfk
        have hc : (clashOf gs g.stageKey).isSome = true := isSome_clashOf_iff.mpr
          ⟨f, List.mem_of_find?_eq_some hf, x, hx, hfk, hxk, fun h => hn (hxn ▸ h.symm)⟩
        obtain ⟨c, hc⟩ := Option.isSome_iff_exists.mp hc
        rw [hc, Option.some_or]
  · exact clashOf_concat_of_ne hk

end Clash

/-! ## One group -/

/-- What is told of a stage key after some groups. -/
def clashProblems (gs : List ResolvedGroup) (k : String) : List Problem :=
  (clashOf gs k).toList.map fun c => .duplicateGroupKey k c.1 c.2

namespace StageKeys

/-- The stage keys remember the first name with each of them, and those that two names have. -/
structure Follows (t : StageKeys) (gs : List ResolvedGroup) : Prop where
  lookup : ∀ k, t.owners.lookup k = (gs.find? (·.stageKey = k)).map (·.name)
  mem_reported : ∀ k, k ∈ t.reported ↔ (clashOf gs k).isSome = true

/-- A group is followed, and what is told of it is the clash that it makes. -/
structure KeepsUp (t : StageKeys) (gs : List ResolvedGroup) (g : ResolvedGroup) : Prop where
  follows : (t.observe g).2.Follows (gs ++ [g])
  told : ∀ k, (t.observe g).1.filter (clashesAt k) =
    if (clashOf gs k).isSome then [] else clashProblems (gs ++ [g]) k

theorem follows_empty : ({} : StageKeys).Follows [] where
  lookup _ := rfl
  mem_reported k := by simp [clashOf]

variable {t : StageKeys} {gs : List ResolvedGroup} {f g : ResolvedGroup} {k : String}

theorem observe_of_none (h : t.owners.lookup g.stageKey = none) :
    t.observe g = ([], { t with owners := (g.stageKey, g.name) :: t.owners }) := by
  rw [StageKeys.observe, h]

theorem observe_of_known {first : String} (h : t.owners.lookup g.stageKey = some first)
    (hk : first = g.name ∨ g.stageKey ∈ t.reported) : t.observe g = ([], t) := by
  rw [StageKeys.observe, h]
  exact if_pos hk

theorem observe_of_clash {first : String} (h : t.owners.lookup g.stageKey = some first)
    (hk : ¬ (first = g.name ∨ g.stageKey ∈ t.reported)) : t.observe g =
      ([.duplicateGroupKey g.stageKey first g.name],
        { t with reported := g.stageKey :: t.reported }) := by
  rw [StageKeys.observe, h]
  exact if_neg hk

/-- Nothing is told of a group that makes no clash. -/
theorem nil_eq_of_clashOf_eq (hc : ∀ k, clashOf (gs ++ [g]) k = clashOf gs k) (k : String) :
    [] = if (clashOf gs k).isSome then [] else clashProblems (gs ++ [g]) k := by
  rw [clashProblems, hc]
  cases clashOf gs k <;> rfl

namespace Follows

variable (h : t.Follows gs)

include h

/-- The first name of a known stage key stays the first. -/
theorem lookup_concat (hf : gs.find? (·.stageKey = g.stageKey) = some f) (k : String) :
    t.owners.lookup k = ((gs ++ [g]).find? (·.stageKey = k)).map (·.name) := by
  rw [h.lookup, List.find?_append, List.find?_singleton]
  by_cases hk : g.stageKey = k
  · rw [← hk, hf, Option.some_or]
  · simp [hk]

/-- Nothing is left to remember of a group with a known stage key that makes no clash. -/
theorem concat (hf : gs.find? (·.stageKey = g.stageKey) = some f)
    (hc : ∀ k, clashOf (gs ++ [g]) k = clashOf gs k) : t.Follows (gs ++ [g]) where
  lookup := h.lookup_concat hf
  mem_reported k := by rw [h.mem_reported, hc]

/-- A name that has come before leaves the stage keys as they are. -/
theorem concat_of_mem (hg : g.name ∈ gs.map (·.name)) : t.Follows (gs ++ [g]) := by
  obtain ⟨x, hx, hxn⟩ := List.mem_map.mp hg
  have hsome : (gs.find? (·.stageKey = g.stageKey)).isSome = true :=
    List.find?_isSome.mpr ⟨x, hx, decide_eq_true (stageKey_eq_of_name_eq hxn)⟩
  obtain ⟨f, hf⟩ := Option.isSome_iff_exists.mp hsome
  exact h.concat hf fun k => clashOf_concat_of_mem hg k

/-- The first group with its stage key takes it. -/
theorem keepsUp_of_first (hf : gs.find? (·.stageKey = g.stageKey) = none) : t.KeepsUp gs g := by
  have hc (k : String) : clashOf (gs ++ [g]) k = clashOf gs k := by
    by_cases hk : g.stageKey = k
    · subst hk
      rw [clashOf_concat_of_find?_none hf, clashOf, hf]
      rfl
    · exact clashOf_concat_of_ne hk
  have hlookup := h.lookup g.stageKey
  rw [hf, Option.map_none] at hlookup
  constructor <;> rw [observe_of_none hlookup]
  · refine ⟨fun k => ?_, fun k => ?_⟩
    · rw [List.lookup_cons, List.find?_append, List.find?_singleton]
      by_cases hk : k = g.stageKey
      · rw [hk, beq_self_eq_true, hf, decide_eq_true rfl]
        rfl
      · rw [beq_eq_false_iff_ne.mpr hk, decide_eq_false (Ne.symm hk), if_neg Bool.false_ne_true,
          Option.or_none]
        exact h.lookup k
    · rw [hc]
      exact h.mem_reported k
  · exact nil_eq_of_clashOf_eq hc

/-- A group makes no clash with its own name, nor where one was told of before. -/
theorem keepsUp_of_known (hf : gs.find? (·.stageKey = g.stageKey) = some f)
    (hk : f.name = g.name ∨ g.stageKey ∈ t.reported) : t.KeepsUp gs g := by
  have hc (k : String) : clashOf (gs ++ [g]) k = clashOf gs k := by
    by_cases hkey : g.stageKey = k
    · subst hkey
      rw [clashOf_concat_of_find?_some hf]
      rcases hk with hn | hr
      · rw [if_pos hn.symm, Option.or_none]
      · obtain ⟨c, hc⟩ := Option.isSome_iff_exists.mp ((h.mem_reported _).mp hr)
        rw [hc, Option.some_or]
    · exact clashOf_concat_of_ne hkey
  have hlookup := h.lookup g.stageKey
  rw [hf, Option.map_some] at hlookup
  constructor <;> rw [observe_of_known hlookup hk]
  · exact h.concat hf hc
  · exact nil_eq_of_clashOf_eq hc

/-- The second name of a stage key clashes with the first. -/
theorem keepsUp_of_clash (hf : gs.find? (·.stageKey = g.stageKey) = some f)
    (hk : ¬ (f.name = g.name ∨ g.stageKey ∈ t.reported)) : t.KeepsUp gs g := by
  obtain ⟨hn, hr⟩ := not_or.mp hk
  have hnone : clashOf gs g.stageKey = none := by
    rwa [h.mem_reported, Bool.not_eq_true, Option.isSome_eq_false_iff, Option.isNone_iff_eq_none]
      at hr
  have hsome : clashOf (gs ++ [g]) g.stageKey = some (f.name, g.name) := by
    rw [clashOf_concat_of_find?_some hf, hnone, if_neg (Ne.symm hn), Option.none_or]
  have hlookup := h.lookup g.stageKey
  rw [hf, Option.map_some] at hlookup
  constructor <;> rw [observe_of_clash hlookup hk]
  · refine ⟨h.lookup_concat hf, fun k => ?_⟩
    by_cases hkey : k = g.stageKey
    · subst hkey
      rw [hsome]
      exact iff_of_true List.mem_cons_self rfl
    · rw [clashOf_concat_of_ne (Ne.symm hkey), ← h.mem_reported]
      exact List.mem_cons.trans (or_iff_right hkey)
  · intro k
    by_cases hkey : g.stageKey = k
    · subst hkey
      rw [hnone, clashProblems, hsome]
      exact List.filter_cons_of_pos (decide_eq_true rfl)
    · rw [clashProblems, clashOf_concat_of_ne hkey,
        List.filter_cons_of_neg (by simp [clashesAt, hkey])]
      cases clashOf gs k <;> rfl

/-- **A step.** -/
theorem keepsUp (g : ResolvedGroup) : t.KeepsUp gs g := by
  cases hf : gs.find? (·.stageKey = g.stageKey) with
  | none => exact h.keepsUp_of_first hf
  | some f =>
    by_cases hk : f.name = g.name ∨ g.stageKey ∈ t.reported
    · exact h.keepsUp_of_known hf hk
    · exact h.keepsUp_of_clash hf hk

end Follows

end StageKeys

/-! ## A run -/

section Run

variable {names : Tracker String} {stages : StageKeys} {before gs : List ResolvedGroup}

/-- **What is told of a stage key over a run** is the clash of all groups, unless it was told of
before. -/
theorem filter_stageClashes (hn : names.Tracks (before.map (·.name))) (hs : stages.Follows before)
    (k : String) : (stageClashes names stages gs).filter (clashesAt k) =
      if (clashOf before k).isSome then [] else clashProblems (before ++ gs) k := by
  induction gs generalizing names stages before with
  | nil =>
    rw [List.append_nil, clashProblems]
    cases clashOf before k <;> rfl
  | cons g gs ih =>
    have hn' := hn.snd_observe g.name
    rw [← List.map_singleton, ← List.map_append] at hn'
    have happ : before ++ g :: gs = before ++ [g] ++ gs := by simp
    rw [stageClashes, happ]
    dsimp only
    rw [hn.fst_observe]
    by_cases hcount : (before.map (·.name)).count g.name = 1
    · -- the second time a name comes it does not get to the stage keys
      have hmem : g.name ∈ before.map (·.name) :=
        List.count_pos_iff.mp (by omega)
      rw [decide_eq_true hcount, if_pos rfl, ih hn' (hs.concat_of_mem hmem),
        clashOf_concat_of_mem hmem]
    · have hstep := hs.keepsUp g
      rw [decide_eq_false hcount, if_neg Bool.false_ne_true, List.filter_append, hstep.told,
        ih hn' hstep.follows]
      cases hb : clashOf before k with
      | some c =>
        rw [clashOf_append_of_some hb]
        rfl
      | none =>
        simp only [clashProblems]
        cases hg : clashOf (before ++ [g]) k with
        | some c =>
          rw [clashOf_append_of_some hg]
          rfl
        | none => rfl

end Run

/-! ## What is told -/

section Told

variable {s : ResolvedService} {t : Trackers} {gs : List ResolvedGroup} {k a b : String}

theorem onlyRepetitions_clashesAt (k : String) : OnlyRepetitions (clashesAt k) := by
  intro q h
  cases q with
  | duplicateGroupKey => rfl
  | _ => cases h

/-- Clashes of stage keys are handed on as they are, beside the groups with problems. -/
theorem duplicateGroupKey_mem_checkGroups : .duplicateGroupKey k a b ∈ checkGroups t gs ↔
    .duplicateGroupKey k a b ∈ stageClashes t.names t.stages (passing t.keys gs) := by
  induction gs generalizing t with
  | nil => rfl
  | cons g gs ih =>
    rw [checkGroups, passing]
    dsimp only
    cases (checkGroup t.keys g).1.isEmpty with
    | false =>
      simp only [Bool.not_false, if_true, Bool.false_eq_true, if_false, List.mem_cons, reduceCtorEq,
        false_or, ih]
    | true =>
      simp only [Bool.not_true, if_true, Bool.false_eq_true, if_false, stageClashes]
      split
      · simp only [List.mem_cons, reduceCtorEq, false_or, ih]
      · simp only [List.mem_append, ih]

theorem duplicateGroupKey_mem_problems : .duplicateGroupKey k a b ∈ s.problems ↔
    .duplicateGroupKey k a b ∈ stageClashes {} {} (passing {} s.groups) := by
  rw [ResolvedService.problems, List.mem_append, List.mem_append,
    duplicateGroupKey_mem_checkGroups, or_iff_right]
  split_ifs <;> simp

/-- **Of the groups that pass their own checks** the first two names of a stage key are told of. -/
theorem filter_stageClashes_passing (s : ResolvedService) (k : String) :
    (stageClashes {} {} (passing {} s.groups)).filter (clashesAt k) =
      clashProblems (passing {} s.groups) k :=
  filter_stageClashes Tracker.tracks_empty StageKeys.follows_empty k

theorem count_clashesAt (s : ResolvedService) (k : String) : count (clashesAt k) s.problems =
    if (clashOf (passing {} s.groups) k).isSome then 1 else 0 := by
  have hkeys := countP_map_eq_zero (p := clashesAt k)
    (f := fun d : DestinationKey => .duplicateDestination d.text) fun _ => rfl
  have hnames := countP_map_eq_zero (p := clashesAt k) (f := .duplicateGroupName) fun _ => rfl
  rw [count_problems_eq_countP (onlyRepetitions_clashesAt k), repetitions, List.countP_append,
    List.countP_append, hkeys, hnames, Nat.zero_add, List.countP_eq_length_filter,
    filter_stageClashes_passing, clashProblems, List.length_map]
  cases clashOf (passing {} s.groups) k <;> rfl

theorem duplicateGroupKey_mem_iff : .duplicateGroupKey k a b ∈ s.problems ↔
    clashOf (passing {} s.groups) k = some (a, b) := by
  have hfilter : .duplicateGroupKey k a b ∈ stageClashes {} {} (passing {} s.groups) ↔
      .duplicateGroupKey k a b ∈
        (stageClashes {} {} (passing {} s.groups)).filter (clashesAt k) := by
    rw [List.mem_filter]
    exact (and_iff_left (decide_eq_true rfl)).symm
  rw [duplicateGroupKey_mem_problems, hfilter, filter_stageClashes_passing, clashProblems]
  cases clashOf (passing {} s.groups) k with
  | none => simp
  | some c => simp [Prod.ext_iff, eq_comm]

end Told

/-- **Two names that make one stage key are told of once.** Where no group has problems of its own,
a stage key is told of once if groups of two names have it, and else not at all. The names are that
of the first group with the key, and that of the first group that has the key with another name. -/
theorem stageClashes_told {s : ResolvedService}
    (h : ∀ label own, .group label own ∉ s.problems) (k : String) :
    count (clashesAt k) s.problems =
      (if ∃ g ∈ s.groups, ∃ g' ∈ s.groups,
        g.stageKey = k ∧ g'.stageKey = k ∧ g.name ≠ g'.name then 1 else 0) ∧
    ∀ a b, .duplicateGroupKey k a b ∈ s.problems ↔ ∃ g g',
      s.groups.find? (·.stageKey = k) = some g ∧ g.name = a ∧
        s.groups.find? (fun x => x.stageKey = k ∧ x.name ≠ a) = some g' ∧ g'.name = b := by
  have hself := passing_groups_eq_self h
  constructor
  · rw [count_clashesAt, hself]
    exact if_congr isSome_clashOf_iff rfl rfl
  · intro a b
    rw [duplicateGroupKey_mem_iff, hself]
    exact clashOf_eq_some_iff

/-- Groups that repeat two names of one stage key, in both orders. -/
def ResolvedService.clashTwins : ResolvedService :=
  Service.resolve
    { name := "checkout"
      groups := [
        { name := "a b", destinations := [.named "c1" "ns"] },
        { name := "a b", destinations := [.named "c2" "ns"] },
        { name := "A.B", destinations := [.named "c3" "ns"] },
        { name := "a-b", destinations := [.named "c4" "ns"] },
        { name := "a b", destinations := [.named "c5" "ns"] },
        { name := "A.B", destinations := [.named "c6" "ns"] },
        { name := "A.B", destinations := [.named "c7" "ns"] }]
      controller := { hostname := some "argocd.example.com" } }

theorem stageClashes_told_clashTwins :
    (∀ label own, .group label own ∉ ResolvedService.clashTwins.problems) ∧
      count (clashesAt "a-b") ResolvedService.clashTwins.problems = 1 ∧
      .duplicateGroupKey "a-b" "a b" "A.B" ∈ ResolvedService.clashTwins.problems := by
  have hplain : ResolvedService.clashTwins.problems.all (fun q => !q.isPart) = true := by
    decide +kernel
  have h (label : String) (own : List Problem) :
      .group label own ∉ ResolvedService.clashTwins.problems := fun hm =>
    Bool.false_ne_true (List.all_eq_true.mp hplain _ hm)
  have hclash : ∃ g ∈ ResolvedService.clashTwins.groups, ∃ g' ∈ ResolvedService.clashTwins.groups,
      g.stageKey = "a-b" ∧ g'.stageKey = "a-b" ∧ g.name ≠ g'.name := by decide +kernel
  obtain ⟨hcount, hmem⟩ := stageClashes_told h "a-b"
  have hfirst : clashOf ResolvedService.clashTwins.groups "a-b" = some ("a b", "A.B") := by
    decide +kernel
  exact ⟨h, hcount.trans (if_pos hclash), (hmem _ _).mpr (clashOf_eq_some_iff.mp hfirst)⟩

end Rollout
