import Rollout.Proofs.Problem
import Rollout.Proofs.Repetition
import Rollout.Proofs.Validation

/-!
# What validation finds

Validation hands problems on inside of parts of the tree, in an order that depends on all of them.
For counting them the order does not matter, and the parts can be taken away.

* `Part`, `Part.faults`: the service, its groups and its destinations, and the problems that each of
  them has by itself.
* `passing`, `stageClashes`: the groups that pass their own checks, and what is told of their stage
  keys.
* `repetitions`: what is told of values that come again.
* `ResolvedService.findings`: everything that is found, in one list.
* **`count_problems`**: every problem that is found is handed on, and no other.
* **`count_problems_eq_countP`**: what is told of repetitions is what the trackers tell.
* **`count_isHollow_problems`**: no part of the tree is handed on without a problem in it.
-/

namespace Rollout

/-! ## What is found -/

/-- A part of the tree of a service. -/
inductive Part where
  | service (s : ResolvedService)
  | group (g : ResolvedGroup)
  | destination (d : ResolvedDestination)

/-- The problems that a part has by itself. -/
def Part.faults : Part → List Problem
  | .service s =>
    (if s.name.isEmpty then [.serviceNameRequired] else [])
      ++ (if s.groups.isEmpty then [.noGroups] else [])
  | .group g => g.nameProblems ++ (if g.destinations.isEmpty then [.noDestinations] else [])
  | .destination d => d.problems

/-- A group and its destinations. -/
def ResolvedGroup.parts (g : ResolvedGroup) : List Part :=
  .group g :: g.destinations.map .destination

/-- A service, its groups and their destinations. -/
def ResolvedService.parts (s : ResolvedService) : List Part :=
  .service s :: s.groups.flatMap (·.parts)

/-- The keys of those destinations that have one. -/
def heldKeys (ds : List ResolvedDestination) : List DestinationKey :=
  (ds.filter (·.hasKey)).map (·.key)

/-- The groups that pass their own checks, after destinations with the keys in a tracker. -/
def passing (keys : Tracker DestinationKey) : List ResolvedGroup → List ResolvedGroup
  | [] => []
  | g :: rest =>
    let (own, keys) := checkGroup keys g
    if own.isEmpty then g :: passing keys rest else passing keys rest

/-- What is told of the stage keys of groups that have passed their own checks. -/
def stageClashes (names : Tracker String) (stages : StageKeys) : List ResolvedGroup → List Problem
  | [] => []
  | g :: rest =>
    let (again, names) := names.observe g.name
    if again then stageClashes names stages rest
    else
      let (clash, stages) := stages.observe g
      clash ++ stageClashes names stages rest

/-- What is told of values that come again among groups: keys of destinations, names and stage keys
of groups. -/
def repetitions (t : Trackers) (gs : List ResolvedGroup) : List Problem :=
  (t.keys.observeAll (gs.flatMap fun g => heldKeys g.destinations)).1.map
      (fun k => .duplicateDestination k.text)
    ++ (t.names.observeAll ((passing t.keys gs).map (·.name))).1.map .duplicateGroupName
    ++ stageClashes t.names t.stages (passing t.keys gs)

/-- Everything that is found in a service. -/
def ResolvedService.findings (s : ResolvedService) : List Problem :=
  s.parts.flatMap (·.faults) ++ repetitions {} s.groups

/-! ## Parts of the tree -/

/-- A test that no part of the tree satisfies. -/
def Problem.IgnoresParts (p : Problem → Bool) : Prop := ∀ q : Problem, q.isPart = true → p q = false

namespace Problem

variable {p : Problem → Bool} {q : Problem} {ps : List Problem}

theorem IgnoresParts.countOne (hp : IgnoresParts p) (h : q.children? = some ps) :
    countOne p q = count p ps := by
  rw [countOne_of_children h, hp q (by rw [isPart, h]; rfl)]
  exact Nat.zero_add _

/-- A part of the tree that is only told of with problems in it. -/
theorem IgnoresParts.count_ite (hp : IgnoresParts p) (h : q.children? = some ps) :
    count p (if ps.isEmpty then [] else [q]) = count p ps := by
  cases ps with
  | nil => rfl
  | cons r rs => simp [hp.countOne h]

end Problem

/-! ## Destinations -/

open Problem

section Destinations

variable {p : Problem → Bool} {keys : Tracker DestinationKey} {i : Nat}
  {ds : List ResolvedDestination}

theorem snd_checkDestinations :
    (checkDestinations keys i ds).2 = (keys.observeAll (heldKeys ds)).2 := by
  induction ds generalizing keys i with
  | nil => rfl
  | cons d ds ih =>
    by_cases hd : d.hasKey = true <;>
      simp [checkDestinations, heldKeys, hd, ih, Tracker.observeAll]

theorem count_checkDestinations (hp : IgnoresParts p) (keys : Tracker DestinationKey) (i : Nat)
    (ds : List ResolvedDestination) : count p (checkDestinations keys i ds).1 =
      count p (ds.flatMap (·.problems) ++
        (keys.observeAll (heldKeys ds)).1.map fun k => .duplicateDestination k.text) := by
  induction ds generalizing keys i with
  | nil => rfl
  | cons d ds ih =>
    have hown : count p (d.ownProblems i) = count p d.problems := hp.count_ite rfl
    rw [List.flatMap_cons]
    by_cases hd : d.hasKey = true
    · have hk : heldKeys (d :: ds) = d.key :: heldKeys ds := by simp [heldKeys, hd]
      rw [hk]
      simp only [checkDestinations, if_pos hd, count_append, hown, ih, Tracker.observeAll]
      cases (keys.observe d.key).1 <;> simp <;> omega
    · have hk : heldKeys (d :: ds) = heldKeys ds := by simp [heldKeys, hd]
      rw [hk]
      simp only [checkDestinations, if_neg hd, count_append, hown, ih]
      simp
      omega

end Destinations

/-! ## Groups -/

section Groups

variable {p : Problem → Bool} {keys : Tracker DestinationKey} {g : ResolvedGroup}
  {gs : List ResolvedGroup} {t : Trackers}

theorem snd_checkGroup :
    (checkGroup keys g).2 = (keys.observeAll (heldKeys g.destinations)).2 :=
  snd_checkDestinations

theorem count_checkGroup (hp : IgnoresParts p) (keys : Tracker DestinationKey)
    (g : ResolvedGroup) : count p (checkGroup keys g).1 =
      count p (g.parts.flatMap (·.faults) ++
        (keys.observeAll (heldKeys g.destinations)).1.map
          fun k => .duplicateDestination k.text) := by
  have hparts : g.parts.flatMap (·.faults) =
      g.nameProblems ++ (if g.destinations.isEmpty then [.noDestinations] else []) ++
        g.destinations.flatMap (·.problems) := by
    rw [ResolvedGroup.parts, List.flatMap_cons, List.flatMap_map]
    rfl
  have hin := count_checkDestinations hp keys 0 g.destinations
  simp only [count_append] at hin
  rw [hparts]
  unfold checkGroup
  simp only [count_append, hp.count_ite (q := .destinations _) rfl, hin]
  omega

/-- **Groups.** What is handed on is what is found. -/
theorem count_checkGroups (hp : IgnoresParts p) :
    count p (checkGroups t gs) =
      count p (gs.flatMap (fun g => g.parts.flatMap (·.faults)) ++ repetitions t gs) := by
  induction gs generalizing t with
  | nil => rfl
  | cons g gs ih =>
    have hg := count_checkGroup hp t.keys g
    have hpart : countOne p (.group g.label (checkGroup t.keys g).1) =
        count p (checkGroup t.keys g).1 := hp.countOne rfl
    simp only [repetitions, List.flatMap_cons, Tracker.observeAll_append, List.map_append,
      count_append, passing, checkGroups, snd_checkGroup] at hg ih ⊢
    cases hown : (checkGroup t.keys g).1.isEmpty with
    | false =>
      simp only [Bool.not_false, if_true, Bool.false_eq_true, if_false, count_cons, ih]
      omega
    | true =>
      -- only a group that passes its own checks takes its name and stage key
      rw [List.isEmpty_iff.mp hown, count_nil] at hg
      simp only [Bool.not_true, if_true, Bool.false_eq_true, if_false, List.map_cons,
        Tracker.observeAll, stageClashes]
      cases (t.names.observe g.name).1 with
      | true =>
        simp only [if_true, count_cons, ih, List.map_cons]
        omega
      | false =>
        simp only [Bool.false_eq_true, if_false, count_append, ih]
        omega

end Groups

/-- **The problems of a service are those that are found.** -/
theorem count_problems {p : Problem → Bool} (hp : IgnoresParts p) (s : ResolvedService) :
    count p s.problems = count p s.findings := by
  have hparts : s.parts.flatMap (·.faults) =
      (if s.name.isEmpty then [.serviceNameRequired] else []) ++
        (if s.groups.isEmpty then [.noGroups] else []) ++
        s.groups.flatMap fun g => g.parts.flatMap (·.faults) := by
    rw [ResolvedService.parts, List.flatMap_cons, List.flatMap_assoc]
    rfl
  rw [ResolvedService.findings, hparts, ResolvedService.problems]
  simp only [count_append, count_checkGroups hp]
  omega

/-! ## Values that come again -/

/-- Whether the problem tells that a value comes again. -/
def Problem.isRepetition : Problem → Bool
  | .duplicateGroupName _ | .duplicateGroupKey _ _ _ | .duplicateDestination _ => true
  | _ => false

section Repetitions

variable {q : Problem} {gs : List ResolvedGroup}

theorem exists_of_mem_observe {t : StageKeys} {g : ResolvedGroup} (h : q ∈ (t.observe g).1) :
    ∃ first, q = .duplicateGroupKey g.stageKey first g.name := by
  unfold StageKeys.observe at h
  split at h
  · cases h
  · split_ifs at h
    · cases h
    · exact ⟨_, List.mem_singleton.mp h⟩

theorem exists_of_mem_stageClashes {names : Tracker String} {stages : StageKeys}
    (h : q ∈ stageClashes names stages gs) : ∃ k a b, q = .duplicateGroupKey k a b := by
  induction gs generalizing names stages with
  | nil => cases h
  | cons g gs ih =>
    simp only [stageClashes] at h
    split at h
    · exact ih h
    · rcases List.mem_append.mp h with h | h
      · obtain ⟨first, rfl⟩ := exists_of_mem_observe h
        exact ⟨_, _, _, rfl⟩
      · exact ih h

theorem countP_map_eq_zero {α : Type} {p : Problem → Bool} {f : α → Problem}
    (h : ∀ a, p (f a) = false) (as : List α) : (as.map f).countP p = 0 := by
  rw [List.countP_map, List.countP_eq_zero]
  exact fun a _ => ne_true_of_eq_false (h a)

theorem countP_stageClashes_eq_zero {p : Problem → Bool} {names : Tracker String}
    {stages : StageKeys} (h : ∀ k a b, p (.duplicateGroupKey k a b) = false) :
    (stageClashes names stages gs).countP p = 0 := by
  rw [List.countP_eq_zero]
  intro q hq
  obtain ⟨k, a, b, rfl⟩ := exists_of_mem_stageClashes hq
  exact ne_true_of_eq_false (h k a b)

theorem children?_of_isRepetition (h : q.isRepetition = true) : q.children? = none := by
  cases q with
  | duplicateGroupName | duplicateGroupKey | duplicateDestination => rfl
  | _ => cases h

theorem isRepetition_of_mem {t : Trackers} (h : q ∈ repetitions t gs) : q.isRepetition = true := by
  rcases List.mem_append.mp h with h | h
  · rcases List.mem_append.mp h with h | h
    · obtain ⟨k, -, rfl⟩ := List.mem_map.mp h
      rfl
    · obtain ⟨n, -, rfl⟩ := List.mem_map.mp h
      rfl
  · obtain ⟨k, a, b, rfl⟩ := exists_of_mem_stageClashes h
    rfl

/-- What is told of values that come again holds no other problems. -/
theorem count_repetitions (p : Problem → Bool) (t : Trackers) (gs : List ResolvedGroup) :
    count p (repetitions t gs) = (repetitions t gs).countP p :=
  count_of_leaves fun _ hq => children?_of_isRepetition (isRepetition_of_mem hq)

/-- What a part of the tree has by itself is neither a part of the tree nor a repetition. -/
theorem any_faults (x : Part) : (x.faults.any fun q => q.isPart || q.isRepetition) = false := by
  cases x with
  | service s =>
    simp only [Part.faults]
    split_ifs <;> rfl
  | group g =>
    simp only [Part.faults, ResolvedGroup.nameProblems]
    split_ifs <;> rfl
  | destination d =>
    simp only [Part.faults, ResolvedDestination.problems, ResolvedDestination.identityProblems]
    cases d.hasName <;> cases d.hasServer <;> split_ifs <;> rfl

/-- A test that only repetitions satisfy. -/
def Problem.OnlyRepetitions (p : Problem → Bool) : Prop := ∀ q, p q = true → q.isRepetition = true

section Only

variable {p : Problem → Bool} (hp : OnlyRepetitions p)

include hp

theorem Problem.OnlyRepetitions.ignoresParts : IgnoresParts p := by
  intro q hq
  refine Bool.eq_false_iff.mpr fun hpq => ?_
  rw [isPart, children?_of_isRepetition (hp q hpq)] at hq
  cases hq

theorem Problem.OnlyRepetitions.count_faults (xs : List Part) :
    count p (xs.flatMap (·.faults)) = 0 := by
  have hplain : ∀ q ∈ xs.flatMap (·.faults), q.isPart = false ∧ q.isRepetition = false := by
    intro q hq
    obtain ⟨x, -, hx⟩ := List.mem_flatMap.mp hq
    simpa using List.any_eq_false.mp (any_faults x) q hx
  rw [count_of_leaves fun q hq => by simpa [isPart] using (hplain q hq).1, List.countP_eq_zero]
  intro q hq hpq
  exact Bool.false_ne_true ((hplain q hq).2.symm.trans (hp q hpq))

/-- **What is told of repetitions** is what the trackers tell. -/
theorem count_problems_eq_countP (s : ResolvedService) :
    count p s.problems = (repetitions {} s.groups).countP p := by
  rw [count_problems hp.ignoresParts, ResolvedService.findings, count_append, hp.count_faults,
    Nat.zero_add, count_repetitions]

end Only

end Repetitions

/-! ## No part without problems -/

section Hollow

variable {ps : List Problem} {q : Problem}

theorem count_isHollow_ite (h : q.children? = some ps) (hps : count isHollow ps = 0) :
    count isHollow (if ps.isEmpty then [] else [q]) = 0 := by
  cases ps with
  | nil => rfl
  | cons r rs =>
    have hq : q.isHollow = false := by simp [isHollow, h]
    simp [countOne_of_children h, hq, hps]

theorem count_isHollow_destination (d : ResolvedDestination) : count isHollow d.problems = 0 := by
  unfold ResolvedDestination.problems ResolvedDestination.identityProblems
  cases d.space.value.isEmpty <;> cases d.settings.hostname.value.isEmpty <;>
    cases d.hasName <;> cases d.hasServer <;> rfl

theorem count_isHollow_name (g : ResolvedGroup) : count isHollow g.nameProblems = 0 := by
  unfold ResolvedGroup.nameProblems
  split_ifs <;> rfl

theorem count_isHollow_checkDestinations (keys : Tracker DestinationKey) (i : Nat)
    (ds : List ResolvedDestination) : count isHollow (checkDestinations keys i ds).1 = 0 := by
  induction ds generalizing keys i with
  | nil => rfl
  | cons d ds ih =>
    have hd : count isHollow (d.ownProblems i) = 0 :=
      count_isHollow_ite rfl (count_isHollow_destination d)
    simp only [checkDestinations, count_append, hd, ih, Nat.zero_add, Nat.add_zero]
    split_ifs <;> rfl

theorem count_isHollow_checkGroup (keys : Tracker DestinationKey) (g : ResolvedGroup) :
    count isHollow (checkGroup keys g).1 = 0 := by
  unfold checkGroup
  simp only [count_append, count_isHollow_name, Nat.zero_add]
  refine count_isHollow_ite rfl ?_
  rw [count_append, count_isHollow_checkDestinations]
  split <;> rfl

theorem count_isHollow_observe (t : StageKeys) (g : ResolvedGroup) :
    count isHollow (t.observe g).1 = 0 := by
  unfold StageKeys.observe
  split
  · rfl
  · split_ifs <;> rfl

theorem count_isHollow_checkGroups (t : Trackers) (gs : List ResolvedGroup) :
    count isHollow (checkGroups t gs) = 0 := by
  induction gs generalizing t with
  | nil => rfl
  | cons g gs ih =>
    have hg := count_isHollow_checkGroup t.keys g
    have hwrap := count_isHollow_ite (q := .group g.label _) rfl hg
    simp only [checkGroups]
    cases hown : (checkGroup t.keys g).1.isEmpty with
    | false =>
      rw [hown] at hwrap
      simpa [ih] using hwrap
    | true =>
      simp only [Bool.not_true, Bool.false_eq_true, if_false]
      split
      · simp [ih, countOne_eq, isHollow, children?]
      · simp [ih, count_isHollow_observe]

/-- **No part of the tree is handed on without a problem in it.** -/
theorem count_isHollow_problems (s : ResolvedService) : count isHollow s.problems = 0 := by
  unfold ResolvedService.problems
  rw [count_append, count_append, count_isHollow_checkGroups]
  split_ifs <;> rfl

end Hollow

end Rollout
