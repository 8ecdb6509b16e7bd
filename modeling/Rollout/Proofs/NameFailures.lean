import Rollout.Cascade
import Rollout.Proofs.Naming

/-!
# What prevents names

Names are derived in one pass that remembers which destination took a resource name. What the pass
tells of a destination depends only on the destinations before it.

* `ResolvedService.owner?`: the first destination that takes a resource name.
* `ResolvedService.offence?`, `ResolvedService.offences`: what prevents the names of a destination,
  and of all destinations in order.
* **`fst_deriveFrom`**: the failures of the pass are the offences.
* **`deriveNames_outcome`**: when names are derived, what is told otherwise, and which names there
  are.
-/

namespace Rollout

/-! ## Offences -/

namespace ResolvedService

variable (s : ResolvedService)

/-- The resource name of a destination of the service, or why it has none. -/
def resourceOf (x : ResolvedGroup × ResolvedDestination) : Except NameError String :=
  x.2.resourceName s.name x.1.name s.naming

/-- The job name of a destination of the service, or why it has none. -/
def jobOf (x : ResolvedGroup × ResolvedDestination) : Except NameError String :=
  x.2.jobName s.naming

/-- The first of some destinations with both names whose resource name is a given one. -/
def owner? (xs : List (ResolvedGroup × ResolvedDestination)) (r : String) :
    Option (ResolvedGroup × ResolvedDestination) :=
  xs.find? fun x => s.resourceOf x = .ok r ∧ (s.jobOf x).isOk = true

/-- What prevents the names of a destination that is declared after others. -/
def offence? (before : List (ResolvedGroup × ResolvedDestination))
    (x : ResolvedGroup × ResolvedDestination) : Option NameError :=
  match s.resourceOf x, s.jobOf x with
  | .error e, _ => some (.destination x.2.key e)
  | .ok _, .error e => some (.destination x.2.key e)
  | .ok r, .ok _ => (s.owner? before r).map fun first => .collision r first.2.key x.2.key

/-- What prevents the names of destinations, in declared order. -/
def offences : List NameError :=
  s.destinations.zipIdx.filterMap fun x => s.offence? (s.destinations.take x.2) x.1

end ResolvedService

/-! ## One destination -/

section Destination

variable {s : ResolvedService} {x : ResolvedGroup × ResolvedDestination}
  {before : List (ResolvedGroup × ResolvedDestination)} {names : Names} {e : NameError}

theorem names_eq_ok_iff_derived : x.2.names s.name x.1.name s.naming = .ok names ↔
    s.resourceOf x = .ok names.resource ∧ s.jobOf x = .ok names.job := by
  constructor
  · intro h
    obtain ⟨r, hr, h⟩ := bind_eq_ok_iff.mp h
    obtain ⟨j, hj, h⟩ := bind_eq_ok_iff.mp h
    cases h
    exact ⟨hr, hj⟩
  · rintro ⟨hr, hj⟩
    exact bind_eq_ok_iff.mpr ⟨_, hr, bind_eq_ok_iff.mpr ⟨_, hj, rfl⟩⟩

theorem names_eq_error_iff : x.2.names s.name x.1.name s.naming = .error e ↔
    s.resourceOf x = .error e ∨ ∃ r, s.resourceOf x = .ok r ∧ s.jobOf x = .error e := by
  refine bind_eq_error_iff.trans
    (or_congr_right (exists_congr fun r => and_congr_right fun _ => ?_))
  refine bind_eq_error_iff.trans (or_iff_left ?_)
  rintro ⟨j, -, h⟩
  cases h

theorem offence?_of_error (h : x.2.names s.name x.1.name s.naming = .error e) :
    s.offence? before x = some (.destination x.2.key e) := by
  unfold ResolvedService.offence?
  rcases names_eq_error_iff.mp h with hr | ⟨r, hr, hj⟩
  · rw [hr]
  · rw [hr, hj]

theorem offence?_of_ok (h : x.2.names s.name x.1.name s.naming = .ok names) :
    s.offence? before x = (s.owner? before names.resource).map
      fun first => .collision names.resource first.2.key x.2.key := by
  obtain ⟨hr, hj⟩ := names_eq_ok_iff_derived.mp h
  unfold ResolvedService.offence?
  rw [hr, hj]

theorem owner?_concat (r : String) : s.owner? (before ++ [x]) r = (s.owner? before r).or
    (if s.resourceOf x = .ok r ∧ (s.jobOf x).isOk = true then some x else none) := by
  unfold ResolvedService.owner?
  rw [List.find?_append, List.find?_singleton]
  simp only [decide_eq_true_eq]

/-- A destination without both names takes none. -/
theorem owner?_of_error (h : x.2.names s.name x.1.name s.naming = .error e) (r : String) :
    s.owner? (before ++ [x]) r = s.owner? before r := by
  rw [owner?_concat, if_neg, Option.or_none]
  rintro ⟨hr, hj⟩
  rcases names_eq_error_iff.mp h with he | ⟨r', -, he⟩
  · rw [he] at hr
    cases hr
  · rw [he] at hj
    cases hj

/-- A destination with both names takes its resource name, unless one before it has. -/
theorem owner?_of_ok (h : x.2.names s.name x.1.name s.naming = .ok names) (r : String) :
    s.owner? (before ++ [x]) r =
      (s.owner? before r).or (if r = names.resource then some x else none) := by
  obtain ⟨hr, hj⟩ := names_eq_ok_iff_derived.mp h
  have hown : s.resourceOf x = .ok r ∧ (s.jobOf x).isOk = true ↔ r = names.resource := by
    rw [hr, hj, Except.ok.injEq, eq_comm]
    exact and_iff_left rfl
  rw [owner?_concat, if_congr hown rfl rfl]

end Destination

/-! ## One pass -/

section Pass

variable {s : ResolvedService} {before : List (ResolvedGroup × ResolvedDestination)}
  {owners : List (String × DestinationKey)}

/-- The owners are the first destinations with a resource name. -/
def OwnedBy (s : ResolvedService) (owners : List (String × DestinationKey))
    (before : List (ResolvedGroup × ResolvedDestination)) : Prop :=
  ∀ r, owners.lookup r = (s.owner? before r).map (·.2.key)

/-- **A step of the pass.** What is told of a destination is its offence, and the owners keep up. -/
theorem deriveFrom_step (x : ResolvedGroup × ResolvedDestination)
    (xs : List (ResolvedGroup × ResolvedDestination)) (table : NameTable)
    (ho : OwnedBy s owners before) : ∃ owners' table',
    OwnedBy s owners' (before ++ [x]) ∧
      (deriveFrom s owners table (x :: xs)).1 =
        (s.offence? before x).toList ++ (deriveFrom s owners' table' xs).1 := by
  cases hx : x.2.names s.name x.1.name s.naming with
  | error e =>
    refine ⟨owners, table, fun r => ?_, ?_⟩
    · rw [ho r, owner?_of_error hx]
    · rw [deriveFrom_of_error hx, offence?_of_error hx]
      rfl
  | ok names =>
    have hr := ho names.resource
    rw [offence?_of_ok hx]
    cases hb : s.owner? before names.resource with
    | some first =>
      rw [hb, Option.map_some] at hr
      refine ⟨owners, table, fun r => ?_, ?_⟩
      · rw [ho r, owner?_of_ok hx]
        split_ifs with h
        · rw [h, hb, Option.some_or]
        · rw [Option.or_none]
      · rw [deriveFrom_of_collision hx hr]
        rfl
    | none =>
      rw [hb, Option.map_none] at hr
      refine ⟨(names.resource, x.2.key) :: owners, table.insert x.2.key names, fun r => ?_, ?_⟩
      · rw [List.lookup_cons, owner?_of_ok hx]
        split_ifs with h
        · rw [h, hb, beq_self_eq_true]
          rfl
        · rw [Option.or_none, beq_eq_false_iff_ne.mpr h, ho r]
      · rw [deriveFrom_of_fresh hx hr]
        rfl

/-- **The failures of a pass are the offences**, each after all destinations before it. -/
theorem fst_deriveFrom (xs : List (ResolvedGroup × ResolvedDestination)) (table : NameTable)
    (ho : OwnedBy s owners before) : (deriveFrom s owners table xs).1 =
      (xs.zipIdx before.length).filterMap
        fun x => s.offence? ((before ++ xs).take x.2) x.1 := by
  induction xs generalizing owners table before with
  | nil => rfl
  | cons x xs ih =>
    obtain ⟨owners', table', ho', hstep⟩ := deriveFrom_step x xs table ho
    have hrest := ih table' ho'
    rw [List.append_assoc, List.singleton_append, List.length_append, List.length_singleton]
      at hrest
    rw [hstep, hrest, List.zipIdx_cons, List.filterMap_cons, List.take_left]
    cases s.offence? before x <;> rfl

end Pass

/-! ## All names -/

namespace ResolvedService

variable (s : ResolvedService)

/-- Two destinations have one resource name. -/
def SharesResource : Prop := ∃ (i j : Nat) (x y : ResolvedGroup × ResolvedDestination) (r : String),
  i < j ∧ s.destinations[i]? = some x ∧ s.destinations[j]? = some y ∧
    s.resourceOf x = .ok r ∧ s.resourceOf y = .ok r

/-- The table has the names of the destinations of a service, under their keys. -/
structure NamedBy (table : NameTable) : Prop where
  mem_keys : ∀ k, k ∈ table.keys ↔ ∃ x ∈ s.destinations, x.2.key = k
  /-- A key has the names of the last destination with it. -/
  get? : ∀ k, table.get? k = (s.destinations.filter fun x => x.2.key = k).getLast?.bind
    fun x => (x.2.names s.name x.1.name s.naming).toOption
  resource_inj : ∀ k k' a b, table.get? k = some a → table.get? k' = some b →
    a.resource = b.resource → k = k'

end ResolvedService

section All

variable {s : ResolvedService} {table : NameTable}

/-- **What is told.** -/
theorem deriveNames_eq_error_iff {es : List NameError} :
    s.deriveNames = .error es ↔ es = s.offences ∧ es ≠ [] := by
  have hempty : OwnedBy s [] [] := fun r => rfl
  have hfst := fst_deriveFrom s.destinations .empty hempty
  rw [List.nil_append, List.length_nil] at hfst
  rw [ResolvedService.offences, ← hfst, ResolvedService.deriveNames]
  cases deriveFrom s [] .empty s.destinations with
  | mk errors table => cases errors with
    | nil => simp
    | cons e es' =>
      simp only [Except.error.injEq]
      constructor
      · rintro rfl
        exact ⟨rfl, List.cons_ne_nil _ _⟩
      · rintro ⟨rfl, -⟩
        rfl

theorem nameable_iff {x : ResolvedGroup × ResolvedDestination} : s.Nameable x ↔
    s.resourceOf x = .ok (s.namesOf x).resource ∧ s.jobOf x = .ok (s.namesOf x).job := by
  rw [← names_eq_ok_iff_derived, ResolvedDestination.names_eq_ok_iff]
  exact (and_iff_left rfl).symm

theorem not_nameable_iff {x : ResolvedGroup × ResolvedDestination} : ¬ s.Nameable x ↔
    (∃ e, s.resourceOf x = .error e) ∨ ∃ e, s.jobOf x = .error e := by
  rw [nameable_iff]
  constructor
  · intro h
    cases hr : s.resourceOf x with
    | error e => exact .inl ⟨e, rfl⟩
    | ok r => cases hj : s.jobOf x with
      | error e => exact .inr ⟨e, rfl⟩
      | ok j =>
        have hn : x.2.names s.name x.1.name s.naming = .ok ⟨r, j⟩ :=
          names_eq_ok_iff_derived.mpr ⟨hr, hj⟩
        exact absurd (nameable_iff.mp (ResolvedDestination.names_eq_ok_iff.mp hn).1) h
  · rintro (⟨e, he⟩ | ⟨e, he⟩) ⟨hr, hj⟩
    · rw [he] at hr
      cases hr
    · rw [he] at hj
      cases hj

theorem sharesResource_iff (h : ∀ x ∈ s.destinations, s.Nameable x) : s.SharesResource ↔
    ¬ (s.destinations.map fun x => (s.namesOf x).resource).Nodup := by
  have hr {x : ResolvedGroup × ResolvedDestination} (hx : x ∈ s.destinations) :=
    (nameable_iff.mp (h x hx)).1
  constructor
  · rintro ⟨i, j, x, y, r, hij, hi, hj, hx, hy⟩ hn
    rw [hr (List.mem_of_getElem? hi), Except.ok.injEq] at hx
    rw [hr (List.mem_of_getElem? hj), Except.ok.injEq] at hy
    exact hij.ne (index_unique_map hn hi hj (hx.trans hy.symm))
  · intro hn
    rw [List.nodup_iff_getElem?_ne_getElem?] at hn
    push Not at hn
    obtain ⟨i, j, hij, hj, heq⟩ := hn
    rw [List.length_map] at hj
    have hi : i < s.destinations.length := hij.trans hj
    rw [List.getElem?_map, List.getElem?_map, List.getElem?_eq_getElem hi,
      List.getElem?_eq_getElem hj, Option.map_some, Option.map_some, Option.some.injEq] at heq
    refine ⟨i, j, _, _, _, hij, List.getElem?_eq_getElem hi, List.getElem?_eq_getElem hj,
      hr (List.getElem_mem hi), ?_⟩
    rw [heq]
    exact hr (List.getElem_mem hj)

/-- **When names are not derived.** -/
theorem exists_deriveNames_eq_error_iff : (∃ es, s.deriveNames = .error es) ↔
    (∃ x ∈ s.destinations, (∃ e, s.resourceOf x = .error e) ∨ ∃ e, s.jobOf x = .error e) ∨
      s.SharesResource := by
  have herror : (∃ es, s.deriveNames = .error es) ↔ ¬ ∃ table, s.deriveNames = .ok table := by
    cases s.deriveNames <;> simp
  have hok : (∃ table, s.deriveNames = .ok table) ↔ (∀ x ∈ s.destinations, s.Nameable x) ∧
      (s.destinations.map fun x => (s.namesOf x).resource).Nodup := by
    simp only [deriveNames_eq_ok_iff, exists_and_left, exists_eq, and_true]
  simp only [herror, hok, ← not_nameable_iff]
  by_cases h : ∀ x ∈ s.destinations, s.Nameable x
  · have hnone : ¬ ∃ x ∈ s.destinations, ¬ s.Nameable x := fun ⟨x, hx, hn⟩ => hn (h x hx)
    rw [sharesResource_iff h, or_iff_right hnone, not_and]
    exact ⟨fun hn => hn h, fun hn _ => hn⟩
  · have hsome : ∃ x ∈ s.destinations, ¬ s.Nameable x := by simpa using h
    exact iff_of_true (fun hn => h hn.1) (.inl hsome)

/-- **The table.** -/
theorem namedBy_of_deriveNames (h : s.deriveNames = .ok table) : s.NamedBy table := by
  obtain ⟨⟨hx, hn⟩, rfl⟩ := deriveNames_eq_ok_iff.mp h
  have hget (k : DestinationKey) :
      (OrderedMap.ofList (s.destinations.map fun x => (x.2.key, s.namesOf x))).get? k =
        (s.destinations.filter fun x => x.2.key = k).getLast?.map s.namesOf := by
    rw [OrderedMap.ofList_eq_insertAll, OrderedMap.get?_insertAll, List.filter_map,
      List.getLast?_map, Option.map_map]
    exact Option.or_none
  have hmem {k : DestinationKey} {a : Names}
      (ha : (OrderedMap.ofList (s.destinations.map fun x => (x.2.key, s.namesOf x))).get? k =
        some a) : ∃ x ∈ s.destinations, x.2.key = k ∧ s.namesOf x = a := by
    rw [hget, Option.map_eq_some_iff] at ha
    obtain ⟨x, hlast, rfl⟩ := ha
    obtain ⟨hxs, hk⟩ := List.mem_filter.mp (List.mem_of_getLast? hlast)
    exact ⟨x, hxs, by simpa using hk, rfl⟩
  constructor
  case mem_keys =>
    intro k
    rw [OrderedMap.ofList_eq_insertAll, OrderedMap.mem_keys_insertAll, List.map_map, List.mem_map]
    exact or_iff_left List.not_mem_nil
  case get? =>
    intro k
    rw [hget, Option.map_eq_bind]
    refine Option.bind_congr fun x hlast => ?_
    have hxs := (List.mem_filter.mp (List.mem_of_getLast? hlast)).1
    rw [ResolvedDestination.names_eq_ok_iff.mpr ⟨hx x hxs, rfl⟩]
    rfl
  case resource_inj =>
    intro k k' a b ha hb hab
    obtain ⟨x, hxs, rfl, rfl⟩ := hmem ha
    obtain ⟨y, hys, rfl, rfl⟩ := hmem hb
    rw [List.inj_on_of_nodup_map hn hxs hys hab]

end All

/-- **All that comes of deriving names.** They are not derived exactly when a destination has no
resource name or no job name, or two have one resource name. What is told then are the offences of
the destinations in declared order, and otherwise there are the names of all of them. -/
theorem deriveNames_outcome (s : ResolvedService) :
    ((∃ es, s.deriveNames = .error es) ↔
      (∃ x ∈ s.destinations, (∃ e, s.resourceOf x = .error e) ∨ ∃ e, s.jobOf x = .error e) ∨
        s.SharesResource) ∧
      (∀ es, s.deriveNames = .error es ↔ es = s.offences ∧ es ≠ []) ∧
      ∀ table, s.deriveNames = .ok table → s.NamedBy table :=
  ⟨exists_deriveNames_eq_error_iff, fun _ => deriveNames_eq_error_iff,
    fun _ => namedBy_of_deriveNames⟩

/-- A destination without a job name, and two others with its resource name. -/
def ResolvedService.nameTwins : ResolvedService :=
  Service.resolve
    { name := "checkout"
      groups := [
        { name := "b-c", destinations := [.named "!" "n"] },
        { name := "b", destinations := [.named "c" "n", .named "C" "m"] }] }

/-- One destination in two groups. -/
def ResolvedService.sharedKey : ResolvedService :=
  Service.resolve
    { name := "checkout"
      groups := [
        { name := "a", destinations := [.named "c" "n"] },
        { name := "b", destinations := [.named "C" "n"] }] }

/-- A name is taken by the first destination with both names, although one without a job name comes
before it, and a destination that comes again keeps its last names. -/
theorem deriveNames_outcome_twins :
    ResolvedService.nameTwins.deriveNames = .error [
      .destination (.of "!" "n") .empty,
      .collision "checkout-b-c" (.of "c" "n") (.of "C" "m")] ∧
    ∃ table, ResolvedService.sharedKey.deriveNames = .ok table ∧
      ResolvedService.sharedKey.NamedBy table ∧
      table.get? (.of "c" "n") = some ⟨"checkout-b-c", "c"⟩ := by
  have htable : ResolvedService.sharedKey.deriveNames =
      .ok (.ofList [(.of "c" "n", ⟨"checkout-b-c", "c"⟩)]) := by decide +kernel
  constructor
  · refine ((deriveNames_outcome ResolvedService.nameTwins).2.1 _).mpr ⟨?_, List.cons_ne_nil _ _⟩
    decide +kernel
  · refine ⟨_, htable, (deriveNames_outcome ResolvedService.sharedKey).2.2 _ htable, ?_⟩
    decide +kernel

end Rollout
