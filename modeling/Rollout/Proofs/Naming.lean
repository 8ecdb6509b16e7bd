import Rollout.Naming
import Rollout.Proofs.Identifier.Words
import Rollout.Proofs.OrderedMap

/-!
# Which names are derived

* `ResolvedDestination.identifiers`: the names of a destination, before they are checked.
* `tailWords`, `jobWords`: the words of a resource name behind the service, and of a job name.
* **`deriveNames_eq_ok_iff`**: names are derived exactly when each of them can be used and no
  resource name comes twice; the table then lists them in declared order.
-/

namespace Rollout

/-! ## One destination -/

/-- A name that can be used: neither empty nor too long. -/
def IsName (name : String) : Prop := name ≠ "" ∧ name.length ≤ maxNameLength

theorem checkName_eq_ok_iff {name checked : String} :
    checkName name = .ok checked ↔ IsName name ∧ checked = name := by
  unfold checkName IsName
  split
  · rename_i he
    simp [String.isEmpty_iff.mp he]
  · rename_i he
    split
    · rename_i hl
      have : ¬ name.length ≤ maxNameLength := not_le.mpr hl
      simp [this]
    · rename_i hl
      have hne : name ≠ "" := by simpa using he
      have hle : name.length ≤ maxNameLength := not_lt.mp hl
      simp [hne, hle, eq_comm]

namespace ResolvedDestination

/-- The resource name and the job name of a destination, before they are checked. -/
def identifiers (d : ResolvedDestination) (service group : String) (scheme : NamingScheme) :
    Names where
  resource := sanitize (String.intercalate "-" (d.nameParts service group scheme))
  job := sanitize (String.intercalate "-" (d.jobParts scheme))

variable {d : ResolvedDestination} {service group : String} {scheme : NamingScheme}

theorem resourceName_eq : d.resourceName service group scheme =
    checkName (d.identifiers service group scheme).resource := rfl

theorem jobName_eq (service group : String) :
    d.jobName scheme = checkName (d.identifiers service group scheme).job := rfl

theorem names_eq_ok_iff {names : Names} : d.names service group scheme = .ok names ↔
    (IsName (d.identifiers service group scheme).resource ∧
      IsName (d.identifiers service group scheme).job) ∧
        names = d.identifiers service group scheme := by
  constructor
  · intro h
    obtain ⟨resource, hr, h⟩ := bind_eq_ok_iff.mp h
    obtain ⟨job, hj, h⟩ := bind_eq_ok_iff.mp h
    obtain ⟨hresource, rfl⟩ := checkName_eq_ok_iff.mp hr
    obtain ⟨hjob, rfl⟩ := checkName_eq_ok_iff.mp hj
    cases h
    exact ⟨⟨hresource, hjob⟩, rfl⟩
  · rintro ⟨⟨hr, hj⟩, rfl⟩
    exact bind_eq_ok_iff.mpr ⟨_, checkName_eq_ok_iff.mpr ⟨hr, rfl⟩,
      bind_eq_ok_iff.mpr ⟨_, checkName_eq_ok_iff.mpr ⟨hj, rfl⟩, rfl⟩⟩

/-! ## Words of names -/

variable (d scheme)

/-- The words that the namespace adds to names. -/
def spaceWords : List (List Char) := if scheme.withNamespace then words d.space.value else []

/-- The words of a job name. -/
def jobWords : List (List Char) := identifierWords d.identity ++ d.spaceWords scheme

/-- The words of a resource name behind those of the service. -/
def tailWords (group : String) : List (List Char) :=
  (if scheme.withGroup then words group else []) ++ (words d.identity ++ d.spaceWords scheme)

variable {d scheme}

theorem flatMap_words_space : (if scheme.withNamespace then [d.space.value] else []).flatMap words =
    d.spaceWords scheme := by
  unfold spaceWords
  split
  · exact List.flatMap_singleton ..
  · rfl

theorem identifierWords_job (service group : String) :
    identifierWords (d.identifiers service group scheme).job = d.jobWords scheme := by
  unfold identifiers
  rw [identifierWords_sanitize, jobParts, List.singleton_append, identifierWords_intercalate,
    flatMap_words_space, jobWords]

theorem identifierWords_resource : identifierWords (d.identifiers service group scheme).resource =
    identifierWords service ++ d.tailWords scheme group := by
  have hg : (if scheme.withGroup then [group] else []).flatMap words =
      if scheme.withGroup then words group else [] := by
    split
    · exact List.flatMap_singleton ..
    · rfl
  unfold identifiers
  rw [identifierWords_sanitize, nameParts, List.append_assoc, List.append_assoc,
    List.singleton_append, identifierWords_intercalate, List.flatMap_append, List.flatMap_append,
    hg, List.flatMap_singleton, flatMap_words_space, tailWords]

/-- **The tail of a resource name is the job name with the scheme of the cluster before it.** -/
theorem tailWords_eq : d.tailWords scheme group = (if scheme.withGroup then words group else []) ++
    ((webScheme? d.identity).toList.map String.toList ++ d.jobWords scheme) := by
  unfold tailWords jobWords
  rw [words_eq d.identity, List.append_assoc]

/-- **Job names are equal exactly when their words are.** -/
theorem job_eq_iff {e : ResolvedDestination} {group' : String} :
    (d.identifiers service group scheme).job = (e.identifiers service group' scheme).job ↔
      d.jobWords scheme = e.jobWords scheme := by
  rw [← identifierWords_job service group, ← identifierWords_job service group']
  constructor
  · intro h
    exact congrArg identifierWords h
  · intro h
    unfold identifiers at h
    simp only [identifierWords_sanitize] at h
    exact sanitize_inj.mpr h

/-- **Resource names of a service are equal exactly when the words of their tails are.** -/
theorem resource_eq_iff {e : ResolvedDestination} {group' : String} :
    (d.identifiers service group scheme).resource = (e.identifiers service group' scheme).resource ↔
      d.tailWords scheme group = e.tailWords scheme group' := by
  rw [← List.append_right_inj (identifierWords service), ← identifierWords_resource,
    ← identifierWords_resource]
  constructor
  · intro h
    exact congrArg identifierWords h
  · intro h
    unfold identifiers at h
    simp only [identifierWords_sanitize] at h
    exact sanitize_inj.mpr h

theorem jobWords_ne_nil (h : IsName (d.identifiers service group scheme).job) :
    d.jobWords scheme ≠ [] := by
  intro hw
  rw [← identifierWords_job service group, ← sanitize_eq_empty_iff, identifiers,
    sanitize_sanitize] at hw
  exact h.1 hw

theorem tailWords_ne_nil (h : IsName (d.identifiers service group scheme).job) :
    d.tailWords scheme group ≠ [] := by
  intro hw
  simp only [tailWords_eq, List.append_eq_nil_iff] at hw
  exact jobWords_ne_nil h hw.2.2

end ResolvedDestination

/-! ## All destinations -/

namespace ResolvedService

variable (s : ResolvedService)

/-- The names of a destination of the service. -/
def namesOf (x : ResolvedGroup × ResolvedDestination) : Names :=
  x.2.identifiers s.name x.1.name s.naming

/-- Both names of a destination can be used. -/
def Nameable (x : ResolvedGroup × ResolvedDestination) : Prop :=
  IsName (s.namesOf x).resource ∧ IsName (s.namesOf x).job

end ResolvedService

section Derive

variable {s : ResolvedService} {x : ResolvedGroup × ResolvedDestination}
  {xs : List (ResolvedGroup × ResolvedDestination)} {owners : List (String × DestinationKey)}
  {table table' : NameTable}

theorem deriveFrom_of_error {e : NameError}
    (h : x.2.names s.name x.1.name s.naming = .error e) :
    (deriveFrom s owners table (x :: xs)).1 =
      .destination x.2.key e :: (deriveFrom s owners table xs).1 := by
  rw [deriveFrom.eq_def]
  dsimp only
  rw [h]

theorem deriveFrom_of_collision {names : Names} {first : DestinationKey}
    (h : x.2.names s.name x.1.name s.naming = .ok names)
    (ho : owners.lookup names.resource = some first) :
    (deriveFrom s owners table (x :: xs)).1 =
      .collision names.resource first x.2.key :: (deriveFrom s owners table xs).1 := by
  rw [deriveFrom.eq_def]
  dsimp only
  rw [h]
  dsimp only
  rw [ho]

theorem deriveFrom_of_fresh {names : Names} (h : x.2.names s.name x.1.name s.naming = .ok names)
    (ho : owners.lookup names.resource = none) :
    deriveFrom s owners table (x :: xs) =
      deriveFrom s ((names.resource, x.2.key) :: owners) (table.insert x.2.key names) xs := by
  rw [deriveFrom.eq_def]
  dsimp only
  rw [h]
  dsimp only
  rw [ho]

theorem lookup_eq_none_iff_notMem {r : String} :
    owners.lookup r = none ↔ r ∉ owners.map Prod.fst := by
  rw [List.lookup_eq_none_iff, List.mem_map]
  constructor
  · rintro h ⟨o, ho, rfl⟩
    simpa using h o ho
  · intro h o ho
    exact bne_iff_ne.mpr fun hr => h ⟨o, ho, hr.symm⟩

theorem deriveFrom_cons (hx : s.Nameable x) (ho : (s.namesOf x).resource ∉ owners.map Prod.fst) :
    deriveFrom s owners table (x :: xs) =
      deriveFrom s (((s.namesOf x).resource, x.2.key) :: owners)
        (table.insert x.2.key (s.namesOf x)) xs :=
  deriveFrom_of_fresh (ResolvedDestination.names_eq_ok_iff.mpr ⟨hx, rfl⟩)
    (lookup_eq_none_iff_notMem.mpr ho)

theorem of_deriveFrom_cons (h : (deriveFrom s owners table (x :: xs)).1 = []) :
    s.Nameable x ∧ (s.namesOf x).resource ∉ owners.map Prod.fst := by
  cases hn : x.2.names s.name x.1.name s.naming with
  | error e =>
    rw [deriveFrom_of_error hn] at h
    cases h
  | ok names =>
    cases hl : owners.lookup names.resource with
    | some first =>
      rw [deriveFrom_of_collision hn hl] at h
      cases h
    | none =>
      obtain ⟨hx, rfl⟩ := ResolvedDestination.names_eq_ok_iff.mp hn
      exact ⟨hx, lookup_eq_none_iff_notMem.mp hl⟩

/-- **Names from left to right.** -/
theorem deriveFrom_eq_iff (ho : (owners.map Prod.fst).Nodup) :
    deriveFrom s owners table xs = ([], table') ↔
      ((∀ x ∈ xs, s.Nameable x) ∧
        (xs.map (fun x => (s.namesOf x).resource) ++ owners.map Prod.fst).Nodup) ∧
          table' = table.insertAll (xs.map fun x => (x.2.key, s.namesOf x)) := by
  induction xs generalizing owners table with
  | nil =>
    have hs : deriveFrom s owners table [] = ([], table) := rfl
    simp [hs, ho, eq_comm, OrderedMap.insertAll]
  | cons x xs ih =>
    -- the name of `x` moves from those to come to those that have an owner
    rw [List.forall_mem_cons, List.map_cons, List.cons_append, ← List.nodup_middle]
    constructor
    · intro h
      obtain ⟨hx, hn⟩ := of_deriveFrom_cons (congrArg Prod.fst h)
      have ho' : ((((s.namesOf x).resource, x.2.key) :: owners).map Prod.fst).Nodup :=
        List.nodup_cons.mpr ⟨hn, ho⟩
      rw [deriveFrom_cons hx hn, ih ho'] at h
      exact ⟨⟨⟨hx, h.1.1⟩, h.1.2⟩, h.2⟩
    · rintro ⟨⟨⟨hx, hxs⟩, hr⟩, ht⟩
      have ho' : ((((s.namesOf x).resource, x.2.key) :: owners).map Prod.fst).Nodup :=
        (List.nodup_append.mp hr).2.1
      rw [deriveFrom_cons hx (List.nodup_cons.mp ho').1]
      exact (ih ho').mpr ⟨⟨hxs, hr⟩, ht⟩

/-- **All names.** They are derived exactly when each can be used and no resource name comes
twice. -/
theorem deriveNames_eq_ok_iff : s.deriveNames = .ok table ↔
    ((∀ x ∈ s.destinations, s.Nameable x) ∧
      (s.destinations.map fun x => (s.namesOf x).resource).Nodup) ∧
        table = .ofList (s.destinations.map fun x => (x.2.key, s.namesOf x)) := by
  have h := @deriveFrom_eq_iff s s.destinations [] .empty table .nil
  rw [List.map_nil, List.append_nil] at h
  rw [OrderedMap.ofList_eq_insertAll, ← h, ResolvedService.deriveNames]
  cases deriveFrom s [] .empty s.destinations with
  | mk errors table' => cases errors with
    | nil => simp
    | cons e es => simp

end Derive

end Rollout
