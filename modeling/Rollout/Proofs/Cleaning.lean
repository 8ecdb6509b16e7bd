import Rollout.Proofs.FileTree
import Rollout.Writer

/-!
# What cleaning removes

Cleaning deletes files by a pattern, one after the other, and may be refused something on the way.
What it removes is said here without its loop: by what the files are called and hold.

* `FileTree.Removed`: some files are gone and nothing else has changed.
* `Writer.Swept`: files of one kind are removed, all of them unless something is refused;
  **`Writer.swept_removeEach`**, `Writer.swept_removeIn`: a directory is swept.
* `FileTree.DirectlyIn`, `Writer.Generated`: the files that are taken for those of an earlier run.
* `Writer.Stopped`: what can stop cleaning.
* **`Writer.swept_clean`**: both directories are swept of these files.
-/

namespace Rollout

/-! ## Texts and their bytes -/

theorem startsWith_iff {s start : String} :
    startsWith s start = true ↔ ∃ rest, s = start ++ rest := by
  rw [startsWith, List.isPrefixOf_iff_prefix]
  constructor
  · rintro ⟨rest, h⟩
    exact ⟨String.ofList rest, String.ext (by rw [← h]; simp)⟩
  · rintro ⟨rest, rfl⟩
    exact ⟨rest.toList, by simp⟩

theorem endsWith_iff {s ending : String} :
    endsWith s ending = true ↔ ∃ stem, s = stem ++ ending := by
  rw [endsWith, List.isSuffixOf_iff_suffix]
  constructor
  · rintro ⟨stem, h⟩
    exact ⟨String.ofList stem, String.ext (by rw [← h]; simp)⟩
  · rintro ⟨stem, rfl⟩
    exact ⟨stem.toList, by simp⟩

theorem toList_loop (b : ByteArray) (i : Nat) (r : List UInt8) :
    ByteArray.toList.loop b i r = r.reverse ++ b.data.toList.drop i := by
  rw [ByteArray.toList.loop]
  by_cases hi : i < b.size
  · have hlen : i < b.data.toList.length := hi
    have hget : b.get! i = b.data.toList[i] := by
      show b.data[i]! = _
      rw [getElem!_pos b.data i hi, Array.getElem_toList]
    have hdrop : b.data.toList.drop i = b.get! i :: b.data.toList.drop (i + 1) := by
      rw [List.drop_eq_getElem_cons hlen, hget]
    rw [if_pos hi, toList_loop b (i + 1), hdrop, List.reverse_cons, List.append_assoc,
      List.singleton_append]
  · have hlen : b.data.toList.length ≤ i := not_lt.mp hi
    rw [if_neg hi, List.drop_eq_nil_of_le hlen, List.append_nil]
termination_by b.size - i

/-- What is written is read as the same text. -/
theorem Bytes.toText?_ofText (s : String) : toText? (ofText s) = some s := by
  have hb : (⟨(ofText s).toArray⟩ : ByteArray) = s.toByteArray := by
    rw [ofText, ByteArray.toList, toList_loop]
    rfl
  rw [toText?, hb, String.fromUTF8?, dif_pos s.isValidUTF8]
  rfl

theorem Bytes.toText?_eq_some_iff {b : Bytes} {s : String} : toText? b = some s ↔ b = ofText s := by
  constructor
  · intro h
    unfold toText? String.fromUTF8? at h
    split at h
    · cases h
      rw [ofText, ByteArray.toList, toList_loop]
      rfl
    · cases h
  · rintro rfl
    exact toText?_ofText s

/-! ## Refusals -/

/-- The access is refused with this failure. -/
def Refusals.Denies (r : Refusals) (a : Access) (p : Place) (e : IoError) : Prop :=
  ∃ reason, r.refuses a p = some reason ∧ e = .refused reason

theorem Refusals.check_eq_error_iff {r : Refusals} {a : Access} {p : Place} {e : IoError} :
    r.check a p = .error e ↔ r.Denies a p e := by
  unfold check Denies
  cases r.refuses a p <;> simp [eq_comm]

/-! ## Files that are gone -/

namespace FileTree

variable {t t' s : FileTree} {p : Place} {c : Bytes} {gone left : List Place}

/-- The tree `t'` is `t` without some of its files. -/
structure Removed (t t' : FileTree) (gone : List Place) : Prop where
  here : t'.here = t.here
  nodup : gone.Nodup
  isSome : ∀ p ∈ gone, (t.file? p).isSome
  file? : ∀ p, t'.file? p = if p ∈ gone then none else t.file? p
  isDirectory : ∀ p, t'.isDirectory p = t.isDirectory p

theorem Removed.refl (t : FileTree) : Removed t t [] where
  here := rfl
  nodup := .nil
  isSome := by simp
  file? := by simp
  isDirectory _ := rfl

theorem removed_remove (hp : t.file? p = some c) : Removed t (t.remove p) [p] where
  here := rfl
  nodup := List.nodup_singleton p
  isSome := by simp [hp]
  file? q := by
    rw [file?_remove hp]
    simp
  isDirectory _ := isDirectory_remove hp

theorem Removed.trans (h : Removed t s gone) (h' : Removed s t' left) :
    Removed t t' (gone ++ left) where
  here := h'.here.trans h.here
  nodup := by
    refine List.nodup_append'.mpr ⟨h.nodup, h'.nodup, fun p hp hp' => ?_⟩
    have hs := h'.isSome p hp'
    rw [h.file?, if_pos hp] at hs
    cases hs
  isSome p hp := by
    rcases List.mem_append.mp hp with hp | hp
    · exact h.isSome p hp
    · have hs := h'.isSome p hp
      rw [h.file?] at hs
      split at hs
      · cases hs
      · exact hs
  file? p := by
    rw [h'.file?, h.file?]
    by_cases hp : p ∈ gone <;> by_cases hp' : p ∈ left <;> simp [hp, hp']
  isDirectory p := (h'.isDirectory p).trans (h.isDirectory p)

theorem Removed.file?_of_some (h : Removed t t' gone) (hp : t'.file? p = some c) :
    t.file? p = some c ∧ p ∉ gone := by
  rw [h.file?] at hp
  split at hp
  · cases hp
  · exact ⟨hp, ‹_›⟩

theorem isSome_get?_iff :
    (t.get? p).isSome = true ↔ (t.file? p).isSome = true ∨ t.isDirectory p = true := by
  rw [isDirectory_iff]
  unfold file?
  rcases t.get? p with _ | _ | _ <;> simp

theorem Removed.closed (h : Removed t t' gone) (ht : t.Closed) : t'.Closed := by
  intro p hp
  rw [h.isDirectory]
  refine ht p (isSome_get?_iff.mpr ?_)
  rw [isSome_get?_iff, h.isDirectory] at hp
  refine hp.imp_left fun hp => ?_
  obtain ⟨c, hc⟩ := Option.isSome_iff_exists.mp hp
  rw [(h.file?_of_some hc).1]
  rfl

theorem mem_namesIn {d : Place} {name : FileName} (h : t.file? (d ++ [name]) = some c) :
    name ∈ t.namesIn d := by
  have hg := file?_eq_some_iff.mp h
  rw [get?, isGiven_eq_false (not_isDirectory_of_file? h), if_neg Bool.false_ne_true] at hg
  exact List.mem_filterMap.mpr ⟨_, OrderedMap.mem_keys_of_get? hg, by simp⟩

end FileTree

/-! ## Sweeping -/

namespace Writer

open FileTree

variable {r : Refusals} {t t' s : FileTree} {result : Except IoError Nat}
  {Owned : Place → Bytes → Prop} {Stopped : IoError → Prop}

/-- Some files of a kind are removed, and counted. Unless something stops it, these are all. -/
structure Swept (t t' : FileTree) (Owned : Place → Bytes → Prop) (Stopped : IoError → Prop)
    (result : Except IoError Nat) : Prop where
  removed : ∃ gone, Removed t t' gone ∧ (∀ p ∈ gone, ∃ c, t.file? p = some c ∧ Owned p c) ∧
    ∀ n, result = .ok n → n = gone.length ∧ ∀ p c, t.file? p = some c → Owned p c → p ∈ gone
  stopped : ∀ e, result = .error e → Stopped e

/-- **A sweep that is not stopped** removes just the files of the kind. -/
theorem Swept.file?_eq_some_iff {n : Nat} (h : Swept t t' Owned Stopped (.ok n)) {p : Place}
    {c : Bytes} : t'.file? p = some c ↔ t.file? p = some c ∧ ¬ Owned p c := by
  obtain ⟨gone, hr, howned, hall⟩ := h.removed
  rw [hr.file?]
  by_cases hp : p ∈ gone
  · obtain ⟨c', hc', ho⟩ := howned p hp
    rw [if_pos hp, hc', Option.some_inj]
    exact ⟨fun h => (by cases h), fun ⟨hc, hn⟩ => absurd (hc ▸ ho) hn⟩
  · rw [if_neg hp]
    exact (and_iff_left_of_imp fun hc ho => hp ((hall n rfl).2 p c hc ho)).symm

theorem Swept.isDirectory (h : Swept t t' Owned Stopped result) (p : Place) :
    t'.isDirectory p = t.isDirectory p := by
  obtain ⟨gone, hr, -⟩ := h.removed
  exact hr.isDirectory p

theorem Swept.here (h : Swept t t' Owned Stopped result) : t'.here = t.here := by
  obtain ⟨gone, hr, -⟩ := h.removed
  exact hr.here

theorem Swept.closed (h : Swept t t' Owned Stopped result) (ht : t.Closed) : t'.Closed := by
  obtain ⟨gone, hr, -⟩ := h.removed
  exact hr.closed ht

/-- A sweep makes no files. -/
theorem Swept.file?_of_some (h : Swept t t' Owned Stopped result) {p : Place} {c : Bytes}
    (hp : t'.file? p = some c) : t.file? p = some c := by
  obtain ⟨gone, hr, -⟩ := h.removed
  exact (hr.file?_of_some hp).1

/-- Whatever becomes of a sweep, other files are kept. -/
theorem Swept.file?_of_not (h : Swept t t' Owned Stopped result) {p : Place} {c : Bytes}
    (hp : t.file? p = some c) (ho : ¬ Owned p c) : t'.file? p = some c := by
  obtain ⟨gone, hr, howned, -⟩ := h.removed
  rw [hr.file?, if_neg, hp]
  intro hg
  obtain ⟨c', hc', ho'⟩ := howned p hg
  rw [hp, Option.some_inj] at hc'
  exact ho (hc' ▸ ho')

theorem Swept.congr {Owned' : Place → Bytes → Prop} {Stopped' : IoError → Prop}
    (h : Swept t t' Owned Stopped result)
    (ho : ∀ p c, t.file? p = some c → (Owned p c ↔ Owned' p c)) (hs : ∀ e, Stopped e → Stopped' e) :
    Swept t t' Owned' Stopped' result where
  removed := by
    obtain ⟨gone, hr, howned, hall⟩ := h.removed
    refine ⟨gone, hr, fun p hp => ?_, fun n hn => ⟨(hall n hn).1, fun p c hp ho' => ?_⟩⟩
    · obtain ⟨c, hc, hpc⟩ := howned p hp
      exact ⟨c, hc, (ho p c hc).mp hpc⟩
    · exact (hall n hn).2 p c hp ((ho p c hp).mpr ho')
  stopped e he := hs e (h.stopped e he)

/-- A sweep that was stopped is one of a kind with more files. -/
theorem Swept.of_error {Owned' : Place → Bytes → Prop} {Stopped' : IoError → Prop} {e : IoError}
    (h : Swept t t' Owned Stopped (.error e)) (ho : ∀ p c, Owned p c → Owned' p c)
    (hs : ∀ e, Stopped e → Stopped' e) : Swept t t' Owned' Stopped' (.error e) where
  removed := by
    obtain ⟨gone, hr, howned, -⟩ := h.removed
    refine ⟨gone, hr, fun p hp => ?_, fun n hn => nomatch hn⟩
    obtain ⟨c, hc, hpc⟩ := howned p hp
    exact ⟨c, hc, ho p c hpc⟩
  stopped e' he := hs e' (h.stopped e' he)

theorem swept_stop {e : IoError} (h : Stopped e) : Swept t t Owned Stopped (.error e) where
  removed := ⟨[], .refl t, by simp, fun _ hn => nomatch hn⟩
  stopped e' he := by
    cases he
    exact h

theorem swept_zero (h : ∀ p c, t.file? p = some c → ¬ Owned p c) :
    Swept t t Owned Stopped (.ok 0) where
  removed := ⟨[], .refl t, by simp, fun n hn => by
    cases hn
    exact ⟨rfl, fun p c hp ho => absurd ho (h p c hp)⟩⟩
  stopped _ he := nomatch he

/-- **Two sweeps, one after the other.** -/
theorem Swept.trans {Owned' : Place → Bytes → Prop} {n : Nat}
    (h : Swept t s Owned Stopped (.ok n)) (h' : Swept s t' Owned' Stopped result) :
    Swept t t' (fun p c => Owned p c ∨ Owned' p c) Stopped (result.map (n + ·)) where
  removed := by
    obtain ⟨gone, hr, howned, hall⟩ := h.removed
    obtain ⟨left, hr', howned', hall'⟩ := h'.removed
    refine ⟨gone ++ left, hr.trans hr', fun p hp => ?_, fun m hm => ?_⟩
    · rcases List.mem_append.mp hp with hp | hp
      · obtain ⟨c, hc, ho⟩ := howned p hp
        exact ⟨c, hc, .inl ho⟩
      · obtain ⟨c, hc, ho⟩ := howned' p hp
        exact ⟨c, (hr.file?_of_some hc).1, .inr ho⟩
    · cases result with
      | error e => cases hm
      | ok k =>
        cases hm
        rw [List.length_append, (hall n rfl).1, (hall' k rfl).1]
        refine ⟨rfl, fun p c hp ho => List.mem_append.mpr ?_⟩
        by_cases hg : p ∈ gone
        · exact .inl hg
        · have hps : s.file? p = some c := by rw [hr.file?, if_neg hg, hp]
          exact .inr ((hall' k rfl).2 p c hps
            (ho.resolve_left fun ho => hg ((hall n rfl).2 p c hp ho)))
  stopped e he := by
    cases result with
    | error e' =>
      cases he
      exact h'.stopped _ rfl
    | ok k => cases he

/-! ### A directory -/

section Each

variable {d : Place} {owns : String → Option Bytes → Bool} {names : List FileName}

/-- A file with one of some names in a directory satisfies a test. -/
def Taken (r : Refusals) (d : Place) (owns : String → Option Bytes → Bool) (names : List FileName)
    (p : Place) (c : Bytes) : Prop :=
  ∃ name, .text name ∈ names ∧ p = d ++ [.text name] ∧ owns name (readable r p c) = true

/-- The directory does not hand out all of its names, or a file that has to be removed stays. -/
def StoppedIn (r : Refusals) (d : Place) (Owned : Place → Bytes → Prop) (t : FileTree)
    (e : IoError) : Prop :=
  (r.Denies .next d e ∨ ∃ name, r.Denies .next (d ++ [name]) e) ∨
    ∃ p c, t.file? p = some c ∧ Owned p c ∧ r.Denies .remove p e

theorem StoppedIn.mono {Owned' : Place → Bytes → Prop} {e : IoError}
    (h : StoppedIn r d Owned s e)
    (ho : ∀ p c, s.file? p = some c → Owned p c → t.file? p = some c ∧ Owned' p c) :
    StoppedIn r d Owned' t e := by
  rcases h with h | ⟨p, c, hp, hown, hr⟩
  · exact .inl h
  · obtain ⟨hp, hown⟩ := ho p c hp hown
    exact .inr ⟨p, c, hp, hown, hr⟩

theorem taken_cons_iff {name : FileName} {p : Place} {c : Bytes} :
    Taken r d owns (name :: names) p c ↔ Taken r d owns [name] p c ∨ Taken r d owns names p c := by
  simp only [Taken, List.mem_cons, List.not_mem_nil, or_false, or_and_right, exists_or]

theorem Taken.place_eq {name : FileName} {p : Place} {c : Bytes} (h : Taken r d owns [name] p c) :
    p = d ++ [name] := by
  obtain ⟨text, hn, rfl, -⟩ := h
  rw [List.mem_singleton.mp hn]

theorem takes_iff {name : FileName} : takes r d owns t name = true ↔
    ∃ c, t.file? (d ++ [name]) = some c ∧ Taken r d owns [name] (d ++ [name]) c := by
  cases name with
  | text text =>
    rw [takes]
    split
    · rename_i c hc
      simp [Taken, file?_eq_some_iff.mpr hc]
    · rename_i hno
      refine iff_of_false Bool.false_ne_true ?_
      rintro ⟨c, hc, -⟩
      exact hno c (file?_eq_some_iff.mp hc)
  | bytes name no_text => simp [takes, Taken]

theorem StoppedIn.cons {name : FileName} {e : IoError}
    (h : StoppedIn r d (Taken r d owns names) s e)
    (hs : ∀ p c, s.file? p = some c → t.file? p = some c) :
    StoppedIn r d (Taken r d owns (name :: names)) t e :=
  h.mono fun p c hp ho => ⟨hs p c hp, taken_cons_iff.mpr (.inr ho)⟩

/-- A file that is taken is swept by itself. -/
theorem swept_remove {name : FileName} (h : takes r d owns t name = true) :
    Swept t (t.remove (d ++ [name])) (Taken r d owns [name]) Stopped (.ok 1) where
  removed := by
    obtain ⟨c, hc, htaken⟩ := takes_iff.mp h
    refine ⟨_, removed_remove hc, List.forall_mem_singleton.mpr ⟨c, hc, htaken⟩, fun n hn => ?_⟩
    cases hn
    exact ⟨rfl, fun p c _ ho => List.mem_singleton.mpr ho.place_eq⟩
  stopped _ he := nomatch he

/-- **The files among some names are swept.** -/
theorem swept_removeEach (names : List FileName) (t : FileTree) :
    Swept t (removeEach r d owns t names).1 (Taken r d owns names)
      (StoppedIn r d (Taken r d owns names) t) (removeEach r d owns t names).2 := by
  induction names generalizing t with
  | nil =>
    rw [removeEach]
    cases hend : r.check .next d with
    | error e => exact swept_stop (.inl (.inl (Refusals.check_eq_error_iff.mp hend)))
    | ok => exact swept_zero fun p c _ ⟨_, hn, _⟩ => absurd hn List.not_mem_nil
  | cons name names ih =>
    rw [removeEach]
    split
    · rename_i e he
      exact swept_stop (.inl (.inr ⟨name, Refusals.check_eq_error_iff.mp he⟩))
    · split_ifs with htakes
      · split
        · rename_i e he
          obtain ⟨c, hc, htaken⟩ := takes_iff.mp htakes
          exact swept_stop (.inr ⟨_, c, hc, taken_cons_iff.mpr (.inl htaken),
            Refusals.check_eq_error_iff.mp he⟩)
        · -- this file is swept by itself, and the others without it
          have hone : Swept t (t.remove (d ++ [name])) (Taken r d owns [name])
              (StoppedIn r d (Taken r d owns (name :: names)) t) (.ok 1) := swept_remove htakes
          have hall := hone.trans ((ih (t.remove (d ++ [name]))).congr (fun _ _ _ => .rfl)
            fun _ he => he.cons fun _ _ => hone.file?_of_some)
          exact hall.congr (fun _ _ _ => taken_cons_iff.symm) fun _ he => he
      · -- the file under this name, if there is one, is kept
        have hkept {p : Place} {c : Bytes} (hp : t.file? p = some c) :
            ¬ Taken r d owns [name] p c := fun h =>
          htakes (takes_iff.mpr ⟨c, h.place_eq ▸ hp, h.place_eq ▸ h⟩)
        exact (ih t).congr (fun p c hp => (taken_cons_iff.trans (or_iff_right (hkept hp))).symm)
          fun _ he => he.cons fun _ _ => id

end Each

end Writer

/-! ## Files of an earlier run -/

/-- A place is that of a name directly inside the directory that a path leads to. -/
def FileTree.DirectlyIn (t : FileTree) (dir name : String) (p : Place) : Prop :=
  t.leadsToDirectory (.ofPath dir) = true ∧ p = (Way.ofPath dir).place t.here ++ [.text name]

namespace Writer

open FileTree

variable {w : Writer} {r : Refusals} {t t' : FileTree} {dir name : String} {p : Place} {c : Bytes}
  {owns : String → Option Bytes → Bool}

/-- A file stands directly inside a directory and satisfies a test. -/
def FoundIn (r : Refusals) (t : FileTree) (dir : String) (owns : String → Option Bytes → Bool)
    (p : Place) (c : Bytes) : Prop :=
  ∃ name, t.DirectlyIn dir name p ∧ owns name (readable r p c) = true

/-- What stops a run through a directory: it is not listed, or it is stopped at something inside. -/
def StoppedAt (r : Refusals) (t : FileTree) (dir : String) (Owned : Place → Bytes → Prop)
    (e : IoError) : Prop :=
  t.leadsToDirectory (.ofPath dir) = true ∧
    (r.Denies .list ((Way.ofPath dir).place t.here) e ∨
      StoppedIn r ((Way.ofPath dir).place t.here) Owned t e)

/-- **A directory is swept**, whether it exists or not. -/
theorem swept_removeIn (r : Refusals) (dir : String) (owns : String → Option Bytes → Bool)
    (t : FileTree) : Swept t (removeIn r dir owns t).1 (FoundIn r t dir owns)
      (StoppedAt r t dir (FoundIn r t dir owns)) (removeIn r dir owns t).2 := by
  unfold removeIn
  split
  · rename_i hnone
    refine swept_zero fun p c _ ⟨name, ⟨hd, _⟩, _⟩ => ?_
    rw [leadsToDirectory, hnone] at hd
    cases hd
  · rename_i d hd
    obtain ⟨hl, -⟩ := directory?_eq_some_iff.mp hd
    obtain rfl := place_of_locate hl
    have hleads : t.leadsToDirectory (.ofPath dir) = true := by rw [leadsToDirectory, hd]; rfl
    split
    · rename_i e he
      exact swept_stop ⟨hleads, .inl (Refusals.check_eq_error_iff.mp he)⟩
    · have hfound {p : Place} {c : Bytes} {names : List FileName}
          (h : Taken r ((Way.ofPath dir).place t.here) owns names p c) :
          FoundIn r t dir owns p c := by
        obtain ⟨name, -, rfl, ho⟩ := h
        exact ⟨name, ⟨hleads, rfl⟩, ho⟩
      refine (swept_removeEach _ t).congr (fun p c hp => ⟨hfound, ?_⟩) fun e he =>
        ⟨hleads, .inr (he.mono fun p c hp ho => ⟨hp, hfound ho⟩)⟩
      rintro ⟨name, ⟨-, rfl⟩, ho⟩
      exact ⟨name, mem_namesIn hp, rfl, ho⟩

theorem directlyIn_congr (hh : t'.here = t.here) (hd : ∀ q, t'.isDirectory q = t.isDirectory q) :
    t'.DirectlyIn dir name p ↔ t.DirectlyIn dir name p := by
  unfold DirectlyIn leadsToDirectory
  rw [directory?_congr hh hd, hh]

/-! ### Both directories -/

theorem ownsWorkflow_iff : w.ownsWorkflow name = true ↔
    (∃ rest, name = w.filePrefix ++ "-" ++ rest) ∧ ∃ stem, name = stem ++ ".yml" := by
  rw [ownsWorkflow, Bool.and_eq_true, startsWith_iff, endsWith_iff]

theorem isGenerated_iff : isGenerated c = true ↔ ∃ rest, c = .ofText (generatedHeader ++ rest) := by
  unfold isGenerated
  simp only [Option.any_eq_true, Bytes.toText?_eq_some_iff, startsWith_iff]
  constructor
  · rintro ⟨s, rfl, rest, rfl⟩
    exact ⟨rest, rfl⟩
  · rintro ⟨rest, rfl⟩
    exact ⟨_, rfl, rest, rfl⟩

theorem ownsManifest_iff : ownsManifest name (readable r p c) = true ↔
    (∃ stem, name = stem ++ ".yaml") ∧ r.refuses .read p = none ∧
      ∃ rest, c = .ofText (generatedHeader ++ rest) := by
  rw [ownsManifest, Bool.and_eq_true, endsWith_iff, readable, ← isGenerated_iff]
  cases r.refuses .read p <;> simp

/-- A file of the workflow directory with the name of a generated workflow, or one of the manifest
directory with the name of a manifest and the first line of what is generated. A manifest that
cannot be read shows no first line. -/
def Generated (w : Writer) (r : Refusals) (t : FileTree) (p : Place) (c : Bytes) : Prop :=
  (∃ name, t.DirectlyIn w.workflowDir name p ∧ (∃ rest, name = w.filePrefix ++ "-" ++ rest) ∧
      ∃ stem, name = stem ++ ".yml") ∨
    ∃ name, t.DirectlyIn w.manifestDir name p ∧ (∃ stem, name = stem ++ ".yaml") ∧
      r.refuses .read p = none ∧ ∃ rest, c = .ofText (generatedHeader ++ rest)

/-- What can stop cleaning: one of the two directories is not listed, not all of its names are
handed out, or a generated file is not removed. -/
def Stopped (w : Writer) (r : Refusals) (t : FileTree) (e : IoError) : Prop :=
  ∃ dir, (dir = w.workflowDir ∨ dir = w.manifestDir) ∧ StoppedAt r t dir (w.Generated r t) e

theorem generated_iff : w.Generated r t p c ↔
    FoundIn r t w.workflowDir (fun name _ => w.ownsWorkflow name) p c ∨
      FoundIn r t w.manifestDir ownsManifest p c := by
  simp only [Generated, FoundIn, ownsWorkflow_iff, ownsManifest_iff]

/-- **Cleaning sweeps both directories of generated files.** -/
theorem swept_clean (w : Writer) (r : Refusals) (t : FileTree) :
    Swept t (w.clean r t).1 (w.Generated r t) (w.Stopped r t) (w.clean r t).2 := by
  have hw := swept_removeIn r w.workflowDir (fun name _ => w.ownsWorkflow name) t
  have hown : ∀ p c, FoundIn r t w.workflowDir (fun name _ => w.ownsWorkflow name) p c →
      w.Generated r t p c := fun p c ho => generated_iff.mpr (.inl ho)
  have hstop : ∀ e, StoppedAt r t w.workflowDir
      (FoundIn r t w.workflowDir fun name _ => w.ownsWorkflow name) e → w.Stopped r t e :=
    fun e ⟨hd, he⟩ => ⟨_, .inl rfl, hd, he.imp_right fun he => he.mono fun p c hp ho =>
      ⟨hp, hown p c ho⟩⟩
  unfold clean
  split
  · rename_i s e hs
    rw [hs] at hw
    exact hw.of_error hown hstop
  · rename_i s n hs
    rw [hs] at hw
    -- the second directory is the same one in the tree that the first sweep leaves
    have hsame {p : Place} {c : Bytes} :
        FoundIn r s w.manifestDir ownsManifest p c ↔ FoundIn r t w.manifestDir ownsManifest p c :=
      exists_congr fun name => and_congr_left fun _ => directlyIn_congr hw.here hw.isDirectory
    have hstop' : ∀ e, StoppedAt r s w.manifestDir
        (FoundIn r s w.manifestDir ownsManifest) e → w.Stopped r t e := by
      rintro e ⟨hd, he⟩
      rw [leadsToDirectory, directory?_congr hw.here hw.isDirectory] at hd
      rw [hw.here] at he
      refine ⟨_, .inr rfl, hd, he.imp_right fun he => he.mono fun p c hp ho => ?_⟩
      exact ⟨hw.file?_of_some hp, generated_iff.mpr (.inr (hsame.mp ho))⟩
    have hm := (swept_removeIn r w.manifestDir ownsManifest s).congr (fun _ _ _ => hsame) hstop'
    exact ((hw.congr (fun _ _ _ => .rfl) hstop).trans hm).congr
      (fun _ _ _ => generated_iff.symm) fun _ he => he

end Writer

end Rollout
