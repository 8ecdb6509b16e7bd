import Rollout.FileTree
import Rollout.Proofs.OrderedMap

/-!
# Writing into a file tree

* `FileTree.file?`, `FileTree.Closed`: the files of a tree, and trees in which everything stands in
  a directory.
* **`FileTree.Closed.locate_eq_ok_iff`**: a way without steps back leads where its names say, when
  its directory exists.
* `FileTree.Made`: what creating directories does; `FileTree.made_of_createWay`: it does so whenever
  it succeeds, and `FileTree.exists_createWay`: it succeeds when nothing is refused and no file is
  in the way.
* `FileTree.Wrote`, **`FileTree.wrote_of_writePath`**, **`FileTree.exists_writePath`**: the same for
  one file.
-/

namespace Rollout

/-! ## Ways without steps back -/

theorem Place.step_of_ne {name : String} (h : name ≠ "..") (p : Place) :
    p.step name = p ++ [.text name] := if_neg h

namespace Way

/-- No name on the way leads back. -/
def Plain (w : Way) : Prop := ".." ∉ w.names

/-- No name on the way is too long. -/
def Short (w : Way) : Prop := ∀ n ∈ w.names, n.utf8ByteSize ≤ FileTree.maxFileName

variable {w : Way} {here : Place}

theorem foldl_step_of_plain {names : List String} (h : ".." ∉ names) (b : Place) :
    names.foldl Place.step b = b ++ names.map .text := by
  induction names generalizing b with
  | nil => exact (List.append_nil b).symm
  | cons n names ih =>
    rw [List.mem_cons, not_or] at h
    rw [List.foldl_cons, Place.step_of_ne (Ne.symm h.1), ih h.2, List.append_assoc, List.map_cons,
      List.singleton_append]

theorem Plain.place_eq (h : w.Plain) (here : Place) :
    w.place here = w.start here ++ w.names.map .text := foldl_step_of_plain h _

theorem place_of_names_nil (h : w.names = []) (here : Place) : w.place here = w.start here := by
  rw [place, h, List.foldl_nil]

theorem Plain.above (h : w.Plain) : w.above.Plain := fun hn => h (List.dropLast_subset _ hn)

theorem Short.above (h : w.Short) : w.above.Short := fun n hn => h n (List.dropLast_subset _ hn)

theorem Plain.dropLast_place (h : w.Plain) (hne : w.names ≠ []) :
    (w.place here).dropLast = w.above.place here := by
  rw [h.place_eq, h.above.place_eq,
    List.dropLast_append_of_ne_nil (by simpa using hne), ← List.map_dropLast]
  rfl

/-- The way that goes on along some names. -/
def along (w : Way) (names : List String) : Way := { w with names := w.names ++ names }

theorem Plain.along {name : String} (h : w.Plain) (hn : name ≠ "..") : (w.along [name]).Plain := by
  rw [Plain, Way.along, List.mem_append, List.mem_singleton, not_or]
  exact ⟨h, Ne.symm hn⟩

theorem place_along {name : String} (h : name ≠ "..") (w : Way) (here : Place) :
    (w.along [name]).place here = w.place here ++ [.text name] := by
  rw [place, along, List.foldl_append]
  exact Place.step_of_ne h _

@[simp]
theorem along_nil (w : Way) : w.along [] = w := by
  rw [along, List.append_nil]

theorem along_along (w : Way) (names rest : List String) :
    (w.along names).along rest = w.along (names ++ rest) := by
  simp only [along, List.append_assoc]

theorem along_left_inj {v : Way} {names : List String} : w.along names = v.along names ↔ w = v := by
  simp [along, Way.ext_iff]

end Way

/-! ## Contents that are stored -/

theorem Refusals.fst_store_of_ok {r : Refusals} {p : Place} {c : Bytes}
    (h : (r.store p c).2 = .ok ()) : (r.store p c).1 = c := by
  unfold store at h ⊢
  split at h
  · split at h
    · cases h
    · rename_i hlt
      rw [if_neg hlt]
  · rfl

/-! ## Files and directories -/

namespace FileTree

/-- The contents of the file at a place, if one stands there. -/
def file? (t : FileTree) (p : Place) : Option Bytes :=
  match t.get? p with
  | some (.file contents) => some contents
  | _ => none

/-- Whatever stands in a tree stands in a directory. -/
def Closed (t : FileTree) : Prop := ∀ p, (t.get? p).isSome → t.isDirectory p.dropLast

variable {r : Refusals} {t t' : FileTree} {p q : Place} {c : Bytes} {e : Entry} {w : Way}

theorem isDirectory_iff : t.isDirectory p = true ↔ t.get? p = some .directory := decide_eq_true_iff

theorem file?_eq_some_iff : t.file? p = some c ↔ t.get? p = some (.file c) := by
  unfold file?
  rcases t.get? p with _ | _ | _ <;> simp

theorem file?_eq_none_of_isDirectory (h : t.isDirectory p = true) : t.file? p = none := by
  rw [file?, isDirectory_iff.mp h]

/-- A place without a file has a directory or nothing. -/
theorem get?_of_file?_eq_none (h : t.file? p = none) (hd : ¬ t.isDirectory p = true) :
    t.get? p = none := by
  rw [isDirectory_iff] at hd
  unfold file? at h
  rcases hg : t.get? p with _ | _ | _
  · rfl
  · simp [hg] at h
  · exact absurd hg hd

theorem not_isDirectory_of_file? (h : t.file? p = some c) : ¬ t.isDirectory p = true := by
  intro hd
  rw [file?_eq_none_of_isDirectory hd] at h
  cases h

/-! ### Where a run starts -/

theorem isGiven_iff : t.isGiven p = true ↔ p <+: t.here := List.isPrefixOf_iff_prefix

theorem isDirectory_of_isGiven (h : t.isGiven p = true) : t.isDirectory p = true :=
  isDirectory_iff.mpr (if_pos h)

theorem isGiven_eq_false (h : ¬ t.isDirectory p = true) : t.isGiven p = false :=
  Bool.eq_false_iff.mpr fun hg => h (isDirectory_of_isGiven hg)

theorem isDirectory_start (t : FileTree) (w : Way) : t.isDirectory (w.start t.here) = true := by
  refine isDirectory_of_isGiven (isGiven_iff.mpr ?_)
  unfold Way.start
  split
  · exact List.nil_prefix
  · exact List.prefix_rfl

/-- What is no directory is not where a way starts, so that it has a last name. -/
theorem dropLast_place_of_clear (hw : w.Plain) (hd : ¬ t.isDirectory (w.place t.here) = true) :
    (w.place t.here).dropLast = w.above.place t.here := by
  refine hw.dropLast_place fun hn => hd ?_
  rw [Way.place_of_names_nil hn]
  exact isDirectory_start t w

/-- The working directory and those above it stand in directories anyway. -/
theorem closed_of_entries (h : ∀ e ∈ t.entries.toList, t.isDirectory e.1.dropLast = true) :
    t.Closed := by
  intro p hp
  rw [get?] at hp
  split at hp
  · rename_i hg
    exact isDirectory_of_isGiven
      (isGiven_iff.mpr ((List.dropLast_prefix p).trans (isGiven_iff.mp hg)))
  · obtain ⟨e, he⟩ := Option.isSome_iff_exists.mp hp
    exact h _ (OrderedMap.get?_eq_some_iff.mp he)

theorem Closed.isDirectory_of_prefix (ht : t.Closed) (hq : q <+: p) (hp : t.isDirectory p = true) :
    t.isDirectory q = true := by
  obtain ⟨r, rfl⟩ := hq
  induction r using List.reverseRecOn with
  | nil => simpa using hp
  | append_singleton r n ih =>
    have hs : (t.get? (q ++ (r ++ [n]))).isSome = true := by simp [isDirectory_iff.mp hp]
    have hd := ht _ hs
    rw [← List.append_assoc, List.dropLast_concat] at hd
    exact ih hd

/-! ### Entries that are put -/

section Put

variable (hp : t.isGiven p = false)

include hp

theorem get?_put : (t.put p e).get? q = if q = p then some e else t.get? q := by
  unfold get? put isGiven
  rw [isGiven] at hp
  by_cases hq : q = p
  · subst hq
    simp [hp, OrderedMap.get?_insert]
  · simp [hq, Ne.symm hq, OrderedMap.get?_insert]

theorem isDirectory_put_directory :
    (t.put p .directory).isDirectory q = true ↔ q = p ∨ t.isDirectory q = true := by
  simp only [isDirectory_iff, get?_put hp]
  by_cases hq : q = p <;> simp [hq]

theorem file?_put_directory (hn : t.get? p = none) : (t.put p .directory).file? q = t.file? q := by
  unfold file?
  rw [get?_put hp]
  by_cases hq : q = p
  · simp [hq, hn]
  · rw [if_neg hq]

theorem file?_put_file : (t.put p (.file c)).file? q = if q = p then some c else t.file? q := by
  unfold file?
  rw [get?_put hp]
  by_cases hq : q = p
  · simp [hq]
  · rw [if_neg hq, if_neg hq]

/-- A tree stays closed when something is put into a directory, unless it takes the place of one. -/
theorem Closed.put (ht : t.Closed) (hd : t.isDirectory p.dropLast = true)
    (he : e = .directory ∨ ¬ t.isDirectory p = true) : (t.put p e).Closed := by
  have hkeep : ∀ q, t.isDirectory q = true → (t.put p e).isDirectory q = true := by
    intro q hq
    rw [isDirectory_iff] at hq ⊢
    rw [get?_put hp]
    by_cases hqp : q = p
    · subst hqp
      rcases he with rfl | he
      · exact if_pos rfl
      · exact absurd (isDirectory_iff.mpr hq) he
    · rw [if_neg hqp, hq]
  intro q hq
  rw [get?_put hp] at hq
  by_cases hqp : q = p
  · exact hkeep _ (hqp ▸ hd)
  · rw [if_neg hqp] at hq
    exact hkeep _ (ht q hq)

end Put

theorem isDirectory_put_file (hd : ¬ t.isDirectory p = true) :
    (t.put p (.file c)).isDirectory q = true ↔ t.isDirectory q = true := by
  have hp := isGiven_eq_false hd
  simp only [isDirectory_iff, get?_put hp] at hd ⊢
  by_cases hq : q = p
  · simp [hq, hd]
  · rw [if_neg hq]

/-! ### Files that are removed -/

section Remove

variable (hp : t.file? p = some c)

include hp

theorem get?_remove : (t.remove p).get? q = if q = p then none else t.get? q := by
  have hg := isGiven_eq_false (not_isDirectory_of_file? hp)
  unfold get? remove isGiven
  rw [isGiven] at hg
  by_cases hq : q = p
  · subst hq
    rw [hg, if_neg Bool.false_ne_true, if_pos rfl]
    refine Option.eq_none_iff_forall_ne_some.mpr fun e he => ?_
    simpa using (List.mem_filter.mp (OrderedMap.get?_eq_some_iff.mp he)).2
  · rw [if_neg hq]
    split
    · rfl
    · ext e
      rw [OrderedMap.get?_eq_some_iff, OrderedMap.get?_eq_some_iff, List.mem_filter]
      exact and_iff_left (by simpa using hq)

theorem file?_remove : (t.remove p).file? q = if q = p then none else t.file? q := by
  unfold file?
  rw [get?_remove hp]
  by_cases hq : q = p
  · rw [if_pos hq, if_pos hq]
  · rw [if_neg hq, if_neg hq]

theorem isDirectory_remove : (t.remove p).isDirectory q = t.isDirectory q := by
  have hd := not_isDirectory_of_file? hp
  unfold isDirectory at hd ⊢
  rw [get?_remove hp]
  by_cases hq : q = p
  · subst hq
    rw [if_pos rfl, Bool.eq_false_iff.mpr hd]
    rfl
  · rw [if_neg hq]

end Remove

/-! ## Where ways lead -/

theorem foldl_step_of_locateFrom :
    ∀ {b : Place} {w : List String}, t.locateFrom b w = .ok p → p = w.foldl Place.step b
  | b, [], h => by
    cases h
    rfl
  | b, name :: rest, h => by
    rw [locateFrom] at h
    split_ifs at h with hlong hrest
    · cases h
      rw [List.isEmpty_iff.mp hrest]
      rfl
    · split at h
      · cases h
      · cases h
      · exact foldl_step_of_locateFrom (b := b.step name) h

theorem place_of_locate (h : t.locate w = .ok p) : p = w.place t.here := foldl_step_of_locateFrom h

theorem locateFrom_mono (hd : ∀ q, t.isDirectory q = true → t'.isDirectory q = true) :
    ∀ {b : Place} {w : List String}, t.locateFrom b w = .ok p → t'.locateFrom b w = .ok p
  | b, [], h => h
  | b, name :: rest, h => by
    rw [locateFrom] at h ⊢
    split_ifs at h ⊢ with hlong hrest
    · exact h
    · split at h
      · cases h
      · cases h
      · rename_i hg
        rw [isDirectory_iff.mp (hd _ (isDirectory_iff.mpr hg))]
        exact locateFrom_mono hd h

/-- **A way leads there in every tree that has the directories.** -/
theorem locate_mono (hh : t'.here = t.here)
    (hd : ∀ q, t.isDirectory q = true → t'.isDirectory q = true) (h : t.locate w = .ok p) :
    t'.locate w = .ok p := by
  unfold locate at h ⊢
  rw [hh]
  exact locateFrom_mono hd h

theorem directory?_eq_some_iff {d : Place} :
    t.directory? w = some d ↔ t.locate w = .ok d ∧ t.isDirectory d = true := by
  unfold directory?
  cases h : t.locate w with
  | ok p =>
    by_cases hd : t.isDirectory p = true
    · simp only [hd, if_true, Option.some_inj, Except.ok.injEq]
      exact ⟨fun he => ⟨he, he ▸ hd⟩, And.left⟩
    · simp only [hd, Bool.false_eq_true, if_false, reduceCtorEq, Except.ok.injEq, false_iff,
        not_and]
      exact fun he => he ▸ hd
  | error err => simp

theorem leadsToDirectory_iff_exists : t.leadsToDirectory w = true ↔
    ∃ d, t.locate w = .ok d ∧ t.isDirectory d = true := by
  rw [leadsToDirectory, Option.isSome_iff_exists]
  exact exists_congr fun d => directory?_eq_some_iff

/-- Ways lead to the same directories in trees that have the same. -/
theorem directory?_congr (hh : t'.here = t.here)
    (hd : ∀ q, t'.isDirectory q = t.isDirectory q) (w : Way) :
    t'.directory? w = t.directory? w := by
  refine Option.ext fun d => ?_
  rw [directory?_eq_some_iff, directory?_eq_some_iff, hd]
  exact and_congr_left fun _ =>
    ⟨locate_mono hh.symm fun q hq => hd q ▸ hq, locate_mono hh fun q hq => (hd q).symm ▸ hq⟩

theorem Closed.locateFrom_eq_ok_iff (ht : t.Closed) : ∀ {b : Place} {w : List String}, ".." ∉ w →
    t.isDirectory b = true → (t.locateFrom b w = .ok p ↔ p = b ++ w.map .text ∧
      (∀ n ∈ w, n.utf8ByteSize ≤ maxFileName) ∧ t.isDirectory (b ++ w.dropLast.map .text) = true)
  | b, [], _, hb => by simp [locateFrom, hb, eq_comm]
  | b, n :: rest, hw, hb => by
    rw [List.mem_cons, not_or] at hw
    rw [locateFrom, Place.step_of_ne (Ne.symm hw.1), List.forall_mem_cons]
    by_cases hn : maxFileName < n.utf8ByteSize
    · simp [hn]
    · rw [if_neg hn]
      cases rest with
      | nil => simp [hb, not_lt.mp hn, eq_comm]
      | cons m rest =>
        have hb' : b ++ (n :: m :: rest).map .text = (b ++ [.text n]) ++ (m :: rest).map .text := by
          simp
        have hd' : b ++ (n :: m :: rest).dropLast.map .text =
            (b ++ [.text n]) ++ (m :: rest).dropLast.map .text := by simp
        rw [hb', hd', if_neg (by simp)]
        have hup (hd : t.isDirectory (b ++ [.text n] ++ (m :: rest).dropLast.map .text) = true) :
            t.get? (b ++ [.text n]) = some .directory :=
          isDirectory_iff.mp (ht.isDirectory_of_prefix (List.prefix_append (b ++ [.text n]) _) hd)
        rcases hg : t.get? (b ++ [.text n]) with _ | _ | _ <;> rw [hg]
        · simp only [reduceCtorEq, false_iff, not_and]
          exact fun _ _ hd => by simpa [hg] using hup hd
        · simp only [reduceCtorEq, false_iff, not_and]
          exact fun _ _ hd => by simpa [hg] using hup hd
        · simp only [Closed.locateFrom_eq_ok_iff ht hw.2 (isDirectory_iff.mpr hg), not_lt.mp hn,
            true_and]

/-- **Where a way leads.** -/
theorem Closed.locate_eq_ok_iff (ht : t.Closed) (hw : w.Plain) : t.locate w = .ok p ↔
    p = w.place t.here ∧ w.Short ∧ t.isDirectory (w.above.place t.here) = true := by
  rw [hw.place_eq, hw.above.place_eq]
  exact ht.locateFrom_eq_ok_iff hw (isDirectory_start t w)

/-- A short way on which no file stands can only lead nowhere. -/
theorem locateFrom_eq_error {err : IoError} : ∀ {b : Place} {w : List String}, ".." ∉ w →
    (∀ n ∈ w, n.utf8ByteSize ≤ maxFileName) → (∀ q, q <+: w.map .text → t.file? (b ++ q) = none) →
    t.locateFrom b w = .error err → err = .notFound
  | _, [], _, _, _, h => by cases h
  | b, n :: rest, hw, hs, hf, h => by
    rw [List.mem_cons, not_or] at hw
    rw [List.forall_mem_cons] at hs
    rw [locateFrom, Place.step_of_ne (Ne.symm hw.1), if_neg (not_lt.mpr hs.1)] at h
    split at h
    · cases h
    · split at h
      · cases h
        rfl
      · rename_i c hg
        have hn : t.file? (b ++ [.text n]) = none := hf [.text n] ⟨rest.map .text, rfl⟩
        rw [file?_eq_some_iff.mpr hg] at hn
        cases hn
      · refine locateFrom_eq_error hw.2 hs.2 (fun q hq => ?_) h
        rw [List.append_assoc, List.singleton_append]
        exact hf (.text n :: q) ((List.cons_prefix_cons).mpr ⟨rfl, hq⟩)

theorem locate_eq_error {err : IoError} (hw : w.Plain) (hs : w.Short)
    (hf : ∀ q, q <+: w.place t.here → t.file? q = none) (h : t.locate w = .error err) :
    err = .notFound := by
  refine locateFrom_eq_error hw hs (fun q hq => hf _ ?_) h
  rw [hw.place_eq]
  exact (List.prefix_append_right_inj _).mpr hq

/-! ## Creating directories -/

/-- The tree `t'` has the files of `t`, its directories and those on the way to `q`. -/
structure Made (t t' : FileTree) (q : Place) : Prop where
  here : t'.here = t.here
  closed : t'.Closed
  file? : ∀ p, t'.file? p = t.file? p
  isDirectory : ∀ p, t'.isDirectory p = true ↔ t.isDirectory p = true ∨ p <+: q

theorem Closed.made_self (ht : t.Closed) (hd : t.isDirectory q = true) : Made t t q where
  here := rfl
  closed := ht
  file? _ := rfl
  isDirectory p := by
    constructor
    · exact .inl
    · rintro (hp | hp)
      · exact hp
      · exact ht.isDirectory_of_prefix hp hd

theorem leadsToDirectory_iff (ht : t.Closed) (hw : w.Plain) :
    t.leadsToDirectory w = true ↔ w.Short ∧ t.isDirectory (w.place t.here) = true := by
  rw [leadsToDirectory_iff_exists]
  constructor
  · rintro ⟨d, hl, hd⟩
    obtain ⟨rfl, hs, -⟩ := (ht.locate_eq_ok_iff hw).mp hl
    exact ⟨hs, hd⟩
  · rintro ⟨hs, hd⟩
    have hup : w.above.place t.here <+: w.place t.here := by
      rw [hw.place_eq, hw.above.place_eq]
      exact (List.prefix_append_right_inj _).mpr ((List.dropLast_prefix _).map _)
    exact ⟨_, (ht.locate_eq_ok_iff hw).mpr ⟨rfl, hs, ht.isDirectory_of_prefix hup hd⟩, hd⟩

/-- A directory that was created had nothing in its place. -/
theorem exists_of_createDirectory (h : t.createDirectory r w = .ok t') :
    ∃ p, t.locate w = .ok p ∧ t.get? p = none ∧ t' = t.put p .directory := by
  obtain ⟨p, hp, hput⟩ := bind_eq_ok_iff.mp h
  split at hput
  · cases hput
  · rename_i hn
    obtain ⟨-, -, hput⟩ := bind_eq_ok_iff.mp hput
    exact ⟨p, hp, hn, (Except.ok.inj hput).symm⟩

theorem made_of_createDirectory (ht : t.Closed) (hw : w.Plain)
    (h : t.createDirectory r w = .ok t') : Made t t' (w.place t.here) := by
  obtain ⟨p, hp, hn, rfl⟩ := exists_of_createDirectory h
  obtain ⟨rfl, -, hd⟩ := (ht.locate_eq_ok_iff hw).mp hp
  have hclear : ¬ t.isDirectory (w.place t.here) = true := by simp [isDirectory_iff, hn]
  have hg := isGiven_eq_false hclear
  rw [← dropLast_place_of_clear hw hclear] at hd
  refine ⟨rfl, ht.put hg hd (.inl rfl), fun q => file?_put_directory hg hn, fun q => ?_⟩
  rw [isDirectory_put_directory hg]
  constructor
  · rintro (rfl | hq)
    · exact .inr List.prefix_rfl
    · exact .inl hq
  · rintro (hq | hq)
    · exact .inr hq
    · -- a prefix of the place is the place itself or leads no further than its directory
      have hne : w.place t.here ≠ [] := fun he => by simp [he, isGiven] at hg
      rw [← List.dropLast_concat_getLast hne, List.prefix_concat_iff,
        List.dropLast_concat_getLast hne] at hq
      exact hq.imp_right fun hq => ht.isDirectory_of_prefix hq hd

/-- A directory that cannot be created may be there already. -/
theorem made_of_leads {err : IoError} (ht : t.Closed) (hw : w.Plain)
    (h : (t, if t.leadsToDirectory w then .ok () else .error err) = (t', Except.ok ())) :
    Made t t' (w.place t.here) := by
  split at h
  · rename_i hl
    cases h
    exact ht.made_self ((leadsToDirectory_iff ht hw).mp hl).2
  · cases h

theorem Made.trans {t'' : FileTree} (h : Made t t' p) (h' : Made t' t'' q) (hpq : p <+: q) :
    Made t t'' q where
  here := h'.here.trans h.here
  closed := h'.closed
  file? p := (h'.file? p).trans (h.file? p)
  isDirectory p := by
    rw [h'.isDirectory, h.isDirectory, or_assoc]
    exact or_congr_right (or_iff_right_of_imp fun hp => hp.trans hpq)

section Back

variable {absolute : Bool} {name : String} {back : List String}

theorem plain_reverse (h : ".." ∉ back) : Way.Plain ⟨absolute, back.reverse⟩ := by
  simpa [Way.Plain] using h

theorem above_reverse_cons :
    Way.above ⟨absolute, (name :: back).reverse⟩ = ⟨absolute, back.reverse⟩ := by
  simp [Way.above]

theorem place_reverse_prefix (h : ".." ∉ name :: back) (here : Place) :
    Way.place ⟨absolute, back.reverse⟩ here <+:
      Way.place ⟨absolute, (name :: back).reverse⟩ here := by
  rw [List.mem_cons, not_or] at h
  have hplace := Way.place_along (Ne.symm h.1) ⟨absolute, back.reverse⟩ here
  rw [List.reverse_cons]
  exact ⟨_, hplace.symm⟩

/-- **What creating a directory with those above it does.** -/
theorem made_of_createWay : ∀ {back : List String} {t t' : FileTree}, t.Closed → ".." ∉ back →
    t.createWay r absolute back = (t', .ok ()) →
      Made t t' (Way.place ⟨absolute, back.reverse⟩ t.here)
  | [], t, t', ht, _, h => by
    cases h
    exact ht.made_self (isDirectory_start t ⟨absolute, []⟩)
  | name :: back, t, t', ht, hw, h => by
    have hback : ".." ∉ back := fun hb => hw (List.mem_cons_of_mem _ hb)
    have hplain : Way.Plain ⟨absolute, (name :: back).reverse⟩ := plain_reverse hw
    rw [createWay] at h
    split at h
    · rename_i s hs
      cases h
      exact made_of_createDirectory ht hplain hs
    · split at h
      · cases h
      · rename_i s hs
        have hm := made_of_createWay ht hback hs
        have hup : Way.place ⟨absolute, back.reverse⟩ t.here <+:
            Way.place ⟨absolute, (name :: back).reverse⟩ t.here := place_reverse_prefix hw t.here
        split at h
        · rename_i u hu
          cases h
          exact hm.trans (hm.here ▸ made_of_createDirectory hm.closed hplain hu) hup
        · exact hm.trans (hm.here ▸ made_of_leads hm.closed hplain h) hup
    · exact made_of_leads ht hplain h

/-- A directory can be created in another one unless a file is in its place. -/
theorem createDirectory_or_leads (ht : t.Closed) (hw : w.Plain) (hs : w.Short)
    (hd : t.isDirectory (w.above.place t.here) = true) (hf : t.file? (w.place t.here) = none) :
    (∃ t', t.createDirectory {} w = .ok t') ∨
      t.createDirectory {} w = .error .alreadyExists ∧ t.leadsToDirectory w = true := by
  have hl : t.locate w = .ok (w.place t.here) := (ht.locate_eq_ok_iff hw).mpr ⟨rfl, hs, hd⟩
  unfold createDirectory
  rw [hl]
  by_cases hwd : t.isDirectory (w.place t.here) = true
  · refine .inr ⟨?_, (leadsToDirectory_iff ht hw).mpr ⟨hs, hwd⟩⟩
    simp only [bind_ok, isDirectory_iff.mp hwd]
  · refine .inl ⟨t.put (w.place t.here) .directory, ?_⟩
    simp only [bind_ok, get?_of_file?_eq_none hf hwd]
    rfl

/-- A directory cannot be created in one that is missing. -/
theorem createDirectory_eq_notFound (ht : t.Closed) (hw : w.Plain) (hs : w.Short)
    (hd : ¬ t.isDirectory (w.above.place t.here) = true)
    (hf : ∀ q, q <+: w.place t.here → t.file? q = none) :
    t.createDirectory {} w = .error .notFound := by
  unfold createDirectory
  cases hl : t.locate w with
  | ok p => exact absurd ((ht.locate_eq_ok_iff hw).mp hl).2.2 hd
  | error err =>
    rw [locate_eq_error hw hs hf hl]
    rfl

/-- **Directories can be created when nothing is refused and no file is in the way.** -/
theorem exists_createWay : ∀ {back : List String} {t : FileTree}, t.Closed → ".." ∉ back →
    (∀ n ∈ back, n.utf8ByteSize ≤ maxFileName) →
    (∀ q, q <+: Way.place ⟨absolute, back.reverse⟩ t.here → t.file? q = none) →
      ∃ t', t.createWay {} absolute back = (t', .ok ())
  | [], t, _, _, _, _ => ⟨t, rfl⟩
  | name :: back, t, ht, hw, hs, hf => by
    have hback : ".." ∉ back := fun hb => hw (List.mem_cons_of_mem _ hb)
    have hplain : Way.Plain ⟨absolute, (name :: back).reverse⟩ := plain_reverse hw
    have hshort : Way.Short ⟨absolute, (name :: back).reverse⟩ := by
      simpa [Way.Short, or_imp, forall_and, and_comm] using hs
    have hup : Way.place ⟨absolute, back.reverse⟩ t.here <+:
        Way.place ⟨absolute, (name :: back).reverse⟩ t.here := place_reverse_prefix hw t.here
    have habove : Way.above ⟨absolute, (name :: back).reverse⟩ = ⟨absolute, back.reverse⟩ :=
      above_reverse_cons
    rw [createWay]
    by_cases hd : t.isDirectory (Way.place ⟨absolute, back.reverse⟩ t.here) = true
    · rcases createDirectory_or_leads ht hplain hshort (habove ▸ hd) (hf _ List.prefix_rfl) with
        ⟨t', h⟩ | ⟨h, hl⟩
      · exact ⟨t', by rw [h]⟩
      · exact ⟨t, by simp only [h, if_pos hl]⟩
    · -- the directory above is missing, so it is created first
      have herr : t.createDirectory {} ⟨absolute, (name :: back).reverse⟩ = .error .notFound :=
        createDirectory_eq_notFound ht hplain hshort (habove ▸ hd) hf
      obtain ⟨s, hsok⟩ := exists_createWay ht hback (fun n hn => hs n (List.mem_cons_of_mem _ hn))
        fun q hq => hf q (hq.trans hup)
      have hm := made_of_createWay ht hback hsok
      have hsd : s.isDirectory (Way.place ⟨absolute, back.reverse⟩ s.here) = true := by
        rw [hm.here, hm.isDirectory]
        exact .inr List.prefix_rfl
      have hsf : s.file? (Way.place ⟨absolute, (name :: back).reverse⟩ s.here) = none := by
        rw [hm.here, hm.file?]
        exact hf _ List.prefix_rfl
      rcases createDirectory_or_leads hm.closed hplain hshort (habove ▸ hsd) hsf with
        ⟨t', h⟩ | ⟨h, hl⟩
      · exact ⟨t', by simp only [herr, hsok, h]⟩
      · exact ⟨s, by simp only [herr, hsok, h, if_pos hl]⟩

end Back

theorem made_of_createDirectories (ht : t.Closed) (hw : w.Plain)
    (h : t.createDirectories r w = (t', .ok ())) : Made t t' (w.place t.here) := by
  have hback : ".." ∉ w.names.reverse := mt List.mem_reverse.mp hw
  have hm := made_of_createWay ht hback h
  rwa [List.reverse_reverse] at hm

theorem exists_createDirectories (ht : t.Closed) (hw : w.Plain) (hs : w.Short)
    (hf : ∀ q, q <+: w.place t.here → t.file? q = none) :
    ∃ t', t.createDirectories {} w = (t', .ok ()) := by
  have hback : ".." ∉ w.names.reverse := mt List.mem_reverse.mp hw
  refine exists_createWay ht hback (fun n hn => hs n (List.mem_reverse.mp hn)) ?_
  rwa [List.reverse_reverse]

/-! ## Writing one file -/

/-- A file can be written at a path: its name is one, no directory has its place, and no file is on
the way to it. -/
structure Writable (t : FileTree) (path : String) : Prop where
  named : endsInDirectory path = false
  short : (Way.ofPath path).Short
  clear : ¬ t.isDirectory ((Way.ofPath path).place t.here) = true
  free : ∀ q, q <+: (Way.ofPath path).above.place t.here → t.file? q = none

/-- The tree `t'` is `t` with a file written at `q`, and the directories that lead there. -/
structure Wrote (t t' : FileTree) (q : Place) (c : Bytes) : Prop where
  here : t'.here = t.here
  closed : t'.Closed
  file? : ∀ p, t'.file? p = if p = q then some c else t.file? p
  isDirectory : ∀ p, t'.isDirectory p = true ↔ t.isDirectory p = true ∨ p <+: q.dropLast

/-- A file that was written completely. -/
theorem exists_of_writeFile (h : t.writeFile r w c = (t', .ok ())) :
    ∃ p, t.locate w = .ok p ∧ ¬ t.isDirectory p = true ∧ t' = t.put p (.file c) := by
  unfold writeFile at h
  split at h
  · cases h
  · rename_i p hp
    split_ifs at h with hd
    · cases h
    · split at h
      · cases h
      · obtain ⟨hput, hstore⟩ := Prod.mk.inj h
        refine ⟨p, hp, hd, ?_⟩
        rw [← hput, Refusals.fst_store_of_ok hstore]

theorem writeFile_of_locate (hl : t.locate w = .ok p) (hd : ¬ t.isDirectory p = true) (c : Bytes) :
    t.writeFile {} w c = (t.put p (.file c), .ok ()) := by
  unfold writeFile
  rw [hl]
  exact if_neg hd

theorem Made.wrote {s : FileTree} (hm : Made t s (w.above.place t.here)) (hw : w.Plain)
    (h : s.writeFile r w c = (t', .ok ())) : Wrote t t' (w.place t.here) c := by
  obtain ⟨p, hl, hclear, rfl⟩ := exists_of_writeFile h
  obtain ⟨rfl, -, hd⟩ := (hm.closed.locate_eq_ok_iff hw).mp hl
  have hdrop := dropLast_place_of_clear hw hclear
  have hg := isGiven_eq_false hclear
  rw [← hdrop] at hd
  rw [hm.here] at hdrop hg hclear hd ⊢
  refine ⟨hm.here, hm.closed.put hg hd (.inr hclear), fun p => ?_, fun p => ?_⟩
  · rw [file?_put_file hg, hm.file?]
  · rw [isDirectory_put_file hclear, hm.isDirectory, hdrop]

variable {path : String}

theorem writePath_eq_ok_iff : t.writePath r path c = (t', .ok ()) ↔
    ∃ s, t.createDirectories r (Way.ofPath path).above = (s, .ok ()) ∧
      endsInDirectory path = false ∧ s.writeFile r (Way.ofPath path) c = (t', .ok ()) := by
  rcases hs : t.createDirectories r (Way.ofPath path).above with ⟨s, result⟩
  simp only [writePath, hs]
  cases result with
  | error err => simp
  | ok =>
    by_cases hd : endsInDirectory path = true
    · by_cases hslash : endsInSlash path = true
      · simp [hslash, hd]
      · cases hr : s.readFile {} (Way.ofPath path) <;> simp [hslash, hd, hr, Except.bind]
    · have hslash : endsInSlash path = false := by
        rw [Bool.not_eq_true] at hd
        exact (Bool.or_eq_false_iff.mp hd).1
      simp [hslash, hd]

/-- **What writing a file does, and what it needs.** -/
theorem wrote_of_writePath (ht : t.Closed) (hw : (Way.ofPath path).Plain)
    (h : t.writePath r path c = (t', .ok ())) :
    t.Writable path ∧ Wrote t t' ((Way.ofPath path).place t.here) c := by
  obtain ⟨s, hs, hnamed, hok⟩ := writePath_eq_ok_iff.mp h
  have hm := made_of_createDirectories ht hw.above hs
  obtain ⟨p, hl, hclear, -⟩ := exists_of_writeFile hok
  obtain ⟨rfl, hshort, hd⟩ := (hm.closed.locate_eq_ok_iff hw).mp hl
  rw [hm.here] at hclear hd
  refine ⟨⟨hnamed, hshort, fun hd => hclear ?_, fun q hq => ?_⟩, hm.wrote hw hok⟩
  · exact (hm.isDirectory _).mpr (.inl hd)
  · rw [← hm.file?]
    exact file?_eq_none_of_isDirectory (hm.closed.isDirectory_of_prefix hq hd)

/-- **A file can be written whenever nothing prevents it.** -/
theorem exists_writePath (ht : t.Closed) (hw : (Way.ofPath path).Plain) (h : t.Writable path)
    (c : Bytes) : ∃ t', t.writePath {} path c = (t', .ok ()) := by
  obtain ⟨s, hs⟩ := exists_createDirectories ht hw.above h.short.above h.free
  have hm := made_of_createDirectories ht hw.above hs
  have hd : s.isDirectory ((Way.ofPath path).above.place s.here) = true := by
    rw [hm.here, hm.isDirectory]
    exact .inr List.prefix_rfl
  have hn : ¬ s.isDirectory ((Way.ofPath path).place s.here) = true := by
    rw [hm.here, hm.isDirectory, ← dropLast_place_of_clear hw h.clear, not_or]
    refine ⟨h.clear, fun hp => h.clear ?_⟩
    -- only the root is a prefix of the place above it
    have hlen := hp.length_le
    rw [List.length_dropLast] at hlen
    have hnil : (Way.ofPath path).place t.here = [] := List.eq_nil_of_length_eq_zero (by omega)
    rw [hnil]
    exact isDirectory_of_isGiven rfl
  have hl := (hm.closed.locate_eq_ok_iff hw).mpr ⟨rfl, h.short, hd⟩
  exact ⟨_, writePath_eq_ok_iff.mpr ⟨s, hs, h.named, writeFile_of_locate hl hn c⟩⟩

end FileTree

end Rollout
