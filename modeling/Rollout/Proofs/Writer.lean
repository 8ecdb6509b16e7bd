import Rollout.Proofs.Cleaning

/-!
# Runs one after the other

* `contents?`: what a list of files puts at a place.
* `FileTree.Written`, `FileTree.written_of_writeAll`: what writing a list does;
  **`FileTree.exists_writeAll`**: it succeeds again on a tree with no other files,
  `FileTree.Within`.
* `Writer.Owns`: the files that a writer takes for those of an earlier run, by their places.
* `Writer.Owned`: files that their writer knows again.
* **`Writer.Owned.file?_write_again`**: a later run ends as if they had never been written.
* `Writer.LeavesNoTrace`, **`Writer.Owned.leavesNoTrace`**: all that a run leaves behind.
-/

namespace Rollout

/-! ## Writing lists of files -/

/-- Where a file goes, seen from the working directory. -/
def RenderedArtifact.target (here : Place) (a : RenderedArtifact) : Place :=
  (Way.ofPath a.path).place here

/-- What a list of files puts at a place; the last one counts. -/
def contents? (here : Place) : List RenderedArtifact → Place → Option Bytes
  | [], _ => none
  | a :: as, p =>
    (contents? here as p).or (if p = a.target here then some (.ofText a.contents) else none)

section Contents

variable {here : Place} {as : List RenderedArtifact} {p : Place}

theorem contents?_eq_none_iff : contents? here as p = none ↔ p ∉ as.map (·.target here) := by
  induction as with
  | nil => simp [contents?]
  | cons a as ih =>
    rw [contents?, Option.or_eq_none_iff, ih, List.map_cons, List.mem_cons, not_or, and_comm]
    by_cases hp : p = a.target here <;> simp [hp]

theorem contents?_of_mem {a : RenderedArtifact} : ∀ {as : List RenderedArtifact},
    (as.map (·.target here)).Nodup → a ∈ as →
      contents? here as (a.target here) = some (.ofText a.contents)
  | b :: as, hn, ha => by
    rw [List.map_cons, List.nodup_cons] at hn
    rw [contents?]
    rcases List.mem_cons.mp ha with rfl | ha
    · rw [contents?_eq_none_iff.mpr hn.1, if_pos rfl, Option.none_or]
    · rw [contents?_of_mem hn.2 ha, Option.some_or]

end Contents

namespace FileTree

open Writer

variable {r : Refusals} {t t' : FileTree} {as : List RenderedArtifact}

/-- The tree `t'` is `t` with the files `as` written, and the directories that lead to them. -/
structure Written (t t' : FileTree) (as : List RenderedArtifact) : Prop where
  here : t'.here = t.here
  closed : t'.Closed
  file? : ∀ p, t'.file? p = (contents? t.here as p).or (t.file? p)
  isDirectory : ∀ p, t'.isDirectory p = true ↔
    t.isDirectory p = true ∨ ∃ a ∈ as, p <+: (a.target t.here).dropLast
  short : ∀ a ∈ as, (Way.ofPath a.path).Short

theorem writeAll_cons_eq_ok_iff {a : RenderedArtifact} : writeAll r t (a :: as) = (t', .ok ()) ↔
    ∃ s, t.writePath r a.path (.ofText a.contents) = (s, .ok ()) ∧
      writeAll r s as = (t', .ok ()) := by
  rcases hs : t.writePath r a.path (.ofText a.contents) with ⟨s, err | ⟨⟩⟩ <;>
    simp [writeAll, hs]

/-- **What writing a list of files does.** -/
theorem written_of_writeAll : ∀ {as : List RenderedArtifact} {t : FileTree}, t.Closed →
    (∀ a ∈ as, (Way.ofPath a.path).Plain) → writeAll r t as = (t', .ok ()) → Written t t' as
  | [], t, ht, _, h => by
    cases h
    exact ⟨rfl, ht, fun _ => rfl, by simp, by simp⟩
  | a :: as, t, ht, hp, h => by
    rw [List.forall_mem_cons] at hp
    obtain ⟨s, hs, h⟩ := writeAll_cons_eq_ok_iff.mp h
    obtain ⟨ha, hw⟩ := wrote_of_writePath ht hp.1 hs
    change Wrote t s (a.target t.here) _ at hw
    have hr := written_of_writeAll hw.closed hp.2 h
    refine ⟨hr.here.trans hw.here, hr.closed, fun p => ?_, fun p => ?_, ?_⟩
    · rw [hr.file?, hw.here, hw.file?, contents?, Option.or_assoc]
      by_cases hpa : p = a.target t.here <;> simp [hpa]
    · rw [hr.isDirectory, hw.here, hw.isDirectory, or_assoc]
      simp
    · exact List.forall_mem_cons.mpr ⟨ha.short, hr.short⟩

/-- The tree `s` has no files but those of `t`, and no directories but those of `t'`. -/
structure Within (s t t' : FileTree) : Prop where
  closed : s.Closed
  here : s.here = t.here
  file? : ∀ p, t.file? p = none → s.file? p = none
  isDirectory : ∀ p, s.isDirectory p = true → t'.isDirectory p = true

/-- The same file written to both trees. -/
theorem Within.wrote {s s' u : FileTree} {q : Place} {b c : Bytes} (h : Within s t t')
    (hs : Wrote s s' q b) (hu : Wrote t u q c)
    (hd : ∀ p, p <+: q.dropLast → t'.isDirectory p = true) : Within s' u t' where
  closed := hs.closed
  here := hs.here.trans (h.here.trans hu.here.symm)
  file? p := by
    rw [hu.file?, hs.file?]
    by_cases hp : p = q
    · simp [hp]
    · rw [if_neg hp, if_neg hp]
      exact h.file? p
  isDirectory p hp := ((hs.isDirectory p).mp hp).elim (h.isDirectory p) (hd p)

theorem Within.writable {s : FileTree} {path : String} (h : Within s t t') (ht : t.Writable path)
    (hf : (t'.file? ((Way.ofPath path).place t.here)).isSome) : s.Writable path where
  named := ht.named
  short := ht.short
  clear hd := by
    rw [h.here] at hd
    rw [file?_eq_none_of_isDirectory (h.isDirectory _ hd)] at hf
    cases hf
  free q hq := by
    rw [h.here] at hq
    exact h.file? q (ht.free q hq)

/-- **What could be written once can be written on any tree with no other files** whose directories
are none that the files replace. -/
theorem exists_writeAll : ∀ {as : List RenderedArtifact} {t s : FileTree}, t.Closed →
    (∀ a ∈ as, (Way.ofPath a.path).Plain) → writeAll r t as = (t', .ok ()) → Within s t t' →
      ∃ s', writeAll {} s as = (s', .ok ())
  | [], _, s, _, _, _, _ => ⟨s, rfl⟩
  | a :: as, t, s, ht, hp, h, hs => by
    rw [List.forall_mem_cons] at hp
    obtain ⟨u, hu, h⟩ := writeAll_cons_eq_ok_iff.mp h
    obtain ⟨ha, hw⟩ := wrote_of_writePath ht hp.1 hu
    have hrest := written_of_writeAll hw.closed hp.2 h
    -- the file stands where `s` would have to have its directory
    have hthere : (t'.file? (a.target t.here)).isSome := by
      rw [hrest.file?, hw.file?, RenderedArtifact.target, if_pos rfl]
      simp
    obtain ⟨s₁, hs₁⟩ := exists_writePath hs.closed hp.1 (hs.writable ha hthere) (.ofText a.contents)
    obtain ⟨-, hw₁⟩ := wrote_of_writePath hs.closed hp.1 hs₁
    rw [hs.here] at hw₁
    have hnext : Within s₁ u t' := hs.wrote hw₁ hw fun p hp =>
      (hrest.isDirectory p).mpr (.inl ((hw.isDirectory p).mpr (.inr hp)))
    obtain ⟨s', hs'⟩ := exists_writeAll hw.closed hp.2 h hnext
    exact ⟨s', writeAll_cons_eq_ok_iff.mpr ⟨s₁, hs₁, hs'⟩⟩

end FileTree

/-! ## What a writer owns -/

namespace Writer

open FileTree

variable {w : Writer} {r : Refusals} {t t₁ : FileTree} {as bs : List RenderedArtifact} {n : Nat}
  {here p : Place} {c : Bytes}

/-- The writer takes a file at a place for one of an earlier run. -/
def Owns (w : Writer) (r : Refusals) (here p : Place) (c : Bytes) : Prop :=
  (∃ name, p = (Way.ofPath w.workflowDir).place here ++ [.text name] ∧
      w.ownsWorkflow name = true) ∨
    ∃ name, p = (Way.ofPath w.manifestDir).place here ++ [.text name] ∧
      ownsManifest name (readable r p c) = true

/-- No way to a directory of the writer leads back. -/
def Plain (w : Writer) : Prop :=
  (Way.ofPath w.manifestDir).Plain ∧ (Way.ofPath w.workflowDir).Plain

/-- No name of a directory of the writer is too long. -/
def Short (w : Writer) : Prop :=
  (Way.ofPath w.manifestDir).Short ∧ (Way.ofPath w.workflowDir).Short

/-- **What the writer owns is what cleaning removes**, if its directories can be reached. -/
theorem generated_iff_owns (ht : t.Closed) (hw : w.Plain) (hs : w.Short)
    (hp : t.file? p = some c) : w.Generated r t p c ↔ w.Owns r t.here p c := by
  have hdir {d : Way} {name : String} (hd : d.Plain) (hshort : d.Short)
      (hplace : p = d.place t.here ++ [.text name]) : t.leadsToDirectory d = true := by
    refine (leadsToDirectory_iff ht hd).mpr ⟨hshort, ?_⟩
    have hup := ht p (by rw [file?_eq_some_iff.mp hp]; rfl)
    rwa [hplace, List.dropLast_concat] at hup
  unfold Owns
  simp only [generated_iff, FoundIn, DirectlyIn]
  refine or_congr ?_ ?_
  · exact exists_congr fun name => and_congr_left fun _ =>
      and_iff_right_of_imp (hdir hw.2 hs.2)
  · exact exists_congr fun name => and_congr_left fun _ =>
      and_iff_right_of_imp (hdir hw.1 hs.1)

theorem not_stopped {e : IoError} : ¬ w.Stopped {} t e := by
  rintro ⟨_, -, -, ⟨_, h, -⟩ | (⟨_, h, -⟩ | ⟨_, _, h, -⟩) | ⟨_, _, -, -, _, h, -⟩⟩ <;> cases h

/-- Cleaning succeeds when nothing is refused. -/
theorem exists_clean (w : Writer) (t : FileTree) :
    ∃ n, w.clean {} t = ((w.clean {} t).1, .ok n) := by
  have h := swept_clean w {} t
  cases hr : (w.clean {} t).2 with
  | ok n => exact ⟨n, Prod.ext rfl hr⟩
  | error e => exact absurd (h.stopped e hr) not_stopped

theorem write_of_clean_error {e : IoError} (h : w.clean r t = (t₁, .error e)) :
    w.write r t as = (t₁, .error e) := by
  rw [write, h]

theorem write_of_clean_ok (h : w.clean r t = (t₁, .ok n)) : w.write r t as =
    ((writeAll r t₁ as).1, (writeAll r t₁ as).2.map fun () => as.length) := by
  rw [write, h]

theorem write_eq_ok_iff : w.write r t as = (t₁, .ok n) ↔ (∃ m, (w.clean r t).2 = .ok m) ∧
    writeAll r (w.clean r t).1 as = (t₁, .ok ()) ∧ n = as.length := by
  rcases hc : w.clean r t with ⟨s, e | m⟩
  · simp [write_of_clean_error hc]
  · rw [write_of_clean_ok hc]
    rcases h : writeAll r s as with ⟨s', err | ⟨⟩⟩ <;> simp [Except.map, eq_comm]

/-- **What cleaning leaves**, by the places of the files. -/
theorem file?_clean_eq_some_iff (ht : t.Closed) (hw : w.Plain) (hs : w.Short)
    (hok : (w.clean r t).2 = .ok n) :
    (w.clean r t).1.file? p = some c ↔ t.file? p = some c ∧ ¬ w.Owns r t.here p c := by
  have hswept := swept_clean w r t
  rw [hok] at hswept
  rw [hswept.file?_eq_some_iff]
  exact and_congr_right fun hp => not_congr (generated_iff_owns ht hw hs hp)

/-! ## Runs one after the other -/

/-- Files that the writer knows again, in both of its directories. -/
structure Owned (w : Writer) (r : Refusals) (here : Place) (as : List RenderedArtifact) : Prop where
  plain : ∀ a ∈ as, (Way.ofPath a.path).Plain
  owned : ∀ a ∈ as, w.Owns r here (a.target here) (.ofText a.contents)
  nodup : (as.map (·.target here)).Nodup
  manifest : ∃ a ∈ as, ∃ name, Way.ofPath a.path = (Way.ofPath w.manifestDir).along [name]
  workflow : ∃ a ∈ as, ∃ name, Way.ofPath a.path = (Way.ofPath w.workflowDir).along [name]

namespace Owned

/-- A file right below a directory of the writer: what its way and its place tell of that. -/
theorem of_along {a : RenderedArtifact} {d : Way} {name : String}
    (ha : Way.ofPath a.path = d.along [name]) (hp : (Way.ofPath a.path).Plain) (here : Place) :
    d.Plain ∧ ((Way.ofPath a.path).Short → d.Short) ∧ (a.target here).dropLast = d.place here := by
  have hsub : d.names ⊆ (Way.ofPath a.path).names := by
    rw [ha]
    exact List.subset_append_left _ _
  have hne : name ≠ ".." := by
    rintro rfl
    rw [ha] at hp
    exact hp (List.mem_append_right _ (List.mem_singleton_self _))
  refine ⟨fun hd => hp (hsub hd), fun hs n hn => hs n (hsub hn), ?_⟩
  rw [RenderedArtifact.target, ha, Way.place_along hne, List.dropLast_concat]

theorem isPlain (h : w.Owned r here as) : w.Plain := by
  obtain ⟨a, ha, _, hm⟩ := h.manifest
  obtain ⟨b, hb, _, hk⟩ := h.workflow
  exact ⟨(of_along hm (h.plain a ha) here).1, (of_along hk (h.plain b hb) here).1⟩

theorem isShort (h : w.Owned r here as) (hs : ∀ a ∈ as, (Way.ofPath a.path).Short) : w.Short := by
  obtain ⟨a, ha, _, hm⟩ := h.manifest
  obtain ⟨b, hb, _, hk⟩ := h.workflow
  exact ⟨(of_along hm (h.plain a ha) here).2.1 (hs a ha),
    (of_along hk (h.plain b hb) here).2.1 (hs b hb)⟩

theorem dropLast_eq (h : w.Owned r here as) {a : RenderedArtifact} (ha : a ∈ as) :
    (a.target here).dropLast = (Way.ofPath w.manifestDir).place here ∨
      (a.target here).dropLast = (Way.ofPath w.workflowDir).place here := by
  rcases h.owned a ha with ⟨name, hp, -⟩ | ⟨name, hp, -⟩
  · exact .inr (by rw [hp, List.dropLast_concat])
  · exact .inl (by rw [hp, List.dropLast_concat])

/-- The directories that lead to the files are those that lead to the directories of the writer. -/
theorem exists_prefix_iff (h : w.Owned r here as) :
    (∃ a ∈ as, p <+: (a.target here).dropLast) ↔
      p <+: (Way.ofPath w.manifestDir).place here ∨
        p <+: (Way.ofPath w.workflowDir).place here := by
  constructor
  · rintro ⟨a, ha, hp⟩
    rcases h.dropLast_eq ha with he | he
    · exact .inl (he ▸ hp)
    · exact .inr (he ▸ hp)
  · obtain ⟨a, ha, _, hm⟩ := h.manifest
    obtain ⟨b, hb, _, hk⟩ := h.workflow
    rintro (hp | hp)
    · exact ⟨a, ha, (of_along hm (h.plain a ha) here).2.2 ▸ hp⟩
    · exact ⟨b, hb, (of_along hk (h.plain b hb) here).2.2 ▸ hp⟩

theorem written (h : w.Owned r t.here as) (ht : t.Closed) (hw : w.write r t as = (t₁, .ok n)) :
    Written (w.clean r t).1 t₁ as :=
  written_of_writeAll ((swept_clean w r t).closed ht) h.plain (write_eq_ok_iff.mp hw).2.1

section Run

variable (h : w.Owned r t.here as) (ht : t.Closed)
  (hw : w.write r t as = (t₁, .ok n))

include h ht hw

theorem here_write : t₁.here = t.here :=
  (h.written ht hw).here.trans (swept_clean w r t).here

theorem file?_eq (p : Place) :
    t₁.file? p = (contents? t.here as p).or ((w.clean r t).1.file? p) := by
  rw [(h.written ht hw).file?, (swept_clean w r t).here]

theorem isDirectory_iff (p : Place) : t₁.isDirectory p = true ↔ t.isDirectory p = true ∨
    p <+: (Way.ofPath w.manifestDir).place t.here ∨
      p <+: (Way.ofPath w.workflowDir).place t.here := by
  rw [(h.written ht hw).isDirectory, (swept_clean w r t).isDirectory, (swept_clean w r t).here,
    h.exists_prefix_iff]

theorem file?_write {a : RenderedArtifact} (ha : a ∈ as) :
    t₁.file? (a.target t.here) = some (.ofText a.contents) := by
  rw [h.file?_eq ht hw, contents?_of_mem h.nodup ha, Option.some_or]

/-- Whatever the writer owns after a run was written by it. -/
theorem owns_file?_iff {p : Place} :
    (∃ c, t₁.file? p = some c ∧ w.Owns r t.here p c) ↔ p ∈ as.map (·.target t.here) := by
  have hshort := h.isShort (h.written ht hw).short
  obtain ⟨m, hm⟩ := (write_eq_ok_iff.mp hw).1
  constructor
  · rintro ⟨c, hc, ho⟩
    by_contra hp
    rw [h.file?_eq ht hw, contents?_eq_none_iff.mpr hp, Option.none_or,
      file?_clean_eq_some_iff ht h.isPlain hshort hm] at hc
    exact hc.2 ho
  · intro hp
    obtain ⟨a, ha, rfl⟩ := List.mem_map.mp hp
    exact ⟨_, h.file?_write ht hw ha, h.owned a ha⟩

/-- What cleaning removes after a run are its files. -/
theorem generated_iff (p : Place) :
    (∃ c, t₁.file? p = some c ∧ w.Generated r t₁ p c) ↔ p ∈ as.map (·.target t.here) := by
  have hshort := h.isShort (h.written ht hw).short
  rw [← h.owns_file?_iff ht hw, ← h.here_write ht hw]
  exact exists_congr fun c => and_congr_right fun hc =>
    generated_iff_owns (h.written ht hw).closed h.isPlain hshort hc

/-- **Cleaning after a run removes its files and no others**, and counts them. -/
theorem file?_clean_write {m : Nat} (hm : (w.clean r t₁).2 = .ok m) : (∀ p,
    (w.clean r t₁).1.file? p = if p ∈ as.map (·.target t.here) then none else t₁.file? p) ∧
      m = as.length := by
  obtain ⟨gone, hremoved, howned, hall⟩ := (swept_clean w r t₁).removed
  have hmem (p : Place) : p ∈ gone ↔ p ∈ as.map (·.target t.here) := by
    rw [← h.generated_iff ht hw]
    exact ⟨howned p, fun ⟨c, hc, ho⟩ => (hall m hm).2 p c hc ho⟩
  refine ⟨fun p => ?_, ?_⟩
  · rw [hremoved.file?]
    simp only [hmem]
  · have hperm := (List.perm_ext_iff_of_nodup hremoved.nodup h.nodup).mpr hmem
    rw [(hall m hm).1, hperm.length_eq, List.length_map]

/-- A later run finds what the first one found, without the files that it replaced. -/
theorem file?_clean_write_eq {m : Nat} (hm : (w.clean r t₁).2 = .ok m) (p : Place) :
    (w.clean r t₁).1.file? p =
      if p ∈ as.map (·.target t.here) then none else (w.clean r t).1.file? p := by
  rw [(h.file?_clean_write ht hw hm).1]
  split
  · rfl
  · rename_i hp
    rw [h.file?_eq ht hw, contents?_eq_none_iff.mpr hp, Option.none_or]

/-- **A later run ends as if the first had not been**, unless that one replaced a file that neither
owns. -/
theorem file?_write_again (hb : w.Owned r t.here bs) {t₂ t₃ : FileTree} {m k : Nat}
    (hwb : w.write r t bs = (t₃, .ok m)) (hw₂ : w.write r t₁ bs = (t₂, .ok k))
    (hfree : ∀ a ∈ as, a.target t.here ∉ bs.map (·.target t.here) →
      (w.clean r t).1.file? (a.target t.here) = none) (p : Place) :
    t₂.file? p = t₃.file? p := by
  have hhere := h.here_write ht hw
  obtain ⟨l, hl⟩ := (write_eq_ok_iff.mp hw₂).1
  rw [(hhere ▸ hb : w.Owned r t₁.here bs).file?_eq (h.written ht hw).closed hw₂,
    hb.file?_eq ht hwb, hhere, h.file?_clean_write_eq ht hw hl]
  by_cases hp : p ∈ bs.map (·.target t.here)
  · obtain ⟨x, hx, rfl⟩ := List.mem_map.mp hp
    rw [contents?_of_mem hb.nodup hx, Option.some_or, Option.some_or]
  · split
    · rename_i ha
      obtain ⟨x, hx, rfl⟩ := List.mem_map.mp ha
      rw [hfree x hx hp]
    · rfl

end Run

/-- **A later run succeeds** if the earlier ones did and nothing is refused. -/
theorem exists_write_again (h : w.Owned {} t.here as) (hb : w.Owned {} t.here bs) (ht : t.Closed)
    {t₃ : FileTree} {m : Nat} (hw : w.write {} t as = (t₁, .ok n))
    (hwb : w.write {} t bs = (t₃, .ok m)) : ∃ t₂, w.write {} t₁ bs = (t₂, .ok bs.length) := by
  have hhere := h.here_write ht hw
  obtain ⟨l, hl⟩ := exists_clean w t₁
  have hl : (w.clean {} t₁).2 = .ok l := by rw [hl]
  have hswept := swept_clean w {} t₁
  have hwithin : Within (w.clean {} t₁).1 (w.clean {} t).1 t₃ :=
    { closed := hswept.closed (h.written ht hw).closed
      here := by rw [hswept.here, (swept_clean w {} t).here, hhere]
      file? := fun p hp => by rw [h.file?_clean_write_eq ht hw hl, hp, ite_self]
      isDirectory := fun p hp => by
        rwa [hswept.isDirectory, h.isDirectory_iff ht hw, ← hb.isDirectory_iff ht hwb] at hp }
  obtain ⟨t₂, ht₂⟩ := exists_writeAll ((swept_clean w {} t).closed ht) hb.plain
    (write_eq_ok_iff.mp hwb).2.1 hwithin
  exact ⟨t₂, write_eq_ok_iff.mpr ⟨⟨l, hl⟩, ht₂, rfl⟩⟩

end Owned

/-- A run that writes `as` to `t` ends with the files of `t'`, and does end if nothing is
refused. -/
structure EndsLike (w : Writer) (r : Refusals) (t : FileTree) (as : List RenderedArtifact)
    (t' : FileTree) : Prop where
  same : ∀ t₂ n, w.write r t as = (t₂, .ok n) → ∀ p, t₂.file? p = t'.file? p
  succeeds : r = {} → ∃ t₂, w.write r t as = (t₂, .ok as.length)

/-- What a run that wrote `as` to `t` leaves behind in `t₁`, and what one that wrote `bs` to `t`
left in `t₃`. -/
structure LeavesNoTrace (w : Writer) (r : Refusals) (t t₁ t₃ : FileTree)
    (as bs : List RenderedArtifact) : Prop where
  /-- Writing `bs` after `as` is writing `bs`, when `as` replaced no file but generated ones. -/
  later : (∀ a ∈ as, (w.clean r t).1.file? (a.target t.here) = none) → w.EndsLike r t₁ bs t₃
  /-- Writing `as` twice is writing it once. -/
  twice : w.EndsLike r t₁ as t₁
  written : ∀ a ∈ as, t₁.file? (a.target t.here) = some (.ofText a.contents)
  /-- Cleaning removes the files of `as` and no others. -/
  cleaned : ∀ n, (w.clean r t₁).2 = .ok n → (∀ p, (w.clean r t₁).1.file? p =
    if p ∈ as.map (·.target t.here) then none else t₁.file? p) ∧ n = as.length
  cleans : r = {} → ∃ n, (w.clean r t₁).2 = .ok n

/-- **Files that their writer owns leave no trace.** -/
theorem Owned.leavesNoTrace (h : w.Owned r t.here as) (hb : w.Owned r t.here bs) (ht : t.Closed)
    {t₃ : FileTree} {m : Nat}
    (hw : w.write r t as = (t₁, .ok n)) (hwb : w.write r t bs = (t₃, .ok m)) :
    w.LeavesNoTrace r t t₁ t₃ as bs where
  later hfree :=
    { same := fun t₂ k hw₂ => h.file?_write_again ht hw hb hwb hw₂ fun a ha _ => hfree a ha
      succeeds := by
        rintro rfl
        exact h.exists_write_again hb ht hw hwb }
  twice :=
    { same := fun t₂ k hw₂ => h.file?_write_again ht hw h hw hw₂ fun a ha hn =>
        absurd (List.mem_map_of_mem ha) hn
      succeeds := by
        rintro rfl
        exact h.exists_write_again h ht hw hw }
  written _ ha := h.file?_write ht hw ha
  cleaned _ hn := h.file?_clean_write ht hw hn
  cleans := by
    rintro rfl
    obtain ⟨l, hl⟩ := exists_clean w t₁
    exact ⟨l, by rw [hl]⟩

end Writer

end Rollout
