import Rollout.Proofs.Writer

/-!
# Files laid over a tree

What creating directories and writing files do to any tree, wherever the ways lead and whatever is
refused.

* `FileTree.Laid`: contents are put at some places, one after the other.
* `FileTree.laid_createWay`: all that creating directories does, whether it succeeds or not.
* `FileTree.Begun`: what is left of a file whose writing has failed.
* **`FileTree.laid_writePath`**, `FileTree.stored_of_writePath`: what writing one file does.
* `FileTree.Begins`, **`FileTree.laid_writeAll`**: what writing a list of files does.
* **`FileTree.Laid.file?_eq_some_iff`**: what files put at different places.
-/

namespace Rollout

namespace FileTree

open Writer

variable {r : Refusals} {t t' s : FileTree} {p : Place} {w : Way} {c : Bytes} {path : String}
  {puts : List (Place × Bytes)}

/-! ## Contents at places -/

/-- The tree `t'` is `t` with contents put at some places, one after the other, and no fewer
directories. -/
structure Laid (t t' : FileTree) (puts : List (Place × Bytes)) : Prop where
  here : t'.here = t.here
  file? : ∀ p, t'.file? p = ((puts.filter (·.1 = p)).getLast?.map (·.2)).or (t.file? p)
  isDirectory : ∀ p, t.isDirectory p = true → t'.isDirectory p = true

theorem Laid.refl (t : FileTree) : Laid t t [] := ⟨rfl, fun _ => rfl, fun _ => id⟩

theorem Laid.trans {more : List (Place × Bytes)} (h : Laid t s puts) (h' : Laid s t' more) :
    Laid t t' (puts ++ more) where
  here := h'.here.trans h.here
  file? p := by
    rw [h'.file?, h.file?, List.filter_append, List.getLast?_append, ← Option.or_assoc]
    cases (more.filter (·.1 = p)).getLast? <;> rfl
  isDirectory p hp := h'.isDirectory p (h.isDirectory p hp)

theorem Laid.file?_of_notMem (h : Laid t t' puts) (hp : p ∉ puts.map (·.1)) :
    t'.file? p = t.file? p := by
  have hnone : puts.filter (·.1 = p) = [] := by
    refine List.filter_eq_nil_iff.mpr fun x hx hxp => hp ?_
    exact of_decide_eq_true hxp ▸ List.mem_map_of_mem hx
  rw [h.file?, hnone]
  rfl

theorem laid_put_file (hd : ¬ t.isDirectory p = true) : Laid t (t.put p (.file c)) [(p, c)] where
  here := rfl
  file? q := by
    rw [file?_put_file (isGiven_eq_false hd)]
    by_cases hq : q = p
    · simp [hq]
    · simp [hq, Ne.symm hq]
  isDirectory q hq := (isDirectory_put_file hd).mpr hq

/-! ## Creating directories -/

theorem laid_of_createDirectory (h : t.createDirectory r w = .ok t') : Laid t t' [] := by
  obtain ⟨p, -, hn, rfl⟩ := exists_of_createDirectory h
  have hg : t.isGiven p = false := isGiven_eq_false (by simp [isDirectory_iff, hn])
  exact ⟨rfl, fun q => file?_put_directory hg hn, fun q hq =>
    (isDirectory_put_directory hg).mpr (.inr hq)⟩

/-- **Creating directories keeps all files**, also when it fails. -/
theorem laid_createWay (r : Refusals) (absolute : Bool) : ∀ (back : List String) (t : FileTree),
    Laid t (t.createWay r absolute back).1 []
  | [], t => .refl t
  | name :: back, t => by
    have hback := laid_createWay r absolute back t
    rw [createWay]
    split
    · rename_i s hs
      exact laid_of_createDirectory hs
    · split
      · rename_i s err hs
        rwa [hs] at hback
      · rename_i s hs
        rw [hs] at hback
        split
        · rename_i u hu
          exact hback.trans (laid_of_createDirectory hu)
        · exact hback
    · exact .refl t

theorem laid_createDirectories (r : Refusals) (t : FileTree) (w : Way) :
    Laid t (t.createDirectories r w).1 [] := laid_createWay r w.absolute w.names.reverse t

/-! ## Writing one file -/

/-- What is left of a file whose writing has failed: nothing, or a first part of it. -/
inductive Begun (p : Place) (c : Bytes) : List (Place × Bytes) → Prop
  | nothing : Begun p c []
  | part (n : Nat) : Begun p c [(p, c.take n)]

theorem exists_take_store (r : Refusals) (p : Place) (c : Bytes) :
    ∃ n, (r.store p c).1 = c.take n := by
  unfold Refusals.store
  split
  · rename_i n _ _
    split
    · exact ⟨n, rfl⟩
    · exact ⟨c.length, (List.take_length ..).symm⟩
  · exact ⟨c.length, (List.take_length ..).symm⟩

theorem laid_writeFile (r : Refusals) (t : FileTree) (w : Way) (c : Bytes) :
    ∃ puts, Begun (w.place t.here) c puts ∧ Laid t (t.writeFile r w c).1 puts := by
  unfold writeFile
  split
  · exact ⟨[], .nothing, .refl t⟩
  · rename_i p hl
    obtain rfl := place_of_locate hl
    split_ifs with hd
    · exact ⟨[], .nothing, .refl t⟩
    · split
      · exact ⟨[], .nothing, .refl t⟩
      · obtain ⟨n, hn⟩ := exists_take_store r (w.place t.here) c
        rw [hn]
        exact ⟨_, .part n, laid_put_file hd⟩

/-- **Whatever comes of writing a file**, it is laid over the tree, or a part of it, or nothing. -/
theorem laid_writePath (r : Refusals) (t : FileTree) (path : String) (c : Bytes) :
    ∃ puts, Begun ((Way.ofPath path).place t.here) c puts ∧
      Laid t (t.writePath r path c).1 puts := by
  have hmade := laid_createDirectories r t (Way.ofPath path).above
  rcases hs : t.createDirectories r (Way.ofPath path).above with ⟨s, result⟩
  rw [hs] at hmade
  simp only [writePath, hs]
  cases result with
  | error e => exact ⟨[], .nothing, hmade⟩
  | ok =>
    dsimp only
    split_ifs
    · exact ⟨[], .nothing, hmade⟩
    · exact ⟨[], .nothing, hmade⟩
    · obtain ⟨puts, hb, hl⟩ := laid_writeFile r s (.ofPath path) c
      rw [hmade.here] at hb
      exact ⟨puts, hb, hmade.trans hl⟩

/-- A file is written at a path, and the path leads to it. -/
structure Stored (t t' : FileTree) (path : String) (c : Bytes) : Prop where
  named : endsInDirectory path = false
  locate : t'.locate (.ofPath path) = .ok ((Way.ofPath path).place t.here)
  laid : Laid t t' [((Way.ofPath path).place t.here, c)]

/-- **What writing a file does.** -/
theorem stored_of_writePath (h : t.writePath r path c = (t', .ok ())) : Stored t t' path c := by
  obtain ⟨s, hs, hnamed, hw⟩ := writePath_eq_ok_iff.mp h
  have hmade := laid_createDirectories r t (Way.ofPath path).above
  rw [hs] at hmade
  obtain ⟨p, hl, hd, rfl⟩ := exists_of_writeFile hw
  have hput : Laid s (s.put p (.file c)) [(p, c)] := laid_put_file hd
  have hl' := locate_mono hput.here hput.isDirectory hl
  obtain rfl := place_of_locate hl
  have hhere : s.here = t.here := hmade.here
  rw [hhere] at hl' hput ⊢
  exact ⟨hnamed, hl', hmade.trans hput⟩

end FileTree

/-! ## Writing several files -/

/-- What a file puts at its place. -/
def RenderedArtifact.put (here : Place) (a : RenderedArtifact) : Place × Bytes :=
  (a.target here, .ofText a.contents)

namespace FileTree

open Writer

variable {r : Refusals} {t t' s : FileTree} {p : Place} {c : Bytes} {as : List RenderedArtifact}

/-- What is left of the first of some files, none of which has been written. -/
def Begins (here : Place) : List RenderedArtifact → List (Place × Bytes) → Prop
  | [], begun => begun = []
  | a :: _, begun => Begun (a.target here) (.ofText a.contents) begun

/-- **Whatever comes of writing a list**, a first part of it is laid over the tree, and perhaps the
start of the next file. It is all of the list exactly when that succeeds. -/
theorem laid_writeAll (r : Refusals) (as : List RenderedArtifact) (t : FileTree) :
    ∃ done rest begun, as = done ++ rest ∧ Begins t.here rest begun ∧
      Laid t (writeAll r t as).1 (done.map (·.put t.here) ++ begun) ∧
        ((writeAll r t as).2 = .ok () ↔ rest = []) := by
  induction as generalizing t with
  | nil => exact ⟨[], [], [], rfl, rfl, .refl t, by simp [writeAll]⟩
  | cons a as ih =>
    rcases hs : t.writePath r a.path (.ofText a.contents) with ⟨s, err | ⟨⟩⟩
    · obtain ⟨puts, hbegun, hlaid⟩ := laid_writePath r t a.path (.ofText a.contents)
      rw [hs] at hlaid
      refine ⟨[], a :: as, puts, rfl, hbegun, ?_, ?_⟩ <;> rw [writeAll, hs]
      · exact hlaid
      · simp
    · have hput : Laid t s [a.put t.here] := (stored_of_writePath hs).laid
      obtain ⟨done, rest, begun, hsplit, hbegun, hlaid, hok⟩ := ih s
      rw [hput.here] at hbegun hlaid
      refine ⟨a :: done, rest, begun, by rw [hsplit, List.cons_append], hbegun, ?_, ?_⟩ <;>
        rw [writeAll, hs]
      · exact hput.trans hlaid
      · exact hok

/-- A list that was written. -/
theorem laid_of_writeAll (h : writeAll r t as = (t', .ok ())) :
    Laid t t' (as.map (·.put t.here)) := by
  obtain ⟨done, rest, begun, rfl, hbegun, hlaid, hok⟩ := laid_writeAll r as t
  rw [h] at hlaid hok
  obtain rfl := hok.mp rfl
  obtain rfl : begun = [] := hbegun
  simpa using hlaid

theorem contents?_eq (here : Place) (as : List RenderedArtifact) (p : Place) : contents? here as p =
    ((as.map (·.put here)).filter (·.1 = p)).getLast?.map (·.2) := by
  induction as with
  | nil => rfl
  | cons a as ih =>
    rw [contents?, ih, List.map_cons]
    by_cases hp : p = a.target here
    · -- the file is the last one unless another one that goes there follows
      rw [if_pos hp, List.filter_cons_of_pos (by simp [RenderedArtifact.put, hp]),
        List.getLast?_cons]
      cases ((as.map (·.put here)).filter (·.1 = p)).getLast? <;> rfl
    · rw [if_neg hp, List.filter_cons_of_neg (by simp [RenderedArtifact.put, Ne.symm hp]),
        Option.or_none]

/-- **What files put at different places.** -/
theorem Laid.file?_eq_some_iff (h : Laid t t' (as.map (·.put t.here)))
    (hn : (as.map (·.target t.here)).Nodup) : t'.file? p = some c ↔
      (∃ a ∈ as, a.target t.here = p ∧ .ofText a.contents = c) ∨
        p ∉ as.map (·.target t.here) ∧ t.file? p = some c := by
  rw [h.file?, ← contents?_eq]
  by_cases hp : p ∈ as.map (·.target t.here)
  · obtain ⟨a, ha, rfl⟩ := List.mem_map.mp hp
    rw [contents?_of_mem hn ha, Option.some_or, Option.some_inj]
    refine ⟨fun hc => .inl ⟨a, ha, rfl, hc⟩, ?_⟩
    rintro (⟨b, hb, hba, rfl⟩ | ⟨hno, -⟩)
    · rw [List.inj_on_of_nodup_map hn hb ha hba]
    · exact absurd hp hno
  · rw [contents?_eq_none_iff.mpr hp, Option.none_or]
    refine ⟨fun hc => .inr ⟨hp, hc⟩, ?_⟩
    rintro (⟨a, ha, rfl, -⟩ | ⟨-, hc⟩)
    · exact absurd (List.mem_map_of_mem ha) hp
    · exact hc

/-- The path of every file still leads to its place after all are written. -/
theorem locate_writeAll (h : writeAll r t as = (t', .ok ())) : ∀ a ∈ as,
    endsInDirectory a.path = false ∧ t'.locate (.ofPath a.path) = .ok (a.target t.here) := by
  induction as generalizing t with
  | nil => simp
  | cons a as ih =>
    obtain ⟨s, hs, h⟩ := writeAll_cons_eq_ok_iff.mp h
    have hst := stored_of_writePath hs
    have hrest := laid_of_writeAll h
    have hhere : s.here = t.here := hst.laid.here
    rw [List.forall_mem_cons]
    refine ⟨⟨hst.named, locate_mono hrest.here hrest.isDirectory hst.locate⟩, ?_⟩
    rw [← hhere]
    exact ih h

end FileTree

end Rollout
