import Mathlib
import Rollout.Text.LowerCase

/-!
# Lower case, character by character

The lower case of a text depends on the surroundings of a character only for the capital sigma.

* `lowerEach`: the lower case of each character by itself.
* **`map_medial_lower`**: both agree once the two small sigmas are told apart no more.
* **`lower_map_toLower`**: the case of ASCII letters does not matter.
* `LowerRun.Has`, `smallRuns_avoid`: no small letter is a capital of the table.
* **`lower_lower`**: a text in lower case is its own lower case, and it has no ASCII capital
  (`isUpper_of_mem_lowerChar`).
-/

namespace Rollout.Text

/-! ## The sigma at the end of a word -/

/-- The lower case of a text, each character without its surroundings. -/
def lowerEach (cs : List Char) : List Char := cs.flatMap lowerChar

/-- The small sigma inside a word in place of the final one. -/
def medial (c : Char) : Char := if c = 'ς' then 'σ' else c

theorem lowerChar_sigma : lowerChar 'Σ' = ['σ'] := by cbv

theorem map_medial_lowerFrom (before cs : List Char) :
    (lowerFrom before cs).map medial = (lowerEach cs).map medial := by
  induction cs generalizing before with
  | nil => rfl
  | cons c cs ih =>
    simp only [lowerFrom, lowerEach, List.flatMap_cons, List.map_append, ih]
    congr 1
    by_cases hc : c = 'Σ'
    · subst hc
      rw [if_pos rfl, lowerChar_sigma]
      split <;> rfl
    · rw [if_neg hc]

/-- **Only the sigmas depend on their surroundings.** -/
theorem map_medial_lower (cs : List Char) : (lower cs).map medial = (lowerEach cs).map medial :=
  map_medial_lowerFrom [] cs

theorem lowerEach_append (a b : List Char) : lowerEach (a ++ b) = lowerEach a ++ lowerEach b :=
  List.flatMap_append

theorem lowerEach_cons (c : Char) (cs : List Char) :
    lowerEach (c :: cs) = lowerChar c ++ lowerEach cs := List.flatMap_cons

/-! ## The runs of capitals -/

namespace LowerRun

/-- A code point is one of the run's capitals. -/
def Has (r : LowerRun) (n : Nat) : Prop :=
  r.first ≤ n ∧ n ≤ r.last ∧ (n - r.first) % r.step = 0

/-- The small letters of a run, as a run that moves nothing. -/
def small (r : LowerRun) : LowerRun :=
  ⟨Int.toNat (r.first + r.distance), Int.toNat (r.last + r.distance), r.step, 0⟩

/-- Whether two runs lie apart, or one has only even and the other only odd code points. -/
def avoids (r q : LowerRun) : Bool :=
  Nat.blt r.last q.first || Nat.blt q.last r.first ||
    (Nat.beq r.step 2 || Nat.beq r.first r.last) && (Nat.beq q.step 2 || Nat.beq q.first q.last) &&
      Nat.beq ((r.first + q.first) % 2) 1

variable {r q : LowerRun} {n : Nat}

theorem Has.mod_two (h : r.Has n) (hr : r.step = 2 ∨ r.first = r.last) :
    n % 2 = r.first % 2 := by
  obtain ⟨hf, hl, hs⟩ := h
  rcases hr with hr | hr
  · rw [hr] at hs
    omega
  · omega

theorem not_has_of_avoids (h : r.avoids q = true) (hr : r.Has n) : ¬ q.Has n := by
  intro hq
  simp only [avoids, Bool.or_eq_true, Bool.and_eq_true, Nat.blt_eq, Nat.beq_eq] at h
  rcases h with (h | h) | ⟨⟨h, h'⟩, hodd⟩
  · exact absurd (hr.2.1.trans_lt h) (not_lt.mpr hq.1)
  · exact absurd (hq.2.1.trans_lt h) (not_lt.mpr hr.1)
  · have := hr.mod_two h
    have := hq.mod_two h'
    omega

theorem Has.small (h : r.Has n) (hr : 0 ≤ r.first + r.distance) :
    r.small.Has (Int.toNat (n + r.distance)) := by
  obtain ⟨hf, hl, hs⟩ := h
  have hn : Int.toNat (n + r.distance) - Int.toNat (r.first + r.distance) = n - r.first := by
    omega
  exact ⟨Int.toNat_le_toNat (by omega), Int.toNat_le_toNat (by omega), hn ▸ hs⟩

end LowerRun

/-- What has a lower case of its own beyond ASCII: the dotted `İ` and the runs. -/
def capitalRuns : List LowerRun := ⟨0x130, 0x130, 1, 0⟩ :: lowerRuns.toList

/-- What lower case leaves beyond ASCII in place of a capital: the dot of the `İ`, the final sigma
and the small letters of the runs. -/
def smallRuns : List LowerRun :=
  ⟨0x307, 0x307, 1, 0⟩ :: ⟨0x3C2, 0x3C2, 1, 0⟩ :: lowerRuns.toList.map LowerRun.small

/-- The Kelvin sign is the only capital beyond ASCII with an ASCII small letter. -/
theorem lowerRuns_beyond : ∀ r ∈ lowerRuns.toList, 128 ≤ (r.first : Int) + r.distance ∨
    r.first = r.last ∧ (r.first : Int) + r.distance = 'k'.toNat := by
  decide +kernel

/-- No small letter is a capital. -/
theorem smallRuns_avoid : smallRuns.all (fun r => capitalRuns.all r.avoids) = true := by
  decide +kernel

theorem not_has_capital {r q : LowerRun} (hr : r ∈ smallRuns) (hq : q ∈ capitalRuns) {n : Nat}
    (h : r.Has n) : ¬ q.Has n :=
  LowerRun.not_has_of_avoids
    (List.all_eq_true.mp (List.all_eq_true.mp smallRuns_avoid r hr) q hq) h

theorem exists_of_lowerDistance? {c : Char} {d : Int} (h : lowerDistance? c = some d) :
    ∃ r ∈ lowerRuns.toList, r.Has c.toNat ∧ r.distance = d := by
  obtain ⟨r, hr, rfl⟩ := Option.map_eq_some_iff.mp h
  have hin := Array.find?_some hr
  simp only [Bool.and_eq_true, decide_eq_true_eq, beq_iff_eq] at hin
  exact ⟨r, (Array.mem_of_find?_eq_some hr).val, ⟨hin.1.1, hin.1.2, hin.2⟩, rfl⟩

theorem lowerDistance?_eq_none {c : Char} (h : ∀ r ∈ lowerRuns.toList, ¬ r.Has c.toNat) :
    lowerDistance? c = none := by
  unfold lowerDistance?
  rw [Option.map_eq_none_iff, Array.find?_eq_none]
  intro r hr hin
  simp only [Bool.and_eq_true, decide_eq_true_eq, beq_iff_eq] at hin
  exact h r hr.val ⟨hin.1.1, hin.1.2, hin.2⟩

/-! ## ASCII -/

theorem lowerChar_ascii {c : Char} (hc : c.toNat < 128) : lowerChar c = [c.toLower] := by
  unfold lowerChar
  rw [if_pos hc]

/-- ASCII without capitals is in lower case. -/
theorem lowerEach_eq_self {cs : List Char} (h : ∀ c ∈ cs, c.toNat < 128 ∧ c.isUpper = false) :
    lowerEach cs = cs := by
  induction cs with
  | nil => rfl
  | cons c cs ih =>
    obtain ⟨hc, hu⟩ := h c List.mem_cons_self
    rw [lowerEach_cons, lowerChar_ascii hc, Char.toLower_eq_of_not_isUpper (by simp [hu]),
      ih fun x hx => h x (List.mem_cons_of_mem _ hx), List.singleton_append]

/-! ## The case of ASCII letters -/

theorem toNat_of_isUpper {c : Char} (h : c.isUpper) : 65 ≤ c.toNat ∧ c.toNat ≤ 90 := by
  simpa [Char.isUpper, UInt32.le_iff_toNat_le] using h

/-- Case does not matter to a function to which it does not matter for the 26 capitals. -/
theorem toLower_congr {α : Type} (f : Char → α)
    (h : ∀ n < 26, f (Char.ofNat (65 + n)).toLower = f (Char.ofNat (65 + n))) (c : Char) :
    f c.toLower = f c := by
  by_cases hc : c.isUpper
  · obtain ⟨hf, hl⟩ := toNat_of_isUpper hc
    have := h (c.toNat - 65) (by omega)
    rwa [Nat.add_sub_cancel' hf, Char.ofNat_toNat] at this
  · rw [Char.toLower_eq_of_not_isUpper hc]

theorem toLower_eq_sigma (c : Char) : c.toLower = 'Σ' ↔ c = 'Σ' := by
  simpa using toLower_congr (fun c => decide (c = 'Σ')) (by decide +kernel) c

theorem lowerChar_toLower (c : Char) : lowerChar c.toLower = lowerChar c :=
  toLower_congr lowerChar (by decide +kernel) c

theorem isCased_toLower (c : Char) : isCased c.toLower = isCased c :=
  toLower_congr isCased (by decide +kernel) c

/-- No ASCII letter is ignorable. -/
theorem caseIgnorableRanges_avoid : caseIgnorableRanges.toList.all (fun r =>
    Nat.blt r.2 65 || Nat.blt 90 r.1 && Nat.blt r.2 97 || Nat.blt 122 r.1) = true := by
  decide +kernel

theorem isCaseIgnorable_of_isAlpha {c : Char} (hc : c.isAlpha) : isCaseIgnorable c = false := by
  unfold isCaseIgnorable Ranges.has
  rw [← Array.any_toList, List.any_eq_false]
  intro r hr
  have havoid := List.all_eq_true.mp caseIgnorableRanges_avoid r hr
  simp only [Bool.or_eq_true, Bool.and_eq_true, Nat.blt_eq] at havoid
  simp only [Char.isAlpha, Char.isUpper, Char.isLower, Bool.or_eq_true, Bool.and_eq_true,
    decide_eq_true_eq, UInt32.le_iff_toNat_le, ge_iff_le] at hc ⊢
  have : c.toNat = c.val.toNat := rfl
  have : 'A'.val.toNat = 65 ∧ 'Z'.val.toNat = 90 := ⟨rfl, rfl⟩
  have : 'a'.val.toNat = 97 ∧ 'z'.val.toNat = 122 := ⟨rfl, rfl⟩
  omega

theorem isCaseIgnorable_toLower (c : Char) : isCaseIgnorable c.toLower = isCaseIgnorable c := by
  by_cases hc : c.isAlpha
  · rw [isCaseIgnorable_of_isAlpha hc,
      isCaseIgnorable_of_isAlpha (by rw [Char.isAlpha_toLower_eq_isAlpha, hc])]
  · rw [Char.toLower_eq_of_not_isUpper (by simp_all [Char.isAlpha])]

theorem meetsCased_map_toLower (cs : List Char) :
    meetsCased (cs.map Char.toLower) = meetsCased cs := by
  have hcomp : isCaseIgnorable ∘ Char.toLower = isCaseIgnorable := by
    ext c
    rw [Function.comp_apply, isCaseIgnorable_toLower]
  unfold meetsCased
  rw [List.dropWhile_map, hcomp]
  rcases cs.dropWhile isCaseIgnorable with _ | ⟨c, rest⟩
  · rfl
  · exact isCased_toLower c

theorem lowerFrom_map_toLower (before cs : List Char) :
    lowerFrom (before.map Char.toLower) (cs.map Char.toLower) = lowerFrom before cs := by
  induction cs generalizing before with
  | nil => rfl
  | cons c cs ih =>
    simp only [List.map_cons, lowerFrom, toLower_eq_sigma, meetsCased_map_toLower,
      lowerChar_toLower]
    rw [← List.map_cons, ih]

/-- **The case of ASCII letters does not matter.** -/
theorem lower_map_toLower (cs : List Char) : lower (cs.map Char.toLower) = lower cs :=
  lowerFrom_map_toLower [] cs

/-! ## Lower case twice -/

theorem lowerChar_eq_self {c : Char} (hc : 128 ≤ c.toNat)
    (h : ∀ q ∈ capitalRuns, ¬ q.Has c.toNat) : lowerChar c = [c] := by
  have hdotted : c ≠ 'İ' := by
    rintro rfl
    exact h _ List.mem_cons_self ⟨le_refl 0x130, le_refl 0x130, rfl⟩
  unfold lowerChar
  rw [if_neg (by omega), if_neg hdotted,
    lowerDistance?_eq_none fun r hr => h r (List.mem_cons_of_mem _ hr)]

theorem lowerChar_ofNat_small {r : LowerRun} (hr : r ∈ smallRuns) {n : Nat} (h : r.Has n)
    (hn : 128 ≤ n) : lowerChar (Char.ofNat n) = [Char.ofNat n] := by
  by_cases hv : n.isValidChar
  · have hc : (Char.ofNat n).toNat = n := by rw [Char.toNat_ofNat, if_pos hv]
    exact lowerChar_eq_self (by omega) fun q hq => hc.symm ▸ not_has_capital hr hq h
  · rw [Char.ofNat, dif_neg hv]
    rfl

theorem lowerChar_dot : lowerChar '\u0307' = ['\u0307'] :=
  lowerChar_ofNat_small List.mem_cons_self ⟨le_refl 0x307, le_refl 0x307, rfl⟩ (by decide)

theorem lowerChar_finalSigma : lowerChar 'ς' = ['ς'] :=
  lowerChar_ofNat_small (List.mem_cons_of_mem _ List.mem_cons_self)
    ⟨le_refl 0x3C2, le_refl 0x3C2, rfl⟩ (by decide)

/-- **A small letter is its own lower case.** -/
theorem lowerChar_of_mem_lowerChar {c x : Char} (h : x ∈ lowerChar c) : lowerChar x = [x] := by
  unfold lowerChar at h
  split at h
  · rename_i hc
    rw [List.mem_singleton.mp h, lowerChar_toLower, lowerChar_ascii hc]
  · rename_i hc
    split at h
    · rcases List.mem_cons.mp h with rfl | h
      · rfl
      · rw [List.mem_singleton.mp h, lowerChar_dot]
    · split at h
      · rename_i d hd
        obtain ⟨r, hr, hhas, rfl⟩ := exists_of_lowerDistance? hd
        have ⟨hf, hl, _⟩ := hhas
        rw [List.mem_singleton.mp h]
        rcases lowerRuns_beyond r hr with hle | ⟨hone, hk⟩
        · exact lowerChar_ofNat_small
            (List.mem_cons_of_mem _ (List.mem_cons_of_mem _ (List.mem_map_of_mem hr)))
            (hhas.small (by omega)) (by omega)
        · -- the Kelvin sign
          rw [show ((c.toNat : Int) + r.distance).toNat = 'k'.toNat by omega]
          rfl
      · rename_i hdotted _ hd
        rw [List.mem_singleton.mp h]
        unfold lowerChar
        rw [if_neg hc, if_neg hdotted, hd]

/-- **Lower case has no ASCII capital.** -/
theorem isUpper_of_mem_lowerChar {c x : Char} (h : x ∈ lowerChar c) : x.isUpper = false := by
  rw [Bool.eq_false_iff]
  intro hu
  have hself := lowerChar_of_mem_lowerChar h
  rw [lowerChar_ascii (by have := toNat_of_isUpper hu; omega), List.singleton_inj] at hself
  rw [← hself, Char.isUpper_toLower_eq_false] at hu
  exact Bool.false_ne_true hu

theorem isUpper_of_mem_lowerEach {cs : List Char} {x : Char} (h : x ∈ lowerEach cs) :
    x.isUpper = false := by
  obtain ⟨c, -, hx⟩ := List.mem_flatMap.mp h
  exact isUpper_of_mem_lowerChar hx

theorem lowerChar_of_mem_lowerFrom {before cs : List Char} {x : Char}
    (h : x ∈ lowerFrom before cs) : lowerChar x = [x] := by
  induction cs generalizing before with
  | nil => exact absurd h List.not_mem_nil
  | cons c cs ih =>
    rw [lowerFrom] at h
    rcases List.mem_append.mp h with h | h
    · split at h
      · split at h
        · rw [List.mem_singleton.mp h, lowerChar_finalSigma]
        · exact lowerChar_of_mem_lowerChar (lowerChar_sigma ▸ h)
      · exact lowerChar_of_mem_lowerChar h
    · exact ih h

theorem lowerFrom_eq_self {before cs : List Char} (h : ∀ c ∈ cs, lowerChar c = [c]) :
    lowerFrom before cs = cs := by
  induction cs generalizing before with
  | nil => rfl
  | cons c cs ih =>
    have hc := h c List.mem_cons_self
    have hsigma : c ≠ 'Σ' := by
      rintro rfl
      rw [lowerChar_sigma] at hc
      exact absurd hc (by decide)
    rw [lowerFrom, ih fun x hx => h x (List.mem_cons_of_mem _ hx), if_neg hsigma, hc,
      List.singleton_append]

/-- **A text in lower case is its own lower case.** -/
theorem lower_lower (cs : List Char) : lower (lower cs) = lower cs :=
  lowerFrom_eq_self fun _ => lowerChar_of_mem_lowerFrom

end Rollout.Text
