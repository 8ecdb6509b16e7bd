import Rollout.Proofs.Identifier.Words

/-!
# Segments of identifiers

An identifier is read from its front or from its end dash by dash. What stands before or after a
dash is an identifier again, made of the first or the last words.

* `IsIdentifier`: runs of digits and small letters with single dashes between them.
* **`isIdentifier_sanitize`**: every identifier of a text that is not empty has this form.
* `HasHead`, `HasTail`: an identifier that starts or ends with another one.
* **`hasHead_of_words`**, **`hasTail_of_words`**: first words are a head and last words are a tail.
-/

namespace Rollout

open Text

/-! ## The form of identifiers -/

/-- A run of an identifier: digits and small letters, at least one. -/
def IsLowerRun (w : String) : Prop := w ≠ "" ∧ ∀ c ∈ w.toList, c.isDigit = true ∨ c.isLower = true

/-- Runs of digits and small letters with single dashes between them. -/
def IsIdentifier (name : String) : Prop :=
  ∃ ws : List String, ws ≠ [] ∧ (∀ w ∈ ws, IsLowerRun w) ∧ name = String.intercalate "-" ws

/-- The words of the identifier of a text, each as a text. -/
def segments (raw : String) : List String := (identifierWords raw).map String.ofList

theorem segments_eq_nil_iff {raw : String} : segments raw = [] ↔ identifierWords raw = [] :=
  List.map_eq_nil_iff

/-- **An identifier joins its segments by dashes.** -/
theorem sanitize_eq_intercalate (raw : String) :
    sanitize raw = String.intercalate "-" (segments raw) := by
  have hw : (segments raw).map String.toList = identifierWords raw := by
    rw [segments, List.map_map]
    exact (List.map_congr_left fun w _ => String.toList_ofList).trans (List.map_id _)
  rw [sanitize_eq, String.ext_iff, String.toList_ofList, String.toList_intercalate, hw]
  rfl

theorem isLowerRun_iff {w : String} : IsLowerRun w ↔ IsSmallRun w.toList := by
  have hchar (c : Char) : c.isDigit = true ∨ c.isLower = true ↔
      c.isAlphanum = true ∧ c.isUpper = false := by
    have hd : c.isDigit = true → c.isUpper = false := fun hd => by
      rw [Bool.eq_false_iff]
      intro hu
      have hdigit : c.toNat ≤ 64 := (Char.isDigit_iff_toNat.mp hd).2.trans (by decide)
      have := toNat_of_isUpper hu
      omega
    have hl : c.isLower = true → c.isUpper = false := fun hl => by
      simpa using Char.not_isUpper_of_isLower hl
    cases hu : c.isUpper <;> simp_all [Char.isAlphanum, Char.isAlpha, or_comm]
  simp only [IsLowerRun, IsSmallRun, IsRun, hchar, ne_eq, String.toList_eq_nil_iff, and_assoc,
    forall_and]

theorem isLowerRun_of_mem_segments {raw w : String} (h : w ∈ segments raw) : IsLowerRun w := by
  obtain ⟨cs, hcs, rfl⟩ := List.mem_map.mp h
  rw [isLowerRun_iff, String.toList_ofList]
  exact isSmallRun_of_mem_identifierWords hcs

/-- **The form of an identifier.** -/
theorem isIdentifier_sanitize {raw : String} (h : sanitize raw ≠ "") :
    IsIdentifier (sanitize raw) := by
  refine ⟨segments raw, fun hnil => h ?_, fun w => isLowerRun_of_mem_segments,
    sanitize_eq_intercalate raw⟩
  exact sanitize_eq_empty_iff.mpr (segments_eq_nil_iff.mp hnil)

/-! ## Heads and tails -/

/-- The name is another one, or starts with it and a dash. -/
def HasHead (name front : String) : Prop := name = front ∨ ∃ rest, name = front ++ "-" ++ rest

/-- The name is another one, or ends with a dash and it. -/
def HasTail (name rest : String) : Prop := name = rest ∨ ∃ front, name = front ++ "-" ++ rest

theorem HasTail.length_le {name rest : String} (h : HasTail name rest) :
    rest.length ≤ name.length := by
  rcases h with rfl | ⟨front, rfl⟩
  · exact le_rfl
  · simp only [String.length_append]
    omega

section Words

variable {raw other : String} {ws : List (List Char)}

/-- **First words are a head.** -/
theorem hasHead_of_words (h : identifierWords raw = identifierWords other ++ ws)
    (hne : sanitize other ≠ "") : HasHead (sanitize raw) (sanitize other) := by
  have ho : segments other ≠ [] := fun hnil =>
    hne (sanitize_eq_empty_iff.mpr (segments_eq_nil_iff.mp hnil))
  simp only [sanitize_eq_intercalate]
  rw [segments, h, List.map_append]
  by_cases hws : ws.map String.ofList = []
  · rw [hws, List.append_nil]
    exact .inl rfl
  · exact .inr ⟨_, String.intercalate_append_of_ne_nil ho hws⟩

/-- **Last words are a tail.** -/
theorem hasTail_of_words (h : identifierWords raw = ws ++ identifierWords other)
    (hne : sanitize other ≠ "") : HasTail (sanitize raw) (sanitize other) := by
  have ho : segments other ≠ [] := fun hnil =>
    hne (sanitize_eq_empty_iff.mpr (segments_eq_nil_iff.mp hnil))
  simp only [sanitize_eq_intercalate]
  rw [segments, h, List.map_append]
  by_cases hws : ws.map String.ofList = []
  · rw [hws, List.nil_append]
    exact .inl rfl
  · exact .inr ⟨_, String.intercalate_append_of_ne_nil hws ho⟩

end Words

end Rollout
