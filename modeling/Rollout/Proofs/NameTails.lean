import Rollout.Proofs.Identifier.Segments
import Rollout.Proofs.Naming

/-!
# Job names end resource names

The resource name of a destination is joined from more parts than its job name, and the two are
brought into the form of identifiers apart from each other. A web scheme is then lost in one of them
and kept in the other. Still the job name is the last part of the resource name, dash by dash.

* `ResolvedDestination.identifierWords_resource_job`: the words of the resource name end with those
  of the job name.
* **`jobName_tail`**: the form, the head and the tail of a resource name.
-/

namespace Rollout

namespace ResolvedDestination

variable {d : ResolvedDestination} {service group : String} {scheme : NamingScheme}

/-- A resource name keeps the scheme that the job name leaves out, and comes after other words. -/
theorem identifierWords_resource_job :
    identifierWords (d.identifiers service group scheme).resource =
      identifierWords service ++ (if scheme.withGroup then words group else []) ++
        (webScheme? d.identity).toList.map String.toList ++
          identifierWords (d.identifiers service group scheme).job := by
  rw [identifierWords_resource, identifierWords_job, tailWords_eq]
  simp only [List.append_assoc]

theorem sanitize_resource : sanitize (d.identifiers service group scheme).resource =
    (d.identifiers service group scheme).resource := sanitize_sanitize _

theorem sanitize_job : sanitize (d.identifiers service group scheme).job =
    (d.identifiers service group scheme).job := sanitize_sanitize _

/-- **The head of a resource name.** -/
theorem hasHead_service (h : sanitize service ≠ "") :
    HasHead (d.identifiers service group scheme).resource (sanitize service) := by
  rw [← sanitize_resource]
  exact hasHead_of_words identifierWords_resource h

/-- **The tail of a resource name.** -/
theorem hasTail_job (h : (d.identifiers service group scheme).job ≠ "") :
    HasTail (d.identifiers service group scheme).resource
      (d.identifiers service group scheme).job := by
  rw [← sanitize_job] at h
  rw [← sanitize_resource, ← sanitize_job]
  exact hasTail_of_words identifierWords_resource_job h

end ResolvedDestination

/-- **A job name is the tail of the resource name.** A resource name has the form of an identifier
and starts with that of the service. The job name of the same destination is empty, or it can be
used and the resource name ends with it; it is never too long. -/
theorem jobName_tail {service group : String} {d : ResolvedDestination} {scheme : NamingScheme}
    {r : String} (h : d.resourceName service group scheme = .ok r) :
    ((1 ≤ r.length ∧ r.length ≤ 63) ∧ IsIdentifier r ∧ sanitize r = r) ∧
      (sanitize service ≠ "" → HasHead r (sanitize service)) ∧
      (d.jobName scheme = .error .empty ∨ ∃ j, d.jobName scheme = .ok j ∧ HasTail r j) ∧
      ∀ name, d.jobName scheme ≠ .error (.tooLong name) := by
  rw [ResolvedDestination.resourceName_eq] at h
  obtain ⟨⟨hne, hle⟩, rfl⟩ := checkName_eq_ok_iff.mp h
  have hform : IsIdentifier (d.identifiers service group scheme).resource := by
    rw [← ResolvedDestination.sanitize_resource] at hne ⊢
    exact isIdentifier_sanitize hne
  have hjob : d.jobName scheme = .error .empty ∨ ∃ j, d.jobName scheme = .ok j ∧
      HasTail (d.identifiers service group scheme).resource j := by
    rw [ResolvedDestination.jobName_eq service group]
    by_cases hj : (d.identifiers service group scheme).job = ""
    · rw [hj]
      exact .inl rfl
    · -- the tail is no longer than the whole name
      have htail := ResolvedDestination.hasTail_job hj
      have hname : IsName (d.identifiers service group scheme).job :=
        ⟨hj, htail.length_le.trans hle⟩
      exact .inr ⟨_, checkName_eq_ok_iff.mpr ⟨hname, rfl⟩, htail⟩
  refine ⟨⟨⟨?_, hle⟩, hform, ResolvedDestination.sanitize_resource⟩,
    ResolvedDestination.hasHead_service, hjob, fun name hlong => ?_⟩
  · exact Nat.one_le_iff_ne_zero.mpr fun hz => hne (String.length_eq_zero_iff.mp hz)
  · rcases hjob with he | ⟨j, hj, -⟩
    · rw [he] at hlong
      cases hlong
    · rw [hj] at hlong
      cases hlong

/-- A cluster that has its address for a name. -/
def ResolvedDestination.addressed : ResolvedDestination where
  name := some "https://Kube.Local:6443"
  server := none
  space := ⟨"web", .destination⟩
  settings := default

/-- The resource name keeps the scheme of the cluster and loses that of the service. -/
theorem jobName_tail_addressed :
    ResolvedDestination.addressed.resourceName "https://Shop" "EU West" { withNamespace := true } =
        .ok "shop-eu-west-https-kube-local-6443-web" ∧
      ResolvedDestination.addressed.jobName { withNamespace := true } = .ok "kube-local-6443-web" ∧
      HasHead "shop-eu-west-https-kube-local-6443-web" "shop" ∧
      HasTail "shop-eu-west-https-kube-local-6443-web" "kube-local-6443-web" := by
  have h : ResolvedDestination.addressed.resourceName "https://Shop" "EU West"
      { withNamespace := true } = .ok "shop-eu-west-https-kube-local-6443-web" := by decide +kernel
  have hj : ResolvedDestination.addressed.jobName { withNamespace := true } =
      .ok "kube-local-6443-web" := by decide +kernel
  have hs : sanitize "https://Shop" = "shop" := by decide +kernel
  obtain ⟨-, hhead, htail, -⟩ := jobName_tail h
  rw [hs] at hhead
  rw [hj] at htail
  refine ⟨h, hj, hhead (by decide), ?_⟩
  rcases htail with he | ⟨j, hj', ht⟩
  · cases he
  · cases hj'
    exact ht

end Rollout
