import WorkloadIdentity.Proofs.Store.Refusal

/-!
# Restoring can be tried again

Restoring replaces legacy records one by one and may stop at any item.  Whatever its outcome, the
file that it leaves lists the same scopes and ids in the same order, every record of it is the one
that was there or stands for it under the same key pair, and restoring the file that is left has
the same outcome, whatever nonces are drawn, and changes nothing.

* `Store.restore_retry`: all of this for one run.
-/

namespace WorkloadIdentity

namespace StoreFile

variable {master : MasterKey} {provider : Provider} {file : StoreFile} {issuers : List Issuer}

theorem renewed_isCurrent
    (file : StoreFile) (issuers : List Issuer) :
    (file.renewed issuers).IsCurrent := by
  intro scope hscope record hrecord
  rw [renewed, ← List.map_uncurry_zip_eq_zipWith] at hscope
  obtain ⟨⟨old, issuer⟩, -, rfl⟩ := List.mem_map.mp hscope
  exact CredentialRecord.isLegacy_of_mem_zipWith _ _ record hrecord

/-- The records that are kept for a file that restores stand for the records of the file. -/
theorem Opens.keptAs
    (h : file.Opens master provider issuers)
    (hfile : file.Sound master) :
    List.Forall₂ (ScopeRecord.KeptAs master) file.scopes (file.renewed issuers).scopes := by
  obtain ⟨scopes⟩ := file
  obtain ⟨-, hscopes⟩ := hfile
  simp only [Opens] at h ⊢
  induction h with
  | nil => exact .nil
  | cons hscope _ ih =>
      obtain ⟨hsound, hscopes⟩ := List.forall_mem_cons.mp hscopes
      exact .cons ⟨rfl, CredentialRecord.keptAs_of_opens hscope.credentials hsound.keys⟩
        (ih hscopes)

end StoreFile

namespace Store

/-- What restoring leaves, whatever its outcome.  The records are kept at their places: a record
of the current shape as it was, a legacy record as it was or replaced by one of the current shape
that opens to the same RS256 key pair.  On success no legacy record is left and the legacy records
of the file were counted; on a fault nothing has changed from the bad item on.  Restoring what is
left has the same outcome, and then nothing is replaced. -/
theorem restore_retry
    (master : MasterKey)
    (provider : Provider)
    (file : StoreFile)
    (entropy : Entropy) :
    ∃ after outcome rest,
      (restore master provider file).run entropy = (⟨after, outcome⟩, rest) ∧
        List.Forall₂ (ScopeRecord.KeptAs master) file.scopes after.scopes ∧
        (∀ store count, outcome = .ok (store, count) →
          after.IsCurrent ∧ count = file.legacyCount) ∧
        (∀ fault, outcome = .error fault →
          ∃ position, file.Refused master position fault ∧
            after.records.drop position = file.records.drop position) ∧
        ∀ later, (restore master provider after).run later
          = (⟨after, outcome.map fun (store, _) => (store, 0)⟩, later) := by
  obtain ⟨⟨after, outcome⟩, rest, hrun⟩ : ∃ restored rest,
      (restore master provider file).run entropy = (restored, rest) := ⟨_, _, rfl⟩
  refine ⟨after, outcome, rest, hrun, ?_⟩
  rcases outcome with fault | ⟨store, count⟩
  · obtain ⟨position, hstopped⟩ := restore_run_error hrun
    refine ⟨hstopped.keptAs, ?_, ?_, ?_⟩
    · intro store count hfalse
      cases hfalse
    · intro found hfound
      cases hfound
      exact ⟨position, hstopped.refused, hstopped.rest_eq⟩
    · intro later
      exact restore_run_of_refused hstopped.again hstopped.current
  · have hsound := sound_of_restore_run_ok hrun
    obtain ⟨issuers, hfile, hopens, rfl, rfl, hcount, -⟩ := restore_run_ok hrun
    have hcurrent := file.renewed_isCurrent issuers
    refine ⟨hopens.keptAs hsound, ?_, ?_, ?_⟩
    · intro found number hfound
      cases hfound
      exact ⟨hcurrent, hcount⟩
    · intro fault hfalse
      cases hfalse
    · intro later
      exact restore_run_of_opens (hfile.renewed hopens) hopens.renewed hcurrent

end Store
end WorkloadIdentity
