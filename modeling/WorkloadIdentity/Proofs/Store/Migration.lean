import WorkloadIdentity.Proofs.Store.Restoring
import WorkloadIdentity.Proofs.Store.Writing

/-!
# Opening a store migrates it once

Opening a store rewrites its file exactly if it holds legacy keys and everything in it restores.
The rewritten file has the same scopes and ids in the same order and no legacy keys; opening it
again gives the same store, draws nothing and leaves all files as they are.

* `Store.load_run_of_opens`: a store without legacy keys is opened without a change.
* `Store.load_run_ok` and `Store.load_run_error`: what opening leaves behind.
* `Store.load_migrates_once`: all of this for one run.
-/

namespace WorkloadIdentity

/-- A failure to write says so, or nothing has changed. -/
theorem StoreFile.write_error_fault
    {file : StoreFile} {tree after : FileTree} {path : String} {fault : StoreFault}
    (h : file.write tree path = (after, .error fault)) :
    after = tree ∨ ∃ cause, fault = .write path cause := by
  unfold write at h
  split at h
  · cases h
    exact Or.inl rfl
  · next json hjson =>
    split at h
    · cases h
      exact Or.inl rfl
    · next place hplace =>
      obtain ⟨replaced, outcome, hreplace⟩ : ∃ replaced outcome,
          replace tree place json.pretty = (replaced, outcome) := ⟨_, _, rfl⟩
      rw [hreplace] at h
      cases outcome with
      | ok value => cases h
      | error cause =>
          cases h
          exact Or.inr ⟨cause, rfl⟩

namespace Store

variable {master : MasterKey} {provider : Provider} {tree after : FileTree} {path : String}
  {file : StoreFile} {issuers : List Issuer} {store : Store} {entropy rest : Entropy}

/-- A store without legacy keys is opened without a change, and nothing is drawn. -/
theorem load_run_of_opens
    (hread : StoreFile.read tree path = .ok file)
    (hfile : file.WellFormed)
    (hopens : file.Opens master provider issuers)
    (hcurrent : file.IsCurrent) :
    (load master provider tree path).run entropy
      = ((tree, .ok (ofIssuers provider issuers)), entropy) := by
  unfold load
  simp only [hread]
  rw [Random.run_bind_of_run (restore_run_of_opens hfile hopens hcurrent)]
  rfl

/-- A store that is opened is restored from its file.  The file is written again exactly if it
holds legacy keys. -/
theorem load_run_ok
    (h : (load master provider tree path).run entropy = ((after, .ok store), rest)) :
    ∃ file issuers,
      StoreFile.read tree path = .ok file ∧
        file.WellFormed ∧
        file.Opens master provider issuers ∧
        store = ofIssuers provider issuers ∧
        (file.IsCurrent ∧ after = tree ∨
          ¬ file.IsCurrent ∧ (file.renewed issuers).write tree path = (after, .ok ())) := by
  unfold load at h
  cases hread : StoreFile.read tree path with
  | error fault =>
      simp only [hread] at h
      cases h
  | ok file =>
      simp only [hread] at h
      obtain ⟨⟨records, outcome⟩, last, hrun⟩ : ∃ restored last,
          (restore master provider file).run entropy = (restored, last) := ⟨_, _, rfl⟩
      rw [Random.run_bind_of_run hrun] at h
      rcases outcome with fault | ⟨found, count⟩
      · cases h
      · obtain ⟨issuers, hfile, hopens, rfl, rfl, hcount, -⟩ := restore_run_ok hrun
        have hcurrent := @StoreFile.legacyCount_eq_zero_iff file
        rw [← hcount] at hcurrent
        cases count with
        | zero =>
            cases h
            exact ⟨file, issuers, rfl, hfile, hopens, rfl, Or.inl ⟨hcurrent.mp rfl, rfl⟩⟩
        | succ count =>
            obtain ⟨written, outcome, hwrite⟩ : ∃ written outcome,
                (file.renewed issuers).write tree path = (written, outcome) := ⟨_, _, rfl⟩
            simp only [hwrite] at h
            cases outcome with
            | error fault => cases h
            | ok value =>
                cases h
                refine ⟨file, issuers, rfl, hfile, hopens, rfl, Or.inr ⟨?_, hwrite⟩⟩
                intro hfalse
                cases hcurrent.mpr hfalse

/-- Where a store is not opened, nothing has changed, unless the renewed store could not be
written. -/
theorem load_run_error
    {fault : StoreFault}
    (h : (load master provider tree path).run entropy = ((after, .error fault), rest)) :
    after = tree ∨ ∃ renewed : StoreFile, renewed.write tree path = (after, .error fault) := by
  unfold load at h
  cases hread : StoreFile.read tree path with
  | error fault =>
      simp only [hread] at h
      cases h
      exact Or.inl rfl
  | ok file =>
      simp only [hread] at h
      obtain ⟨⟨records, outcome⟩, last, hrun⟩ : ∃ restored last,
          (restore master provider file).run entropy = (restored, last) := ⟨_, _, rfl⟩
      rw [Random.run_bind_of_run hrun] at h
      rcases outcome with found | ⟨found, _ | count⟩
      · cases h
        exact Or.inl rfl
      · cases h
      · obtain ⟨written, outcome, hwrite⟩ : ∃ written outcome,
            records.write tree path = (written, outcome) := ⟨_, _, rfl⟩
        simp only [hwrite] at h
        cases outcome with
        | error found =>
            cases h
            exact Or.inr ⟨records, hwrite⟩
        | ok value => cases h

/-- What opening a store leaves behind.  If it fails, the store's file is what it was, and nothing
else has changed either unless writing failed.  If it succeeds, the file holds the store without
legacy keys, in the same order as before; without legacy keys nothing has changed.  Opening again,
whatever randomness is at hand, gives the same store and changes nothing. -/
theorem load_migrates_once
    (master : MasterKey)
    (provider : Provider)
    (tree : FileTree)
    (path : String)
    (entropy : Entropy) :
    match (load master provider tree path).run entropy with
    | ((after, .error fault), _) =>
        (∀ content, tree.readBytes path = .ok content → after.readBytes path = .ok content) ∧
          ((∀ cause, fault ≠ .write path cause) → after = tree)
    | ((after, .ok store), _) =>
        ∃ file kept,
          StoreFile.read tree path = .ok file ∧
            (file.IsCurrent → after = tree) ∧
            (¬ file.IsCurrent →
              ∃ text, after.readText path = .ok text ∧ StoreFile.ofText? text = some kept) ∧
            StoreFile.read after path = .ok kept ∧
            kept.outline = file.outline ∧
            kept.IsCurrent ∧
            ∀ later, (load master provider after path).run later = ((after, .ok store), later) := by
  obtain ⟨after, outcome, rest, hrun⟩ : ∃ after outcome rest,
      (load master provider tree path).run entropy = ((after, outcome), rest) := ⟨_, _, _, rfl⟩
  rw [hrun]
  cases outcome with
  | error fault =>
      rcases load_run_error hrun with rfl | ⟨renewed, hwrite⟩
      · exact ⟨fun content hbytes => hbytes, fun _ => rfl⟩
      · refine ⟨fun content hbytes => StoreFile.write_error hwrite hbytes, ?_⟩
        intro hfault
        rcases StoreFile.write_error_fault hwrite with hsame | ⟨cause, hcause⟩
        · exact hsame
        · exact absurd hcause (hfault cause)
  | ok store =>
      obtain ⟨file, issuers, hread, hfile, hopens, rfl, hcase⟩ := load_run_ok hrun
      rcases hcase with ⟨hcurrent, rfl⟩ | ⟨hlegacy, hwrite⟩
      · exact ⟨file, file, hread, fun _ => rfl, fun h => absurd hcurrent h, hread, rfl, hcurrent,
          fun later => load_run_of_opens hread hfile hopens hcurrent⟩
      · have hcurrent := (StoreFile.write_ok hwrite).1
        obtain ⟨text, htext, hspells⟩ := StoreFile.ofText?_of_write hwrite
        have hread' := StoreFile.read_of_readText htext hspells
        exact ⟨file, file.renewed issuers, hread, fun h => absurd h hlegacy,
          fun _ => ⟨text, htext, hspells⟩, hread', hopens.outline_renewed, hcurrent,
          fun later => load_run_of_opens hread' (hfile.renewed hopens) hopens.renewed hcurrent⟩

end Store
end WorkloadIdentity
