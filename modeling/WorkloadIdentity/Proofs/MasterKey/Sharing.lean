import WorkloadIdentity.Proofs.Files.Directories
import WorkloadIdentity.Proofs.MasterKey.Keeping
import WorkloadIdentity.Proofs.MasterKey.Secrets

/-!
# All calls share one master key

The master key's file is written where nothing stands, and what stands there is never replaced.
So one call after the other gives the key of the first that succeeded, and what is encrypted under
the key of one call is decrypted under that of any other.

* `MasterKey.load_eq_ok_iff_spelled`: the key that a file holds.
* `MasterKey.exists_store_iff`: when a key can be stored.
* `MasterKey.load_of_mem_calls`: the key of any call is in the file after all of them.
* `MasterKey.written_once`: the result.
-/

namespace WorkloadIdentity

namespace FileTree

variable {tree : FileTree} {path : String}

/-- Something stands at a path. -/
def Occupied
    (tree : FileTree)
    (path : String) : Prop :=
  ∃ place node, FileTree.place path = .ok place ∧ tree.look place = .ok node

/-- The file at a path holds a text in UTF-8. -/
def HoldsText
    (tree : FileTree)
    (path text : String) : Prop :=
  ∃ place mode, FileTree.place path = .ok place ∧
    tree.look place = .ok (.file (Bytes.ofText text) mode)

theorem contains_iff :
    tree.contains path = true ↔ tree.Occupied path := by
  unfold contains Occupied
  cases hplace : FileTree.place path with
  | error fault => simp [bind, Except.bind]
  | ok place => cases hlook : tree.look place <;> simp [hlook, bind, Except.bind]

theorem readText_eq_ok_iff_holdsText
    {text : String} :
    tree.readText path = .ok text ↔ tree.HoldsText path text := by
  rw [readText_eq_ok_iff]
  constructor
  · rintro ⟨content, hbytes, htext⟩
    obtain ⟨place, mode, hplace, hlook⟩ := readBytes_eq_ok_iff.mp hbytes
    exact ⟨place, mode, hplace, Bytes.ofText_of_text? htext ▸ hlook⟩
  · rintro ⟨place, mode, hplace, hlook⟩
    exact ⟨_, readBytes_eq_ok_iff.mpr ⟨place, mode, hplace, hlook⟩, Bytes.text?_ofText text⟩

end FileTree

namespace MasterKey

variable {tree after : FileTree} {path : String} {key other : MasterKey} {entropy rest : Entropy}
  {outcome : Except KeyFault MasterKey}

/-- A file holds the key that its text spells. -/
theorem load_eq_ok_iff_spelled :
    load tree path = .ok key ↔ ∃ text, tree.HoldsText path text ∧ key.SpelledBy text := by
  simp only [load_eq_ok_iff, FileTree.readText_eq_ok_iff_holdsText, ofText_trimBlank_eq_ok_iff]

/-- The file at a path holds a key in sixty-four digits of the lower case and nothing else, and
nobody but its owner may read it. -/
def WrittenTo
    (key : MasterKey)
    (tree : FileTree)
    (path : String) : Prop :=
  ∃ place text, FileTree.place path = .ok place ∧
    tree.look place = .ok (.file (Bytes.ofText text) 0o600) ∧
    text.length = 64 ∧ (∀ c ∈ text.toList, c ∈ Hex.lowerDigits) ∧
    Hex.Spells text.toList key.bytes

theorem writtenTo_of_store
    (h : store tree path key = (after, .ok ())) :
    key.WrittenTo after path := by
  obtain ⟨place, hplace, hlook, -⟩ := store_eq_ok h
  refine ⟨place, key.toText, hplace, hlook, ?_, ?_, key.spells_toText⟩
  · rw [← String.length_toList, key.spells_toText.length_eq, key.length_bytes]
  · intro c hc
    rw [toText, Hex.encode, String.toList_ofList] at hc
    exact Hex.mem_encodeChars hc

/-- A key is written exactly where a file can be. -/
theorem exists_write_iff
    {place : Place} :
    (∃ after, write tree place key = .ok after) ↔ tree.Writable place := by
  rw [← @FileTree.write_succeeds_iff _ _ (Bytes.ofText key.toText)]
  unfold write
  cases hwrite : tree.write place (Bytes.ofText key.toText) with
  | error fault => simp [bind, Except.bind]
  | ok written =>
      obtain ⟨habove, hnode, hslash, mode, rfl⟩ := FileTree.write_eq_ok hwrite
      have hlook := @FileTree.look_put _ _ (Bytes.ofText key.toText) mode habove hnode hslash
      simp [FileTree.setMode, hlook, bind, Except.bind]

/-- A key is stored exactly where a file can be made together with its directories. -/
theorem exists_store_iff :
    (∃ after, store tree path key = (after, .ok ())) ↔
      ∃ place, FileTree.place path = .ok place ∧ tree.Creatable place := by
  unfold store
  cases hplace : FileTree.place path with
  | error fault => simp
  | ok place =>
      simp only [Except.ok.injEq, exists_eq_left', FileTree.creatable_iff,
        ← @exists_write_iff _ key]
      cases hmade : tree.makeDirectories place.parent with
      | error fault => simp [bind, Except.bind]
      | ok made => cases hwrite : write made place key <;> simp [hwrite, bind, Except.bind]

theorem loadOrGenerate_run_of_occupied
    (h : tree.Occupied path)
    (entropy : Entropy) :
    (loadOrGenerate tree path).run entropy = ((tree, load tree path), entropy) := by
  rw [loadOrGenerate, if_pos (FileTree.contains_iff.mpr h)]
  rfl

/-- Where nothing stands, a call gives the key that it stores. -/
theorem loadOrGenerate_run_of_not_occupied
    (h : ¬ tree.Occupied path)
    (hrun : (loadOrGenerate tree path).run entropy = ((after, outcome), rest)) :
    ∃ key, (store tree path key = (after, .ok ()) ∧ outcome = .ok key) ∨
      ∃ fault, store tree path key = (after, .error fault) ∧ outcome = .error (.file fault) := by
  rw [loadOrGenerate, if_neg (mt FileTree.contains_iff.mp h)] at hrun
  obtain ⟨made, last, hmade⟩ : ∃ made last, generate.run entropy = (made, last) := ⟨_, _, rfl⟩
  obtain ⟨stored, result, hstore⟩ : ∃ stored result, store tree path made = (stored, result) :=
    ⟨_, _, rfl⟩
  rw [Random.run_bind_of_run hmade] at hrun
  simp only [hstore] at hrun
  refine ⟨made, ?_⟩
  cases result with
  | error fault =>
      cases hrun
      exact Or.inr ⟨fault, hstore, rfl⟩
  | ok value =>
      cases hrun
      exact Or.inl ⟨hstore, rfl⟩

/-- The files after calls one after the other, each with the randomness that is at hand then, and
what the calls give. -/
def calls (path : String) (tree : FileTree) :
    List Entropy → FileTree × List (Except KeyFault MasterKey)
  | [] => (tree, [])
  | entropy :: later =>
      let ((after, outcome), _) := (loadOrGenerate tree path).run entropy
      let (last, outcomes) := calls path after later
      (last, outcome :: outcomes)

variable {supplies later : List Entropy}

/-- The first call decides what the others find. -/
theorem calls_cons
    (h : (loadOrGenerate tree path).run entropy = ((after, outcome), rest)) :
    calls path tree (entropy :: later)
      = ((calls path after later).1, outcome :: (calls path after later).2) := by
  rw [calls, h]

theorem calls_append
    (path : String) (tree : FileTree) (supplies later : List Entropy) :
    calls path tree (supplies ++ later)
      = ((calls path (calls path tree supplies).1 later).1,
        (calls path tree supplies).2 ++ (calls path (calls path tree supplies).1 later).2) := by
  induction supplies generalizing tree with
  | nil => rfl
  | cons entropy supplies ih =>
      obtain ⟨after, outcome, rest, hrun⟩ : ∃ after outcome rest,
          (loadOrGenerate tree path).run entropy = ((after, outcome), rest) := ⟨_, _, _, rfl⟩
      rw [List.cons_append, calls_cons hrun, calls_cons hrun, ih]
      rfl

/-- A key in its file is what every call gives, and no call changes anything. -/
theorem calls_of_load
    (h : load tree path = .ok key)
    (supplies : List Entropy) :
    calls path tree supplies = (tree, supplies.map fun _ => .ok key) := by
  induction supplies with
  | nil => rfl
  | cons entropy supplies ih =>
      rw [calls_cons (loadOrGenerate_run_of_load h), ih]
      rfl

/-- A key that some call gave is in its file after all of them. -/
theorem load_of_mem_calls
    (h : .ok key ∈ (calls path tree supplies).2) :
    load (calls path tree supplies).1 path = .ok key := by
  induction supplies generalizing tree with
  | nil => cases h
  | cons entropy supplies ih =>
      obtain ⟨after, outcome, rest, hrun⟩ : ∃ after outcome rest,
          (loadOrGenerate tree path).run entropy = ((after, outcome), rest) := ⟨_, _, _, rfl⟩
      rw [calls_cons hrun] at h ⊢
      rcases List.mem_cons.mp h with rfl | hlater
      · -- the first call left it there, where the others find it
        have hload := load_of_loadOrGenerate hrun
        rw [calls_of_load hload]
        exact hload
      · exact ih hlater

/-- Where something stands at the path of the master key, a call changes nothing, and it gives a
key exactly if this is a file with sixty-four hexadecimal digits between white space, which spell
the key.  Where nothing stands, it gives a key exactly if a file can be made there, which then
holds the key's digits alone.  So once some call has given a key, no later call changes anything,
all of them give this key, and what is encrypted under the key of one call is decrypted under that
of any other. -/
theorem written_once
    (tree : FileTree) (path : String) :
    (tree.Occupied path → ∀ entropy, ∃ outcome,
        (loadOrGenerate tree path).run entropy = ((tree, outcome), entropy) ∧
        (∀ key, outcome = .ok key ↔ ∃ text, tree.HoldsText path text ∧ key.SpelledBy text) ∧
        ((∃ key, outcome = .ok key) ↔ ∃ text digits, tree.HoldsText path text ∧
          BetweenBlanks text digits ∧ digits.length = 64 ∧ ∀ c ∈ digits, c.isHexDigit = true)) ∧
    (¬ tree.Occupied path → ∀ entropy after outcome rest,
        (loadOrGenerate tree path).run entropy = ((after, outcome), rest) →
        ((∃ key, outcome = .ok key) ↔
          ∃ place, FileTree.place path = .ok place ∧ tree.Creatable place) ∧
        (∀ key, outcome = .ok key → key.WrittenTo after path) ∧
        ∀ fault, outcome = .error fault → ∃ cause, fault = .file cause) ∧
    ∀ supplies key, .ok key ∈ (calls path tree supplies).2 →
      (∀ later, calls path tree (supplies ++ later)
        = ((calls path tree supplies).1,
          (calls path tree supplies).2 ++ later.map fun _ => .ok key)) ∧
      ∀ other, .ok other ∈ (calls path tree supplies).2 → ∀ text entropy,
        other.decrypt ((key.encrypt text).run entropy).1 = .ok text := by
  refine ⟨?_, ?_, ?_⟩
  · intro hoccupied entropy
    refine ⟨_, loadOrGenerate_run_of_occupied hoccupied entropy,
      fun key => load_eq_ok_iff_spelled, ?_⟩
    simp only [load_eq_ok_iff_spelled]
    constructor
    · rintro ⟨key, text, htext, hspelled⟩
      obtain ⟨digits, hdigits⟩ := exists_spelledBy_iff.mp ⟨key, hspelled⟩
      exact ⟨text, digits, htext, hdigits⟩
    · rintro ⟨text, digits, htext, hdigits⟩
      obtain ⟨key, hspelled⟩ := exists_spelledBy_iff.mpr ⟨digits, hdigits⟩
      exact ⟨key, text, htext, hspelled⟩
  · intro hvacant entropy after outcome rest hrun
    obtain ⟨made, ⟨hstore, rfl⟩ | ⟨fault, hstore, rfl⟩⟩ :=
      loadOrGenerate_run_of_not_occupied hvacant hrun
    · refine ⟨iff_of_true ⟨made, rfl⟩ (exists_store_iff.mp ⟨after, hstore⟩), ?_, nofun⟩
      rintro key hkey
      cases hkey
      exact writtenTo_of_store hstore
    · refine ⟨iff_of_false nofun fun hplace => ?_, nofun, ?_⟩
      · obtain ⟨stored, hstored⟩ := (@exists_store_iff _ _ made).mpr hplace
        cases hstore.symm.trans hstored
      · rintro _ ⟨⟩
        exact ⟨fault, rfl⟩
  · intro supplies key hkey
    have hload := load_of_mem_calls hkey
    refine ⟨fun later => ?_, ?_⟩
    · rw [calls_append, calls_of_load hload]
    · intro other hother text entropy
      have hshared : key = other :=
        Except.ok.inj (hload.symm.trans (load_of_mem_calls hother))
      rw [← hshared]
      exact decrypt_eq_ok_iff.mpr ⟨_, entropy, rfl, rfl⟩

/-- Where there is no file at all, the first call makes one together with its directory, and all
others find its key. -/
theorem first_key_shared :
    ∃ after key, key.WrittenTo after "secrets/master.key" ∧
      ∀ later, calls "secrets/master.key" .empty (⟨fun _ => 7, 0⟩ :: later)
        = (after, .ok key :: later.map fun _ => .ok key) := by
  have hplace : FileTree.place "secrets/master.key"
      = .ok ⟨false, ["secrets", "master.key"], false⟩ := by
    decide +kernel
  have hvacant : ¬ FileTree.empty.Occupied "secrets/master.key" := by
    rw [← FileTree.contains_iff]
    decide +kernel
  have hcreatable : FileTree.empty.Creatable ⟨false, ["secrets", "master.key"], false⟩ := by
    refine ⟨fun above habove => FileTree.not_hasFile_iff.mpr ?_, by decide, by decide, rfl⟩
    revert above
    decide
  obtain ⟨after, outcome, rest, hrun⟩ : ∃ after outcome rest,
      (loadOrGenerate .empty "secrets/master.key").run ⟨fun _ => 7, 0⟩
        = ((after, outcome), rest) := ⟨_, _, _, rfl⟩
  obtain ⟨-, hvacantCase, hcalls⟩ := written_once .empty "secrets/master.key"
  obtain ⟨hgives, hwritten, -⟩ := hvacantCase hvacant _ _ _ _ hrun
  obtain ⟨key, rfl⟩ := hgives.mpr ⟨_, hplace, hcreatable⟩
  have hfirst : calls "secrets/master.key" .empty [⟨fun _ => 7, 0⟩] = (after, [.ok key]) :=
    calls_cons hrun
  refine ⟨after, key, hwritten key rfl, fun later => ?_⟩
  have hshared := (hcalls [⟨fun _ => 7, 0⟩] key (by simp [hfirst])).1 later
  rwa [hfirst] at hshared

end MasterKey
end WorkloadIdentity
