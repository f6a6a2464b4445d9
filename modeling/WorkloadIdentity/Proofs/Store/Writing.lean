import WorkloadIdentity.Proofs.Files.Replacing
import WorkloadIdentity.Proofs.Store.Documents

/-!
# A store that is written is read back

Writing a store's file succeeds only for stores without legacy keys.  The store is then read back
exactly, and no other file but the one beside has changed; where writing fails, the file at the
path is still what it was.

* `StoreFile.write_ok`: what writing leaves behind.
* `StoreFile.write_of_replaceable` and `StoreFile.write_of_not_isCurrent`: when a store is written.
* `StoreFile.ofText?_of_write`: a store that is written is read back.
* `StoreFile.write_error`: what writing that fails leaves behind.
-/

namespace WorkloadIdentity

namespace FileTree

/-- The text of the file at a place is the text at every path that leads there. -/
theorem readText_of_look
    {tree : FileTree} {path text : String} {place : Place} {mode : Nat}
    (hplace : FileTree.place path = .ok place)
    (hlook : tree.look place = .ok (.file (Bytes.ofText text) mode)) :
    tree.readText path = .ok text :=
  readText_eq_ok_iff.mpr
    ⟨_, readBytes_eq_ok_iff.mpr ⟨place, mode, hplace, hlook⟩, Bytes.text?_ofText text⟩

end FileTree

namespace StoreFile

open FileTree

variable {file : StoreFile} {tree after : FileTree} {path : String}

/-- The store in a file with a text that spells it. -/
theorem read_of_readText
    {text : String}
    (htext : tree.readText path = .ok text)
    (hfile : ofText? text = some file) :
    read tree path = .ok file := by
  rw [read, htext]
  simp only [hfile]

/-- A store that is read stands in a file that spells it, unless there is no file and the store is
empty. -/
theorem read_eq_ok
    (h : read tree path = .ok file) :
    (tree.readText path = .error .notFound ∧ file = empty) ∨
      ∃ text, tree.readText path = .ok text ∧ ofText? text = some file := by
  unfold read at h
  split at h
  · next htext =>
    cases h
    exact Or.inl ⟨htext, rfl⟩
  · cases h
  · next text htext =>
    split at h
    · cases h
    · next found hfound =>
      cases h
      exact Or.inr ⟨text, htext, hfound⟩

/-- A store that is written holds no legacy keys, and its text replaces that of its file. -/
theorem write_ok
    (h : file.write tree path = (after, .ok ())) :
    file.IsCurrent ∧ ∃ place json, FileTree.place path = .ok place ∧
      file.toJson? = some json ∧ Replaced tree after place json.pretty := by
  unfold write at h
  split at h
  · cases h
  · next json hjson =>
    split at h
    · cases h
    · next place hplace =>
      obtain ⟨replaced, outcome, hreplace⟩ : ∃ replaced outcome,
          replace tree place json.pretty = (replaced, outcome) := ⟨_, _, rfl⟩
      rw [hreplace] at h
      cases outcome with
      | error fault => cases h
      | ok value =>
          cases h
          exact ⟨toJson?_isSome_iff.mp (Option.isSome_of_mem hjson), place, json, hplace, hjson,
            replace_ok hreplace⟩

/-- Every text can be put in place of the file at a path. -/
def Replaceable
    (tree : FileTree)
    (path : String) : Prop :=
  ∃ place, FileTree.place path = .ok place ∧
    ∀ text, ∃ after, replace tree place text = (after, .ok ())

/-- A store without legacy keys is written wherever a file can be replaced. -/
theorem write_of_replaceable
    (htree : Replaceable tree path)
    (hcurrent : file.IsCurrent) :
    ∃ after, file.write tree path = (after, .ok ()) := by
  obtain ⟨json, hjson⟩ := Option.isSome_iff_exists.mp (toJson?_isSome_iff.mpr hcurrent)
  obtain ⟨place, hplace, hreplace⟩ := htree
  obtain ⟨after, hafter⟩ := hreplace json.pretty
  refine ⟨after, ?_⟩
  simp only [write, hjson, hplace, hafter]
  rfl

/-- A store with legacy keys is written nowhere. -/
theorem write_of_not_isCurrent
    (h : ¬ file.IsCurrent)
    (tree : FileTree) (path : String) :
    file.write tree path = (tree, .error (.legacyKeys path)) := by
  rw [← toJson?_isSome_iff, Option.not_isSome_iff_eq_none] at h
  rw [write, h]

/-- A store that is written is read back. -/
theorem ofText?_of_write
    (h : file.write tree path = (after, .ok ())) :
    ∃ text, after.readText path = .ok text ∧ ofText? text = some file := by
  obtain ⟨-, place, json, hplace, hjson, hreplaced⟩ := write_ok h
  obtain ⟨mode, hlook⟩ := hreplaced.holds
  exact ⟨json.pretty, readText_of_look hplace hlook, ofText?_pretty hjson⟩

/-- Where writing a store fails, the file at its path is what it was. -/
theorem write_error
    {fault : StoreFault} {content : Bytes}
    (h : file.write tree path = (after, .error fault))
    (hbytes : tree.readBytes path = .ok content) :
    after.readBytes path = .ok content := by
  unfold write at h
  split at h
  · cases h
    exact hbytes
  · next json hjson =>
    split at h
    · cases h
      exact hbytes
    · next place hplace =>
      obtain ⟨replaced, outcome, hreplace⟩ : ∃ replaced outcome,
          replace tree place json.pretty = (replaced, outcome) := ⟨_, _, rfl⟩
      rw [hreplace] at h
      cases outcome with
      | ok value => cases h
      | error found =>
          cases h
          obtain ⟨other, mode, hother, hlook⟩ := readBytes_eq_ok_iff.mp hbytes
          obtain rfl : place = other := by
            rw [hplace] at hother
            cases hother
            rfl
          exact readBytes_eq_ok_iff.mpr ⟨place, mode, hplace, look_of_replace_error hreplace hlook⟩

end StoreFile
end WorkloadIdentity
