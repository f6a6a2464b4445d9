import WorkloadIdentity.Proofs.Files.Staging
import WorkloadIdentity.Proofs.Store.Writing

/-!
# Writing a store is all or nothing

A store with legacy keys in it is refused before any file is touched.  Every other store is written
exactly where both its file and the file beside can be written; then the file spells the store and
nothing else, and the file beside is gone.  Otherwise the file is what it was.

* `StoreFile.write_all_or_nothing`: all of this for one run.
-/

namespace WorkloadIdentity

namespace StoreFile

open FileTree

variable {file : StoreFile} {tree after : FileTree} {path : String} {place : Place}

/-- A store stands in the file at a path, and in all of the tree nothing else has changed. -/
structure WrittenTo
    (file : StoreFile)
    (tree after : FileTree)
    (path : String)
    (place : Place) : Prop where
  spelled : ∃ text, after.readText path = .ok text ∧ ofText? text = some file
  read_back : read after path = .ok file
  gone : after.node? (staging place).names = none
  frame : ∀ names, names ≠ place.names → names ≠ (staging place).names →
    after.node? names = tree.node? names

/-- A store that takes the place of a file stands in it. -/
theorem Replaced.writtenTo
    {json : Json}
    (h : Replaced tree after place json.pretty)
    (hplace : FileTree.place path = .ok place)
    (hjson : file.toJson? = some json)
    (hne : (staging place).names ≠ place.names) :
    file.WrittenTo tree after path place := by
  obtain ⟨mode, hlook⟩ := h.holds
  have htext := readText_of_look hplace hlook
  have hspells := ofText?_pretty hjson
  refine ⟨⟨_, htext, hspells⟩, read_of_readText htext hspells, h.gone hne, ?_⟩
  intro names hnePlace hneStaging
  exact h.frame names (by simp [hnePlace, hneStaging])

/-- Writing a store with a document is replacing the file at its place. -/
theorem write_eq_replace
    {json : Json} {outcome : Except FileFault Unit}
    (hjson : file.toJson? = some json)
    (hplace : FileTree.place path = .ok place)
    (hreplace : replace tree place json.pretty = (after, outcome)) :
    file.write tree path = (after, outcome.mapError (.write path)) := by
  simp only [write, hjson, hplace, hreplace]

/-- Writing a store is all or nothing.  With a legacy record anywhere in the store nothing is
touched.  Without one, and at a path that leads somewhere and does not have the extension of the
file beside, it succeeds exactly where both files can be written; the store is then read back from
its file, and nothing else has changed.  Where it fails, nothing has changed but the file beside. -/
theorem write_all_or_nothing
    (file : StoreFile)
    (tree : FileTree)
    (path : String) :
    ((∃ scope ∈ file.scopes, ∃ record ∈ scope.credentials, record.keys.isLegacy = true) →
      file.write tree path = (tree, .error (.legacyKeys path))) ∧
    (file.IsCurrent →
      (∀ fault, FileTree.place path = .error fault →
        file.write tree path = (tree, .error (.write path fault))) ∧
      ∀ place, FileTree.place path = .ok place → ¬ place.HasExtension stagingExtension →
        ∃ after outcome, file.write tree path = (after, outcome) ∧
          (outcome = .ok () ↔ tree.Writable (staging place) ∧ tree.Writable place) ∧
          (outcome = .ok () → file.WrittenTo tree after path place) ∧
          ∀ fault, outcome = .error fault → (∃ cause, fault = .write path cause) ∧
            ∀ names, names ≠ (staging place).names → after.node? names = tree.node? names) := by
  refine ⟨?_, fun hcurrent => ⟨?_, ?_⟩⟩
  · rintro ⟨scope, hscope, record, hrecord, hlegacy⟩
    refine write_of_not_isCurrent ?_ tree path
    intro hcurrent
    cases hlegacy.symm.trans (hcurrent scope hscope record hrecord)
  · intro fault hplace
    obtain ⟨json, hjson⟩ := Option.isSome_iff_exists.mp (toJson?_isSome_iff.mpr hcurrent)
    simp only [write, hjson, hplace]
  · intro place hplace hextension
    obtain ⟨json, hjson⟩ := Option.isSome_iff_exists.mp (toJson?_isSome_iff.mpr hcurrent)
    obtain ⟨after, outcome, hreplace⟩ : ∃ after outcome,
        replace tree place json.pretty = (after, outcome) := ⟨_, _, rfl⟩
    refine ⟨after, _, write_eq_replace hjson hplace hreplace, ?_⟩
    have hsucceeds := @replace_succeeds_iff tree place json.pretty
    simp only [hreplace, Prod.mk.injEq, exists_eq_left'] at hsucceeds
    cases outcome with
    | error cause =>
        have hnot : ¬ (tree.Writable (staging place) ∧ tree.Writable place) := by
          simp [← hsucceeds]
        refine ⟨by simp [Except.mapError, hnot], by simp [Except.mapError], ?_⟩
        intro fault hfault
        cases hfault
        exact ⟨⟨cause, rfl⟩, fun names => node?_of_replace_error hreplace⟩
    | ok value =>
        have hwritable : tree.Writable (staging place) ∧ tree.Writable place := hsucceeds.mp rfl
        obtain ⟨name, hname⟩ := exists_name_of_place hplace hwritable.2.file
        have hne : (staging place).names ≠ place.names :=
          mt (staging_names_eq_iff hname).mp hextension
        have hwritten := (replace_ok hreplace).writtenTo hplace hjson hne
        exact ⟨⟨fun _ => hwritable, fun _ => rfl⟩, fun _ => hwritten, by simp [Except.mapError]⟩

theorem write_oddly_named :
    ∃ after, write ⟨[⟨"/a\"\n", [⟨"", some "", none, some "𝄞", .current ⟨"RS256", "", ""⟩⟩]⟩]⟩
        .empty "credentials.json" = (after, .ok ()) ∧
      WrittenTo ⟨[⟨"/a\"\n", [⟨"", some "", none, some "𝄞", .current ⟨"RS256", "", ""⟩⟩]⟩]⟩
        .empty after "credentials.json" ⟨false, ["credentials.json"], false⟩ := by
  have hcurrent : IsCurrent
      ⟨[⟨"/a\"\n", [⟨"", some "", none, some "𝄞", .current ⟨"RS256", "", ""⟩⟩]⟩]⟩ := by
    simp [IsCurrent, KeyRecord.isLegacy]
  have hextension : ¬ Place.HasExtension ⟨false, ["credentials.json"], false⟩ stagingExtension := by
    rintro ⟨before, hname, -, -⟩
    have hlast := congrArg (fun name => name.bind fun text => text.toList.getLast?) hname
    simp [Place.name?, Place.parentMark, stagingExtension] at hlast
    exact absurd hlast (by decide)
  obtain ⟨after, outcome, hwrite, hsucceeds, hwritten, -⟩ :=
    ((write_all_or_nothing _ .empty "credentials.json").2 hcurrent).2
      ⟨false, ["credentials.json"], false⟩ (by decide +kernel) hextension
  have hok : outcome = .ok () := hsucceeds.mpr
    ⟨⟨by decide +kernel, by decide +kernel, by decide +kernel⟩,
      ⟨by decide +kernel, by decide +kernel, by decide +kernel⟩⟩
  subst hok
  exact ⟨after, hwrite, hwritten rfl⟩

end StoreFile
end WorkloadIdentity
