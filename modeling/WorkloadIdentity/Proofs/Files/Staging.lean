import WorkloadIdentity.Proofs.Files.Replacing

/-!
# The file beside a file

A text takes the place of a file by way of a file beside it, which has the same name with another
extension.  The two are different unless the file has this extension itself, and then the text
takes its place exactly if both of them can be written.

* `StoreFile.staging_names_eq_iff`: when the file beside is the file itself.
* `FileTree.write_succeeds_iff` and `FileTree.rename_succeeds_iff`: when a file is written or moved.
* `StoreFile.replace_succeeds_iff`: when a text takes the place of a file.
-/

namespace WorkloadIdentity

namespace Place

variable {place : Place} {path name : String}

/-- The name that a path ends in has an extension: it follows the last dot, which has something
before it. -/
def HasExtension
    (place : Place)
    (extension : String) : Prop :=
  ∃ before, place.name? = some (before ++ "." ++ extension) ∧ before ≠ "" ∧
    '.' ∉ extension.toList

theorem split_ne_nil
    (path : String) :
    split path ≠ [] := by
  unfold split
  exact List.cons_ne_nil _ _

/-- A path that can mean a file ends in the file's name. -/
theorem exists_name_of_ofPath?
    (h : ofPath? path = some place)
    (hfile : place.asDirectory = false) :
    ∃ name, place.name? = some name := by
  unfold ofPath? at h
  split at h
  · cases h
  · cases h
    obtain ⟨before, last, hsplit⟩ := List.eq_nil_or_concat (split path) |>.resolve_left
      (split_ne_nil path)
    simp only [hsplit, List.concat_eq_append, List.getLast?_concat, Option.any_some] at hfile
    obtain ⟨hempty, hdot, hparent⟩ : last ≠ "" ∧ last ≠ "." ∧ last ≠ parentMark := by
      simpa using hfile
    refine ⟨last, ?_⟩
    simp [name?, hsplit, List.filter_append, hempty, hdot, hparent]

/-- A path that ends in a name leads to it from where the rest of the path leads. -/
theorem names_withName
    (hname : name ≠ parentMark) :
    (place.withName name).names = resolve place.fromRoot place.parts.dropLast ++ [name] := by
  rw [names, withName, resolve, List.foldl_append, List.foldl_cons, List.foldl_nil, push,
    if_pos hname]
  rfl

theorem names_of_name?
    (h : place.name? = some name) :
    place.names = resolve place.fromRoot place.parts.dropLast ++ [name] := by
  obtain ⟨hlast, hparent⟩ := Option.filter_eq_some_iff.mp h
  obtain ⟨before, hparts⟩ := List.getLast?_eq_some_iff.mp hlast
  have hplace : place.names = (place.withName name).names := by
    rw [names, names, withName, hparts, List.dropLast_concat]
  rw [hplace, names_withName (by simpa using hparent)]

/-- The stem of a name with an extension is what stands before the extension's dot. -/
theorem stem_append
    {before extension : String}
    (hbefore : before ≠ "")
    (hdot : '.' ∉ extension.toList) :
    stem (before ++ "." ++ extension) = before := by
  have hchars : (before ++ "." ++ extension).toList.reverse
      = extension.toList.reverse ++ '.' :: before.toList.reverse := by simp
  have hdrop : (before ++ "." ++ extension).toList.reverse.dropWhile (· ≠ '.')
      = '.' :: before.toList.reverse := by
    rw [hchars, List.dropWhile_append_of_pos]
    · rfl
    · intro c hc
      have hmem : c ∈ extension.toList := List.mem_reverse.mp hc
      simpa using ne_of_mem_of_not_mem hmem hdot
  have hne : before.toList.reverse ≠ [] := by simpa using hbefore
  rw [stem, hdrop]
  simp only [if_neg hne, List.reverse_reverse, String.ofList_toList]

/-- Only the empty name has an empty stem. -/
theorem eq_empty_of_stem
    (h : stem name = "") :
    name = "" := by
  unfold stem at h
  split at h
  · exact h
  · next before _ =>
    split at h
    · exact h
    · next hne =>
      have hchars : before.reverse = [] := by simpa using congrArg String.toList h
      exact absurd (List.reverse_eq_nil_iff.mp hchars) hne

end Place

namespace FileTree

variable {tree after : FileTree} {place : Place} {content : Bytes}

/-- A path that leads to a file ends in the file's name. -/
theorem exists_name_of_place
    {path : String}
    (h : FileTree.place path = .ok place)
    (hfile : place.asDirectory = false) :
    ∃ name, place.name? = some name := by
  unfold FileTree.place at h
  split at h
  · cases h
  · next found hfound =>
    cases h
    exact Place.exists_name_of_ofPath? hfound hfile

/-- A file can be written at a place: the directories that its path leads through are there, no
directory stands at it, and its path can mean a file. -/
structure Writable
    (tree : FileTree)
    (place : Place) : Prop where
  through : ∀ above ∈ place.through, tree.node? above = some .directory
  notDirectory : tree.node? place.names ≠ some .directory
  file : place.asDirectory = false

/-- A file is written exactly where one can be. -/
theorem write_succeeds_iff :
    (∃ after, tree.write place content = .ok after) ↔ tree.Writable place := by
  constructor
  · rintro ⟨after, hwrite⟩
    obtain ⟨habove, hnode, hfile, -⟩ := write_eq_ok hwrite
    exact ⟨checkAbove_eq_ok_iff.mp habove, hnode, hfile⟩
  · rintro ⟨habove, hnode, hfile⟩
    rw [← checkAbove_eq_ok_iff] at habove
    simp only [write, habove, hfile, bind, Except.bind]
    rcases hfound : tree.node? place.names with _ | ⟨_ | _⟩
    · exact ⟨_, rfl⟩
    · exact ⟨_, rfl⟩
    · exact absurd hfound hnode

/-- A file makes no directory and takes none away. -/
theorem node?_put_eq_directory_iff
    {names other : List String} {mode : Nat}
    (hnode : tree.node? names ≠ some .directory) :
    (tree.put names (.file content mode)).node? other = some .directory ↔
      tree.node? other = some .directory := by
  by_cases hother : other = names
  · rw [hother, node?_put_self hnode]
    simp [hnode]
  · rw [node?_put_of_ne hother]

/-- Where files can be written is not changed by a file. -/
theorem writable_put_iff
    {names : List String} {mode : Nat}
    (hnode : tree.node? names ≠ some .directory) :
    (tree.put names (.file content mode)).Writable place ↔ tree.Writable place := by
  have hsame {other : List String} := @node?_put_eq_directory_iff tree content names other mode hnode
  constructor
  · rintro ⟨habove, hplace, hfile⟩
    exact ⟨fun above hmem => hsame.mp (habove above hmem), mt hsame.mpr hplace, hfile⟩
  · rintro ⟨habove, hplace, hfile⟩
    exact ⟨fun above hmem => hsame.mpr (habove above hmem), mt hsame.mp hplace, hfile⟩

/-- A file is moved exactly where one can be written. -/
theorem rename_succeeds_iff
    {source : Place} {mode : Nat}
    (hlook : tree.look source = .ok (.file content mode)) :
    (∃ after, tree.rename source place = .ok after) ↔ tree.Writable place := by
  constructor
  · rintro ⟨after, hrename⟩
    obtain ⟨habove, hnode, hfile, -⟩ := rename_eq_ok hrename
    exact ⟨checkAbove_eq_ok_iff.mp habove, hnode, hfile⟩
  · rintro ⟨habove, hnode, hfile⟩
    exact ⟨_, rename_of_look hlook (checkAbove_eq_ok_iff.mpr habove) hnode hfile⟩

end FileTree

namespace StoreFile

open FileTree

variable {tree after : FileTree} {place : Place} {text : String}

/-- The name of a file beside is no parent's mark. -/
theorem append_stagingExtension_ne
    (before : String) :
    before ++ "." ++ stagingExtension ≠ Place.parentMark := by
  intro h
  have hlast := congrArg (fun name => name.toList.getLast?) h
  simp [stagingExtension, Place.parentMark] at hlast

/-- The file beside is another file unless the file has the extension of files beside. -/
theorem staging_names_eq_iff
    {name : String}
    (hname : place.name? = some name) :
    (staging place).names = place.names ↔ place.HasExtension stagingExtension := by
  obtain ⟨hlast, hparent⟩ := Option.filter_eq_some_iff.mp hname
  have hne : name ≠ Place.parentMark := by simpa using hparent
  have hstaging : staging place = place.withName (Place.stem name ++ "." ++ stagingExtension) := by
    rw [staging, Place.withExtension, hname]
  have hnames : (staging place).names = place.names
      ↔ Place.stem name ++ "." ++ stagingExtension = name := by
    rw [hstaging, Place.names_withName (append_stagingExtension_ne _),
      Place.names_of_name? hname, List.append_cancel_left_eq, List.cons.injEq]
    simp
  rw [hnames]
  constructor
  · intro hsame
    refine ⟨Place.stem name, by rw [hname, hsame], ?_, by decide⟩
    intro hempty
    rw [hempty, Place.eq_empty_of_stem hempty] at hsame
    exact absurd hsame (by decide)
  · rintro ⟨before, hbefore, hnonempty, hdot⟩
    obtain rfl := Option.some.inj (hname.symm.trans hbefore)
    rw [Place.stem_append hnonempty hdot]

/-- A text takes the place of a file exactly if both the file beside and the file can be
written. -/
theorem replace_succeeds_iff :
    (∃ after, replace tree place text = (after, .ok ())) ↔
      tree.Writable (staging place) ∧ tree.Writable place := by
  obtain ⟨⟨after, outcome⟩, hreplace⟩ : ∃ result, replace tree place text = result := ⟨_, rfl⟩
  simp only [hreplace, Prod.mk.injEq]
  rcases replace_cases hreplace with
    ⟨fault, hwrite, -, rfl⟩ | ⟨written, hwrite, hmoved⟩
  · have hnot : ¬ tree.Writable (staging place) := by
      rw [← @write_succeeds_iff _ _ (Bytes.ofText text), hwrite]
      simp
    simp [hnot]
  · have hstaging := write_succeeds_iff.mp ⟨written, hwrite⟩
    obtain ⟨habove, hnode, hfile, mode, rfl⟩ := write_eq_ok hwrite
    have hlook := @look_put _ _ (Bytes.ofText text) mode habove hnode hfile
    have hmove := (@rename_succeeds_iff _ place _ _ _ hlook).trans (writable_put_iff hnode)
    rw [← hmove]
    rcases hmoved with ⟨fault, hrename, -, rfl⟩ | ⟨hrename, rfl⟩
    · simp [hrename]
    · simp [hrename, hstaging]

end StoreFile
end WorkloadIdentity
