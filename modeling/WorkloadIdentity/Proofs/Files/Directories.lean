import WorkloadIdentity.Proofs.Files.Staging

/-!
# Making the directories of a file

The directories that a path leads through are made unless a file is in the way of one of them.
Together with them a file can be made, unless a directory is in its place by then.

* `FileTree.makeDirectories_eq_ok_iff`: when directories are made.
* `FileTree.creatable_iff`: when a file can be written once its directories are made.
-/

namespace WorkloadIdentity

/-- A path leads through what its directory's path leads through, and the directory. -/
theorem Place.through_eq
    {place : Place}
    (h : place.parts ≠ []) :
    place.through = place.parent.through ++ [place.parent.names] := by
  have hlength : place.parts.length = place.parts.length - 1 + 1 := by
    have := List.length_pos_iff.mpr h
    omega
  rw [through, hlength, List.range_succ, List.map_append, List.map_singleton, through, names,
    parent, List.length_dropLast, List.dropLast_eq_take]
  congr 1
  refine List.map_congr_left fun count hcount => ?_
  rw [List.take_take, Nat.min_eq_left (Nat.le_of_lt (List.mem_range.mp hcount))]

namespace FileTree

variable {tree after : FileTree} {place : Place} {other : List String}
  {steps : List (List String)}

/-- A file stands under some names. -/
def HasFile
    (tree : FileTree)
    (names : List String) : Prop :=
  ∃ content mode, tree.node? names = some (.file content mode)

theorem not_hasFile_iff :
    ¬ tree.HasFile other ↔ tree.node? other = none ∨ tree.node? other = some .directory := by
  unfold HasFile
  rcases tree.node? other with _ | ⟨_, _⟩ | _ <;> simp

/-- Nothing changes but where directories are made. -/
theorem node?_addDirectories_of_not_mem
    (h : other ∉ steps) :
    (tree.addDirectories steps).node? other = tree.node? other := by
  induction steps generalizing tree with
  | nil => rfl
  | cons step steps ih =>
      rw [List.mem_cons, not_or] at h
      obtain ⟨hne, hrest⟩ := h
      rw [addDirectories]
      rcases tree.node? step with _ | ⟨_, _⟩ | _
      · exact (ih hrest).trans (node?_put_of_ne hne)
      · rfl
      · exact ih hrest

/-- There are directories everywhere afterwards exactly if no file was in the way. -/
theorem node?_addDirectories_eq_directory_iff :
    (∀ step ∈ steps, (tree.addDirectories steps).node? step = some .directory) ↔
      ∀ step ∈ steps, ¬ tree.HasFile step := by
  constructor
  · rintro h step hstep ⟨content, mode, hfile⟩
    cases (h step hstep).symm.trans (node?_addDirectories hfile)
  · intro h
    induction steps generalizing tree with
    | nil => simp
    | cons step steps ih =>
        rw [List.forall_mem_cons] at h
        obtain ⟨hstep, hrest⟩ := h
        rw [List.forall_mem_cons, addDirectories]
        rcases not_hasFile_iff.mp hstep with hnone | hdirectory
        · have hmade : (tree.put step .directory).node? step = some .directory :=
            node?_put_self (by simp [hnone])
          simp only [hnone]
          refine ⟨node?_addDirectories hmade, ih ?_⟩
          rintro other hother ⟨content, mode, hfile⟩
          by_cases hsame : other = step
          · cases hmade.symm.trans (hsame ▸ hfile)
          · rw [node?_put_of_ne hsame] at hfile
            exact hrest other hother ⟨content, mode, hfile⟩
        · simp only [hdirectory]
          exact ⟨node?_addDirectories hdirectory, ih hrest⟩

theorem makeDirectories_eq_ok_iff :
    tree.makeDirectories place = .ok after ↔
      after = tree.withDirectories place ∧
        ∀ names ∈ place.through ++ [place.names], ¬ tree.HasFile names := by
  rw [← node?_addDirectories_eq_directory_iff, ← withDirectories]
  have hall : ((place.through ++ [place.names]).all fun names =>
      (tree.withDirectories place).node? names = some .directory) = true ↔
      ∀ names ∈ place.through ++ [place.names],
        (tree.withDirectories place).node? names = some .directory := by
    simp only [List.all_eq_true, decide_eq_true_eq]
  rw [← hall, makeDirectories]
  split
  · next h =>
    rw [Except.ok.injEq, eq_comm]
    exact (and_iff_left h).symm
  · next h =>
    refine iff_of_false ?_ fun hmade => h hmade.2
    intro hok
    cases hok

/-- A file can be made at a place together with the directories that its path leads through: no
file is in the way, no directory stands at the place or would be made there, and the path can mean
a file. -/
structure Creatable
    (tree : FileTree)
    (place : Place) : Prop where
  through : ∀ above ∈ place.through, ¬ tree.HasFile above
  notDirectory : tree.node? place.names ≠ some .directory
  notThrough : place.names ∉ place.through
  file : place.asDirectory = false

/-- A file can be made exactly if its directories can be and it can be written then. -/
theorem creatable_iff :
    tree.Creatable place ↔
      ∃ made, tree.makeDirectories place.parent = .ok made ∧ made.Writable place := by
  simp only [makeDirectories_eq_ok_iff]
  by_cases hparts : place.parts = []
  · -- the path leads to the directory that it starts from
    have hbase (tree : FileTree) : tree.node? place.names = some .directory := by
      have hnames : isBase place.names = true := by
        rw [Place.names, hparts]
        cases place.fromRoot <;> decide
      exact if_pos hnames
    constructor
    · intro h
      exact absurd (hbase tree) h.notDirectory
    · rintro ⟨made, -, hmade⟩
      exact absurd (hbase made) hmade.notDirectory
  · have hthrough := Place.through_eq hparts
    rw [← hthrough]
    constructor
    · rintro ⟨habove, hnode, hnot, hfile⟩
      refine ⟨_, ⟨rfl, habove⟩, ?_, ?_, hfile⟩
      · rw [withDirectories, ← hthrough]
        exact node?_addDirectories_eq_directory_iff.mpr habove
      · rwa [withDirectories, ← hthrough, node?_addDirectories_of_not_mem hnot]
    · rintro ⟨made, ⟨rfl, habove⟩, hdirectories, hnode, hfile⟩
      have hnot : place.names ∉ place.through := fun hmem => hnode (hdirectories _ hmem)
      rw [withDirectories, ← hthrough, node?_addDirectories_of_not_mem hnot] at hnode
      exact ⟨habove, hnode, hnot, hfile⟩

end FileTree
end WorkloadIdentity
