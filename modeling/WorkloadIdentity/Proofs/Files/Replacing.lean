import WorkloadIdentity.Store.File

/-!
# Replacing a file

What writing, moving and replacing files changes.  A file that is replaced by way of a file beside
it holds the new text afterwards, and nothing changes anywhere else; where replacing fails, it is
still what it was.

* `FileTree.look_of_frame`: a file stays where it is while others become files.
* `StoreFile.replace_ok`: what replacing changes.
* `StoreFile.look_of_replace_error`: a file that cannot be replaced is kept.
-/

namespace WorkloadIdentity

namespace FileTree

variable {tree after : FileTree} {names other : List String} {node : FileNode} {place : Place}

section Lookup

variable {β : Type} {entries : List (List String × β)}

theorem lookup_cons_ite
    (entry : List String × β) (entries : List (List String × β)) (other : List String) :
    (entry :: entries).lookup other
      = if other = entry.1 then some entry.2 else entries.lookup other := by
  obtain ⟨key, value⟩ := entry
  by_cases h : other = key
  · simp [h]
  · have hbeq : (other == key) = false := beq_false_of_ne h
    simp [List.lookup_cons, hbeq, h]

theorem lookup_map_replace
    (entries : List (List String × β)) (names other : List String) (value : β) :
    (entries.map fun entry => if entry.1 = names then (names, value) else entry).lookup other
      = if other = names then (entries.lookup names).map fun _ => value
        else entries.lookup other := by
  induction entries with
  | nil => simp
  | cons entry entries ih =>
      rw [List.map_cons, lookup_cons_ite, ih, lookup_cons_ite, lookup_cons_ite]
      by_cases hentry : entry.1 = names
      · rw [if_pos hentry, if_pos hentry.symm, hentry]
        by_cases hother : other = names
        · simp [hother]
        · simp [hother]
      · rw [if_neg hentry, if_neg (Ne.symm hentry)]
        by_cases hother : other = names
        · rw [hother, if_neg (Ne.symm hentry), if_pos rfl, if_pos rfl]
        · simp [hother]

theorem lookup_filter_of_ne
    (entries : List (List String × β))
    (h : other ≠ names) :
    (entries.filter fun entry => entry.1 ≠ names).lookup other = entries.lookup other := by
  induction entries with
  | nil => rfl
  | cons entry entries ih =>
      by_cases hentry : entry.1 = names
      · rw [List.filter_cons_of_neg (by simpa using hentry), lookup_cons_ite, ih,
          if_neg (hentry ▸ h)]
      · rw [List.filter_cons_of_pos (by simpa using hentry), lookup_cons_ite, lookup_cons_ite, ih]

theorem lookup_filter_self
    (entries : List (List String × β)) :
    (entries.filter fun entry => entry.1 ≠ names).lookup names = none := by
  rw [List.lookup_eq_none_iff]
  intro entry hentry
  have hne : entry.1 ≠ names := by simpa using (List.mem_filter.mp hentry).2
  simpa using Ne.symm hne

end Lookup

theorem lookup_put
    (tree : FileTree) (names other : List String) (node : FileNode) :
    (tree.put names node).entries.lookup other
      = if other = names then some node else tree.entries.lookup other := by
  unfold put
  split
  · next h =>
    obtain ⟨found, hfound⟩ := Option.isSome_iff_exists.mp h
    rw [lookup_map_replace, hfound]
    rfl
  · next h =>
    rw [List.lookup_append, lookup_cons_ite]
    by_cases hother : other = names
    · rw [hother, Option.not_isSome_iff_eq_none.mp h]
      simp
    · simp [hother]

/-- Bases are directories. -/
theorem not_isBase_of_node?_ne
    (h : tree.node? names ≠ some .directory) :
    ¬ isBase names = true :=
  fun hbase => h (if_pos hbase)

/-- Bases stay as they are, and every other node is replaced. -/
theorem node?_put_self
    (h : tree.node? names ≠ some .directory) :
    (tree.put names node).node? names = some node := by
  rw [node?, if_neg (not_isBase_of_node?_ne h), lookup_put, if_pos rfl]

theorem node?_put_of_ne
    (h : other ≠ names) :
    (tree.put names node).node? other = tree.node? other := by
  rw [node?, node?, lookup_put, if_neg h]

theorem node?_remove_of_ne
    (h : other ≠ names) :
    (tree.remove names).node? other = tree.node? other := by
  rw [node?, node?, remove, lookup_filter_of_ne _ h]

theorem node?_remove_self
    (h : tree.node? names ≠ some .directory) :
    (tree.remove names).node? names = none := by
  rw [node?, if_neg (not_isBase_of_node?_ne h), remove, lookup_filter_self]

/-- Removing a node makes no directory. -/
theorem node?_remove_ne_directory
    (h : tree.node? names ≠ some .directory) :
    (tree.remove other).node? names ≠ some .directory := by
  by_cases hother : names = other
  · rw [← hother, node?_remove_self h]
    simp
  · rwa [node?_remove_of_ne hother]

theorem forM_eq_ok_iff
    {α ε : Type} {check : α → Except ε Unit} {items : List α} :
    items.forM check = .ok () ↔ ∀ item ∈ items, check item = .ok () := by
  induction items with
  | nil =>
      constructor
      · intro _ item hitem
        cases hitem
      · intro _
        rfl
  | cons item items ih =>
      rw [List.forall_mem_cons, ← ih]
      cases hitem : check item with
      | error fault => simp [List.forM_eq_forM, hitem, bind, Except.bind]
      | ok value => simp [List.forM_eq_forM, hitem, bind, Except.bind]

theorem checkAbove_eq_ok_iff :
    tree.checkAbove place = .ok () ↔
      ∀ above ∈ place.through, tree.node? above = some .directory := by
  simp only [checkAbove, forM_eq_ok_iff]
  refine forall₂_congr fun above _ => ?_
  rcases tree.node? above with _ | ⟨_ | _⟩ <;> simp

/-- The way to a place stays open while nothing changes but nodes that are not directories to begin
with. -/
theorem checkAbove_of_frame
    {changed : List (List String)}
    (h : tree.checkAbove place = .ok ())
    (hframe : ∀ names, names ∉ changed → after.node? names = tree.node? names)
    (hchanged : ∀ names ∈ changed, tree.node? names ≠ some .directory) :
    after.checkAbove place = .ok () := by
  rw [checkAbove_eq_ok_iff] at h ⊢
  intro above habove
  rw [hframe _ fun hmem => hchanged _ hmem (h above habove)]
  exact h above habove

theorem checkAbove_put
    (h : tree.checkAbove place = .ok ())
    (hnode : tree.node? names ≠ some .directory) :
    (tree.put names node).checkAbove place = .ok () :=
  checkAbove_of_frame h
    (fun _ hother => node?_put_of_ne (by simpa using hother))
    (List.forall_mem_singleton.mpr hnode)

theorem checkAbove_remove
    (h : tree.checkAbove place = .ok ())
    (hnode : tree.node? names ≠ some .directory) :
    (tree.remove names).checkAbove place = .ok () :=
  checkAbove_of_frame h
    (fun _ hother => node?_remove_of_ne (by simpa using hother))
    (List.forall_mem_singleton.mpr hnode)

theorem look_eq_ok_file_iff
    {content : Bytes} {mode : Nat} :
    tree.look place = .ok (.file content mode) ↔
      tree.checkAbove place = .ok () ∧
        tree.node? place.names = some (.file content mode) ∧ place.asDirectory = false := by
  unfold look
  cases habove : tree.checkAbove place with
  | error fault => simp [bind, Except.bind]
  | ok value =>
      cases hnode : tree.node? place.names with
      | none => simp [bind, Except.bind]
      | some node =>
          cases node with
          | directory => simp [bind, Except.bind]
          | file content mode =>
              cases hslash : place.asDirectory <;> simp [bind, Except.bind]

/-- A file is found where it was while nothing changes but nodes elsewhere that are not directories
to begin with. -/
theorem look_of_frame
    {content : Bytes} {mode : Nat} {changed : List (List String)}
    (h : tree.look place = .ok (.file content mode))
    (hframe : ∀ names, names ∉ changed → after.node? names = tree.node? names)
    (hchanged : ∀ names ∈ changed, names ≠ place.names ∧ tree.node? names ≠ some .directory) :
    after.look place = .ok (.file content mode) := by
  obtain ⟨habove, hnode, hslash⟩ := look_eq_ok_file_iff.mp h
  refine look_eq_ok_file_iff.mpr
    ⟨checkAbove_of_frame habove hframe fun names hnames => (hchanged names hnames).2, ?_, hslash⟩
  rw [hframe _ fun hmem => (hchanged _ hmem).1 rfl]
  exact hnode

/-- A file is found where it was while everything that is there is kept. -/
theorem look_of_keeps
    {content : Bytes} {mode : Nat}
    (h : tree.look place = .ok (.file content mode))
    (hkeeps : ∀ names node, tree.node? names = some node → after.node? names = some node) :
    after.look place = .ok (.file content mode) := by
  obtain ⟨habove, hnode, hslash⟩ := look_eq_ok_file_iff.mp h
  rw [checkAbove_eq_ok_iff] at habove
  refine look_eq_ok_file_iff.mpr ⟨?_, hkeeps _ _ hnode, hslash⟩
  rw [checkAbove_eq_ok_iff]
  exact fun above hmem => hkeeps _ _ (habove above hmem)

/-- A file is found where it was put. -/
theorem look_put
    {content : Bytes} {mode : Nat}
    (habove : tree.checkAbove place = .ok ())
    (hnode : tree.node? place.names ≠ some .directory)
    (hslash : place.asDirectory = false) :
    (tree.put place.names (.file content mode)).look place = .ok (.file content mode) :=
  look_eq_ok_file_iff.mpr
    ⟨checkAbove_put habove hnode, node?_put_self hnode, hslash⟩

/-- The bytes at a path are those of the file that it leads to. -/
theorem readBytes_eq_ok_iff
    {path : String} {content : Bytes} :
    tree.readBytes path = .ok content ↔ ∃ place mode,
      FileTree.place path = .ok place ∧ tree.look place = .ok (.file content mode) := by
  unfold readBytes
  cases hplace : FileTree.place path with
  | error fault => simp [bind, Except.bind]
  | ok place =>
      cases hlook : tree.look place with
      | error fault => simp [hlook, bind, Except.bind]
      | ok node => cases node <;> simp [hlook, bind, Except.bind]

theorem readText_eq_ok_iff
    {path text : String} :
    tree.readText path = .ok text ↔
      ∃ content, tree.readBytes path = .ok content ∧ Bytes.text? content = some text := by
  unfold readText
  cases hbytes : tree.readBytes path with
  | error fault => simp [bind, Except.bind]
  | ok content => cases htext : Bytes.text? content <;> simp [htext, bind, Except.bind]

/-- What writing a file checks and changes. -/
theorem write_eq_ok
    {content : Bytes}
    (h : tree.write place content = .ok after) :
    tree.checkAbove place = .ok () ∧
      tree.node? place.names ≠ some .directory ∧
      place.asDirectory = false ∧
      ∃ mode, after = tree.put place.names (.file content mode) := by
  unfold write at h
  cases habove : tree.checkAbove place with
  | error fault => simp [habove, bind, Except.bind] at h
  | ok value =>
      cases hslash : place.asDirectory with
      | true =>
          rcases hnode : tree.node? place.names with _ | ⟨_ | _⟩ <;>
            simp [habove, hnode, hslash, bind, Except.bind] at h
      | false =>
          rcases hnode : tree.node? place.names with _ | ⟨found, mode⟩ | _
          · simp only [habove, hnode, hslash, bind, Except.bind] at h
            cases h
            exact ⟨rfl, by simp, rfl, _, rfl⟩
          · simp only [habove, hnode, hslash, bind, Except.bind] at h
            cases h
            exact ⟨rfl, by simp, rfl, _, rfl⟩
          · simp [habove, hnode, bind, Except.bind] at h

/-- What moving a file checks and changes. -/
theorem rename_eq_ok
    {source target : Place}
    (h : tree.rename source target = .ok after) :
    tree.checkAbove target = .ok () ∧
      tree.node? target.names ≠ some .directory ∧
      target.asDirectory = false ∧
      ∃ content mode, tree.look source = .ok (.file content mode) ∧
        after = (tree.remove source.names).put target.names (.file content mode) := by
  unfold rename at h
  cases hlook : tree.look source with
  | error fault => simp [hlook, bind, Except.bind] at h
  | ok node =>
      cases node with
      | directory => simp [hlook, bind, Except.bind] at h
      | file content mode =>
          cases habove : tree.checkAbove target with
          | error fault => simp [hlook, habove, bind, Except.bind] at h
          | ok value =>
              cases hslash : target.asDirectory with
              | true =>
                  rcases hnode : tree.node? target.names with _ | ⟨_ | _⟩ <;>
                    simp [hlook, habove, hnode, hslash, bind, Except.bind] at h
              | false =>
                  rcases hnode : tree.node? target.names with _ | ⟨found, kept⟩ | _
                  · simp only [hlook, habove, hnode, hslash, bind, Except.bind] at h
                    cases h
                    exact ⟨rfl, by simp, rfl, content, mode, rfl, rfl⟩
                  · simp only [hlook, habove, hnode, hslash, bind, Except.bind] at h
                    cases h
                    exact ⟨rfl, by simp, rfl, content, mode, rfl, rfl⟩
                  · simp [hlook, habove, hnode, bind, Except.bind] at h

/-- Making directories keeps everything that is there. -/
theorem node?_addDirectories
    {steps : List (List String)}
    (h : tree.node? other = some node) :
    (tree.addDirectories steps).node? other = some node := by
  induction steps generalizing tree with
  | nil => exact h
  | cons step steps ih =>
      rw [addDirectories]
      rcases hstep : tree.node? step with _ | ⟨_, _⟩ | _
      · have hne : other ≠ step := by
          rintro rfl
          cases hstep.symm.trans h
        exact ih (by rwa [node?_put_of_ne hne])
      · exact h
      · exact ih h

theorem node?_of_makeDirectories
    (h : tree.makeDirectories place = .ok after)
    (hnode : tree.node? other = some node) :
    after.node? other = some node := by
  simp only [makeDirectories] at h
  split at h
  · cases h
    exact node?_addDirectories hnode
  · cases h

/-- A file is moved if nothing is in the way. -/
theorem rename_of_look
    {source target : Place} {content : Bytes} {mode : Nat}
    (hlook : tree.look source = .ok (.file content mode))
    (habove : tree.checkAbove target = .ok ())
    (hnode : tree.node? target.names ≠ some .directory)
    (hslash : target.asDirectory = false) :
    tree.rename source target
      = .ok ((tree.remove source.names).put target.names (.file content mode)) := by
  simp only [rename, hlook, habove, hslash, bind, Except.bind]
  rcases hfound : tree.node? target.names with _ | ⟨_ | _⟩
  · rfl
  · rfl
  · exact absurd hfound hnode

end FileTree

namespace StoreFile

open FileTree

variable {tree after : FileTree} {place : Place} {text : String}

/-- The place where the new text is written before it takes its place. -/
def staging (place : Place) : Place :=
  place.withExtension stagingExtension

/-- A file was replaced: it holds the new text, and nothing has changed but it and the file beside,
which is gone. -/
structure Replaced
    (tree after : FileTree)
    (place : Place)
    (text : String) : Prop where
  above : tree.checkAbove place = .ok ()
  holds : ∃ mode, after.look place = .ok (.file (Bytes.ofText text) mode)
  frame : ∀ names, names ∉ [place.names, (staging place).names] →
    after.node? names = tree.node? names
  notDirectory : ∀ names ∈ [place.names, (staging place).names],
    tree.node? names ≠ some .directory
  gone : (staging place).names ≠ place.names → after.node? (staging place).names = none

/-- What replacing does: the file beside is written, and then it is moved. -/
theorem replace_cases
    {outcome : Except FileFault Unit}
    (h : replace tree place text = (after, outcome)) :
    (∃ fault, tree.write (staging place) (Bytes.ofText text) = .error fault ∧
        after = tree ∧ outcome = .error fault) ∨
      ∃ written, tree.write (staging place) (Bytes.ofText text) = .ok written ∧
        ((∃ fault, written.rename (staging place) place = .error fault ∧
            after = written ∧ outcome = .error fault) ∨
          written.rename (staging place) place = .ok after ∧ outcome = .ok ()) := by
  rw [replace, show place.withExtension stagingExtension = staging place from rfl] at h
  cases hwrite : tree.write (staging place) (Bytes.ofText text) with
  | error fault =>
      simp only [hwrite] at h
      cases h
      exact Or.inl ⟨fault, rfl, rfl, rfl⟩
  | ok written =>
      refine Or.inr ⟨written, rfl, ?_⟩
      cases hrename : written.rename (staging place) place with
      | error fault =>
          simp only [hwrite, hrename] at h
          cases h
          exact Or.inl ⟨fault, rfl, rfl, rfl⟩
      | ok renamed =>
          simp only [hwrite, hrename] at h
          cases h
          exact Or.inr ⟨rfl, rfl⟩

theorem replace_ok
    (h : replace tree place text = (after, .ok ())) :
    Replaced tree after place text := by
  rcases replace_cases h with ⟨_, -, -, hfalse⟩ | ⟨written, hwrite, ⟨_, -, -, hfalse⟩ | ⟨hrename, -⟩⟩
  · cases hfalse
  · cases hfalse
  obtain ⟨hstagingAbove, hstaging, hstagingSlash, mode, rfl⟩ := write_eq_ok hwrite
  obtain ⟨habove, hplace, hslash, content, kept, hlook, rfl⟩ := rename_eq_ok hrename
  rw [look_put hstagingAbove hstaging hstagingSlash] at hlook
  cases hlook
  have hfound := @node?_put_self _ _ (.file (Bytes.ofText text) mode) hstaging
  have hway := @checkAbove_remove _ (staging place).names _ habove (by rw [hfound]; simp)
  refine ⟨?_, ⟨mode, look_put hway (node?_remove_ne_directory hplace) hslash⟩, ?_, ?_, ?_⟩
  · refine @checkAbove_of_frame _ tree place [(staging place).names] habove ?_ ?_
    · intro names hnames
      rw [node?_put_of_ne (by simpa using hnames)]
    · rw [List.forall_mem_singleton, hfound]
      simp
  · intro names hnames
    obtain ⟨hnePlace, hneStaging⟩ :
        names ≠ place.names ∧ names ≠ (staging place).names := by
      simpa using hnames
    rw [node?_put_of_ne hnePlace, node?_remove_of_ne hneStaging, node?_put_of_ne hneStaging]
  · intro names hnames
    obtain rfl | rfl : names = place.names ∨ names = (staging place).names := by
      simpa using hnames
    · by_cases hsame : place.names = (staging place).names
      · rwa [hsame]
      · rwa [node?_put_of_ne hsame] at hplace
    · exact hstaging
  · intro hne
    rw [node?_put_of_ne hne]
    exact node?_remove_self (by rw [hfound]; simp)

/-- Where replacing fails, nothing has changed but the file beside. -/
theorem node?_of_replace_error
    {fault : FileFault} {names : List String}
    (h : replace tree place text = (after, .error fault))
    (hnames : names ≠ (staging place).names) :
    after.node? names = tree.node? names := by
  rcases replace_cases h with ⟨_, -, rfl, -⟩ | ⟨written, hwrite, ⟨_, -, rfl, -⟩ | ⟨-, hfalse⟩⟩
  · rfl
  · obtain ⟨-, -, -, mode, rfl⟩ := write_eq_ok hwrite
    exact node?_put_of_ne hnames
  · cases hfalse

/-- Where replacing fails, a file at the place is still what it was. -/
theorem look_of_replace_error
    {fault : FileFault} {content : Bytes} {mode : Nat}
    (h : replace tree place text = (after, .error fault))
    (hlook : tree.look place = .ok (.file content mode)) :
    after.look place = .ok (.file content mode) := by
  rcases replace_cases h with
    ⟨_, -, rfl, -⟩ | ⟨written, hwrite, ⟨_, hrename, rfl, -⟩ | ⟨-, hfalse⟩⟩
  · exact hlook
  · obtain ⟨habove, hnode, hslash, kept, rfl⟩ := write_eq_ok hwrite
    have hwritten := @look_put _ _ (Bytes.ofText text) kept habove hnode hslash
    by_cases hsame : (staging place).names = place.names
    · -- the file would have been moved onto itself, which never fails
      obtain ⟨-, hnode', -⟩ := look_eq_ok_file_iff.mp hwritten
      obtain ⟨hway, -, hslash'⟩ := look_eq_ok_file_iff.mp hlook
      rw [rename_of_look hwritten (checkAbove_put hway hnode) (by rw [← hsame, hnode']; simp)
        hslash'] at hrename
      cases hrename
    · refine @look_of_frame tree _ place content mode [(staging place).names] hlook ?_ ?_
      · intro names hnames
        exact node?_put_of_ne (by simpa using hnames)
      · intro names hnames
        obtain rfl : names = (staging place).names := by simpa using hnames
        exact ⟨hsame, hnode⟩
  · cases hfalse

end StoreFile
end WorkloadIdentity
