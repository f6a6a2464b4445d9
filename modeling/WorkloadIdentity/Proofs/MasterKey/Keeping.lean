import Mathlib.Data.List.TakeWhile
import WorkloadIdentity.MasterKey.File
import WorkloadIdentity.Proofs.Files.Replacing
import WorkloadIdentity.Proofs.Text.Digits

/-!
# The master key's file is read back

A master key that was made is read back from its file, and a key that is there is used as it is.
The file holds hexadecimal digits between white space, and nothing else.

* `MasterKey.load_of_loadOrGenerate`: the key is afterwards in its file.
* `MasterKey.loadOrGenerate_run_of_load`: a key in its file is used as it is.
* `MasterKey.ofText_trimBlank_eq_ok_iff`: the texts that are taken for a key.
-/

namespace WorkloadIdentity

/-- A text consists of some characters with white space before and after them. -/
def BetweenBlanks
    (text : String)
    (chars : List Char) : Prop :=
  ∃ before after, text.toList = before ++ chars ++ after ∧
    (∀ c ∈ before, isBlank c = true) ∧ ∀ c ∈ after, isBlank c = true

/-- Trimming takes away white space alone. -/
theorem betweenBlanks_trimBlank
    (text : String) :
    BetweenBlanks text (trimBlank text).toList := by
  refine ⟨text.toList.takeWhile isBlank,
    ((text.toList.dropWhile isBlank).reverse.takeWhile isBlank).reverse, ?_,
    fun c hc => List.mem_takeWhile_imp hc,
    fun c hc => List.mem_takeWhile_imp (List.mem_reverse.mp hc)⟩
  rw [trimBlank, String.toList_ofList, trimChars, dropEnd, List.append_assoc, ← List.reverse_append,
    List.takeWhile_append_dropWhile, List.reverse_reverse, List.takeWhile_append_dropWhile]

/-- And all of it, if there is none between the characters. -/
theorem BetweenBlanks.trimBlank_eq
    {text : String} {chars : List Char}
    (h : BetweenBlanks text chars)
    (hchars : ∀ c ∈ chars, isBlank c = false) :
    trimBlank text = String.ofList chars := by
  obtain ⟨before, after, htext, hbefore, hafter⟩ := h
  have hkeep : ∀ kept : List Char, (∀ c ∈ kept, c ∈ chars) → kept.dropWhile isBlank = kept := by
    intro kept hkept
    cases kept with
    | nil => rfl
    | cons c kept =>
        exact List.dropWhile_cons_of_neg (by simp [hchars c (hkept c List.mem_cons_self)])
  have hstart : text.toList.dropWhile isBlank = (chars ++ after).dropWhile isBlank := by
    rw [htext, List.append_assoc, List.dropWhile_append_of_pos hbefore]
  rw [trimBlank, trimChars, dropEnd, hstart]
  cases chars with
  | nil =>
      have hnone : after.dropWhile isBlank = [] := List.dropWhile_eq_nil_iff.mpr hafter
      simp [hnone]
  | cons c chars =>
      have hfirst : (c :: chars ++ after).dropWhile isBlank = c :: chars ++ after :=
        List.dropWhile_cons_of_neg (by simp [hchars c List.mem_cons_self])
      rw [hfirst, List.reverse_append,
        List.dropWhile_append_of_pos fun c hc => hafter c (List.mem_reverse.mp hc),
        hkeep _ fun c hc => List.mem_reverse.mp hc, List.reverse_reverse]

namespace MasterKey

/-- A text spells a key: two hexadecimal digits for each of its bytes, between white space. -/
def SpelledBy
    (key : MasterKey)
    (text : String) : Prop :=
  ∃ digits, BetweenBlanks text digits ∧ Hex.Spells digits key.bytes

theorem ofText_eq_ok_iff
    {text : String} {key : MasterKey} :
    ofText text = .ok key ↔ Hex.Spells text.toList key.bytes := by
  rw [← Hex.decode_eq_ok_iff]
  unfold ofText ofBytes
  cases hdecode : Hex.decode text with
  | error fault => simp
  | ok bytes =>
      obtain ⟨keyBytes, hlength⟩ := key
      simp only [Except.ok.injEq]
      constructor
      · intro h
        split at h
        · cases h
          rfl
        · cases h
      · rintro rfl
        exact dif_pos hlength

/-- A text is taken for the key that it spells. -/
theorem ofText_trimBlank_eq_ok_iff
    {text : String} {key : MasterKey} :
    ofText (trimBlank text) = .ok key ↔ key.SpelledBy text := by
  rw [ofText_eq_ok_iff]
  constructor
  · intro h
    exact ⟨_, betweenBlanks_trimBlank text, h⟩
  · rintro ⟨digits, hbetween, hspells⟩
    have hdigits := (Hex.exists_spells_iff.mp ⟨_, hspells⟩).2
    rw [hbetween.trimBlank_eq fun c hc => Hex.isBlank_of_isHexDigit (hdigits c hc)]
    rwa [String.toList_ofList]

/-- The texts that spell a key. -/
theorem exists_spelledBy_iff
    {text : String} :
    (∃ key : MasterKey, key.SpelledBy text) ↔
      ∃ digits, BetweenBlanks text digits ∧ digits.length = 64 ∧
        ∀ c ∈ digits, c.isHexDigit = true := by
  constructor
  · rintro ⟨key, digits, hbetween, hspells⟩
    refine ⟨digits, hbetween, ?_, (Hex.exists_spells_iff.mp ⟨_, hspells⟩).2⟩
    rw [hspells.length_eq, key.length_bytes]
  · rintro ⟨digits, hbetween, hlength, hdigits⟩
    obtain ⟨bytes, hspells⟩ := Hex.exists_spells_iff.mpr ⟨by rw [hlength], hdigits⟩
    have hbytes := hspells.length_eq
    exact ⟨⟨bytes, by omega⟩, digits, hbetween, hspells⟩

theorem spells_toText
    (key : MasterKey) :
    Hex.Spells key.toText.toList key.bytes :=
  Hex.decode_eq_ok_iff.mp (Hex.decode_encode key.bytes)

theorem ofText_toText
    (key : MasterKey) :
    ofText (trimBlank key.toText) = .ok key :=
  ofText_trimBlank_eq_ok_iff.mpr ⟨_, ⟨[], [], by simp, by simp, by simp⟩, key.spells_toText⟩

/-- The characters of a text that spells a key are white space and digits. -/
theorem SpelledBy.mem
    {text : String} {key : MasterKey} {c : Char}
    (h : key.SpelledBy text)
    (hc : c ∈ text.toList) :
    isBlank c = true ∨ c.isHexDigit = true := by
  obtain ⟨digits, ⟨before, after, htext, hbefore, hafter⟩, hspells⟩ := h
  rw [htext, List.mem_append, List.mem_append] at hc
  rcases hc with (hc | hc) | hc
  · exact Or.inl (hbefore c hc)
  · exact Or.inr ((Hex.exists_spells_iff.mp ⟨_, hspells⟩).2 c hc)
  · exact Or.inl (hafter c hc)

open FileTree

variable {tree after : FileTree} {path : String} {key : MasterKey} {entropy rest : Entropy}

theorem load_eq_ok_iff :
    load tree path = .ok key ↔
      ∃ text, tree.readText path = .ok text ∧ ofText (trimBlank text) = .ok key := by
  unfold load
  cases tree.readText path with
  | error fault => simp
  | ok text => simp

/-- No key is loaded where nothing stands. -/
theorem load_ne_ok_of_gone
    {place : Place}
    (hplace : FileTree.place path = .ok place)
    (hgone : tree.node? place.names = none) :
    load tree path ≠ .ok key := by
  intro hload
  obtain ⟨text, htext, -⟩ := load_eq_ok_iff.mp hload
  obtain ⟨content, hbytes, -⟩ := readText_eq_ok_iff.mp htext
  obtain ⟨found, mode, hfound, hlook⟩ := readBytes_eq_ok_iff.mp hbytes
  obtain rfl : place = found := Except.ok.inj (hplace.symm.trans hfound)
  cases hgone.symm.trans (look_eq_ok_file_iff.mp hlook).2.1

/-- Writing a key changes its file alone. -/
theorem look_of_write
    {place : Place}
    (h : write tree place key = .ok after) :
    after.look place = .ok (.file (Bytes.ofText key.toText) fileMode) ∧
      ∀ names, names ≠ place.names → after.node? names = tree.node? names := by
  unfold write at h
  cases hwrite : tree.write place (Bytes.ofText key.toText) with
  | error fault => simp [hwrite, bind, Except.bind] at h
  | ok written =>
      obtain ⟨habove, hnode, hslash, mode, rfl⟩ := write_eq_ok hwrite
      have hlook := @look_put _ _ (Bytes.ofText key.toText) mode habove hnode hslash
      simp only [hwrite, setMode, hlook, bind, Except.bind] at h
      cases h
      obtain ⟨habove', hnode', -⟩ := look_eq_ok_file_iff.mp hlook
      refine ⟨look_put habove' (by rw [hnode']; simp) hslash, ?_⟩
      intro names hne
      rw [node?_put_of_ne hne, node?_put_of_ne hne]

/-- Storing a key makes directories, writes its file and changes nothing else that is there. -/
theorem store_eq_ok
    (h : store tree path key = (after, .ok ())) :
    ∃ place, FileTree.place path = .ok place ∧
      after.look place = .ok (.file (Bytes.ofText key.toText) fileMode) ∧
      ∀ names node, names ≠ place.names → tree.node? names = some node →
        after.node? names = some node := by
  unfold store at h
  cases hplace : FileTree.place path with
  | error fault => simp [hplace] at h
  | ok place =>
      cases hmade : tree.makeDirectories place.parent with
      | error fault => simp [hplace, hmade, bind, Except.bind] at h
      | ok made =>
          cases hwrite : write made place key with
          | error fault => simp [hplace, hmade, hwrite, bind, Except.bind] at h
          | ok written =>
              simp only [hplace, hmade, hwrite, bind, Except.bind] at h
              cases h
              obtain ⟨hlook, hframe⟩ := look_of_write hwrite
              refine ⟨place, rfl, hlook, ?_⟩
              intro names node hne hfound
              rw [hframe names hne]
              exact node?_of_makeDirectories hmade hfound

/-- A key that is stored is in its file. -/
theorem load_of_store
    (h : store tree path key = (after, .ok ())) :
    load after path = .ok key := by
  obtain ⟨place, hplace, hlook, -⟩ := store_eq_ok h
  exact load_eq_ok_iff.mpr ⟨key.toText, readText_eq_ok_iff.mpr
    ⟨_, readBytes_eq_ok_iff.mpr ⟨place, fileMode, hplace, hlook⟩, Bytes.text?_ofText _⟩,
      ofText_toText key⟩

theorem contains_of_readText
    {text : String}
    (h : tree.readText path = .ok text) :
    tree.contains path = true := by
  obtain ⟨content, hbytes, -⟩ := readText_eq_ok_iff.mp h
  obtain ⟨place, mode, hplace, hlook⟩ := readBytes_eq_ok_iff.mp hbytes
  simp [contains, hplace, hlook, bind, Except.bind]

/-- The key that is used is the one in its file, or a fresh one that was stored. -/
theorem loadOrGenerate_run_ok
    (h : (loadOrGenerate tree path).run entropy = ((after, .ok key), rest)) :
    (after = tree ∧ load tree path = .ok key) ∨ store tree path key = (after, .ok ()) := by
  unfold loadOrGenerate at h
  split at h
  · have hrun : ((tree, load tree path), entropy) = ((after, .ok key), rest) := h
    simp only [Prod.mk.injEq] at hrun
    obtain ⟨⟨rfl, hload⟩, -⟩ := hrun
    exact Or.inl ⟨rfl, hload⟩
  · obtain ⟨made, last, hmade⟩ : ∃ made last, generate.run entropy = (made, last) :=
      ⟨_, _, rfl⟩
    rw [Random.run_bind_of_run hmade] at h
    obtain ⟨stored, outcome, hstore⟩ : ∃ stored outcome,
        store tree path made = (stored, outcome) := ⟨_, _, rfl⟩
    simp only [hstore] at h
    cases outcome with
    | error fault => cases h
    | ok value =>
        cases h
        exact Or.inr hstore

/-- Either way it is in its file afterwards. -/
theorem load_of_loadOrGenerate
    (h : (loadOrGenerate tree path).run entropy = ((after, .ok key), rest)) :
    load after path = .ok key := by
  rcases loadOrGenerate_run_ok h with ⟨rfl, hload⟩ | hstore
  · exact hload
  · exact load_of_store hstore

/-- A key in its file is used as it is: nothing is drawn, and nothing changes. -/
theorem loadOrGenerate_run_of_load
    (h : load tree path = .ok key) :
    (loadOrGenerate tree path).run entropy = ((tree, .ok key), entropy) := by
  obtain ⟨text, htext, -⟩ := load_eq_ok_iff.mp h
  rw [loadOrGenerate, if_pos (contains_of_readText htext), h]
  rfl

end MasterKey
end WorkloadIdentity
