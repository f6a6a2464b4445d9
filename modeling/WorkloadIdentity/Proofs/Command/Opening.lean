import WorkloadIdentity.Command.Report
import WorkloadIdentity.Proofs.MasterKey.Keeping
import WorkloadIdentity.Proofs.Store.Migration

/-!
# Opening the store of some settings

A store is opened with the master key of the settings' file, which is made if it is not there.
Writing the store keeps the master key, unless its file is the one beside the store's that is
moved: then the key is lost, and another one is made when the store is opened next.

* `Settings.openStore_run_of_load`: opening a store whose master key is in its file.
* `Settings.masterKey_of_write`: writing the store keeps the master key.
* `Settings.openStore_run_ok_of_write`: what opening the store after it was written shows.
-/

namespace WorkloadIdentity

/-- The text of a master key spells no store. -/
theorem MasterKey.ofText?_of_ofText_trimBlank
    {text : String} {key : MasterKey}
    (h : ofText (trimBlank text) = .ok key) :
    StoreFile.ofText? text = none := by
  apply StoreFile.ofText?_of_no_bracket
  intro c hc
  by_contra hbracket
  obtain rfl | rfl : c = '[' ∨ c = '\x7b' := by
    simpa [Json.isBracket, Classical.or_iff_not_imp_left] using hbracket
  · exact absurd ((ofText_trimBlank_eq_ok_iff.mp h).mem hc) (by decide)
  · exact absurd ((ofText_trimBlank_eq_ok_iff.mp h).mem hc) (by decide)

namespace Settings

open FileTree StoreFile

/-- The file in which the store is written before it takes its place is that of the master key. -/
def StagingIsMasterKey (settings : Settings) : Prop :=
  ∃ place key, FileTree.place settings.credentialsFile = .ok place ∧
    FileTree.place settings.masterKeyFile = .ok key ∧
    (staging place).names = key.names

variable {settings : Settings} {files made opened after : FileTree} {master : MasterKey}
  {file saved : StoreFile} {store : Store} {entropy rest : Entropy}

theorem masterKey_run_ok
    (h : (settings.masterKey files).run entropy = ((made, .ok master), rest)) :
    (MasterKey.loadOrGenerate files settings.masterKeyFile).run entropy
      = ((made, .ok master), rest) := by
  obtain ⟨⟨found, outcome⟩, last, hrun⟩ : ∃ keyed last,
      (MasterKey.loadOrGenerate files settings.masterKeyFile).run entropy = (keyed, last) :=
    ⟨_, _, rfl⟩
  rw [masterKey, Random.run_bind_of_run hrun] at h
  cases outcome with
  | error fault => cases h
  | ok key =>
      cases h
      exact hrun

theorem masterKey_run_of_load
    (h : MasterKey.load files settings.masterKeyFile = .ok master) :
    (settings.masterKey files).run entropy = ((files, .ok master), entropy) := by
  rw [masterKey, Random.run_bind_of_run (MasterKey.loadOrGenerate_run_of_load h)]
  rfl

/-- With a master key in its file, opening the store is a matter of the store alone. -/
theorem openStore_run_of_load
    {outcome : Except StoreFault Store}
    (hkey : MasterKey.load files settings.masterKeyFile = .ok master)
    (hload : (Store.load master settings.provider files settings.credentialsFile).run entropy
      = ((opened, outcome), rest)) :
    (settings.openStore files).run entropy = ((opened, outcome.mapError .opening), rest) := by
  rw [openStore, Random.run_bind_of_run (masterKey_run_of_load hkey)]
  simp only [Random.run_bind_of_run hload]
  rfl

/-- A store that is opened is loaded with the master key. -/
theorem openStore_run_ok
    (h : (settings.openStore files).run entropy = ((opened, .ok store), rest)) :
    ∃ made master between,
      (settings.masterKey files).run entropy = ((made, .ok master), between) ∧
        (Store.load master settings.provider made settings.credentialsFile).run between
          = ((opened, .ok store), rest) := by
  obtain ⟨⟨made, outcome⟩, between, hkey⟩ : ∃ keyed between,
      (settings.masterKey files).run entropy = (keyed, between) := ⟨_, _, rfl⟩
  rw [openStore, Random.run_bind_of_run hkey] at h
  cases outcome with
  | error fault => cases h
  | ok master =>
      obtain ⟨⟨loaded, outcome⟩, last, hload⟩ : ∃ loaded last,
          (Store.load master settings.provider made settings.credentialsFile).run between
            = (loaded, last) := ⟨_, _, rfl⟩
      simp only [Random.run_bind_of_run hload] at h
      cases outcome with
      | error fault => cases h
      | ok found =>
          cases h
          exact ⟨made, master, between, hkey, hload⟩

/-- Where a store is read and then written, its file is not that of the master key. -/
theorem place_ne_of_read
    {place key : Place} {text : String}
    (hkey : MasterKey.load made settings.masterKeyFile = .ok master)
    (hread : StoreFile.read made settings.credentialsFile = .ok file)
    (hplace : FileTree.place settings.credentialsFile = .ok place)
    (hkeyPlace : FileTree.place settings.masterKeyFile = .ok key)
    (hreplaced : Replaced made after place text) :
    place.names ≠ key.names := by
  intro hsame
  obtain ⟨keyText, hkeyText, hkey⟩ := MasterKey.load_eq_ok_iff.mp hkey
  obtain ⟨content, hbytes, htext⟩ := readText_eq_ok_iff.mp hkeyText
  obtain ⟨found, mode, hfound, hlook⟩ := readBytes_eq_ok_iff.mp hbytes
  obtain rfl : key = found := Except.ok.inj (hkeyPlace.symm.trans hfound)
  obtain ⟨-, hnode, -⟩ := look_eq_ok_file_iff.mp hlook
  obtain ⟨_, hafter⟩ := hreplaced.holds
  obtain ⟨-, -, hslash⟩ := look_eq_ok_file_iff.mp hafter
  have hstore : made.readText settings.credentialsFile = .ok keyText :=
    readText_eq_ok_iff.mpr ⟨content, readBytes_eq_ok_iff.mpr ⟨place, mode, hplace,
      look_eq_ok_file_iff.mpr ⟨hreplaced.above, hsame ▸ hnode, hslash⟩⟩, htext⟩
  rcases read_eq_ok hread with ⟨hmissing, -⟩ | ⟨text, hreadText, hspells⟩
  · cases hstore.symm.trans hmissing
  · obtain rfl : keyText = text := Except.ok.inj (hstore.symm.trans hreadText)
    cases (MasterKey.ofText?_of_ofText_trimBlank hkey).symm.trans hspells

/-- Writing the store keeps the master key, unless its file is the one that is moved. -/
theorem masterKey_of_write
    (hkey : MasterKey.load made settings.masterKeyFile = .ok master)
    (hread : StoreFile.read made settings.credentialsFile = .ok file)
    (hwrite : saved.write made settings.credentialsFile = (after, .ok ()))
    (hstaging : ¬ settings.StagingIsMasterKey) :
    MasterKey.load after settings.masterKeyFile = .ok master := by
  obtain ⟨-, place, json, hplace, -, hreplaced⟩ := write_ok hwrite
  obtain ⟨text, htext, hspells⟩ := MasterKey.load_eq_ok_iff.mp hkey
  obtain ⟨content, hbytes, hcontent⟩ := readText_eq_ok_iff.mp htext
  obtain ⟨key, mode, hkeyPlace, hlook⟩ := readBytes_eq_ok_iff.mp hbytes
  have hne := place_ne_of_read hkey hread hplace hkeyPlace hreplaced
  have hkept := look_of_frame hlook hreplaced.frame (by
    intro names hnames
    refine ⟨?_, hreplaced.notDirectory names hnames⟩
    obtain rfl | rfl : names = place.names ∨ names = (staging place).names := by
      simpa using hnames
    · exact hne
    · exact fun hsame => hstaging ⟨place, key, hplace, hkeyPlace, hsame⟩)
  exact MasterKey.load_eq_ok_iff.mpr ⟨text, readText_eq_ok_iff.mpr
    ⟨content, readBytes_eq_ok_iff.mpr ⟨key, mode, hkeyPlace, hkept⟩, hcontent⟩, hspells⟩

/-- Where the master key's file is the one that is moved, the master key is gone. -/
theorem masterKey_gone_of_write
    (hkey : MasterKey.load made settings.masterKeyFile = .ok master)
    (hread : StoreFile.read made settings.credentialsFile = .ok file)
    (hwrite : saved.write made settings.credentialsFile = (after, .ok ()))
    (hstaging : settings.StagingIsMasterKey) :
    ∃ key, FileTree.place settings.masterKeyFile = .ok key ∧ after.node? key.names = none := by
  obtain ⟨-, place, json, hplace, -, hreplaced⟩ := write_ok hwrite
  obtain ⟨found, key, hfound, hkeyPlace, hsame⟩ := hstaging
  obtain rfl : place = found := Except.ok.inj (hplace.symm.trans hfound)
  have hne := place_ne_of_read hkey hread hplace hkeyPlace hreplaced
  exact ⟨key, hkeyPlace, hsame ▸ hreplaced.gone (hsame ▸ Ne.symm hne)⟩

/-- A store that is opened after it was written is well-formed, and there is a master key then, be
it another one. -/
theorem openStore_run_ok_of_write
    (hkey : MasterKey.load made settings.masterKeyFile = .ok master)
    (hread : StoreFile.read made settings.credentialsFile = .ok file)
    (hwrite : saved.write made settings.credentialsFile = (after, .ok ()))
    (hreopen : (settings.openStore after).run entropy = ((opened, .ok store), rest)) :
    saved.WellFormed ∧ ∃ other, MasterKey.load opened settings.masterKeyFile = .ok other := by
  obtain ⟨remade, other, between, hother, hload⟩ := openStore_run_ok hreopen
  obtain ⟨text, htext, hspells⟩ := ofText?_of_write hwrite
  have hloaded := MasterKey.load_of_loadOrGenerate (masterKey_run_ok hother)
  -- a lost key is made anew without a change to the store's file, and no other key is made
  have hsaved : StoreFile.read remade settings.credentialsFile = .ok saved := by
    by_cases hstaging : settings.StagingIsMasterKey
    · obtain ⟨key, hkeyPlace, hgone⟩ := masterKey_gone_of_write hkey hread hwrite hstaging
      rcases MasterKey.loadOrGenerate_run_ok (masterKey_run_ok hother) with ⟨rfl, -⟩ | hstore
      · exact read_of_readText htext hspells
      · obtain ⟨again, hagain, -, hkeeps⟩ := MasterKey.store_eq_ok hstore
        obtain rfl : key = again := Except.ok.inj (hkeyPlace.symm.trans hagain)
        obtain ⟨-, place, json, hplace, hjson, hreplaced⟩ := write_ok hwrite
        obtain ⟨mode, hlook⟩ := hreplaced.holds
        have hkept := @look_of_keeps _ remade _ _ _ hlook (by
          intro names node hnode
          refine hkeeps names node ?_ hnode
          rintro rfl
          cases hgone.symm.trans hnode)
        exact read_of_readText (readText_of_look hplace hkept) (ofText?_pretty hjson)
    · have hkeeps := @MasterKey.loadOrGenerate_run_of_load _ _ _ entropy
        (masterKey_of_write hkey hread hwrite hstaging)
      cases hkeeps.symm.trans (masterKey_run_ok hother)
      exact read_of_readText htext hspells
  obtain ⟨reread, issuers, hreread, hfile, -, -, hcase⟩ := Store.load_run_ok hload
  obtain rfl : saved = reread := Except.ok.inj (hsaved.symm.trans hreread)
  rcases hcase with ⟨-, rfl⟩ | ⟨hlegacy, -⟩
  · exact ⟨hfile, other, hloaded⟩
  · exact absurd (write_ok hwrite).1 hlegacy

/-- Where the master key's file is the one that is moved, opening the store again makes another
key. -/
theorem openStore_run_ne_of_staging
    (hkey : MasterKey.load made settings.masterKeyFile = .ok master)
    (hread : StoreFile.read made settings.credentialsFile = .ok file)
    (hwrite : saved.write made settings.credentialsFile = (after, .ok ()))
    (hstaging : settings.StagingIsMasterKey) :
    (settings.openStore after).run entropy ≠ ((after, .ok store), rest) := by
  intro hreopen
  obtain ⟨key, hplace, hgone⟩ := masterKey_gone_of_write hkey hread hwrite hstaging
  obtain ⟨-, other, hother⟩ := openStore_run_ok_of_write hkey hread hwrite hreopen
  exact MasterKey.load_ne_ok_of_gone hplace hgone hother

end Settings

end WorkloadIdentity
