import WorkloadIdentity.Proofs.Command.Creation
import WorkloadIdentity.Proofs.Store.Retry

/-!
# Adding a credential to a store that can be opened

Creating a credential reads the store's file, changes it and writes it again, without opening the
store.  Records of the legacy shape, which opening would replace, are not written; so in a store
that can be opened a credential is created exactly if no such record is left once the new one is
in its place.  Everything else that was in the store is still there when it is opened next.

* `Store.load_run_of_sound`: a store in which nothing is wrong is opened.
* `Command.create_succeeds_iff`: when a credential is created, and what the store holds then.
-/

namespace WorkloadIdentity

namespace Store

variable {master : MasterKey} {provider : Provider} {tree : FileTree} {path : String}
  {file : StoreFile} {entropy : Entropy}

/-- A store in which nothing is wrong is opened, where its file can be replaced. -/
theorem load_run_of_sound
    (hread : StoreFile.read tree path = .ok file)
    (hsound : file.Sound master)
    (htree : StoreFile.Replaceable tree path) :
    ∃ after store rest,
      (load master provider tree path).run entropy = ((after, .ok store), rest) := by
  obtain ⟨records, store, count, last, hrun⟩ := restore_run_of_sound master provider hsound entropy
  unfold load
  simp only [hread]
  rw [Random.run_bind_of_run hrun]
  rcases count with _ | count
  · exact ⟨tree, store, last, rfl⟩
  · obtain ⟨issuers, -, -, -, rfl, -⟩ := restore_run_ok hrun
    obtain ⟨after, hwrite⟩ := StoreFile.write_of_replaceable htree
      (file.renewed_isCurrent issuers)
    exact ⟨after, store, last, by simp only [hwrite]; rfl⟩

end Store

namespace Command

variable {settings : Settings} {files made opened : FileTree} {master : MasterKey} {store : Store}
  {new : NewCredential} {credential : Credential} {file : StoreFile}
  {entropy between before after rest : Entropy}

/-- An issuer that is absent, empty or accepted is no reason to fail. -/
theorem issuerFault?_eq_none
    {issuer : Option String}
    (h : ∀ name, issuer = some name → name ≠ "" → checkIssuerUrl name = none) :
    issuerFault? issuer = none := by
  cases issuer with
  | none => rfl
  | some name =>
      by_cases hname : name = ""
      · subst hname
        rfl
      · have hset : Credential.unlessEmpty (some name) = some name :=
          Credential.unlessEmpty_of_ne (by simpa using hname)
        simp [issuerFault?, hset, h name rfl hname]

/-- A file in which a legacy record is left is not written, and nothing has changed but that there
is a master key. -/
theorem runCreate_run_of_legacy
    (hissuer : issuerFault? new.issuer = none)
    (hkey : (settings.masterKey files).run entropy = ((made, .ok master), between))
    (hread : StoreFile.read made settings.credentialsFile = .ok file)
    (hmade : (generate master new).run between = (.ok credential, rest))
    (hlegacy : ¬ (file.save new.scope credential.toRecord).IsCurrent) :
    (runCreate settings files new).run entropy
      = (.failed made (.store (.legacyKeys settings.credentialsFile)), rest) := by
  unfold runCreate
  simp only [hissuer, Random.run_bind_of_run hkey, hread, Random.run_bind_of_run hmade,
    StoreFile.write_of_not_isCurrent hlegacy]
  rfl

/-- In a store that can be opened a credential with a valid scope is created, if generating it and
changing files do not fail, exactly where there are no legacy records but the one whose place it
takes.  Where another one is left, the command fails and changes nothing.  Where the credential is
created and the master key is kept, the store is opened as it was left, and holds the credential
at its place and at every other place the one that it held before. -/
theorem create_succeeds_iff
    (hkey : (settings.masterKey files).run entropy = ((made, .ok master), between))
    (hopen : (Store.load master settings.provider made settings.credentialsFile).run before
      = ((opened, .ok store), after))
    (hscope : Scope.ValidUri new.scope)
    (hissuer : ∀ name, new.issuer = some name → name ≠ "" → checkIssuerUrl name = none)
    (hmade : (generate master new).run between = (.ok credential, rest))
    (hfiles : StoreFile.Replaceable made settings.credentialsFile) :
    ∃ file report,
      StoreFile.read made settings.credentialsFile = .ok file ∧
        (runCreate settings files new).run entropy = (report, rest) ∧
        Matches new credential ∧
        (report.ending = .done ↔ file.LegacyOnlyAt new.scope new.id) ∧
        (¬ file.LegacyOnlyAt new.scope new.id →
          report = .failed made (.store (.legacyKeys settings.credentialsFile))) ∧
        (report.ending = .done →
          ((∀ later, ∃ reopened,
            (settings.openStore report.files).run later = ((report.files, .ok reopened), later) ∧
              ∀ uri id, reopened.credential? uri id
                = if uri = new.scope ∧ id = new.id then some credential
                  else store.credential? uri id) ↔
            ¬ settings.StagingIsMasterKey)) := by
  obtain ⟨file, issuers, hread, hfile, hopens, rfl, -⟩ := Store.load_run_ok hopen
  obtain ⟨hmatches, hkept⟩ := generate_run_ok hmade
  have hstored := MasterKey.load_of_loadOrGenerate (Settings.masterKey_run_ok hkey)
  have hvalid := Scope.isValid_iff.mpr hscope
  have hcurrent := @StoreFile.isCurrent_save_iff _ _ credential.toRecord hfile hvalid rfl
  rw [show credential.toRecord.id = new.id from hmatches.id_eq] at hcurrent
  by_cases honly : file.LegacyOnlyAt new.scope new.id
  · obtain ⟨written, hwrite⟩ := StoreFile.write_of_replaceable hfiles (hcurrent.mpr honly)
    have hrun := runCreate_run_of_write (issuerFault?_eq_none hissuer) hkey hread hmade hwrite
    refine ⟨file, _, hread, hrun, hmatches, iff_of_true rfl honly, fun h => absurd honly h,
      fun _ => ⟨?_, ?_⟩⟩
    · intro hreopens hstaging
      obtain ⟨reopened, hreopen, -⟩ := hreopens entropy
      exact Settings.openStore_run_ne_of_staging hstored hread hwrite hstaging hreopen
    · intro hstaging later
      obtain ⟨text, htext, hspells⟩ := StoreFile.ofText?_of_write hwrite
      obtain ⟨reopened, hfind, hload⟩ := Store.load_run_of_save_everywhere
        (StoreFile.read_of_readText htext hspells) hfile hopens hkept.toRecord_opens
        (hcurrent.mpr honly) hvalid
      refine ⟨reopened, Settings.openStore_run_of_load
        (Settings.masterKey_of_write hstored hread hwrite hstaging) (hload later), ?_⟩
      intro uri id
      rw [hfind, show credential.toRecord.id = new.id from hmatches.id_eq]
  · have hrun := runCreate_run_of_legacy (issuerFault?_eq_none hissuer) hkey hread hmade
      (hcurrent.not.mpr honly)
    refine ⟨file, _, hread, hrun, hmatches, iff_of_false ?_ honly, fun _ => rfl, ?_⟩
    · intro hdone
      cases hdone
    · intro hdone
      cases hdone

/-- A store with a legacy record alone. -/
def legacyFile (secret : String) : StoreFile :=
  ⟨[⟨"/old", [⟨"build", none, none, none, .legacy secret⟩]⟩]⟩

/-- The document in which such a store was kept. -/
def legacyJson (secret : String) : Json :=
  let keys : Json := .object (Json.member "privateKey" (.ofText secret))
  let record : Json := .object (Json.member "id" (.ofText "build") ++ Json.member "keys" keys)
  let scope : Json := .object (Json.member "uri" (.ofText "/old")
    ++ Json.member "credentials" (.array [record]))
  .object (Json.member "scopes" (.array [scope]))

/-- A master key and the store beside it. -/
def legacyTree (secret : String) : FileTree :=
  ⟨keyedTree.entries ++ [(["credentials.json"],
    .file (Bytes.ofText (legacyJson secret).pretty) FileTree.defaultMode)]⟩

theorem ofText?_legacyJson
    (secret : String) :
    StoreFile.ofText? (legacyJson secret).pretty = some (legacyFile secret) := by
  have hplain : (legacyJson secret).Plain := by
    have hkeys := Json.plain_object (@Json.plain_member "privateKey" _ (.ofText secret))
    have hrecord := Json.plain_object (Json.forall_append
      (@Json.plain_member "id" _ (.ofText "build")) (@Json.plain_member "keys" _ hkeys))
    have hscope := Json.plain_object (Json.forall_append
      (@Json.plain_member "uri" _ (.ofText "/old"))
      (@Json.plain_member "credentials" _ (.array (List.forall_mem_singleton.mpr hrecord))))
    exact Json.plain_object (Json.plain_member (.array (List.forall_mem_singleton.mpr hscope)))
  have hkeys := @KeyRecord.ofJson?_legacy 5 secret (by decide)
  rw [StoreFile.ofText?, Json.parse?_pretty hplain, Option.bind_some]
  simp only [Json.member, Json.ofText] at hkeys
  simp [legacyJson, legacyFile, StoreFile.ofJson?, ScopeRecord.ofJson?, CredentialRecord.ofJson?,
    Json.record?, Json.member, Json.valuesOf, Record.required?, Record.trailing?,
    Record.defaulted?, Json.ofText, Json.text?, Json.items?, hkeys]

theorem load_legacyTree
    (secret : String) :
    MasterKey.load (legacyTree secret) plainSettings.masterKeyFile = .ok .uniform :=
  MasterKey.load_eq_ok_iff.mpr
    ⟨_, FileTree.readText_of_look place_masterKeyFile rfl, MasterKey.ofText_toText .uniform⟩

theorem read_legacyTree
    (secret : String) :
    StoreFile.read (legacyTree secret) plainSettings.credentialsFile = .ok (legacyFile secret) :=
  StoreFile.read_of_readText (FileTree.readText_of_look place_credentialsFile rfl)
    (ofText?_legacyJson secret)

theorem replaceable_legacyTree
    (secret : String) :
    StoreFile.Replaceable (legacyTree secret) plainSettings.credentialsFile :=
  ⟨_, place_credentialsFile, fun text => ⟨⟨keyedTree.entries ++ [(["credentials.json"],
    .file (Bytes.ofText text) FileTree.defaultMode)]⟩, rfl⟩⟩

/-- A legacy record can hold the key pair with the least modulus. -/
theorem exists_legacy_least :
    ∃ secret, (KeyRecord.legacy secret).opened .uniform = .ok .least := by
  obtain ⟨bytes, hbytes⟩ := KeyPair.privateBytes_least
  obtain ⟨secret, rest, hsecret⟩ : ∃ secret rest,
      (MasterKey.uniform.encrypt (Base64.encode .standard bytes)).run drawnOne = (secret, rest) :=
    ⟨_, _, rfl⟩
  refine ⟨secret, ?_⟩
  simp only [KeyRecord.opened, KeyRecord.migrate, MasterKey.decryptBytes_of_encrypt hsecret,
    KeyPair.ofRsaPrivate_privateBytes hbytes rfl, hbytes, bind, Except.bind]
  rfl

/-- Nothing is wrong with a store whose legacy record holds a key under the master key. -/
theorem sound_legacyFile
    {secret : String} {pair : KeyPair}
    (hopened : (KeyRecord.legacy secret).opened .uniform = .ok pair) :
    (legacyFile secret).Sound .uniform where
  uris := List.nodup_singleton _
  scopes := List.forall_mem_singleton.mpr
    ⟨Scope.isValid_iff.mp (show Scope.isValid "/old" = true by decide +kernel),
      List.nodup_singleton _,
      List.forall_mem_singleton.mpr ⟨pair, KeyRecord.opened_eq_ok_iff.mp hopened⟩⟩

/-- A store with a legacy record alone can be opened. -/
theorem exists_opened_legacyTree :
    ∃ secret opened store last,
      (Store.load .uniform plainSettings.provider (legacyTree secret)
        plainSettings.credentialsFile).run drawnOne = ((opened, .ok store), last) := by
  obtain ⟨secret, hopened⟩ := exists_legacy_least
  exact ⟨secret, Store.load_run_of_sound (read_legacyTree secret) (sound_legacyFile hopened)
    (replaceable_legacyTree secret)⟩

/-- In place of the legacy record a credential is created. -/
theorem created_in_place_of_legacy :
    ∃ secret store report rest,
      (runCreate plainSettings (legacyTree secret) { newIn "/old" with id := "build" }).run drawnOne
          = (report, rest) ∧
        report.ending = .done ∧
        ∀ later, ∃ reopened credential,
          (plainSettings.openStore report.files).run later
              = ((report.files, .ok reopened), later) ∧
            ∀ uri id, reopened.credential? uri id
              = if uri = "/old" ∧ id = "build" then some credential
                else Store.credential? store uri id := by
  obtain ⟨secret, opened, store, last, hopen⟩ := exists_opened_legacyTree
  obtain ⟨credential, rest, hmade⟩ := @generate_run_drawnOne
    { newIn "/old" with id := "build" } rfl
  obtain ⟨file, report, hread, hcreate, -, hdone, -, hreopens⟩ := create_succeeds_iff
    (Settings.masterKey_run_of_load (load_legacyTree secret)) hopen
    (Scope.isValid_iff.mp (show Scope.isValid "/old" = true by decide +kernel))
    (fun name hname => by cases hname) hmade (replaceable_legacyTree secret)
  cases (read_legacyTree secret).symm.trans hread
  have honly : (legacyFile secret).LegacyOnlyAt "/old" "build" :=
    List.forall_mem_singleton.mpr (List.forall_mem_singleton.mpr fun _ => ⟨rfl, rfl⟩)
  refine ⟨secret, store, report, rest, hcreate, hdone.mpr honly, fun later => ?_⟩
  obtain ⟨reopened, hrun, hfind⟩ := (hreopens (hdone.mpr honly)).mpr not_stagingIsMasterKey later
  exact ⟨reopened, credential, hrun, hfind⟩

/-- The legacy record keeps a credential out of every other scope, though the store can be opened,
the credential can be made, the scope is valid and every file can be replaced. -/
theorem not_created_beside_legacy :
    ∃ secret,
      (∃ opened store last, (plainSettings.openStore (legacyTree secret)).run drawnOne
        = ((opened, .ok store), last)) ∧
      (∃ credential rest, (generate .uniform (newIn "/team")).run drawnOne
        = (.ok credential, rest)) ∧
      Scope.ValidUri "/team" ∧
      StoreFile.Replaceable (legacyTree secret) plainSettings.credentialsFile ∧
      ∃ rest, (runCreate plainSettings (legacyTree secret) (newIn "/team")).run drawnOne
        = (.failed (legacyTree secret) (.store (.legacyKeys "credentials.json")), rest) := by
  obtain ⟨secret, opened, store, last, hopen⟩ := exists_opened_legacyTree
  obtain ⟨credential, rest, hmade⟩ := @generate_run_drawnOne (newIn "/team") rfl
  have hlegacy : ¬ ((legacyFile secret).save "/team" credential.toRecord).IsCurrent := by
    intro hcurrent
    have hkept : (⟨"/old", [⟨"build", none, none, none, .legacy secret⟩]⟩ : ScopeRecord)
        ∈ ((legacyFile secret).save "/team" credential.toRecord).scopes :=
      List.mem_cons_self
    cases hcurrent _ hkept _ List.mem_cons_self
  exact ⟨secret,
    ⟨opened, store, last, Settings.openStore_run_of_load (load_legacyTree secret) hopen⟩,
    ⟨credential, rest, hmade⟩, Scope.isValid_iff.mp (by decide +kernel),
    replaceable_legacyTree secret, rest,
    runCreate_run_of_legacy rfl (Settings.masterKey_run_of_load (load_legacyTree secret))
      (read_legacyTree secret) hmade hlegacy⟩

end Command
end WorkloadIdentity
