import WorkloadIdentity.Command.Saving
import WorkloadIdentity.Proofs.Command.Opening
import WorkloadIdentity.Proofs.Store.Saving

/-!
# Creating a credential and opening the store again

A credential is created in the store's file as it is.  If the store could be opened before, it can
be opened again and holds the credential, on two conditions that creating does not look at: the
credential's scope is a valid URI, and the file in which the store is written first is not that of
the master key.

* `Command.runCreate_done`: what creating a credential does.
* `Store.load_run_of_save_everywhere`: a store in which a credential was saved is opened and holds
  it, and otherwise what it held before.
* `Command.create_then_open_iff`: when the store can be opened again without a change.
-/

namespace WorkloadIdentity

namespace KeyPair

/-- A fresh key pair signs with the algorithm that it was made for. -/
theorem generate_run_ok
    {algorithm : Algorithm} {pair : KeyPair} {entropy rest : Entropy}
    (h : (generate algorithm).run entropy = (.ok pair, rest)) :
    pair.algorithm = algorithm := by
  obtain ⟨outcome, last, hmade⟩ : ∃ outcome last,
      (Material.generate algorithm.family).run entropy = (outcome, last) := ⟨_, _, rfl⟩
  rw [generate, Random.run_bind_of_run hmade] at h
  cases outcome with
  | error fault => cases h
  | ok material =>
      have hparts : ofParts algorithm material = .ok pair := congrArg Prod.fst h
      exact (ofParts_ok_iff.mp hparts).1

/-- A key of a curve is made where the first bytes drawn are a secret number of the curve. -/
theorem generate_run_of_draw
    {algorithm : Algorithm} {curve : Curve} {key : Elliptic.PrivateKey curve} {entropy : Entropy}
    (hfits : (Material.ec curve key).kind = algorithm.kind)
    (hfamily : algorithm.family = .ec curve)
    (hkey : Elliptic.PrivateKey.ofScalar? curve
      (Elliptic.truncate curve (entropy.draw curve.width).1) = some key) :
    (generate algorithm).run entropy
      = (.ok ⟨algorithm, .ec curve key, hfits⟩, (entropy.draw curve.width).2) := by
  have hscalar : (Elliptic.generate? curve Material.maxTries).run entropy
      = (some key, (entropy.draw curve.width).2) := by
    have hdraw : (Random.bytes curve.width).run entropy
        = ((entropy.draw curve.width).1, (entropy.draw curve.width).2) := rfl
    show (Elliptic.generate? curve (_ + 1)).run entropy = _
    rw [Elliptic.generate?, Random.run_bind_of_run hdraw]
    simp only [hkey]
    rfl
  have hmaterial : (Material.generate (.ec curve)).run entropy
      = (.ok (.ec curve key), (entropy.draw curve.width).2) := by
    rw [Material.generate, Random.run_bind_of_run hscalar]
    rfl
  rw [generate, hfamily, Random.run_bind_of_run hmaterial]
  have hparts : ofParts algorithm (.ec curve key) = .ok ⟨algorithm, .ec curve key, hfits⟩ :=
    ofParts_ok_iff.mpr ⟨rfl, rfl⟩
  simp only [hparts]
  rfl

end KeyPair

namespace Command

variable {master : MasterKey} {new : NewCredential} {credential : Credential}
  {entropy rest : Entropy}

/-- What was asked for of a new credential; empty texts count as not given. -/
structure Matches
    (new : NewCredential)
    (credential : Credential) : Prop where
  id_eq : credential.id = new.id
  algorithm_eq : credential.algorithm = new.algorithm
  issuer_eq : credential.issuer = Credential.unlessEmpty new.issuer
  audience_eq : credential.audience = Credential.unlessEmpty new.audience
  description_eq : credential.description = Credential.unlessEmpty new.description

/-- A new credential is what was asked for, and its record holds it. -/
theorem generate_run_ok
    (h : (generate master new).run entropy = (.ok credential, rest)) :
    Matches new credential ∧ credential.WellKept master := by
  obtain ⟨outcome, last, hmade⟩ : ∃ outcome last,
      (Credential.generate master new.id new.algorithm).run entropy = (outcome, last) :=
    ⟨_, _, rfl⟩
  rw [generate, Random.run_bind_of_run hmade] at h
  cases outcome with
  | error fault => cases h
  | ok made =>
      obtain rfl : ((made.withIssuer new.issuer).withAudience new.audience).withDescription
          new.description = credential := Except.ok.inj (congrArg Prod.fst h)
      obtain ⟨pairOutcome, between, hpair⟩ : ∃ outcome between,
          (KeyPair.generate new.algorithm).run entropy = (outcome, between) := ⟨_, _, rfl⟩
      rw [Credential.generate, Random.run_bind_of_run hpair] at hmade
      cases pairOutcome with
      | error fault => cases hmade
      | ok pair =>
          obtain ⟨hkept, hid, hsame⟩ := Credential.ofPair_run_ok hmade
          refine ⟨⟨hid, ?_, rfl, rfl, rfl⟩, Credential.edited_wellKept hkept
            [.issuer new.issuer, .audience new.audience, .description new.description]⟩
          show made.pair.algorithm = new.algorithm
          rw [hsame, KeyPair.generate_run_ok hpair]

/-- A credential is made around every key pair that can be kept. -/
theorem generate_run_of_pair
    {pair : KeyPair} {between : Entropy} {bytes : Bytes}
    (hpair : (KeyPair.generate new.algorithm).run entropy = (.ok pair, between))
    (hbytes : pair.privateBytes = .ok bytes) :
    ∃ credential rest, (generate master new).run entropy = (.ok credential, rest) := by
  obtain ⟨made, rest, hmade⟩ := @Credential.ofPair_run_of_privateBytes master between new.id _ _
    hbytes
  have hrun : (Credential.generate master new.id new.algorithm).run entropy = (.ok made, rest) := by
    rw [Credential.generate, Random.run_bind_of_run hpair]
    exact hmade
  refine ⟨((made.withIssuer new.issuer).withAudience new.audience).withDescription
    new.description, rest, ?_⟩
  rw [generate, Random.run_bind_of_run hrun]
  rfl

section Run

variable {settings : Settings} {files made after : FileTree} {file : StoreFile} {report : Report}
  {between : Entropy}

/-- A credential is created where a master key, the store's file and the credential can be had and
the store can be written. -/
theorem runCreate_run_of_write
    (hissuer : issuerFault? new.issuer = none)
    (hkey : (settings.masterKey files).run entropy = ((made, .ok master), between))
    (hread : StoreFile.read made settings.credentialsFile = .ok file)
    (hmade : (generate master new).run between = (.ok credential, rest))
    (hwrite : (file.save new.scope credential.toRecord).write made settings.credentialsFile
      = (after, .ok ())) :
    (runCreate settings files new).run entropy
      = (.printed after (savedText credential new.scope), rest) := by
  unfold runCreate
  simp only [hissuer, Random.run_bind_of_run hkey, hread, Random.run_bind_of_run hmade, hwrite]
  rfl

/-- What creating a credential does: nothing but to write the store with its record. -/
theorem runCreate_done
    (h : (runCreate settings files new).run entropy = (report, rest))
    (hdone : report.ending = .done) :
    ∃ master made between file credential last,
      (settings.masterKey files).run entropy = ((made, .ok master), between) ∧
        StoreFile.read made settings.credentialsFile = .ok file ∧
        (generate master new).run between = (.ok credential, last) ∧
        (file.save new.scope credential.toRecord).write made settings.credentialsFile
          = (report.files, .ok ()) ∧
        report.output = savedText credential new.scope := by
  -- every step that fails ends the report with its fault
  unfold runCreate at h
  split at h
  · cases h
    cases hdone
  · obtain ⟨⟨made, outcome⟩, between, hkey⟩ : ∃ keyed between,
        (settings.masterKey files).run entropy = (keyed, between) := ⟨_, _, rfl⟩
    rw [Random.run_bind_of_run hkey] at h
    cases outcome with
    | error fault =>
        cases h
        cases hdone
    | ok master =>
        cases hread : StoreFile.read made settings.credentialsFile with
        | error fault =>
            simp only [hread] at h
            cases h
            cases hdone
        | ok file =>
            simp only [hread] at h
            obtain ⟨outcome, last, hmade⟩ : ∃ outcome last,
                (generate master new).run between = (outcome, last) := ⟨_, _, rfl⟩
            rw [Random.run_bind_of_run hmade] at h
            cases outcome with
            | error fault =>
                cases h
                cases hdone
            | ok credential =>
                obtain ⟨written, outcome, hwrite⟩ : ∃ written outcome,
                    (file.save new.scope credential.toRecord).write made settings.credentialsFile
                      = (written, outcome) := ⟨_, _, rfl⟩
                simp only [hwrite] at h
                cases outcome with
                | error fault =>
                    cases h
                    cases hdone
                | ok value =>
                    cases h
                    exact ⟨master, made, between, file, credential, _, hkey, hread, hmade, hwrite,
                      rfl⟩

end Run

end Command

namespace Store

variable {master : MasterKey} {provider : Provider} {tree : FileTree} {path uri : String}
  {file : StoreFile} {issuers : List Issuer} {record : CredentialRecord} {credential : Credential}

/-- A store in which a credential was saved under a valid URI is opened without a change.  It holds
the credential at its place, and everywhere else what the store held before. -/
theorem load_run_of_save_everywhere
    (hread : StoreFile.read tree path = .ok (file.save uri record))
    (hfile : file.WellFormed)
    (hopens : file.Opens master provider issuers)
    (hrecord : record.Opens master credential)
    (hcurrent : (file.save uri record).IsCurrent)
    (hvalid : Scope.isValid uri = true) :
    ∃ store : Store,
      (∀ other id, store.credential? other id
        = if other = uri ∧ id = record.id then some credential
          else (ofIssuers provider issuers).credential? other id) ∧
      ∀ entropy, (load master provider tree path).run entropy = ((tree, .ok store), entropy) := by
  obtain ⟨saved, hsaved, hfind⟩ := @StoreFile.Opens.save _ _ _ _ uri _ _ hopens hrecord
  refine ⟨ofIssuers provider saved, ?_,
    fun entropy => load_run_of_opens hread (hfile.save hvalid) hsaved hcurrent⟩
  intro other id
  rw [credential?_ofIssuers, credential?_ofIssuers, hfind]

/-- The credential that was saved is among those of the store. -/
theorem load_run_of_save
    (hread : StoreFile.read tree path = .ok (file.save uri record))
    (hfile : file.WellFormed)
    (hopens : file.Opens master provider issuers)
    (hrecord : record.Opens master credential)
    (hcurrent : (file.save uri record).IsCurrent)
    (hvalid : Scope.isValid uri = true) :
    ∃ store : Store, store.credential? uri record.id = some credential ∧
      ∀ entropy, (load master provider tree path).run entropy = ((tree, .ok store), entropy) := by
  obtain ⟨store, hfind, hrun⟩ := load_run_of_save_everywhere hread hfile hopens hrecord hcurrent
    hvalid
  exact ⟨store, (hfind uri record.id).trans (if_pos ⟨rfl, rfl⟩), hrun⟩

/-- A store in which a credential was saved under an invalid URI is never opened again. -/
theorem load_run_of_save_invalid
    (hread : StoreFile.read tree path = .ok (file.save uri record))
    (hfile : file.WellFormed)
    (hopens : file.Opens master provider issuers)
    (hcurrent : (file.save uri record).IsCurrent)
    (hinvalid : Scope.isValid uri = false)
    (entropy : Entropy) :
    (load master provider tree path).run entropy
      = ((tree, .error (.invalidScope uri)), entropy) := by
  have hnew : uri ∉ file.scopes.map ScopeRecord.uri := by
    intro hmem
    obtain ⟨scope, hscope, rfl⟩ := List.mem_map.mp hmem
    cases hinvalid.symm.trans (hfile.valid scope hscope)
  rw [StoreFile.save_of_not_mem hnew] at hread hcurrent
  have hold : file.IsCurrent := fun scope hscope =>
    hcurrent scope (List.mem_append.mpr (Or.inl hscope))
  have hrun := @restore_run_of_invalid _ _ entropy _ _ (ScopeRecord.save ⟨uri, []⟩ record) []
    hfile hopens hold hinvalid
  unfold load
  simp only [hread]
  rw [Random.run_bind_of_run hrun]
  rfl

end Store

namespace Command

/-- A supply from which the least key of P-256 is drawn. -/
def drawnOne : Entropy where
  byte i := if i = 31 then 1 else 0

/-- A master key and no store. -/
def keyedTree : FileTree :=
  ⟨[(["master.key"], .file (Bytes.ofText MasterKey.uniform.toText) MasterKey.fileMode)]⟩

/-- Settings with a file for the store and one for the master key. -/
def plainSettings : Settings where
  rootUrl := "https://ci.example"
  bind := ""
  credentialsFile := "credentials.json"
  masterKeyFile := "master.key"
  adminKey := none

/-- A new credential in a scope, with nothing of its own. -/
def newIn (scope : String) : NewCredential where
  id := "deploy"
  algorithm := .es256
  scope
  issuer := none
  audience := none
  description := none

theorem place_masterKeyFile :
    FileTree.place plainSettings.masterKeyFile = .ok ⟨false, ["master.key"], false⟩ := by
  decide +kernel

theorem place_credentialsFile :
    FileTree.place plainSettings.credentialsFile = .ok ⟨false, ["credentials.json"], false⟩ := by
  decide +kernel

theorem not_stagingIsMasterKey :
    ¬ plainSettings.StagingIsMasterKey := by
  rintro ⟨place, key, hplace, hkey, hsame⟩
  cases place_credentialsFile.symm.trans hplace
  cases place_masterKeyFile.symm.trans hkey
  revert hsame
  decide +kernel

theorem load_keyedTree :
    MasterKey.load keyedTree plainSettings.masterKeyFile = .ok .uniform :=
  MasterKey.load_eq_ok_iff.mpr
    ⟨_, FileTree.readText_of_look place_masterKeyFile rfl, MasterKey.ofText_toText .uniform⟩

theorem read_keyedTree :
    StoreFile.read keyedTree plainSettings.credentialsFile = .ok .empty := by
  decide +kernel

/-- The master key and the missing store are opened. -/
theorem load_empty
    (entropy : Entropy) :
    (Store.load .uniform plainSettings.provider keyedTree plainSettings.credentialsFile).run entropy
      = ((keyedTree, .ok (.ofIssuers plainSettings.provider [])), entropy) := by
  obtain ⟨hfile, hopens, hcurrent⟩ := StoreFile.empty_opens .uniform plainSettings.provider
  exact Store.load_run_of_opens read_keyedTree hfile hopens hcurrent

/-- A store is written beside the master key. -/
theorem write_keyedTree
    {file : StoreFile}
    (h : file.IsCurrent) :
    ∃ after, file.write keyedTree plainSettings.credentialsFile = (after, .ok ()) := by
  obtain ⟨json, hjson⟩ := Option.isSome_iff_exists.mp (StoreFile.toJson?_isSome_iff.mpr h)
  refine ⟨⟨keyedTree.entries ++ [(["credentials.json"],
    .file (Bytes.ofText json.pretty) FileTree.defaultMode)]⟩, ?_⟩
  have hreplace : StoreFile.replace keyedTree ⟨false, ["credentials.json"], false⟩ json.pretty
      = (⟨keyedTree.entries ++ [(["credentials.json"],
        .file (Bytes.ofText json.pretty) FileTree.defaultMode)]⟩, .ok ()) := rfl
  simp only [StoreFile.write, hjson, place_credentialsFile, hreplace]
  rfl

/-- A new credential on P-256 is made of what is drawn. -/
theorem generate_run_drawnOne
    {new : NewCredential}
    (h : new.algorithm = .es256) :
    ∃ credential rest, (generate .uniform new).run drawnOne = (.ok credential, rest) := by
  have hdrawn : (Elliptic.PrivateKey.ofScalar? .p256
      (Elliptic.truncate .p256 (drawnOne.draw Curve.p256.width).1)).isSome := by
    decide +kernel
  obtain ⟨key, hkey⟩ := Option.isSome_iff_exists.mp hdrawn
  have hpair : (KeyPair.generate new.algorithm).run drawnOne
      = (.ok ⟨.es256, .ec .p256 key, rfl⟩, (drawnOne.draw Curve.p256.width).2) := by
    rw [h]
    exact KeyPair.generate_run_of_draw rfl rfl hkey
  exact generate_run_of_pair hpair (KeyPair.privateBytes_eq_ok_iff.mpr rfl)

/-- A credential is created in every scope, be it valid or not. -/
theorem runCreate_newIn
    (scope : String) :
    ∃ report rest, (runCreate plainSettings keyedTree (newIn scope)).run drawnOne = (report, rest) ∧
      report.ending = .done := by
  obtain ⟨credential, rest, hmade⟩ := @generate_run_drawnOne (newIn scope) rfl
  obtain ⟨-, -, hcurrent⟩ := StoreFile.empty_opens .uniform plainSettings.provider
  obtain ⟨after, hwrite⟩ := write_keyedTree (@StoreFile.IsCurrent.save _ scope credential.toRecord
    hcurrent rfl)
  exact ⟨_, _, runCreate_run_of_write rfl (Settings.masterKey_run_of_load load_keyedTree)
    read_keyedTree hmade hwrite, rfl⟩

variable {settings : Settings} {files made opened : FileTree} {master : MasterKey} {store : Store}
  {new : NewCredential} {report : Report} {entropy between before after rest : Entropy}

/-- Where the store can be opened with the master key and a credential is created, the store can be
opened again as it was left, and holds the credential, exactly if the credential's scope is valid
and the store was not written by way of the master key's file.  In an invalid scope the credential
keeps the store from ever being opened again. -/
theorem create_then_open_iff
    (hkey : (settings.masterKey files).run entropy = ((made, .ok master), between))
    (hopen : (Store.load master settings.provider made settings.credentialsFile).run before
      = ((opened, .ok store), after))
    (hcreate : (runCreate settings files new).run entropy = (report, rest))
    (hdone : report.ending = .done) :
    ∃ credential,
      report.output = savedText credential new.scope ∧
      Matches new credential ∧
      ((∀ later, ∃ reopened,
        (settings.openStore report.files).run later = ((report.files, .ok reopened), later) ∧
          reopened.credential? new.scope new.id = some credential) ↔
        Scope.isValid new.scope = true ∧ ¬ settings.StagingIsMasterKey) ∧
      (Scope.isValid new.scope = false → ∀ later left reopened last,
        (settings.openStore report.files).run later ≠ ((left, .ok reopened), last)) := by
  obtain ⟨_, _, _, file, credential, _, hsameKey, hread, hmade, hwrite, houtput⟩ :=
    runCreate_done hcreate hdone
  cases hkey.symm.trans hsameKey
  obtain ⟨found, issuers, hfound, hfile, hopens, -⟩ := Store.load_run_ok hopen
  obtain rfl : file = found := Except.ok.inj (hread.symm.trans hfound)
  obtain ⟨hmatches, hkept⟩ := generate_run_ok hmade
  have hstored := MasterKey.load_of_loadOrGenerate (Settings.masterKey_run_ok hkey)
  have hvalid {later last : Entropy} {left : FileTree} {reopened : Store}
      (hreopen : (settings.openStore report.files).run later = ((left, .ok reopened), last)) :
      Scope.isValid new.scope = true :=
    (Settings.openStore_run_ok_of_write hstored hread hwrite hreopen).1.isValid_of_save
  refine ⟨credential, houtput, hmatches, ⟨?_, ?_⟩, ?_⟩
  · intro hreopens
    obtain ⟨reopened, hreopen, -⟩ := hreopens entropy
    exact ⟨hvalid hreopen, fun hstaging =>
      Settings.openStore_run_ne_of_staging hstored hread hwrite hstaging hreopen⟩
  · rintro ⟨hscope, hstaging⟩ later
    obtain ⟨text, htext, hspells⟩ := StoreFile.ofText?_of_write hwrite
    obtain ⟨reopened, hcredential, hrun⟩ := Store.load_run_of_save
      (StoreFile.read_of_readText htext hspells) hfile hopens hkept.toRecord_opens
      (StoreFile.write_ok hwrite).1 hscope
    exact ⟨reopened, Settings.openStore_run_of_load
      (Settings.masterKey_of_write hstored hread hwrite hstaging) (hrun later),
      hmatches.id_eq ▸ hcredential⟩
  · intro hinvalid later left reopened last hreopen
    cases hinvalid.symm.trans (hvalid hreopen)

/-- With a valid scope the store is opened again and holds the credential. -/
theorem created_in_valid_scope :
    ∃ report rest credential,
      (runCreate plainSettings keyedTree (newIn "/team")).run drawnOne = (report, rest) ∧
        report.ending = .done ∧
        ∀ later, ∃ reopened,
          (plainSettings.openStore report.files).run later
              = ((report.files, .ok reopened), later) ∧
            reopened.credential? "/team" "deploy" = some credential := by
  obtain ⟨report, rest, hcreate, hdone⟩ := runCreate_newIn "/team"
  obtain ⟨credential, -, -, hreopens, -⟩ := create_then_open_iff
    (Settings.masterKey_run_of_load load_keyedTree) (load_empty drawnOne) hcreate hdone
  exact ⟨report, rest, credential, hcreate, hdone,
    hreopens.mpr ⟨by decide +kernel, not_stagingIsMasterKey⟩⟩

/-- In a scope without a slash a credential is created as well, and the store, which could be
opened before, is never opened again. -/
theorem created_in_invalid_scope :
    (∃ store, ∀ before,
      (plainSettings.openStore keyedTree).run before = ((keyedTree, .ok store), before)) ∧
    ∃ report rest,
      (runCreate plainSettings keyedTree (newIn "team")).run drawnOne = (report, rest) ∧
        report.ending = .done ∧
        ∀ later, (plainSettings.openStore report.files).run later
          = ((report.files, .error (.opening (.invalidScope "team"))), later) := by
  refine ⟨⟨_, fun before => Settings.openStore_run_of_load load_keyedTree (load_empty before)⟩, ?_⟩
  obtain ⟨report, rest, hcreate, hdone⟩ := runCreate_newIn "team"
  refine ⟨report, rest, hcreate, hdone, fun later => ?_⟩
  obtain ⟨master, made, _, file, credential, _, hkey, hread, hmade, hwrite, -⟩ :=
    runCreate_done hcreate hdone
  cases (Settings.masterKey_run_of_load load_keyedTree).symm.trans hkey
  cases read_keyedTree.symm.trans hread
  obtain ⟨hfile, hopens, -⟩ := StoreFile.empty_opens .uniform plainSettings.provider
  obtain ⟨text, htext, hspells⟩ := StoreFile.ofText?_of_write hwrite
  exact Settings.openStore_run_of_load
    (Settings.masterKey_of_write load_keyedTree read_keyedTree hwrite not_stagingIsMasterKey)
    (Store.load_run_of_save_invalid (StoreFile.read_of_readText htext hspells) hfile hopens
      (StoreFile.write_ok hwrite).1 (by decide +kernel) later)

end Command
end WorkloadIdentity
