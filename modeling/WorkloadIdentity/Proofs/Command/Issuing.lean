import WorkloadIdentity.Command.Signing
import WorkloadIdentity.Proofs.Command.Creation
import WorkloadIdentity.Proofs.Token.Claims
import WorkloadIdentity.Proofs.Token.Signing

/-!
# Tokens that a command prints

A command signs with the credential that the store holds in a scope under an id.  For a job the
token names the issuer of this scope, which publishes the key that signs.  For no job the token
names the root, whatever the scope, and the root publishes a key under the id only if it holds a
credential with the id itself.

* `Command.runToken_done`: what printing a token does.
* `Store.WellFormed.publishes_iff_credential?`: the keys that a store publishes under an id.
* `Command.token_verifies_iff`: when the issuer that a token names publishes the key that signs.
-/

namespace WorkloadIdentity

namespace Settings

variable {settings : Settings} {files opened : FileTree} {store : Store} {report : Report}
  {command : FileTree → Store → Random Report} {entropy between rest : Entropy}

theorem withStore_run_of_open
    (hopen : (settings.openStore files).run entropy = ((opened, .ok store), between)) :
    (settings.withStore files command).run entropy = (command opened store).run between := by
  rw [withStore, Random.run_bind_of_run hopen]

theorem withStore_done
    (h : (settings.withStore files command).run entropy = (report, rest))
    (hdone : report.ending = .done) :
    ∃ opened store between,
      (settings.openStore files).run entropy = ((opened, .ok store), between) ∧
        (command opened store).run between = (report, rest) := by
  obtain ⟨⟨opened, outcome⟩, between, hopen⟩ : ∃ found between,
      (settings.openStore files).run entropy = (found, between) := ⟨_, _, rfl⟩
  cases outcome with
  | error fault =>
      rw [withStore, Random.run_bind_of_run hopen] at h
      cases h
      cases hdone
  | ok store =>
      rw [withStore_run_of_open hopen] at h
      exact ⟨opened, store, between, hopen, h⟩

theorem openStore_wellFormed
    (h : (settings.openStore files).run entropy = ((opened, .ok store), rest)) :
    ∃ master, store.WellFormed master settings.provider := by
  obtain ⟨made, master, between, -, hload⟩ := openStore_run_ok h
  obtain ⟨file, issuers, -, hfile, hopens, rfl, -⟩ := Store.load_run_ok hload
  exact ⟨master, Store.wellFormed_of_opens hfile hopens⟩

end Settings

namespace Token

variable {credential : Credential} {claims : Claims} {token : Token} {signature : Bytes}
  {entropy rest : Entropy}

/-- A token is the two parts that are signed and their signature. -/
def ofSignature (credential : Credential) (claims : Claims) (signature : Bytes) : Token :=
  ⟨signedText credential claims ++ "." ++ part signature, claims⟩

/-- Signing draws bytes once, and the token is made of what they sign. -/
theorem sign_run
    (credential : Credential) (claims : Claims) (entropy : Entropy) (check : Rsa.KeyCheck) :
    (sign credential claims check).run entropy
      = ((Token.signature credential (Bytes.ofText (signedText credential claims))
          (entropy.draw freshBytes).1 check).map (ofSignature credential claims),
        (entropy.draw freshBytes).2) := by
  have hdraw : (Random.bytes freshBytes).run entropy
      = ((entropy.draw freshBytes).1, (entropy.draw freshBytes).2) := rfl
  rw [sign, Random.run_bind_of_run hdraw]
  cases hsignature : Token.signature credential (Bytes.ofText (signedText credential claims))
      (entropy.draw freshBytes).1 check with
  | error fault =>
      simp only [hsignature]
      rfl
  | ok signature =>
      simp only [hsignature]
      rfl

theorem sign_run_of_signature
    (h : ∀ fresh, Token.signature credential (Bytes.ofText (signedText credential claims)) fresh
      = .ok signature) :
    (sign credential claims).run entropy
      = (.ok (ofSignature credential claims signature), (entropy.draw freshBytes).2) := by
  rw [sign_run, h]
  rfl

theorem sign_run_ok
    (h : (sign credential claims).run entropy = (.ok token, rest)) :
    ∃ fresh signature,
      Token.signature credential (Bytes.ofText (signedText credential claims)) fresh
          = .ok signature ∧
        token = ofSignature credential claims signature := by
  rw [sign_run] at h
  cases hsignature : Token.signature credential (Bytes.ofText (signedText credential claims))
      (entropy.draw freshBytes).1 with
  | error fault =>
      rw [hsignature] at h
      cases congrArg Prod.fst h
  | ok signature =>
      rw [hsignature] at h
      exact ⟨_, signature, hsignature, (Except.ok.inj (congrArg Prod.fst h)).symm⟩

end Token

namespace Command

variable {settings : Settings} {files opened : FileTree} {store : Store} {credential : Credential}
  {id scope : String} {job : Option (String × UInt64)} {now : UInt64} {claimsOnly : Bool}
  {claims : Claims} {signature : Bytes} {report : Report} {entropy between rest : Entropy}

/-- A token is printed where the store opens and holds the credential, and where the credential has
claims and signs them. -/
theorem runToken_run_of_signature
    (hopen : (settings.openStore files).run entropy = ((opened, .ok store), between))
    (hcredential : store.credential? scope id = some credential)
    (hclaims : TokenIssuer.claims ⟨settings.provider, store.resolver⟩ credential
      (job.map (buildOf scope)) now = .ok claims)
    (hsignature : ∀ fresh, Token.signature credential
      (Bytes.ofText (Token.signedText credential claims)) fresh = .ok signature) :
    (runToken settings files now id scope job claimsOnly).run entropy
      = (.printed opened (tokenText (.ofSignature credential claims signature) claimsOnly),
        (between.draw Token.freshBytes).2) := by
  have hissue : (TokenIssuer.issue ⟨settings.provider, store.resolver⟩ credential
      (job.map (buildOf scope)) now).run between
        = (.ok (.ofSignature credential claims signature), (between.draw Token.freshBytes).2) := by
    simp only [TokenIssuer.issue, hclaims]
    exact Token.sign_run_of_signature hsignature
  rw [runToken, Settings.withStore_run_of_open hopen]
  simp only [hcredential]
  rw [Random.run_bind_of_run hissue]
  rfl

/-- What printing a token does: the credential of the scope signs its claims. -/
theorem runToken_done
    (h : (runToken settings files now id scope job claimsOnly).run entropy = (report, rest))
    (hdone : report.ending = .done) :
    ∃ store between credential claims fresh signature,
      (settings.openStore files).run entropy = ((report.files, .ok store), between) ∧
        store.credential? scope id = some credential ∧
        TokenIssuer.claims ⟨settings.provider, store.resolver⟩ credential
          (job.map (buildOf scope)) now = .ok claims ∧
        Token.signature credential (Bytes.ofText (Token.signedText credential claims)) fresh
          = .ok signature ∧
        report.output = tokenText (.ofSignature credential claims signature) claimsOnly := by
  obtain ⟨opened, store, between, hopen, hrun⟩ := Settings.withStore_done h hdone
  cases hcredential : store.credential? scope id with
  | none =>
      simp only [hcredential] at hrun
      cases hrun
      cases hdone
  | some credential =>
      simp only [hcredential] at hrun
      obtain ⟨outcome, last, hissue⟩ : ∃ outcome last,
          (TokenIssuer.issue ⟨settings.provider, store.resolver⟩ credential
            (job.map (buildOf scope)) now).run between = (outcome, last) := ⟨_, _, rfl⟩
      rw [Random.run_bind_of_run hissue] at hrun
      cases outcome with
      | error fault =>
          cases hrun
          cases hdone
      | ok token =>
          cases hrun
          cases hclaims : TokenIssuer.claims ⟨settings.provider, store.resolver⟩ credential
              (job.map (buildOf scope)) now with
          | error fault =>
              simp only [TokenIssuer.issue, hclaims] at hissue
              cases hissue
          | ok claims =>
              simp only [TokenIssuer.issue, hclaims] at hissue
              obtain ⟨fresh, signature, hsignature, rfl⟩ := Token.sign_run_ok hissue
              exact ⟨store, between, credential, claims, fresh, signature, hopen, hcredential,
                hclaims, hsignature, rfl⟩

end Command

namespace Store

variable {master : MasterKey} {provider : Provider} {store : Store} {file : StoreFile}
  {issuers : List Issuer}

/-- A store publishes a key under a URI and an id if it is that of the credential that is saved
there, and if this signs in the name of its scope. -/
theorem WellFormed.publishes_iff_credential?
    {uri id : String} {key : Jwk}
    (h : store.WellFormed master provider) :
    store.Publishes uri id key ↔
      ∃ credential, store.credential? uri id = some credential ∧ credential.issuer = none ∧
        credential.jwk = key := by
  constructor
  · rintro ⟨set, hset, hkey⟩
    obtain ⟨issuer, hissuer, haddress, -, rfl⟩ := h.resolve_eq_jwks_iff.mp hset
    obtain rfl := (address_inj haddress).1
    obtain ⟨credential, hcredential, hdefault, rfl⟩ :=
      JwkSet.mem_ofIssuer_iff.mp (List.mem_of_find?_eq_some hkey)
    obtain rfl : credential.id = id := by simpa using List.find?_some hkey
    exact ⟨credential, h.credential?_eq hissuer hcredential, hdefault, rfl⟩
  · rintro ⟨credential, hfound, hdefault, hkey⟩
    obtain ⟨issuer, hissuer, rfl, hcredential, rfl⟩ := credential?_eq_some hfound
    exact (h.publishes_iff hissuer hcredential).mpr ⟨hdefault, hkey⟩

/-- A credential that is found is listed by the file. -/
theorem lists_of_credential?
    {uri id : String} {credential : Credential}
    (hopens : file.Opens master provider issuers)
    (h : (ofIssuers provider issuers).credential? uri id = some credential) :
    file.Lists uri id ∧ credential.id = id := by
  obtain ⟨issuer, hissuer, huri, hcredential, rfl⟩ := credential?_eq_some h
  refine ⟨(exists_contains_iff_lists hopens).mp ⟨issuer, hissuer, huri, ?_⟩, rfl⟩
  exact List.any_eq_true.mpr ⟨credential, hcredential, beq_self_eq_true _⟩

end Store

namespace Command

/-- The URI of the issuer that a token for a credential of a scope names: that of the scope for a
job, and the root for none. -/
def namedUri (scope : String) : Option (String × UInt64) → String
  | none => ""
  | some _ => scope

variable {settings : Settings} {files : FileTree} {id scope : String}
  {job : Option (String × UInt64)} {now : UInt64} {claimsOnly : Bool} {report : Report}
  {entropy rest : Entropy}

/-- A credential of a scope that names no issuer signs in the name of its scope for a job, and in
that of the root for none. -/
theorem claims_issuer_eq
    {master : MasterKey} {provider : Provider} {file : StoreFile} {issuers : List Issuer}
    {credential : Credential} {claims : Claims}
    (hfile : file.WellFormed)
    (hopens : file.Opens master provider issuers)
    (hcredential : (Store.ofIssuers provider issuers).credential? scope id = some credential)
    (hdefault : credential.issuer = none)
    (hclaims : TokenIssuer.claims ⟨provider, (Store.ofIssuers provider issuers).resolver⟩
      credential (job.map (buildOf scope)) now = .ok claims) :
    claims.issuer = provider.issuerUrl (namedUri scope job) := by
  obtain ⟨hlists, hid⟩ := Store.lists_of_credential? hopens hcredential
  rcases Store.claims_of_opens hfile hopens credential (job.map (buildOf scope)) now with
    ⟨name, hname, hfound⟩ | ⟨build, -, -, hfault⟩
  · cases hfound.symm.trans hclaims
    refine hname.unique ?_
    cases job with
    | none => exact .root hdefault
    | some job => exact .scope hdefault (hid ▸ StoreFile.Lists.governs hlists)
  · cases hfault.symm.trans hclaims

/-- A token that is printed is signed with the key of the credential that the store holds in the
scope under the id.  If this names no issuer, the token names that of the scope for a job, which
publishes the key under the id; for no job the token names the root by design, which publishes the
key exactly if it holds a credential with the id and the key itself. -/
theorem token_verifies_iff
    (h : (runToken settings files now id scope job claimsOnly).run entropy = (report, rest))
    (hdone : report.ending = .done) :
    ∃ store between credential claims fresh signature,
      (settings.openStore files).run entropy = ((report.files, .ok store), between) ∧
        store.credential? scope id = some credential ∧
        report.output = tokenText (.ofSignature credential claims signature) claimsOnly ∧
        Token.signature credential (Bytes.ofText (Token.signedText credential claims)) fresh
          = .ok signature ∧
        (credential.issuer = none →
          (∀ uri, settings.provider.issuerUrl uri = claims.issuer ↔ uri = namedUri scope job) ∧
            (store.Publishes (namedUri scope job) id credential.jwk ↔
              job ≠ none ∨ ∃ twin, store.credential? "" id = some twin ∧ twin.issuer = none ∧
                twin.jwk = credential.jwk)) := by
  obtain ⟨store, between, credential, claims, fresh, signature, hopen, hcredential, hclaims,
    hsignature, houtput⟩ := runToken_done h hdone
  refine ⟨store, between, credential, claims, fresh, signature, hopen, hcredential, houtput,
    hsignature, ?_⟩
  intro hdefault
  obtain ⟨made, master, last, hkey, hload⟩ := Settings.openStore_run_ok hopen
  obtain ⟨file, issuers, -, hfile, hopens, rfl, -⟩ := Store.load_run_ok hload
  have hstore := Store.wellFormed_of_opens hfile hopens
  have hissuer := claims_issuer_eq hfile hopens hcredential hdefault hclaims
  refine ⟨?_, ?_⟩
  · intro uri
    rw [hissuer, Provider.issuerUrl_inj]
  · rw [hstore.publishes_iff_credential?]
    cases job with
    | none => simp [namedUri]
    | some job =>
        refine ⟨fun _ => Or.inl (Option.some_ne_none job), fun _ => ?_⟩
        exact ⟨credential, hcredential, hdefault, rfl⟩

end Command

/-- A key of 2048 bits. -/
def Rsa.PrivateKey.long : Rsa.PrivateKey where
  modulus := (Nat.pow 2 1024 - 105) * (Nat.pow 2 1024 - 179)
  exponent := 65537
  privateExponent :=
    (1 + 54058 * ((Nat.pow 2 1024 - 106) * (Nat.pow 2 1024 - 180))) / 65537
  prime1 := Nat.pow 2 1024 - 105
  prime2 := Nat.pow 2 1024 - 179

/-- A key pair that is long enough to sign tokens. -/
def KeyPair.long : KeyPair where
  algorithm := .rs256
  material := .rsa .long (by decide +kernel) (by decide +kernel)
  fits := rfl

theorem KeyPair.privateBytes_long :
    ∃ bytes, long.privateBytes = .ok bytes := by
  have hsome : long.material.encodePrivate?.isSome := by decide +kernel
  obtain ⟨bytes, hbytes⟩ := Option.isSome_iff_exists.mp hsome
  exact ⟨bytes, privateBytes_eq_ok_iff.mpr hbytes⟩

namespace Command

/-- The claims of a token in the name of the root. -/
def rootClaims : Claims :=
  TokenIssuer.claimsOf plainSettings.provider (Store.plainCredential .long ⟨"", "", ""⟩) none 0
    (plainSettings.provider.issuerUrl "")

theorem signature_rootClaims
    (keys : SealedKeys) :
    ∃ signature, ∀ fresh, Token.signature (Store.plainCredential .long keys)
      (Bytes.ofText (Token.signedText (Store.plainCredential .long keys) rootClaims)) fresh
        = .ok signature := by
  have hencoded : Rsa.PrivateKey.long.encode?.isSome := by decide +kernel
  have hsigned : (Rsa.sign Algorithm.rs256.digest .long (Bytes.ofText (Token.signedText
      (Store.plainCredential .long ⟨"", "", ""⟩) rootClaims))).toOption.isSome := by
    decide +kernel
  obtain ⟨bytes, hbytes⟩ := Option.isSome_iff_exists.mp hencoded
  cases hsignature : Rsa.sign Algorithm.rs256.digest .long (Bytes.ofText (Token.signedText
      (Store.plainCredential .long ⟨"", "", ""⟩) rootClaims)) with
  | error fault =>
      rw [hsignature] at hsigned
      cases hsigned
  | ok signature =>
      exact ⟨signature, Token.signature_of_rsa rfl hbytes (by decide +kernel) hsignature⟩

/-- Issuers are opened from the file that keeps them, beside the master key. -/
theorem openStore_run_ofIssuers
    {issuers : List Issuer}
    (huris : (issuers.map Issuer.uri).Nodup)
    (hissuers : ∀ issuer ∈ issuers, issuer.WellFormed .uniform plainSettings.provider) :
    ∃ files, ∀ entropy, (plainSettings.openStore files).run entropy
      = ((files, .ok (.ofIssuers plainSettings.provider issuers)), entropy) := by
  have hcurrent := StoreFile.ofIssuers_isCurrent issuers
  obtain ⟨files, hwrite⟩ := write_keyedTree hcurrent
  obtain ⟨text, htext, hspells⟩ := StoreFile.ofText?_of_write hwrite
  refine ⟨files, fun entropy => Settings.openStore_run_of_load
    (Settings.masterKey_of_write load_keyedTree read_keyedTree hwrite not_stagingIsMasterKey)
    (Store.load_run_of_opens (StoreFile.read_of_readText htext hspells)
      (StoreFile.ofIssuers_wellFormed huris hissuers) (StoreFile.ofIssuers_opens hissuers)
      hcurrent)⟩

/-- The issuer of a scope with a credential whose key signs tokens. -/
def longIssuer (scope : String) (keys : SealedKeys) : Issuer :=
  .ofProvider plainSettings.provider scope [Store.plainCredential .long keys]

/-- In every valid scope there is a credential for which a token in the name of the root is
printed, where no job is given. -/
theorem runToken_longIssuer
    {scope : String}
    (hscope : Scope.isValid scope = true) :
    ∃ files keys signature,
      (∀ entropy, (plainSettings.openStore files).run entropy
        = ((files, .ok (.ofIssuers plainSettings.provider [longIssuer scope keys])), entropy)) ∧
      (Store.ofIssuers plainSettings.provider [longIssuer scope keys]).credential? scope "deploy"
        = some (Store.plainCredential .long keys) ∧
      ∀ entropy, (runToken plainSettings files 0 "deploy" scope none false).run entropy
        = (.printed files (tokenText (.ofSignature (Store.plainCredential .long keys) rootClaims
          signature) false), (entropy.draw Token.freshBytes).2) := by
  obtain ⟨bytes, hbytes⟩ := KeyPair.privateBytes_long
  obtain ⟨keys, hkept⟩ := Store.exists_plainCredential hbytes .uniform
  obtain ⟨signature, hsignature⟩ := signature_rootClaims keys
  have huris : ([longIssuer scope keys].map Issuer.uri).Nodup := List.nodup_singleton scope
  have hissuers : ∀ issuer ∈ [longIssuer scope keys],
      issuer.WellFormed .uniform plainSettings.provider :=
    List.forall_mem_singleton.mpr (Issuer.ofProvider_wellFormed hscope hkept _)
  have hfile := StoreFile.ofIssuers_wellFormed huris hissuers
  have hopens := StoreFile.ofIssuers_opens hissuers
  have hcredential : (Store.ofIssuers plainSettings.provider
      [longIssuer scope keys]).credential? scope "deploy"
        = some (Store.plainCredential .long keys) := by
    have hissuer : longIssuer scope keys
        ∈ (Store.ofIssuers plainSettings.provider [longIssuer scope keys]).issuers :=
      Store.mem_issuers_ofIssuers List.mem_cons_self
    exact (Store.wellFormed_of_opens hfile hopens).credential?_eq hissuer
      (show Store.plainCredential .long keys ∈ (longIssuer scope keys).credentials from
        List.mem_cons_self)
  obtain ⟨files, hopen⟩ := openStore_run_ofIssuers huris hissuers
  refine ⟨files, keys, signature, hopen, hcredential, fun entropy => ?_⟩
  rcases Store.claims_of_opens hfile hopens (Store.plainCredential .long keys) none 0 with
    ⟨name, hname, hclaims⟩ | ⟨build, hbuild, -⟩
  · obtain rfl := hname.unique (.root rfl)
    exact runToken_run_of_signature (hopen entropy) hcredential hclaims hsignature
  · cases hbuild

/-- The key of a credential of the root is published by the root, in whose name it signs. -/
theorem root_token_verifies :
    ∃ files report rest,
      (runToken plainSettings files 0 "deploy" "" none false).run drawnOne = (report, rest) ∧
      report.ending = .done ∧
      ∃ store between credential claims fresh signature,
        (plainSettings.openStore files).run drawnOne = ((report.files, .ok store), between) ∧
        store.credential? "" "deploy" = some credential ∧
        credential.issuer = none ∧
        report.output = tokenText (.ofSignature credential claims signature) false ∧
        Token.signature credential (Bytes.ofText (Token.signedText credential claims)) fresh
          = .ok signature ∧
        plainSettings.provider.issuerUrl "" = claims.issuer ∧
        store.Publishes "" "deploy" credential.jwk := by
  obtain ⟨files, keys, signature, hopen, hcredential, hrun⟩ :=
    @runToken_longIssuer "" (by decide)
  obtain ⟨store, between, credential, claims, fresh, signed, hopened, hfound, houtput, hsigned,
    hverifies⟩ := token_verifies_iff (hrun drawnOne) rfl
  cases (hopen drawnOne).symm.trans hopened
  obtain rfl : credential = Store.plainCredential .long keys :=
    Option.some.inj (hfound.symm.trans hcredential)
  obtain ⟨hnames, hpublishes⟩ := hverifies rfl
  refine ⟨files, _, _, hrun drawnOne, rfl, _, _, _, claims, fresh, signed, hopened, hfound, rfl,
    houtput, hsigned, (hnames "").mpr rfl, hpublishes.mpr (Or.inr ⟨_, hfound, rfl, rfl⟩)⟩

/-- A token for a credential of another scope and for no job names the root, where nothing is
published under the credential's id. -/
theorem scoped_token_not_verified :
    ∃ files report rest,
      (runToken plainSettings files 0 "deploy" "/team" none false).run drawnOne = (report, rest) ∧
      report.ending = .done ∧
      ∃ store between credential claims signature,
        (plainSettings.openStore files).run drawnOne = ((report.files, .ok store), between) ∧
        store.credential? "/team" "deploy" = some credential ∧
        credential.issuer = none ∧
        report.output = tokenText (.ofSignature credential claims signature) false ∧
        plainSettings.provider.issuerUrl "" = claims.issuer ∧
        ∀ key, ¬ store.Publishes "" "deploy" key := by
  obtain ⟨files, keys, signature, hopen, hcredential, hrun⟩ :=
    @runToken_longIssuer "/team" (by decide)
  refine ⟨files, _, _, hrun drawnOne, rfl, _, _, _, rootClaims, signature, hopen drawnOne,
    hcredential, rfl, rfl, rfl, ?_⟩
  intro key hpublishes
  obtain ⟨master, hstore⟩ := Settings.openStore_wellFormed (hopen drawnOne)
  obtain ⟨twin, htwin, -⟩ := hstore.publishes_iff_credential?.mp hpublishes
  have hnone : (Store.ofIssuers plainSettings.provider [longIssuer "/team" keys]).credential?
      "" "deploy" = none := rfl
  cases hnone.symm.trans htwin

end Command
end WorkloadIdentity
