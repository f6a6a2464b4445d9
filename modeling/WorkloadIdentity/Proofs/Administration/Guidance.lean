import WorkloadIdentity.Proofs.Administration.IssuerUrls
import WorkloadIdentity.Proofs.Metadata.Dispatch
import WorkloadIdentity.Proofs.Metadata.Placement
import WorkloadIdentity.Proofs.Scope.Ancestry

/-!
# What administrators are told to publish

An administrator who types in an issuer for a credential is told what to publish there once the
credential has been saved with that issuer, and gets the set of keys for it.  The check and the set
are looked up in two different ways; they agree on where there is something to publish.

* `Instructs`, `addressesIn`: messages with instructions, and the addresses in them.
* `Resolver.instructs_iff`: instructions are given exactly where there is a set of keys.
* `Store.credentialJwks_eq_some_iff_holdsKey`: the sets of keys of a store, by its file.
* `Store.checks_agree`: the outcome of every check, for a file that restores.
-/

namespace WorkloadIdentity

/-- A message that says what to publish. -/
def Instructs (message : String) : Prop :=
  ∃ rest, message = "Serve " ++ rest

/-- The addresses among the words of a message. -/
def addressesIn (message : String) : List String :=
  ((message.toList.splitOn ' ').filter fun word => "https:".toList.isPrefixOf word).map String.ofList

theorem instructs_instructions
    (name : String) :
    Instructs (Resolver.instructions name) := by
  simp only [Instructs, Resolver.instructions, String.append_assoc]
  exact ⟨_, rfl⟩

/-- No other message begins as instructions do. -/
theorem not_instructs_of_getElem?
    {message : String}
    (h : message.toList[0]? ≠ some 'S' ∨ message.toList[1]? ≠ some 'e') :
    ¬ Instructs message := by
  rintro ⟨rest, rfl⟩
  simp at h

theorem addressesIn_append
    (front rest : String) :
    addressesIn (front ++ " " ++ rest) = addressesIn front ++ addressesIn rest := by
  have hchars : (front ++ " " ++ rest).toList = front.toList ++ ' ' :: rest.toList := by simp
  have hsplit : (front ++ " " ++ rest).toList.splitOn ' '
      = front.toList.splitOn ' ' ++ rest.toList.splitOn ' ' := by
    rw [hchars]
    exact List.splitOnP_append_cons _ _ rfl
  rw [addressesIn, hsplit, List.filter_append, List.map_append]
  rfl

/-- A text without blanks is the only word in itself. -/
theorem addressesIn_eq_singleton
    {text : String}
    (hblank : ' ' ∉ text.toList)
    (hscheme : ∃ rest, text = "https:" ++ rest) :
    addressesIn text = [text] := by
  obtain ⟨rest, htext⟩ := hscheme
  have hprefix : "https:".toList.isPrefixOf text.toList = true := by
    rw [List.isPrefixOf_iff_prefix]
    exact ⟨rest.toList, by rw [htext, String.toList_append]⟩
  rw [addressesIn, List.splitOn_eq_singleton hblank, List.filter_cons_of_pos hprefix,
    List.filter_nil, List.map_singleton, String.ofList_toList]

/-- The text around the addresses of instructions has no address in it. -/
theorem addressesIn_around
    (openid jwks : String) :
    addressesIn ("Serve " ++ openid
        ++ " with the well-known OpenID configuration for this issuer and " ++ jwks
        ++ " with the JWKS of this credential (both as application/json). "
        ++ "Note that the JWKS document will need to be updated if you resave these credentials.")
      = addressesIn openid ++ addressesIn jwks := by
  -- in short pieces the text is searched quickly
  have hopenid : " with the well-known OpenID configuration for this issuer and "
      = " " ++ "with the well-known OpenID" ++ " " ++ "configuration for this issuer and" ++ " " :=
    rfl
  have hjwks : " with the JWKS of this credential (both as application/json). "
      = " " ++ "with the JWKS of this" ++ " " ++ "credential (both as" ++ " "
        ++ "application/json)." ++ " " :=
    rfl
  have hnote : "Note that the JWKS document will need to be updated if you resave these credentials."
      = "Note that the JWKS" ++ " " ++ "document will need to be" ++ " " ++ "updated if you resave"
        ++ " " ++ "these credentials." :=
    rfl
  have hpieces : ∀ piece ∈ ["Serve", "with the well-known OpenID",
      "configuration for this issuer and", "with the JWKS of this", "credential (both as",
      "application/json).", "Note that the JWKS", "document will need to be",
      "updated if you resave", "these credentials."], addressesIn piece = [] := by
    decide +kernel
  simp only [List.forall_mem_cons] at hpieces
  rw [show "Serve " = "Serve" ++ " " from rfl, hopenid, hjwks, hnote]
  simp only [← String.append_assoc, addressesIn_append, hpieces, List.append_nil, List.nil_append]

/-- Instructions for an issuer that is accepted have the addresses of its two documents in them,
and no others. -/
theorem addressesIn_instructions
    {name : String}
    (hname : checkIssuerUrl name = none) :
    addressesIn (Resolver.instructions name)
      = [name ++ Document.openid.suffix, name ++ Document.jwks.suffix] := by
  obtain ⟨htext, ⟨rest, hscheme⟩, -⟩ := checkIssuerUrl_eq_none_iff.mp hname
  have haddress (document : Document) :
      addressesIn (name ++ document.suffix) = [name ++ document.suffix] := by
    apply addressesIn_eq_singleton
    · intro hblank
      rw [String.toList_append, List.mem_append] at hblank
      rcases hblank with hmem | hsuffix
      · exact absurd ((isUriText_iff.mp htext).1 ' ' hmem) (by decide)
      · revert hsuffix
        cases document <;> decide
    · exact ⟨rest ++ document.suffix, by rw [hscheme, String.append_assoc]⟩
  have haround := addressesIn_around (name ++ Document.openid.suffix) (name ++ Document.jwks.suffix)
  rw [haddress .openid, haddress .jwks] at haround
  rw [Resolver.instructions, ← List.singleton_append, ← haround]
  simp only [String.append_assoc]

namespace Resolver

variable {resolver : Resolver} {scope id name message : String} {issuer : Option String}
  {set : JwkSet}

/-- Comparing the key with its algorithm refuses nothing. -/
theorem credentialJwks_eq
    (resolver : Resolver) (scope id name : String) :
    resolver.credentialJwks scope id name = .ok (resolver.credentialJwks? scope id name) := by
  unfold credentialJwks credentialJwks?
  cases resolver.forConfig scope with
  | none => rfl
  | some served =>
      simp only [Option.bind_eq_bind, Option.bind_some]
      cases served.find? id name with
      | none => rfl
      | some credential =>
          simp only [Jwk.encode_eq]
          rfl

theorem credentialJwks_eq_some_iff :
    resolver.credentialJwks scope id name = .ok (some set) ↔
      ∃ served, resolver.forConfig scope = some served ∧
        ∃ credential, served.find? id name = some credential ∧ set = ⟨[credential.jwk]⟩ := by
  rw [credentialJwks_eq, Except.ok.injEq]
  constructor
  · intro h
    obtain ⟨served, hserved, hrest⟩ := Option.bind_eq_some_iff.mp h
    obtain ⟨credential, hfound, hset⟩ := Option.bind_eq_some_iff.mp hrest
    exact ⟨served, hserved, credential, hfound, (Option.some.inj hset).symm⟩
  · rintro ⟨served, hserved, credential, hfound, rfl⟩
    exact Option.bind_eq_some_iff.mpr
      ⟨served, hserved, Option.bind_eq_some_iff.mpr ⟨credential, hfound, rfl⟩⟩

theorem checkIssuer_blank
    (hblank : issuer = none ∨ issuer = some "") :
    resolver.checkIssuer scope id issuer
      = match resolver.forConfig scope with
        | some served => .ok ("Issuer URI: " ++ served.url)
        | none => .warning "Unable to determine the issuer URI" := by
  have hname : issuer.getD "" = "" := by rcases hblank with rfl | rfl <;> rfl
  cases hscope : resolver.forConfig scope with
  | none => simp only [checkIssuer, hname, hscope, if_true]
  | some served => simp only [checkIssuer, hname, hscope, if_true]

theorem checkIssuer_named
    (hname : name ≠ "") :
    resolver.checkIssuer scope id (some name)
      = match checkIssuerUrl name, resolver.forConfig scope with
        | some fault, _ => .error fault.message
        | none, none => .warning "Unable to determine where these credentials are being saved"
        | none, some served =>
            if (served.find? id name).isSome then .ok (instructions name)
            else .ok "Save these credentials, then return to this screen for instructions" := by
  rw [checkIssuer, Option.getD_some, if_neg hname]
  cases checkIssuerUrl name with
  | some fault => rfl
  | none => cases resolver.forConfig scope <;> rfl

/-- For an issuer that is left out there are no instructions. -/
theorem not_instructs_of_blank
    (hblank : issuer = none ∨ issuer = some "")
    (hcheck : resolver.checkIssuer scope id issuer = .ok message) :
    ¬ Instructs message := by
  rw [checkIssuer_blank hblank] at hcheck
  split at hcheck
  · cases hcheck
    exact not_instructs_of_getElem? (by simp)
  · cases hcheck

theorem checkIssuer_eq_error_iff
    (hname : name ≠ "") :
    resolver.checkIssuer scope id (some name) = .error message ↔
      ∃ fault, checkIssuerUrl name = some fault ∧ message = fault.message := by
  rw [checkIssuer_named hname]
  cases checkIssuerUrl name with
  | some fault => simp [eq_comm]
  | none =>
      cases resolver.forConfig scope with
      | none => simp
      | some served => by_cases hsaved : (served.find? id name).isSome <;> simp [hsaved]

theorem exists_checkIssuer_warning_iff
    (hname : name ≠ "") :
    (∃ message, resolver.checkIssuer scope id (some name) = .warning message) ↔
      checkIssuerUrl name = none ∧ resolver.forConfig scope = none := by
  rw [checkIssuer_named hname]
  cases checkIssuerUrl name with
  | some fault => simp
  | none =>
      cases resolver.forConfig scope with
      | none => simp
      | some served => by_cases hsaved : (served.find? id name).isSome <;> simp [hsaved]

/-- The instructions that a check gives are those for the issuer, which is accepted and has a set
of keys to publish. -/
theorem checkIssuer_instructs_iff
    (hname : name ≠ "") :
    resolver.checkIssuer scope id (some name) = .ok message ∧ Instructs message ↔
      checkIssuerUrl name = none ∧ message = instructions name ∧
        ∃ set, resolver.credentialJwks scope id name = .ok (some set) := by
  have hunsaved : ¬ Instructs
      "Save these credentials, then return to this screen for instructions" :=
    not_instructs_of_getElem? (by simp)
  constructor
  · rintro ⟨hcheck, hinstructs⟩
    rw [checkIssuer_named hname] at hcheck
    split at hcheck
    · cases hcheck
    · cases hcheck
    · next served hurl hscope =>
      split at hcheck
      · next hsaved =>
        cases hcheck
        obtain ⟨credential, hfound⟩ := Option.isSome_iff_exists.mp hsaved
        exact ⟨hurl, rfl, _, credentialJwks_eq_some_iff.mpr
          ⟨served, hscope, credential, hfound, rfl⟩⟩
      · cases hcheck
        exact absurd hinstructs hunsaved
  · rintro ⟨hurl, rfl, set, hset⟩
    obtain ⟨served, hscope, credential, hfound, -⟩ := credentialJwks_eq_some_iff.mp hset
    refine ⟨?_, instructs_instructions name⟩
    rw [checkIssuer_named hname, hurl, hscope]
    exact if_pos (Option.isSome_iff_exists.mpr ⟨credential, hfound⟩)

/-- Instructions are given exactly where the issuer is accepted and has a set of keys to publish. -/
theorem instructs_iff :
    (∃ message, resolver.checkIssuer scope id issuer = .ok message ∧ Instructs message) ↔
      ∃ name, issuer = some name ∧ name ≠ "" ∧ checkIssuerUrl name = none ∧
        ∃ set, resolver.credentialJwks scope id name = .ok (some set) := by
  constructor
  · rintro ⟨message, hcheck, hinstructs⟩
    have hnamed : ¬ (issuer = none ∨ issuer = some "") :=
      fun hblank => not_instructs_of_blank hblank hcheck hinstructs
    obtain ⟨hsome, hne⟩ := not_or.mp hnamed
    obtain ⟨name, rfl⟩ := Option.ne_none_iff_exists'.mp hsome
    have hname : name ≠ "" := fun hempty => hne (congrArg some hempty)
    obtain ⟨hurl, -, hset⟩ := (checkIssuer_instructs_iff hname).mp ⟨hcheck, hinstructs⟩
    exact ⟨name, rfl, hname, hurl, hset⟩
  · rintro ⟨name, rfl, hname, hurl, hset⟩
    exact ⟨_, (checkIssuer_instructs_iff hname).mpr ⟨hurl, rfl, hset⟩⟩

end Resolver

/-- The key is that of a record of the scope with the id, which signs in the given name. -/
def StoreFile.HoldsKey
    (file : StoreFile)
    (master : MasterKey)
    (scope id name : String)
    (key : Jwk) : Prop :=
  ∃ listed ∈ file.scopes, listed.uri = scope ∧ ∃ record ∈ listed.credentials,
    record.id = id ∧ Credential.unlessEmpty record.issuer = some name ∧ record.Publishes master key

/-- What an administrator is told of an issuer, and the set of keys for it, by the file that a store
was restored from. -/
structure Store.Advises
    (master : MasterKey)
    (provider : Provider)
    (file : StoreFile)
    (store : Store) : Prop where
  instructed : ∀ scope id issuer,
    (∃ message, store.resolver.checkIssuer scope id issuer = .ok message ∧ Instructs message) ↔
      ∃ name, issuer = some name ∧ name ≠ "" ∧ checkIssuerUrl name = none ∧
        ∃ set, store.resolver.credentialJwks scope id name = .ok (some set)
  /-- The addresses in instructions are that of the discovery document and the one that this
  document names for the keys. -/
  addresses : ∀ scope id name message,
    store.resolver.checkIssuer scope id (some name) = .ok message → Instructs message →
      addressesIn message
        = [name ++ "/.well-known/openid-configuration", (Discovery.ofIssuer name).jwksUri]
  succeeds : ∀ scope id name, ∃ answer, store.resolver.credentialJwks scope id name = .ok answer
  /-- A set has one key in it, the key of a record with the id and the issuer. -/
  keys : ∀ scope id name set, store.resolver.credentialJwks scope id name = .ok (some set) ↔
    ∃ key, set.keys = [key] ∧ key.kid = id ∧ file.HoldsKey master scope id name key
  refused : ∀ scope id name message, name ≠ "" →
    (store.resolver.checkIssuer scope id (some name) = .error message ↔
      ∃ fault, checkIssuerUrl name = some fault ∧ message = fault.message)
  unplaced : ∀ scope id name, name ≠ "" →
    ((∃ message, store.resolver.checkIssuer scope id (some name) = .warning message) ↔
      checkIssuerUrl name = none ∧ scope ∉ store.issuers.map Issuer.uri)
  /-- Without an issuer, the scope's own is named. -/
  own : ∀ scope id issuer message, issuer = none ∨ issuer = some "" →
    (store.resolver.checkIssuer scope id issuer = .ok message ↔
      scope ∈ store.issuers.map Issuer.uri ∧
        message = "Issuer URI: " ++ provider.issuerUrl scope)
  unknown : ∀ scope id issuer, issuer = none ∨ issuer = some "" →
    ((∃ message, store.resolver.checkIssuer scope id issuer = .warning message) ↔
      scope ∉ store.issuers.map Issuer.uri)
  scopes : ∀ scope, scope ∈ store.issuers.map Issuer.uri ↔
    scope = "" ∨ scope ∈ file.scopes.map ScopeRecord.uri

/-- A record that gives a credential publishes the credential's key, and no other. -/
theorem CredentialRecord.Opens.publishes_iff
    {master : MasterKey} {record : CredentialRecord} {credential : Credential} {key : Jwk}
    (h : record.Opens master credential)
    (hkeys : record.KeysOpen master) :
    record.Publishes master key ↔ key = credential.jwk := by
  constructor
  · rintro ⟨pair, hpair, rfl⟩
    obtain rfl := h.keys.opened_eq (KeyRecord.opened_eq_ok_iff.mpr hpair)
    rw [← h.id_eq]
    rfl
  · rintro rfl
    exact h.publishes hkeys

namespace Store

variable {master : MasterKey} {provider : Provider} {store : Store} {file : StoreFile}
  {issuers : List Issuer} {served : Issuer} {scope id name : String} {set : JwkSet}

theorem forConfig_eq_none_iff
    (store : Store) (scope : String) :
    store.resolver.forConfig scope = none ↔ scope ∉ store.issuers.map Issuer.uri := by
  rw [resolver_forConfig, Scope.find?, List.find?_eq_none]
  simp only [List.mem_map, not_exists, not_and, beq_iff_eq]

theorem WellFormed.forConfig_eq_some_iff
    (h : store.WellFormed master provider) :
    store.resolver.forConfig scope = some served ↔ served ∈ store.issuers ∧ served.uri = scope := by
  rw [resolver_forConfig]
  constructor
  · intro hfound
    exact ⟨List.mem_of_find?_eq_some hfound, by simpa using List.find?_some hfound⟩
  · rintro ⟨hserved, rfl⟩
    exact find?_of_nodup h.uris hserved

/-- There is a set of keys for an issuer exactly where a record of the scope has the id and the
issuer, and the set holds the key of that record. -/
theorem credentialJwks_eq_some_iff_holdsKey
    (hsound : file.Sound master)
    (hopens : file.Opens master provider issuers) :
    (ofIssuers provider issuers).resolver.credentialJwks scope id name = .ok (some set) ↔
      ∃ key, set.keys = [key] ∧ key.kid = id ∧ file.HoldsKey master scope id name key := by
  have hstore := wellFormed_of_opens hsound.wellFormed hopens
  constructor
  · intro hset
    obtain ⟨served, hserved, credential, hfound, rfl⟩ :=
      Resolver.credentialJwks_eq_some_iff.mp hset
    obtain ⟨hlisted, rfl⟩ := hstore.forConfig_eq_some_iff.mp hserved
    have hcredential := List.mem_of_find?_eq_some hfound
    obtain ⟨rfl, hname⟩ : credential.id = id ∧ credential.issuer = some name := by
      simpa using List.find?_some hfound
    rcases exists_scope_or_eq_root hopens hlisted with ⟨listed, hscope, hrelated⟩ | rfl
    · obtain ⟨record, hrecord, hentry⟩ := exists_of_mem_right hrelated.credentials hcredential
      have hkeys := (hsound.scopes listed hscope).keys record hrecord
      exact ⟨credential.jwk, rfl, credential.kid_jwk, listed, hscope, hrelated.uri_eq.symm, record,
        hrecord, hentry.id_eq.symm, hentry.issuer_eq.symm.trans hname, hentry.publishes hkeys⟩
    · cases hcredential
  · rintro ⟨key, hkey, -, listed, hscope, rfl, record, hrecord, rfl, hname, hpublishes⟩
    obtain ⟨served, hserved, hrelated⟩ := exists_issuer_of_scope hopens hscope
    obtain ⟨credential, hplace⟩ := exists_mem_zip hrelated.credentials hrecord
    have hentry := (List.forall₂_iff_zip.mp hrelated.credentials).2 hplace
    have hkeys := (hsound.scopes listed hscope).keys record hrecord
    obtain rfl := (hentry.publishes_iff hkeys).mp hpublishes
    have hjwks := hstore.credentialJwks?_eq hserved (List.of_mem_zip hplace).2 name
    rw [if_pos (hentry.issuer_eq.trans hname), hrelated.uri_eq, hentry.id_eq] at hjwks
    rw [Resolver.credentialJwks_eq, hjwks, ← hkey]

theorem WellFormed.checkIssuer_own_iff
    {issuer : Option String} {message : String}
    (h : store.WellFormed master provider)
    (hblank : issuer = none ∨ issuer = some "") :
    store.resolver.checkIssuer scope id issuer = .ok message ↔
      scope ∈ store.issuers.map Issuer.uri ∧
        message = "Issuer URI: " ++ provider.issuerUrl scope := by
  rw [Resolver.checkIssuer_blank hblank]
  cases hscope : store.resolver.forConfig scope with
  | none => simp [(store.forConfig_eq_none_iff scope).mp hscope]
  | some served =>
      obtain ⟨hserved, rfl⟩ := h.forConfig_eq_some_iff.mp hscope
      simp [(h.issuers served hserved).url_eq, List.mem_map_of_mem hserved, eq_comm]

theorem exists_checkIssuer_unknown_iff
    {issuer : Option String}
    (hblank : issuer = none ∨ issuer = some "") :
    (∃ message, store.resolver.checkIssuer scope id issuer = .warning message) ↔
      scope ∉ store.issuers.map Issuer.uri := by
  rw [Resolver.checkIssuer_blank hblank, ← forConfig_eq_none_iff]
  cases store.resolver.forConfig scope <;> simp

/-- For a file that restores, the check of an issuer and the set of keys for it agree, for every
scope, id and issuer that an administrator can type in. -/
theorem checks_agree
    {after : StoreFile} {count : Nat} {entropy rest : Entropy}
    (h : (restore master provider file).run entropy = (⟨after, .ok (store, count)⟩, rest)) :
    store.Advises master provider file := by
  have hsound := sound_of_restore_run_ok h
  have hstore := restore_wellFormed h
  obtain ⟨issuers, -, hopens, rfl, -⟩ := restore_run_ok h
  constructor
  case instructed =>
    intro scope id issuer
    exact Resolver.instructs_iff
  case addresses =>
    intro scope id name message hcheck hinstructs
    have hname : name ≠ "" := by
      rintro rfl
      exact Resolver.not_instructs_of_blank (Or.inr rfl) hcheck hinstructs
    obtain ⟨hurl, rfl, -⟩ := (Resolver.checkIssuer_instructs_iff hname).mp ⟨hcheck, hinstructs⟩
    exact addressesIn_instructions hurl
  case succeeds =>
    intro scope id name
    exact ⟨_, Resolver.credentialJwks_eq _ scope id name⟩
  case keys =>
    intro scope id name set
    exact credentialJwks_eq_some_iff_holdsKey hsound hopens
  case refused =>
    intro scope id name message hname
    exact Resolver.checkIssuer_eq_error_iff hname
  case unplaced =>
    intro scope id name hname
    rw [Resolver.exists_checkIssuer_warning_iff hname, forConfig_eq_none_iff]
  case own =>
    intro scope id issuer message hblank
    exact hstore.checkIssuer_own_iff hblank
  case unknown =>
    intro scope id issuer hblank
    exact exists_checkIssuer_unknown_iff hblank
  case scopes =>
    intro scope
    exact mem_uris_iff hopens

/-- For a credential that was saved with an issuer of its own there are instructions; for the same
issuer in a scope that the store does not have there is a warning. -/
theorem saved_checks_agree :
    ∃ file store, (∀ entropy, (restore .uniform sampleProvider file).run entropy
        = (⟨file, .ok (store, 0)⟩, entropy)) ∧
      store.Advises .uniform sampleProvider file ∧
      (∃ message, store.resolver.checkIssuer "" "upload" (some "https://[::1]") = .ok message ∧
        addressesIn message
          = ["https://[::1]/.well-known/openid-configuration", "https://[::1]/jwks"]) ∧
      ∃ message,
        store.resolver.checkIssuer "/job" "upload" (some "https://[::1]") = .warning message := by
  obtain ⟨bytes, hbytes⟩ := KeyPair.privateBytes_least
  obtain ⟨keys, hkept⟩ := @Credential.exists_wellKept _ _ none (some "https://[::1]") none hbytes
    (by simp) (by simp) (by simp) .uniform "upload"
  have hrun := restore_run_single (show Scope.isValid "" = true by decide) hkept sampleProvider
  have hadvises := checks_agree (hrun ⟨fun _ => 0, 0⟩)
  have hstore := restore_wellFormed (hrun ⟨fun _ => 0, 0⟩)
  have hurl : checkIssuerUrl "https://[::1]" = none := by decide +kernel
  have hset := hstore.credentialJwks?_eq (mem_issuers_ofIssuers List.mem_cons_self)
    List.mem_cons_self "https://[::1]"
  rw [if_pos rfl] at hset
  obtain ⟨message, hmessage, hinstructs⟩ := (hadvises.instructed "" "upload"
    (some "https://[::1]")).mpr ⟨_, rfl, by decide, hurl, _,
      (Resolver.credentialJwks_eq _ _ _ _).trans (congrArg Except.ok hset)⟩
  refine ⟨_, _, hrun, hadvises, ⟨message, hmessage, ?_⟩,
    (hadvises.unplaced "/job" "upload" _ (by decide)).mpr ⟨hurl, ?_⟩⟩
  · rw [hadvises.addresses _ _ _ _ hmessage hinstructs]
    decide
  · rw [hadvises.scopes]
    simp [StoreFile.ofIssuers, Issuer.ofProvider]

end Store
end WorkloadIdentity
