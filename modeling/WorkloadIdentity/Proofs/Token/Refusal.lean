import WorkloadIdentity.Proofs.Command.Adding
import WorkloadIdentity.Proofs.Command.Issuing
import WorkloadIdentity.Proofs.Store.Retry

/-!
# Credentials that sign no tokens

A store takes every consistent RSA key whose modulus is small enough to be published, from records
of both shapes, and publishes it.  Tokens are signed only within further limits, whatever check
keeps them, so there are keys that are kept, renewed and published and sign no token.

* `Store.issue_run_of_mem`: what issuing a token for a credential of a store does.
* `Store.issue_fails_iff`: for which credentials it fails.
-/

namespace WorkloadIdentity
namespace Store

variable {master : MasterKey} {provider : Provider} {file after : StoreFile} {store : Store}
  {issuers : List Issuer} {issuer : Issuer} {credential : Credential} {context : Option Build}
  {count : Nat} {entropy rest : Entropy} {check : Rsa.KeyCheck}

/-- A credential may be asked for a token: it sets an issuer of its own, or the build is in its
scope. -/
def Asks
    (issuer : Issuer)
    (credential : Credential)
    (context : Option Build) : Prop :=
  credential.issuer ≠ none ∨ ∃ build, context = some build ∧ build.scope = issuer.uri

/-- There are claims for every credential that may be asked. -/
theorem exists_claims
    (hfile : file.WellFormed)
    (hopens : file.Opens master provider issuers)
    (hissuer : issuer ∈ (ofIssuers provider issuers).issuers)
    (hcredential : credential ∈ issuer.credentials)
    (hasks : Asks issuer credential context)
    (now : UInt64) :
    ∃ claims, TokenIssuer.claims ⟨provider, (ofIssuers provider issuers).resolver⟩ credential
      context now = .ok claims := by
  rcases claims_of_opens hfile hopens credential context now with ⟨_, -, hclaims⟩ |
    ⟨_, -, ⟨hnone, build, hbuild, hlisted⟩, -⟩
  · exact ⟨_, hclaims⟩
  · rcases hasks with hown | ⟨_, hsame, hscope⟩
    · exact absurd hnone hown
    · cases hbuild.symm.trans hsame
      have hcontains : issuer.contains credential.id = true :=
        List.any_eq_true.mpr ⟨credential, hcredential, beq_self_eq_true _⟩
      have hlists := (exists_contains_iff_lists hopens).mp ⟨issuer, hissuer, rfl, hcontains⟩
      exact absurd (Or.inr (Or.inl hscope)) (hlisted issuer.uri hlists)

/-- A credential of a restored store that may be asked has claims, and issuing a token is signing
them. -/
theorem issue_run_of_mem
    (h : (restore master provider file).run entropy = (⟨after, .ok (store, count)⟩, rest))
    (hissuer : issuer ∈ store.issuers)
    (hcredential : credential ∈ issuer.credentials)
    (hasks : Asks issuer credential context)
    (now : UInt64) (supply : Entropy) (check : Rsa.KeyCheck) :
    ∃ claims, TokenIssuer.claims ⟨provider, store.resolver⟩ credential context now = .ok claims ∧
      (TokenIssuer.issue ⟨provider, store.resolver⟩ credential context now check).run supply
        = ((Token.signature credential (Bytes.ofText (Token.signedText credential claims))
            (supply.draw Token.freshBytes).1 check).map (Token.ofSignature credential claims),
          (supply.draw Token.freshBytes).2) := by
  obtain ⟨issuers, hfile, hopens, rfl, -⟩ := restore_run_ok h
  obtain ⟨claims, hclaims⟩ := exists_claims hfile hopens hissuer hcredential hasks now
  refine ⟨claims, hclaims, ?_⟩
  rw [TokenIssuer.issue, hclaims]
  exact Token.sign_run credential claims supply check

/-- A credential with a long key that sets the root's name for its tokens. -/
def namedCredential (keys : SealedKeys) : Credential :=
  ⟨"deploy", none, some (Command.plainSettings.provider.issuerUrl ""), none, .long, keys⟩

/-- The issuer of a scope with such a credential. -/
def namedIssuer (keys : SealedKeys) : Issuer :=
  .ofProvider Command.plainSettings.provider "/team" [namedCredential keys]

/-- Such a credential can be kept. -/
theorem exists_namedIssuer_restores :
    ∃ keys, ∀ entropy,
      (restore .uniform Command.plainSettings.provider (.ofIssuers [namedIssuer keys])).run entropy
        = (⟨.ofIssuers [namedIssuer keys],
          .ok (ofIssuers Command.plainSettings.provider [namedIssuer keys], 0)⟩, entropy) := by
  obtain ⟨bytes, hbytes⟩ := KeyPair.privateBytes_long
  have hname : some (Command.plainSettings.provider.issuerUrl "") ≠ some "" := by decide
  obtain ⟨keys, hkept⟩ := Credential.exists_wellKept hbytes (Option.some_ne_none "").symm hname
    (Option.some_ne_none "").symm .uniform "deploy"
  exact ⟨keys, restore_run_single (show Scope.isValid "/team" = true by decide) hkept _⟩

/-- Whatever is drawn, its claims are signed. -/
theorem signature_namedCredential
    (keys : SealedKeys) :
    ∃ signature, ∀ fresh, Token.signature (namedCredential keys)
      (Bytes.ofText (Token.signedText (namedCredential keys) Command.rootClaims)) fresh
        = .ok signature := by
  obtain ⟨signature, hsignature⟩ := Command.signature_rootClaims keys
  refine ⟨signature, fun fresh => ?_⟩
  have htext := @Token.signedText_eq_of_pair (namedCredential keys) (plainCredential .long keys)
    rfl rfl Command.rootClaims
  have hsame := @Token.signature_eq_of_pair (namedCredential keys) (plainCredential .long keys) rfl
  rw [htext, hsame, hsignature]

/-- A legacy record with the least key is restored, and renewed, to a credential of that key. -/
theorem exists_legacy_least_restores :
    ∃ secret after store rest issuer credential,
      (restore .uniform Command.plainSettings.provider (Command.legacyFile secret)).run
          Command.drawnOne = (⟨after, .ok (store, 1)⟩, rest) ∧
        after.IsCurrent ∧
        issuer ∈ store.issuers ∧
        credential ∈ issuer.credentials ∧
        credential.issuer = none ∧
        credential.pair = .least := by
  obtain ⟨secret, hopened⟩ := Command.exists_legacy_least
  obtain ⟨after, store, count, rest, hrun⟩ := restore_run_of_sound .uniform
    Command.plainSettings.provider (Command.sound_legacyFile hopened) Command.drawnOne
  obtain ⟨issuers, -, hopens, rfl, rfl, hcount, -⟩ := restore_run_ok hrun
  obtain rfl : count = 1 := hcount
  obtain ⟨issuer, hissuer, hscope⟩ := exists_issuer_of_scope hopens List.mem_cons_self
  obtain ⟨credential, hplace⟩ := exists_mem_zip hscope.credentials List.mem_cons_self
  have hrecord := (List.forall₂_iff_zip.mp hscope.credentials).2 hplace
  exact ⟨secret, _, _, rest, issuer, credential, hrun, StoreFile.renewed_isCurrent _ _, hissuer,
    (List.of_mem_zip hplace).2, hrecord.issuer_eq, (hrecord.keys.opened_eq hopened).symm⟩

/-- Where RSA keys are checked as documented, issuing a token for a credential of a restored store
that may be asked fails exactly where the credential refuses to sign the claims: its RSA key has no
bare encoding, does not keep a limit or does not lead the hash back, or on a curve none of the
secret numbers that are tried is of use.  An RSA key whose factors are prime signs exactly if they
differ and the limits are kept. -/
theorem issue_fails_iff
    (hcheck : check.Documented)
    (h : (restore master provider file).run entropy = (⟨after, .ok (store, count)⟩, rest))
    (hissuer : issuer ∈ store.issuers)
    (hcredential : credential ∈ issuer.credentials)
    (hasks : Asks issuer credential context)
    (now : UInt64) (supply : Entropy) :
    ∃ claims outcome,
      TokenIssuer.claims ⟨provider, store.resolver⟩ credential context now = .ok claims ∧
      (TokenIssuer.issue ⟨provider, store.resolver⟩ credential context now check).run supply
        = (outcome, (supply.draw Token.freshBytes).2) ∧
      (∀ fault, outcome = .error fault ↔ Token.Refuses check credential
        (Bytes.ofText (Token.signedText credential claims)) (supply.draw Token.freshBytes).1
        fault) ∧
      ∀ key consistent publishable, credential.pair.material = .rsa key consistent publishable →
        key.prime1.Prime → key.prime2.Prime →
        ((∃ token, outcome = .ok token) ↔ key.prime1 ≠ key.prime2 ∧ key.KeepsLimits) := by
  obtain ⟨claims, hclaims, hissue⟩ :=
    issue_run_of_mem h hissuer hcredential hasks now supply check
  generalize hsignature : Token.signature credential
    (Bytes.ofText (Token.signedText credential claims)) (supply.draw Token.freshBytes).1 check
      = outcome at hissue
  refine ⟨claims, _, hclaims, hissue, ?_, ?_⟩
  · intro fault
    rw [← Token.signature_eq_error_iff hcheck, hsignature]
    cases outcome <;> simp [Except.map]
  · intro key consistent publishable hmaterial hprime1 hprime2
    have hsigns := @Token.signature_of_primes check credential
      (Bytes.ofText (Token.signedText credential claims)) (supply.draw Token.freshBytes).1 _ _ _
      hcheck hmaterial hprime1 hprime2
    rw [hsignature] at hsigns
    rw [← hsigns]
    cases outcome <;> simp [Except.map]

/-- A credential with a long key signs a token in the name that it sets. -/
theorem named_issue_succeeds :
    ∃ keys, (∀ entropy, (restore .uniform Command.plainSettings.provider
        (.ofIssuers [namedIssuer keys])).run entropy
          = (⟨.ofIssuers [namedIssuer keys],
            .ok (ofIssuers Command.plainSettings.provider [namedIssuer keys], 0)⟩, entropy)) ∧
      ∃ token rest, (TokenIssuer.issue ⟨Command.plainSettings.provider,
        (ofIssuers Command.plainSettings.provider [namedIssuer keys]).resolver⟩
          (namedCredential keys) none 0).run Command.drawnOne = (.ok token, rest) := by
  obtain ⟨keys, hrun⟩ := exists_namedIssuer_restores
  obtain ⟨signature, hsignature⟩ := signature_namedCredential keys
  have hissuer : namedIssuer keys
      ∈ (ofIssuers Command.plainSettings.provider [namedIssuer keys]).issuers :=
    mem_issuers_ofIssuers List.mem_cons_self
  have hasks : Asks (namedIssuer keys) (namedCredential keys) none :=
    Or.inl (Option.some_ne_none _)
  have hcheck := Rsa.KeyCheck.limit?_documented
  obtain ⟨claims, outcome, hclaims, hissue, hfails, -⟩ := issue_fails_iff hcheck
    (hrun Command.drawnOne) hissuer List.mem_cons_self hasks 0 Command.drawnOne
  obtain rfl : Command.rootClaims = claims := Except.ok.inj hclaims
  cases outcome with
  | error fault =>
      have hrefuses := ((hfails fault).mp rfl).signature_eq hcheck
      rw [hsignature] at hrefuses
      cases hrefuses
  | ok token => exact ⟨keys, hrun, token, _, hissue⟩

/-- The least key is restored from a legacy record, renewed and published, and signs no token for
the builds of its own scope. -/
theorem least_issue_fails :
    ∃ secret after store rest issuer credential,
      (restore .uniform Command.plainSettings.provider (Command.legacyFile secret)).run
          Command.drawnOne = (⟨after, .ok (store, 1)⟩, rest) ∧
        after.IsCurrent ∧
        issuer ∈ store.issuers ∧
        credential ∈ issuer.credentials ∧
        store.Publishes issuer.uri credential.id credential.jwk ∧
        ∀ (check : Rsa.KeyCheck), check.Documented →
          ∀ (job : String) (number now : UInt64) (supply : Entropy), ∃ name left,
            (TokenIssuer.issue ⟨Command.plainSettings.provider, store.resolver⟩ credential
              (some ⟨job, number, issuer.uri⟩) now check).run supply
                = (.error (.limit name), left) := by
  obtain ⟨secret, after, store, rest, issuer, credential, hrun, hcurrent, hissuer, hcredential,
    hdefault, hpair⟩ := exists_legacy_least_restores
  have hpublished := ((restore_wellFormed hrun).publishes_iff hissuer hcredential).mpr
    ⟨hdefault, rfl⟩
  refine ⟨secret, after, store, rest, issuer, credential, hrun, hcurrent, hissuer, hcredential,
    hpublished, ?_⟩
  intro check hcheck job number now supply
  obtain ⟨claims, -, hissue⟩ := issue_run_of_mem hrun hissuer hcredential
    (Or.inr ⟨⟨job, number, issuer.uri⟩, rfl, rfl⟩) now supply check
  have hmaterial : credential.pair.material = .rsa ⟨15, 3, 3, 3, 5⟩ (by decide) (by decide) := by
    rw [hpair]
    rfl
  have hencoding : (Rsa.PrivateKey.mk 15 3 3 3 5).encode?.isSome := by decide +kernel
  have hlimits : ¬ (Rsa.PrivateKey.mk 15 3 3 3 5).KeepsLimits := by
    intro h
    exact absurd h.exponent_large (by decide)
  obtain ⟨name, hname⟩ := hcheck.exists_name (by decide) (by decide) hencoding hlimits
  have hrefuses : Token.Refuses check credential
      (Bytes.ofText (Token.signedText credential claims)) (supply.draw Token.freshBytes).1
      (.limit name) :=
    .limit hmaterial hencoding hlimits hname
  rw [hrefuses.signature_eq hcheck] at hissue
  exact ⟨name, _, hissue⟩

end Store
end WorkloadIdentity
