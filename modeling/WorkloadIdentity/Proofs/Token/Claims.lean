import WorkloadIdentity.Proofs.Store.Acceptance
import WorkloadIdentity.Proofs.Token.Publication

/-!
# What a token says

The claims of a token, for any credential at all, from the file that the store was restored from.
A token names the issuer that the credential sets, the root where no build asks, and else the
longest URI around the build that lists the credential's id; there is no token where no scope
around the build lists it.

* `StoreFile.Governs.unique`: at most one scope is the longest.
* `Store.forCredential_eq_ok`, `Store.forCredential_eq_error`: the issuer that is found.
* `Store.claims_exact`: when there are claims, what they say, and that the order of the scopes in
  the file has no part in it.
-/

namespace WorkloadIdentity

/-- A scope at the URI lists the id. -/
def StoreFile.Lists
    (file : StoreFile)
    (uri id : String) : Prop :=
  ∃ scope ∈ file.scopes, scope.uri = uri ∧ id ∈ scope.ids

/-- Of the scopes around a build that list an id, the one at the URI is the longest. -/
structure StoreFile.Governs
    (file : StoreFile)
    (build : Build)
    (id uri : String) : Prop where
  lists : file.Lists uri id
  admits : Scope.Admits uri (some build)
  longest : ∀ other, file.Lists other id → Scope.Admits other (some build) →
    other = uri ∨ other.length < uri.length

/-- The name that a token for a credential bears as its issuer's. -/
inductive StoreFile.Names
    (file : StoreFile)
    (provider : Provider)
    (credential : Credential) : Option Build → String → Prop
  | own {context : Option Build} {name : String}
      (hissuer : credential.issuer = some name) : Names file provider credential context name
  | root
      (hissuer : credential.issuer = none) :
      Names file provider credential none (provider.issuerUrl "")
  | scope {build : Build} {uri : String}
      (hissuer : credential.issuer = none)
      (hgoverns : file.Governs build credential.id uri) :
      Names file provider credential (some build) (provider.issuerUrl uri)

namespace StoreFile

variable {file other : StoreFile} {provider : Provider} {credential : Credential} {build : Build}
  {context : Option Build} {id uri : String}

theorem Governs.unique
    {another : String}
    (h : file.Governs build id uri)
    (hother : file.Governs build id another) :
    uri = another := by
  rcases h.longest another hother.lists hother.admits with heq | hlt
  · exact heq.symm
  · rcases hother.longest uri h.lists h.admits with heq | hgt
    · exact heq
    · omega

theorem Names.unique
    {name another : String}
    (h : file.Names provider credential context name)
    (hother : file.Names provider credential context another) :
    name = another := by
  cases h with
  | own hissuer =>
      cases hother with
      | own hsame => exact Option.some.inj (hissuer.symm.trans hsame)
      | root hnone => cases hissuer.symm.trans hnone
      | scope hnone => cases hissuer.symm.trans hnone
  | root hissuer =>
      cases hother with
      | own hsome => cases hissuer.symm.trans hsome
      | root => rfl
  | scope hissuer hgoverns =>
      cases hother with
      | own hsome => cases hissuer.symm.trans hsome
      | scope _ hsame => rw [hgoverns.unique hsame]

theorem lists_iff_of_perm
    (h : other.scopes.Perm file.scopes) :
    other.Lists uri id ↔ file.Lists uri id := by
  simp only [Lists, h.mem_iff]

theorem Names.of_perm
    {name : String}
    (h : other.scopes.Perm file.scopes)
    (hnames : other.Names provider credential context name) :
    file.Names provider credential context name := by
  cases hnames with
  | own hissuer => exact .own hissuer
  | root hissuer => exact .root hissuer
  | scope hissuer hgoverns =>
      refine .scope hissuer ⟨(lists_iff_of_perm h).mp hgoverns.lists, hgoverns.admits, ?_⟩
      intro another hlists
      exact hgoverns.longest another ((lists_iff_of_perm h).mpr hlists)

theorem Sound.of_perm
    {master : MasterKey}
    (h : other.scopes.Perm file.scopes)
    (hsound : file.Sound master) :
    other.Sound master where
  uris := (h.map ScopeRecord.uri).nodup_iff.mpr hsound.uris
  scopes := fun scope hscope => hsound.scopes scope (h.mem_iff.mp hscope)

end StoreFile

/-- A scope around another one has a shorter URI. -/
theorem Scope.eq_or_length_lt_of_encloses
    {outer inner : String}
    (h : encloses outer inner = true) :
    outer = inner ∨ outer.length < inner.length := by
  rcases encloses_iff.mp h with rfl | rfl | ⟨rest, rfl⟩
  · by_cases hempty : inner = ""
    · exact Or.inl hempty.symm
    · right
      exact Nat.pos_of_ne_zero (by simpa using hempty)
  · exact Or.inl rfl
  · right
    have hslash : "/".length = 1 := by decide
    simp only [String.length_append]
    omega

/-- A build is governed by its own scope, if that lists the id. -/
theorem StoreFile.Lists.governs
    {file : StoreFile} {build : Build} {id : String}
    (h : file.Lists build.scope id) :
    file.Governs build id build.scope where
  lists := h
  admits := Or.inr (Or.inl rfl)
  longest := fun _ _ hadmits => Scope.eq_or_length_lt_of_encloses (Scope.encloses_iff.mpr hadmits)

namespace Store

variable {master : MasterKey} {provider : Provider} {file : StoreFile} {issuers : List Issuer}
  {credential : Credential} {build : Build}

/-- The issuers that list an id are those of the scopes that list it. -/
theorem exists_contains_iff_lists
    {uri id : String}
    (hopens : file.Opens master provider issuers) :
    (∃ issuer ∈ (ofIssuers provider issuers).issuers, issuer.uri = uri ∧
      issuer.contains id = true) ↔ file.Lists uri id := by
  have hcontains (issuer : Issuer) :
      issuer.contains id = true ↔ id ∈ issuer.credentials.map Credential.id := by
    simp [Issuer.contains]
  constructor
  · rintro ⟨issuer, hissuer, rfl, hid⟩
    rw [hcontains] at hid
    rcases exists_scope_or_eq_root hopens hissuer with ⟨scope, hscope, hrelated⟩ | rfl
    · exact ⟨scope, hscope, hrelated.uri_eq.symm, hrelated.ids_eq ▸ hid⟩
    · cases hid
  · rintro ⟨scope, hscope, rfl, hid⟩
    obtain ⟨issuer, hissuer, hrelated⟩ := exists_issuer_of_scope hopens hscope
    exact ⟨issuer, hissuer, hrelated.uri_eq, (hcontains issuer).mpr (hrelated.ids_eq ▸ hid)⟩

/-- For a build, the issuers around it are looked through from the inside. -/
theorem forCredential_some
    (store : Store) (credential : Credential) (build : Build) :
    store.resolver.forCredential credential (some build)
      = match (Scope.visible store.issuers build.scope).find?
          fun issuer => issuer.contains credential.id with
        | none => .error ⟨credential.id, build.identifier⟩
        | some issuer => .ok issuer := by
  have hissuers : (store.resolver.factories.flatMap fun factory => factory.forContext build)
      = Scope.visible store.issuers build.scope := List.flatMap_singleton _ _
  cases hfound : (Scope.visible store.issuers build.scope).find?
      fun issuer => issuer.contains credential.id with
  | none => simp only [Resolver.forCredential, hissuers, hfound]
  | some issuer => simp only [Resolver.forCredential, hissuers, hfound]

/-- The issuer that is found for a build is at the longest URI around it that lists the id. -/
theorem forCredential_eq_ok
    {governing : Issuer}
    (hopens : file.Opens master provider issuers)
    (h : (ofIssuers provider issuers).resolver.forCredential credential (some build)
      = .ok governing) :
    governing ∈ (ofIssuers provider issuers).issuers ∧
      file.Governs build credential.id governing.uri := by
  rw [forCredential_some] at h
  split at h
  · cases h
  · next found hfound =>
    cases h
    obtain ⟨hgoverning, hencloses, hcontains, hinnermost⟩ := Scope.find?_visible hfound
    refine ⟨hgoverning, (exists_contains_iff_lists hopens).mp ⟨_, hgoverning, rfl, hcontains⟩,
      Scope.encloses_iff.mp hencloses, ?_⟩
    intro uri hlists hadmits
    obtain ⟨other, hother, rfl, hid⟩ := (exists_contains_iff_lists hopens).mpr hlists
    exact Scope.eq_or_length_lt_of_encloses
      (hinnermost other hother (Scope.encloses_iff.mpr hadmits) hid)

/-- Where none is found for a build, no scope around it lists the id. -/
theorem forCredential_eq_error
    {fault : IssuerNotFound}
    (hopens : file.Opens master provider issuers)
    (h : (ofIssuers provider issuers).resolver.forCredential credential (some build)
      = .error fault) :
    fault = ⟨credential.id, build.identifier⟩ ∧
      ∀ uri, file.Lists uri credential.id → ¬ Scope.Admits uri (some build) := by
  rw [forCredential_some] at h
  split at h
  · next hnone =>
    cases h
    refine ⟨rfl, ?_⟩
    intro uri hlists hadmits
    obtain ⟨issuer, hissuer, rfl, hid⟩ := (exists_contains_iff_lists hopens).mpr hlists
    exact List.find?_eq_none.mp hnone issuer
      (Scope.mem_visible_iff.mpr ⟨hissuer, Scope.encloses_iff.mpr hadmits⟩) hid
  · cases h

end Store

/-- The claims in a name. -/
def TokenIssuer.claimsOf (provider : Provider) (credential : Credential) (context : Option Build)
    (now : UInt64) (name : String) : Claims where
  issuer := name
  audience := credential.audience
  expires := now + lifetime
  issuedAt := now
  subject := (context.map Build.subject).getD provider.rootSubject
  buildNumber := context.map Build.number

/-- No issuer is found: the credential sets none, and no scope around the build lists its id. -/
def StoreFile.Unknown
    (file : StoreFile)
    (credential : Credential)
    (context : Option Build) : Prop :=
  credential.issuer = none ∧ ∃ build, context = some build ∧
    ∀ uri, file.Lists uri credential.id → ¬ Scope.Admits uri (some build)

/-- What the claims of a token for a credential say. -/
structure StoreFile.Grants
    (file : StoreFile)
    (provider : Provider)
    (credential : Credential)
    (context : Option Build)
    (now : UInt64)
    (claims : Claims) : Prop where
  issuer : file.Names provider credential context claims.issuer
  audience : claims.audience = credential.audience
  subject : claims.subject = (context.map Build.subject).getD (provider.rootUrl ++ "/")
  buildNumber : claims.buildNumber = context.map Build.number
  issuedAt : claims.issuedAt = now
  /-- The token is valid for one hour. -/
  expires : claims.expires.toNat = now.toNat + 3600

section

variable {file other : StoreFile} {provider : Provider} {credential : Credential}
  {context : Option Build} {now : UInt64}

/-- Claims in a name say what they should, if the time is not too late to add an hour to it. -/
theorem StoreFile.Names.grants
    {name : String}
    (h : file.Names provider credential context name)
    (hnow : now.toNat + 3600 < UInt64.size) :
    file.Grants provider credential context now
      (TokenIssuer.claimsOf provider credential context now name) where
  issuer := h
  audience := rfl
  subject := rfl
  buildNumber := rfl
  issuedAt := rfl
  expires := by
    have hlifetime : TokenIssuer.lifetime.toNat = 3600 := by decide
    show (now + TokenIssuer.lifetime).toNat = now.toNat + 3600
    rw [UInt64.toNat_add, hlifetime]
    exact Nat.mod_eq_of_lt hnow

/-- Either there are claims in the name that the file gives, or no issuer is found. -/
theorem Store.claims_of_opens
    {master : MasterKey} {issuers : List Issuer}
    (hfile : file.WellFormed)
    (hopens : file.Opens master provider issuers)
    (credential : Credential) (context : Option Build) (now : UInt64) :
    (∃ name, file.Names provider credential context name ∧
      TokenIssuer.claims ⟨provider, (ofIssuers provider issuers).resolver⟩ credential context now
        = .ok (TokenIssuer.claimsOf provider credential context now name)) ∨
      ∃ build, context = some build ∧ file.Unknown credential context ∧
        TokenIssuer.claims ⟨provider, (ofIssuers provider issuers).resolver⟩ credential context now
          = .error (.issuerNotFound ⟨credential.id, build.identifier⟩) := by
  have hstore := wellFormed_of_opens hfile hopens
  cases hissuer : credential.issuer with
  | some name =>
      left
      simp only [TokenIssuer.claims, hissuer, bind, Except.bind]
      exact ⟨name, .own hissuer, rfl⟩
  | none =>
      cases context with
      | none =>
          left
          have hroot := (hstore.issuers _ hstore.root_mem).url_eq
          rw [hstore.root_uri] at hroot
          simp only [TokenIssuer.claims, hissuer, Resolver.forCredential, bind, Except.bind]
          exact ⟨_, hroot ▸ .root hissuer, rfl⟩
      | some build =>
          cases hfound : (ofIssuers provider issuers).resolver.forCredential credential
              (some build) with
          | ok governing =>
              left
              obtain ⟨hgoverning, hgoverns⟩ := forCredential_eq_ok hopens hfound
              have hurl := (hstore.issuers governing hgoverning).url_eq
              simp only [TokenIssuer.claims, hissuer, hfound, bind, Except.bind]
              exact ⟨_, hurl ▸ .scope hissuer hgoverns, rfl⟩
          | error fault =>
              right
              obtain ⟨rfl, hnone⟩ := forCredential_eq_error hopens hfound
              refine ⟨build, rfl, ⟨hissuer, build, rfl, hnone⟩, ?_⟩
              simp only [TokenIssuer.claims, hissuer, hfound, bind, Except.bind]

theorem StoreFile.Unknown.not_names
    {name : String}
    (h : file.Unknown credential context) :
    ¬ file.Names provider credential context name := by
  intro hname
  obtain ⟨hissuer, build, rfl, hnone⟩ := h
  cases hname with
  | own hsome => cases hissuer.symm.trans hsome
  | scope _ hgoverns => exact hnone _ hgoverns.lists hgoverns.admits

theorem StoreFile.Unknown.of_perm
    (hperm : other.scopes.Perm file.scopes)
    (h : other.Unknown credential context) :
    file.Unknown credential context := by
  obtain ⟨hissuer, build, hbuild, hnone⟩ := h
  exact ⟨hissuer, build, hbuild, fun uri hlists => hnone uri ((lists_iff_of_perm hperm).mpr hlists)⟩

/-- Files with the same scopes in any order give the same claims. -/
theorem Store.claims_eq_of_perm
    {master : MasterKey} {issuers others : List Issuer}
    (hperm : other.scopes.Perm file.scopes)
    (hsound : file.Sound master)
    (hopens : file.Opens master provider issuers)
    (hothers : other.Opens master provider others)
    (credential : Credential) (context : Option Build) (now : UInt64) :
    TokenIssuer.claims ⟨provider, (ofIssuers provider others).resolver⟩ credential context now
      = TokenIssuer.claims ⟨provider, (ofIssuers provider issuers).resolver⟩ credential context
        now := by
  have hfile := claims_of_opens hsound.wellFormed hopens credential context now
  have hother := claims_of_opens (hsound.of_perm hperm).wellFormed hothers credential context now
  rcases hother with ⟨name, hname, hclaims⟩ | ⟨build, hbuild, hunknown, hclaims⟩
  · rcases hfile with ⟨_, hsame, hfound⟩ | ⟨_, _, hunknown, _⟩
    · rw [hclaims, hfound, (hname.of_perm hperm).unique hsame]
    · exact absurd (hname.of_perm hperm) hunknown.not_names
  · rcases hfile with ⟨_, hsame, hfound⟩ | ⟨another, hanother, -, hfound⟩
    · exact absurd hsame (hunknown.of_perm hperm).not_names
    · obtain rfl := Option.some.inj (hbuild.symm.trans hanother)
      rw [hclaims, hfound]

/-- The claims of a token for any credential, in the store or not.  There are none exactly where
the credential sets no issuer, a build asks, and no scope around the build lists the credential's
id; the fault then names the id and the build.  Otherwise they say what the file grants.  The order
of the scopes in the file has no part in it. -/
theorem Store.claims_exact
    {master : MasterKey} {after : StoreFile} {store : Store} {count : Nat} {entropy rest : Entropy}
    (h : (restore master provider file).run entropy = (⟨after, .ok (store, count)⟩, rest))
    (hnow : now.toNat + 3600 < UInt64.size)
    (credential : Credential) (context : Option Build) :
    ((∃ fault, TokenIssuer.claims ⟨provider, store.resolver⟩ credential context now
        = .error fault) ↔ file.Unknown credential context) ∧
      (∀ fault, TokenIssuer.claims ⟨provider, store.resolver⟩ credential context now
          = .error fault →
        ∃ build, context = some build ∧ fault = .issuerNotFound ⟨credential.id,
          build.subject ++ "#" ++ Decimal.text build.number.toNat⟩) ∧
      (∀ claims, TokenIssuer.claims ⟨provider, store.resolver⟩ credential context now
          = .ok claims →
        file.Grants provider credential context now claims) ∧
      ∀ other : StoreFile, other.scopes.Perm file.scopes → ∀ supply,
        ∃ kept again number left,
          (restore master provider other).run supply = (⟨kept, .ok (again, number)⟩, left) ∧
            TokenIssuer.claims ⟨provider, again.resolver⟩ credential context now
              = TokenIssuer.claims ⟨provider, store.resolver⟩ credential context now := by
  have hsound := sound_of_restore_run_ok h
  obtain ⟨issuers, hfile, hopens, rfl, -⟩ := restore_run_ok h
  have hcases := claims_of_opens hfile hopens credential context now
  refine ⟨⟨?_, ?_⟩, ?_, ?_, ?_⟩
  · rintro ⟨fault, hfault⟩
    rcases hcases with ⟨_, -, hclaims⟩ | ⟨_, -, hunknown, -⟩
    · cases hclaims.symm.trans hfault
    · exact hunknown
  · intro hunknown
    rcases hcases with ⟨_, hname, -⟩ | ⟨_, -, -, hclaims⟩
    · exact absurd hname hunknown.not_names
    · exact ⟨_, hclaims⟩
  · intro fault hfault
    rcases hcases with ⟨_, -, hclaims⟩ | ⟨build, hbuild, -, hclaims⟩
    · cases hclaims.symm.trans hfault
    · cases hclaims.symm.trans hfault
      exact ⟨build, hbuild, rfl⟩
  · intro claims hclaims
    rcases hcases with ⟨_, hname, hfound⟩ | ⟨_, -, -, hfault⟩
    · cases hfound.symm.trans hclaims
      exact hname.grants hnow
    · cases hfault.symm.trans hclaims
  · intro other hperm supply
    obtain ⟨kept, again, number, left, hrun⟩ :=
      restore_run_of_sound master provider (hsound.of_perm hperm) supply
    obtain ⟨others, -, hothers, rfl, -⟩ := restore_run_ok hrun
    exact ⟨kept, _, number, left, hrun,
      claims_eq_of_perm hperm hsound hopens hothers credential context now⟩

end

/-- Of two nested scopes, the inner one governs a build below it. -/
theorem StoreFile.nestedFile_governs
    (outer inner : SealedKeys) :
    (Store.nestedFile outer inner).Governs ⟨"https://ci.example.org/job/app/", 7, "/job/team"⟩
      "deploy" "/job" where
  lists := ⟨_, List.mem_cons_of_mem _ List.mem_cons_self, rfl, List.mem_cons_self⟩
  admits := Or.inr (Or.inr ⟨"team", by decide⟩)
  longest := by
    rintro uri ⟨scope, hscope, rfl, -⟩ -
    rcases List.mem_cons.mp hscope with rfl | hscope
    · right
      show "".length < "/job".length
      decide
    · obtain rfl := List.mem_singleton.mp hscope
      exact Or.inl rfl

/-- A build below the inner of two nested scopes gets a token in that scope's name, also for the
credential of the outer one. -/
theorem Store.nested_claims_exact :
    ∃ outer inner claims,
      (∀ entropy, (restore .uniform sampleProvider (nestedFile outer inner)).run entropy
        = (⟨nestedFile outer inner, .ok (ofIssuers sampleProvider (nestedIssuers sampleProvider
          (plainCredential .least outer) (plainCredential .small inner)), 0)⟩, entropy)) ∧
      TokenIssuer.claims ⟨sampleProvider, (ofIssuers sampleProvider (nestedIssuers sampleProvider
          (plainCredential .least outer) (plainCredential .small inner))).resolver⟩
          (plainCredential .least outer)
          (some ⟨"https://ci.example.org/job/app/", 7, "/job/team"⟩) 0 = .ok claims ∧
      claims.issuer = sampleProvider.issuerUrl "/job" ∧
      claims.expires = 3600 := by
  obtain ⟨outerBytes, houter⟩ := KeyPair.privateBytes_least
  obtain ⟨innerBytes, hinner⟩ := KeyPair.privateBytes_small
  obtain ⟨outer, inner, hrun⟩ := nested_restore_run houter hinner .uniform sampleProvider
  have hgoverns := StoreFile.nestedFile_governs outer inner
  have hnow : (0 : UInt64).toNat + 3600 < UInt64.size := by decide
  obtain ⟨hfails, -, hsays, -⟩ := claims_exact (hrun ⟨fun _ => 0, 0⟩) hnow
    (plainCredential .least outer) (some ⟨"https://ci.example.org/job/app/", 7, "/job/team"⟩)
  cases hclaims : TokenIssuer.claims ⟨sampleProvider, (ofIssuers sampleProvider
      (nestedIssuers sampleProvider (plainCredential .least outer)
        (plainCredential .small inner))).resolver⟩ (plainCredential .least outer)
      (some ⟨"https://ci.example.org/job/app/", 7, "/job/team"⟩) 0 with
  | error fault =>
      obtain ⟨-, build, hbuild, hnone⟩ := hfails.mp ⟨fault, hclaims⟩
      cases hbuild
      exact absurd hgoverns.admits (hnone _ hgoverns.lists)
  | ok claims =>
      have hgrants := hsays claims hclaims
      exact ⟨outer, inner, claims, hrun, hclaims,
        hgrants.issuer.unique (.scope rfl hgoverns),
        UInt64.toNat_inj.mp hgrants.expires⟩

end WorkloadIdentity
