import WorkloadIdentity.Command.Publishing
import WorkloadIdentity.Proofs.Command.Issuing
import WorkloadIdentity.Proofs.Metadata.Documents

/-!
# Documents that commands print

A command finds the issuer of a scope by its URI alone, and prints the issuer's keys even where
there are none.  A server looks for the URI in an address, and serves no empty set of keys.  Where
the server has a document, the command prints a text that spells the same one.

* `Json.parse?_line`: the document that a printed line spells.
* `Command.runJwks_run_of_open`: what the command for sets of keys does.
* `Command.prints_what_is_served`: what both publish for a scope.
-/

namespace WorkloadIdentity

/-- A plain document is read back from the line in which it is printed. -/
theorem Json.parse?_line
    {json : Json}
    (h : json.Plain) :
    parse? (line json.pretty) = some json :=
  parse?_append_newline (parse?_pretty h)

/-- A command that is done printed a text that spells a value. -/
structure Report.Spells
    {α : Type}
    (report : Report)
    (files : FileTree)
    (read? : Json → Option α)
    (value : α) : Prop where
  files_eq : report.files = files
  ending_eq : report.ending = .done
  output : (Json.parse? report.output).bind read? = some value

/-- A printed document spells what is read from it. -/
theorem Report.spells_printed
    {α : Type} {json : Json} {read? : Json → Option α} {value : α}
    (hplain : json.Plain)
    (hread : read? json = some value)
    (files : FileTree) :
    (printed files (line json.pretty)).Spells files read? value where
  files_eq := rfl
  ending_eq := rfl
  output := by
    show (Json.parse? (line json.pretty)).bind read? = some value
    rw [Json.parse?_line hplain, Option.bind_some, hread]

theorem JwkSet.spells_printed
    (files : FileTree) (set : JwkSet) :
    (Report.printed files (line set.toJson.pretty)).Spells files ofJson? set :=
  Report.spells_printed set.plain_toJson set.ofJson?_toJson files

/-- The discovery document of a scope is printed whether or not there is such a scope. -/
theorem Command.runDiscovery_spells
    (settings : Settings) (files : FileTree) (scope : String) :
    (runDiscovery settings files scope none).Spells files Discovery.ofJson?
      (.ofIssuer (settings.provider.issuerUrl scope)) :=
  Report.spells_printed (Discovery.plain_toJson _) (Discovery.ofJson?_toJson _) files

namespace Command

variable {settings : Settings} {files opened : FileTree} {store : Store}
  {entropy between : Entropy}

/-- A set of keys is printed, or it is said why there is none. -/
def keySetReport (files : FileTree) : Except CommandFault JwkSet → Report
  | .error fault => .failed files fault
  | .ok set => .printed files (line set.toJson.pretty)

/-- Once the store is open, the set is looked up and nothing is drawn. -/
theorem runJwks_run_of_open
    (h : (settings.openStore files).run entropy = ((opened, .ok store), between))
    (scope : String) (external : Option (String × String)) :
    (runJwks settings files scope external).run entropy
      = (keySetReport opened (keySet store scope external), between) := by
  rw [runJwks, Settings.withStore_run_of_open h]
  cases keySet store scope external <;> rfl

section

variable {master : MasterKey} {provider : Provider} {scope : String}

theorem keySet_of_mem
    {issuer : Issuer}
    (h : store.WellFormed master provider)
    (hissuer : issuer ∈ store.issuers) :
    keySet store issuer.uri none = .ok (.ofIssuer issuer) := by
  have hfind : Scope.find? store.issuers issuer.uri = some issuer := find?_of_nodup h.uris hissuer
  rw [keySet, Store.resolver_forConfig, hfind]

theorem keySet_of_not_mem
    (h : ∀ issuer ∈ store.issuers, issuer.uri ≠ scope) :
    keySet store scope none = .error (.unknownScope scope) := by
  have hfind : Scope.find? store.issuers scope = none :=
    List.find?_eq_none.mpr fun issuer hissuer huri => h issuer hissuer (by simpa using huri)
  rw [keySet, Store.resolver_forConfig, hfind]

/-- Where the server has a set of keys, the command prints it. -/
theorem keySet_of_resolve
    {set : JwkSet}
    (h : store.WellFormed master provider)
    (hserved : store.resolver.resolve (scope ++ Document.jwks.suffix) = some (.jwks set)) :
    keySet store scope none = .ok set := by
  obtain ⟨issuer, hissuer, haddress, -, rfl⟩ := h.resolve_eq_jwks_iff.mp hserved
  rw [(address_inj haddress).1, keySet_of_mem h hissuer]

/-- Where the server has none for a scope of the store, the command prints the empty set. -/
theorem keySet_of_not_served
    (h : store.WellFormed master provider)
    (hnone : ∀ set, store.resolver.resolve (scope ++ Document.jwks.suffix) ≠ some (.jwks set))
    (hscope : ∃ issuer ∈ store.issuers, issuer.uri = scope) :
    keySet store scope none = .ok ⟨[]⟩ := by
  obtain ⟨issuer, hissuer, rfl⟩ := hscope
  have hdefaults : issuer.defaultCredentials = [] := by
    by_contra hdefaults
    exact hnone _ (h.resolve_eq_jwks_iff.mpr ⟨issuer, hissuer, rfl, hdefaults, rfl⟩)
  have hkeys : (JwkSet.ofIssuer issuer).keys = [] := by
    rw [JwkSet.keys_ofIssuer, hdefaults, List.map_nil]
  have hempty : JwkSet.ofIssuer issuer = ⟨[]⟩ := congrArg JwkSet.mk hkeys
  rw [keySet_of_mem h hissuer, hempty]

end

/-- What the commands print for a scope of an open store is what the server has for it.  Where the
server has a set of keys, the command prints a text that spells it.  Where the server has none, the
command fails exactly if the store has no such scope, and else prints the empty set.  Where the
server has a discovery document, the command prints a text that spells it.  For the credential of an
issuer elsewhere, the command prints the set that an administrator is given, and fails exactly if
there is none. -/
theorem prints_what_is_served
    (h : (settings.openStore files).run entropy = ((opened, .ok store), between))
    (scope : String) :
    (∃ report, (runJwks settings files scope none).run entropy = (report, between) ∧
      (∀ set, store.resolver.resolve (scope ++ Document.jwks.suffix) = some (.jwks set) →
        report.Spells opened JwkSet.ofJson? set) ∧
      ((∀ set, store.resolver.resolve (scope ++ Document.jwks.suffix) ≠ some (.jwks set)) →
        (report = .failed opened (.unknownScope scope) ↔
          ∀ issuer ∈ store.issuers, issuer.uri ≠ scope) ∧
        ((∃ issuer ∈ store.issuers, issuer.uri = scope) →
          report.Spells opened JwkSet.ofJson? ⟨[]⟩))) ∧
      (∀ document, store.resolver.resolve (scope ++ Document.openid.suffix)
          = some (.discovery document) →
        (runDiscovery settings files scope none).Spells files Discovery.ofJson? document) ∧
      ∀ id issuer, ∃ report,
        (runJwks settings files scope (some (id, issuer))).run entropy = (report, between) ∧
          match store.resolver.credentialJwks? scope id issuer with
          | none => report = .failed opened (.notServed id issuer)
          | some set => report.Spells opened JwkSet.ofJson? set := by
  obtain ⟨master, hstore⟩ := Settings.openStore_wellFormed h
  refine ⟨⟨_, runJwks_run_of_open h scope none, ?_, ?_⟩, ?_, ?_⟩
  · intro set hserved
    rw [keySet_of_resolve hstore hserved]
    exact set.spells_printed opened
  · intro hnone
    have hspells (hscope : ∃ issuer ∈ store.issuers, issuer.uri = scope) :
        (keySetReport opened (keySet store scope none)).Spells opened JwkSet.ofJson? ⟨[]⟩ := by
      rw [keySet_of_not_served hstore hnone hscope]
      exact JwkSet.spells_printed opened ⟨[]⟩
    refine ⟨⟨?_, ?_⟩, hspells⟩
    · intro hfailed issuer hissuer huri
      have hending := (hspells ⟨issuer, hissuer, huri⟩).ending_eq
      rw [hfailed] at hending
      cases hending
    · intro habsent
      rw [keySet_of_not_mem habsent]
      rfl
  · intro document hserved
    obtain ⟨issuer, hissuer, haddress, rfl⟩ := hstore.resolve_eq_discovery_iff.mp hserved
    rw [(hstore.issuers issuer hissuer).url_eq, ← (address_inj haddress).1]
    exact runDiscovery_spells settings files scope
  · intro id issuer
    refine ⟨_, runJwks_run_of_open h scope (some (id, issuer)), ?_⟩
    cases hset : store.resolver.credentialJwks? scope id issuer with
    | none =>
        simp only [keySet, hset]
        rfl
    | some set =>
        simp only [keySet, hset]
        exact set.spells_printed opened

/-- The key of a scope below the root, as the server has it and as the command prints it. -/
theorem team_prints_what_is_served :
    ∃ files keys report,
      (runJwks plainSettings files "/team" none).run drawnOne = (report, drawnOne) ∧
      (Store.ofIssuers plainSettings.provider [longIssuer "/team" keys]).resolver.resolve
        "/team/jwks" = some (.jwks (.ofIssuer (longIssuer "/team" keys))) ∧
      report.Spells files JwkSet.ofJson? (.ofIssuer (longIssuer "/team" keys)) := by
  obtain ⟨files, keys, -, hopen, -, -⟩ := @runToken_longIssuer "/team" (by decide)
  obtain ⟨master, hstore⟩ := Settings.openStore_wellFormed (hopen drawnOne)
  obtain ⟨⟨report, hrun, hspells, -⟩, -, -⟩ := prints_what_is_served (hopen drawnOne) "/team"
  have hissuer : longIssuer "/team" keys
      ∈ (Store.ofIssuers plainSettings.provider [longIssuer "/team" keys]).issuers :=
    Store.mem_issuers_ofIssuers List.mem_cons_self
  have hdefaults : (longIssuer "/team" keys).defaultCredentials ≠ [] :=
    List.ne_nil_of_mem (List.mem_filter.mpr ⟨List.mem_cons_self, rfl⟩)
  have hserved := hstore.resolve_eq_jwks_iff.mpr ⟨_, hissuer, rfl, hdefaults, rfl⟩
  exact ⟨files, keys, report, hrun, hserved, hspells _ hserved⟩

end Command
end WorkloadIdentity
