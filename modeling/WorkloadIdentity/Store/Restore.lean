import WorkloadIdentity.Resolver
import WorkloadIdentity.Store.File
import WorkloadIdentity.Store.Scope

/-!
# Stores

The credentials of a store's file, restored and sorted into issuers.  Records of the legacy shape
are replaced by records of the current shape, one by one, as far as the file can be restored.
-/

namespace WorkloadIdentity

/-- Restored credentials: one issuer for each scope, and which of them is the root. -/
structure Store where
  root : Issuer
  issuers : List Issuer

/-- What restoring gives: the records as they are afterwards, and the outcome. -/
structure Restored (α β : Type) where
  records : α
  outcome : Except StoreFault β

namespace Store

/-- The source of the store's issuers. -/
def factory (store : Store) : IssuerFactory :=
  Scope.factory store.issuers

def resolver (store : Store) : Resolver :=
  ⟨store.root, [store.factory]⟩

/-- The credential with an id that is saved in a scope. -/
def credential? (store : Store) (scope id : String) : Option Credential := do
  let issuer ← Scope.find? store.issuers scope
  issuer.credentials.find? fun credential => credential.id == id

/-- The credentials of a scope's records, and how many of them had legacy keys.  Each id is
compared with those before it, and then the keys are loaded. -/
def restoreCredentials (master : MasterKey) (uri : String) (before : List String) :
    List CredentialRecord → Random (Restored (List CredentialRecord) (List Credential × Nat))
  | [] => return ⟨[], .ok ([], 0)⟩
  | record :: rest => do
      if record.id ∈ before then
        return ⟨record :: rest, .error (.duplicateCredential uri record.id)⟩
      else
        match ← Credential.restore master record with
        | .error fault => return ⟨record :: rest, .error (.credential uri record.id fault)⟩
        | .ok (credential, migrated) =>
            let later ← restoreCredentials master uri (before ++ [record.id]) rest
            return ⟨(if migrated then credential.toRecord else record) :: later.records,
              later.outcome.map fun (credentials, count) =>
                (credential :: credentials, if migrated then count + 1 else count)⟩

/-- The issuers of the scopes, and how many credentials had legacy keys.  Each URI is checked and
compared with those before it, and then the scope's credentials are restored. -/
def restoreScopes (master : MasterKey) (provider : Provider) (before : List String) :
    List ScopeRecord → Random (Restored (List ScopeRecord) (List Issuer × Nat))
  | [] => return ⟨[], .ok ([], 0)⟩
  | scope :: rest => do
      if !Scope.isValid scope.uri then
        return ⟨scope :: rest, .error (.invalidScope scope.uri)⟩
      else if scope.uri ∈ before then
        return ⟨scope :: rest, .error (.duplicateScope scope.uri)⟩
      else
        let here ← restoreCredentials master scope.uri [] scope.credentials
        let kept : ScopeRecord := { scope with credentials := here.records }
        match here.outcome with
        | .error fault => return ⟨kept :: rest, .error fault⟩
        | .ok (credentials, count) =>
            let later ← restoreScopes master provider (before ++ [scope.uri]) rest
            return ⟨kept :: later.records, later.outcome.map fun (issuers, laterCount) =>
              (Issuer.ofProvider provider scope.uri credentials :: issuers,
                count + laterCount)⟩

/-- The store of restored issuers; a root issuer is added at the end if there is none. -/
def ofIssuers (provider : Provider) (issuers : List Issuer) : Store :=
  match Scope.find? issuers "" with
  | some root => ⟨root, issuers⟩
  | none =>
      let root := Issuer.ofProvider provider "" []
      ⟨root, issuers ++ [root]⟩

/-- The store of a file's records, and how many of them had legacy keys. -/
def restore (master : MasterKey) (provider : Provider) (file : StoreFile) :
    Random (Restored StoreFile (Store × Nat)) := do
  let scopes ← restoreScopes master provider [] file.scopes
  return ⟨⟨scopes.records⟩, scopes.outcome.map fun (issuers, count) =>
    (ofIssuers provider issuers, count)⟩

/-- The store in the file at a path.  If some keys had the legacy shape, the file is written
again. -/
def load (master : MasterKey) (provider : Provider) (tree : FileTree) (path : String) :
    Random (FileTree × Except StoreFault Store) :=
  match StoreFile.read tree path with
  | .error fault => return (tree, .error fault)
  | .ok file => do
      let restored ← restore master provider file
      match restored.outcome with
      | .error fault => return (tree, .error fault)
      | .ok (store, 0) => return (tree, .ok store)
      | .ok (store, _ + 1) =>
          let (tree, written) := restored.records.write tree path
          return (tree, written.map fun _ => store)

end Store
end WorkloadIdentity
