import WorkloadIdentity.Credential
import WorkloadIdentity.Files
import WorkloadIdentity.Json.Document

/-!
# The store's file

The kept form of all credentials, scope by scope, as a JSON document.  It is written to a file
beside its own first, which then takes its place.
-/

namespace WorkloadIdentity

/-- One scope with the credentials saved in it. -/
structure ScopeRecord where
  uri : String
  credentials : List CredentialRecord
  deriving DecidableEq, Repr

/-- The kept form of a store. -/
structure StoreFile where
  scopes : List ScopeRecord
  deriving DecidableEq, Repr

/-- Why a store cannot be read, written or restored. -/
inductive StoreFault
  | read (path : String) (fault : FileFault)
  | write (path : String) (fault : FileFault)
  /-- The document does not spell a store. -/
  | malformed (path : String)
  /-- The store holds keys of the legacy shape, which are not written. -/
  | legacyKeys (path : String)
  /-- The keys of a credential do not load. -/
  | credential (scope id : String) (fault : KeyFault)
  | duplicateScope (uri : String)
  | duplicateCredential (scope id : String)
  | invalidScope (uri : String)
  deriving DecidableEq, Repr

namespace StoreFault

def message : StoreFault → String
  | read path fault => "Failed to read " ++ path ++ ": " ++ fault.message
  | write path fault => "Failed to write " ++ path ++ ": " ++ fault.message
  | malformed path => "Malformed credential store " ++ path ++ ": not a store document"
  | legacyKeys path =>
      "Malformed credential store " ++ path ++ ": " ++ KeyRecord.legacyMessage
  | credential scope id fault =>
      "Credential " ++ id ++ " in scope '" ++ scope ++ "': " ++ fault.message
  | duplicateScope uri => "Scope '" ++ uri ++ "' is listed more than once"
  | duplicateCredential scope id =>
      "Credential " ++ id ++ " is listed more than once in scope '" ++ scope ++ "'"
  | invalidScope uri =>
      "Scope URI '" ++ uri ++ "' must be empty or start with '/' and not end with '/'"

end StoreFault

namespace ScopeRecord

/-- The document of a scope, unless it holds keys of the legacy shape. -/
def toJson? (scope : ScopeRecord) : Option Json := do
  let credentials ← scope.credentials.mapM CredentialRecord.toJson?
  return .object (Json.member "uri" (.ofText scope.uri)
    ++ Json.member "credentials" (.array credentials))

/-- The scope that a value inside `depth` containers spells. -/
def ofJson? (depth : Nat) (json : Json) : Option ScopeRecord := do
  let record ← json.record? ["uri", "credentials"]
  return {
    uri := ← record.defaulted? "uri" "" Json.text?
    credentials :=
      ← record.defaulted? "credentials" []
        (Json.items? (CredentialRecord.ofJson? (depth + 2))) }

/-- The scope with a credential saved in it, in place of one with the same id if there is one. -/
def save (scope : ScopeRecord) (record : CredentialRecord) : ScopeRecord :=
  { scope with credentials := replaceOrAppend scope.credentials }
where
  /-- The records with the new one in place of the first with its id, or at the end. -/
  replaceOrAppend : List CredentialRecord → List CredentialRecord
    | [] => [record]
    | other :: rest =>
        if other.id = record.id then record :: rest else other :: replaceOrAppend rest

end ScopeRecord

namespace StoreFile

def empty : StoreFile :=
  ⟨[]⟩

/-- The document of a store, unless it holds keys of the legacy shape. -/
def toJson? (file : StoreFile) : Option Json := do
  let scopes ← file.scopes.mapM ScopeRecord.toJson?
  return .object (Json.member "scopes" (.array scopes))

def ofJson? (json : Json) : Option StoreFile := do
  let record ← json.record? ["scopes"]
  return ⟨← record.defaulted? "scopes" [] (Json.items? (ScopeRecord.ofJson? 2))⟩

def ofText? (text : String) : Option StoreFile :=
  (Json.parse? text).bind ofJson?

/-- The store in the file at a path; no file is an empty store. -/
def read (tree : FileTree) (path : String) : Except StoreFault StoreFile :=
  match tree.readText path with
  | .error .notFound => .ok empty
  | .error fault => .error (.read path fault)
  | .ok text =>
      match ofText? text with
      | none => .error (.malformed path)
      | some file => .ok file

/-- The extension of the file that is written first. -/
def stagingExtension : String := "tmp"

/-- The text is written beside the file at a place and then moved there.  If it cannot be moved,
the file beside stays. -/
def replace (tree : FileTree) (place : Place) (text : String) :
    FileTree × Except FileFault Unit :=
  let staging := place.withExtension stagingExtension
  match tree.write staging (Bytes.ofText text) with
  | .error fault => (tree, .error fault)
  | .ok written =>
      match written.rename staging place with
      | .error fault => (written, .error fault)
      | .ok renamed => (renamed, .ok ())

/-- The store is written to the file at a path. -/
def write (file : StoreFile) (tree : FileTree) (path : String) :
    FileTree × Except StoreFault Unit :=
  match file.toJson? with
  | none => (tree, .error (.legacyKeys path))
  | some json =>
      match FileTree.place path with
      | .error fault => (tree, .error (.write path fault))
      | .ok place =>
          let (tree, outcome) := replace tree place json.pretty
          (tree, outcome.mapError (.write path))

/-- The store with a credential saved in a scope, which is added if it is not there. -/
def save (file : StoreFile) (uri : String) (record : CredentialRecord) : StoreFile :=
  ⟨saveIn file.scopes⟩
where
  /-- The scopes with the credential saved in the first with the URI, or in a new one. -/
  saveIn : List ScopeRecord → List ScopeRecord
    | [] => [ScopeRecord.save ⟨uri, []⟩ record]
    | scope :: rest =>
        if scope.uri = uri then scope.save record :: rest else scope :: saveIn rest

/-- The number of records of the legacy shape. -/
def legacyCount (file : StoreFile) : Nat :=
  (file.scopes.flatMap ScopeRecord.credentials).countP fun record => record.keys.isLegacy

end StoreFile
end WorkloadIdentity
