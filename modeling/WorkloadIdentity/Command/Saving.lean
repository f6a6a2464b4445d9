import WorkloadIdentity.Command.Invocation
import WorkloadIdentity.Command.Report

/-!
# Saving and listing credentials

A new credential is saved in the store's file as the file is, without opening the store; so a
record that cannot be written keeps it out, but one that cannot be loaded does not.
-/

namespace WorkloadIdentity
namespace Command

/-- What is said of a credential that was saved. -/
def savedText (credential : Credential) (scope : String) : String :=
  let optional (label : String) (value : Option String) : String :=
    (value.map fun value => line (label ++ value)).getD ""
  line ""
    ++ line ("  ID:        " ++ credential.id)
    ++ line ("  Algorithm: " ++ credential.algorithm.name)
    ++ line ("  Scope:     " ++ displayScope scope)
    ++ optional "  Issuer:    " credential.issuer
    ++ optional "  Audience:  " credential.audience
    ++ line ""
    ++ line "✓ Credential saved"

/-- What is wrong with the issuer of a new credential; an empty one is none. -/
def issuerFault? (issuer : Option String) : Option CommandFault := do
  let name ← Credential.unlessEmpty issuer
  let fault ← checkIssuerUrl name
  return .issuerUrl name fault

/-- A new credential with a fresh key pair. -/
def generate (master : MasterKey) (new : NewCredential) :
    Random (Except KeyFault Credential) := do
  let outcome ← Credential.generate master new.id new.algorithm
  return outcome.map fun credential =>
    ((credential.withIssuer new.issuer).withAudience new.audience).withDescription
      new.description

def runCreate (settings : Settings) (files : FileTree) (new : NewCredential) :
    Random Report := do
  match issuerFault? new.issuer with
  | some fault => return .failed files fault
  | none =>
      match ← settings.masterKey files with
      | (files, .error fault) => return .failed files fault
      | (files, .ok master) =>
          match StoreFile.read files settings.credentialsFile with
          | .error fault => return .failed files (.store fault)
          | .ok file =>
              match ← generate master new with
              | .error fault => return .failed files (.generation fault)
              | .ok credential =>
                  let file := file.save new.scope credential.toRecord
                  match file.write files settings.credentialsFile with
                  | (files, .error fault) => return .failed files (.store fault)
                  | (files, .ok ()) => return .printed files (savedText credential new.scope)

/-- One credential of a list. -/
def credentialLine (credential : Credential) : String :=
  let servedFrom := (credential.issuer.map fun issuer => " (issuer " ++ issuer ++ ")").getD ""
  line ("  " ++ credential.id ++ " " ++ credential.algorithm.name ++ servedFrom)

/-- One scope of a list, with its credentials. -/
def scopeText (settings : Settings) (store : Store) (scope : ScopeRecord) : String :=
  line ("\n" ++ displayScope scope.uri ++ " " ++ settings.provider.issuerUrl scope.uri)
    ++ String.join (scope.credentials.filterMap fun record =>
      (store.credential? scope.uri record.id).map credentialLine)

/-- The credentials of the store, in the order of its file. -/
def runList (settings : Settings) (files : FileTree) : Random Report :=
  settings.withStore files fun files store =>
    match StoreFile.read files settings.credentialsFile with
    | .error fault => return .failed files (.store fault)
    | .ok file =>
        return .printed files (String.join (file.scopes.map (scopeText settings store)))

end Command
end WorkloadIdentity
