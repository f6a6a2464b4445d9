import WorkloadIdentity.Command.Report

/-!
# Issuing tokens

A token for a credential of a scope, for a job of that scope or for none.
-/

namespace WorkloadIdentity
namespace Command

/-- The build that a job is, inside of a scope. -/
def buildOf (scope : String) (job : String × UInt64) : Build where
  subject := job.1
  number := job.2
  scope

/-- What is printed of a token: itself or its claims. -/
def tokenText (token : Token) (claimsOnly : Bool) : String :=
  line (if claimsOnly then token.claims.toJson.pretty else token.text)

/-- A token is issued and printed. -/
def runToken (settings : Settings) (files : FileTree) (now : UInt64) (id scope : String)
    (job : Option (String × UInt64)) (claimsOnly : Bool) : Random Report :=
  settings.withStore files fun files store => do
    match store.credential? scope id with
    | none => return .failed files (.unknownCredential id scope)
    | some credential =>
        let issuer : TokenIssuer := ⟨settings.provider, store.resolver⟩
        match ← issuer.issue credential (job.map (buildOf scope)) now with
        | .error fault => return .failed files (.token fault)
        | .ok issued => return .printed files (tokenText issued claimsOnly)

end Command
end WorkloadIdentity
