import WorkloadIdentity.Command.Report
import WorkloadIdentity.Http.Service
import WorkloadIdentity.Url.Host

/-!
# Publishing

The documents of issuers, the check of an issuer, and the state that a server starts with.
-/

namespace WorkloadIdentity
namespace Command

/-- A discovery document is printed: that of a scope or that of an issuer elsewhere. -/
def runDiscovery (settings : Settings) (files : FileTree) (scope : String)
    (issuer : Option String) : Report :=
  let url := issuer.getD (settings.provider.issuerUrl scope)
  .printed files (line (Discovery.ofIssuer url).toJson.pretty)

/-- The keys of a scope, or that of a credential served from an issuer elsewhere. -/
def keySet (store : Store) (scope : String) :
    Option (String × String) → Except CommandFault JwkSet
  | some (id, issuer) =>
      match store.resolver.credentialJwks? scope id issuer with
      | none => .error (.notServed id issuer)
      | some set => .ok set
  | none =>
      match store.resolver.forConfig scope with
      | none => .error (.unknownScope scope)
      | some issuer => .ok (.ofIssuer issuer)

def runJwks (settings : Settings) (files : FileTree) (scope : String)
    (external : Option (String × String)) : Random Report :=
  settings.withStore files fun files store =>
    match keySet store scope external with
    | .error fault => return .failed files fault
    | .ok set => return .printed files (line set.toJson.pretty)

/-- The report of a check; one that finds an error fails. -/
def findingReport (files : FileTree) : Finding → Report
  | .ok message => .printed files (line ("✓ " ++ message))
  | .warning message => .printed files (line ("! " ++ message))
  | .error message => .failed files (.finding message)

def runCheckIssuer (settings : Settings) (files : FileTree) (scope id : String)
    (issuer : Option String) : Random Report :=
  settings.withStore files fun files store =>
    return findingReport files (store.resolver.checkIssuer scope id issuer)

def runAlgorithms (files : FileTree) : Report :=
  .printed files (String.join (algorithmNames.map line))

/-- The state that a server starts with. -/
def startingState (settings : Settings) (files : FileTree) :
    Random (FileTree × Except CommandFault Http.AppState) := do
  let (files, key) ← MasterKey.loadOrGenerate files settings.masterKeyFile
  match key with
  | .error fault => return (files, .error (.startingKey fault))
  | .ok master =>
      let (files, outcome) ←
        Store.load master settings.provider files settings.credentialsFile
      match outcome with
      | .error fault => return (files, .error (.startingStore fault))
      | .ok store => return (files, .ok (.ofKey store.resolver settings.adminKey))

/-- Where a server is reached. -/
def endpointsText (settings : Settings) (state : Http.AppState) : String :=
  let root := settings.provider.issuerUrl ""
  line ""
    ++ line "Endpoints:"
    ++ line ("  Discovery: " ++ root ++ Document.openid.suffix)
    ++ line ("  JWKS:      " ++ root ++ Document.jwks.suffix)
    ++ (if state.adminKey.isSome then ""
      else line "  Admin routes are disabled; set JOBTOKEN_ADMIN_KEY to enable them.")
    ++ line ""

/-- The name of the machine itself. -/
def ownName : String := "localhost"

/-- A host that a server can listen at, given by its number or as the machine itself; no other names
are looked up. -/
def isHost (host : List Char) : Bool :=
  host == ownName.toList || (Url.embedded? host).isSome
    || (Url.bracketed? host none).isSome

/-- The host and the port of an address, which stand on the two sides of its last colon. -/
def endpoint? (address : String) : Option (List Char × Nat) := do
  let digits := (address.toList.reverse.takeWhile (· ≠ ':')).reverse
  let host := (address.toList.dropLast).take (address.length - digits.length - 1)
  let port ← Decimal.value? digits
  if digits.length < address.length ∧ isHost host ∧ port < UInt16.size then some (host, port)
  else none

/-- A server gets ready to listen at an address with a host and a port. -/
def runServer (settings : Settings) (files : FileTree) (address : Option String) :
    Random Report := do
  match ← startingState settings files with
  | (files, .error fault) => return .failed files fault
  | (files, .ok state) =>
      let address := address.getD settings.bind
      let output := endpointsText settings state
      match endpoint? address with
      | none => return ⟨files, output, .failed (.address address)⟩
      | some _ => return ⟨files, output, .serving address⟩

end Command
end WorkloadIdentity
