import WorkloadIdentity.Administration
import WorkloadIdentity.MasterKey.File
import WorkloadIdentity.Settings
import WorkloadIdentity.Store.Restore
import WorkloadIdentity.Token

/-!
# Reports

What a command leaves behind: the files as they are afterwards, what it prints and whether it
failed.  A fault has a message and below it the messages of what caused it.
-/

namespace WorkloadIdentity

namespace KeyFault

/-- What caused the fault, outermost first. -/
def causes : KeyFault → List String
  | file fault => [fault.message]
  | _ => []

end KeyFault

namespace StoreFault

def causes : StoreFault → List String
  | read _ fault | write _ fault => [fault.message]
  | malformed _ => ["not a store document"]
  | legacyKeys _ => [KeyRecord.legacyMessage]
  | credential _ _ fault => fault.message :: fault.causes
  | duplicateScope _ | duplicateCredential .. | invalidScope _ => []

end StoreFault

namespace TokenFault

def causes : TokenFault → List String
  | key fault => fault.causes
  | fault => fault.signingDetail?.toList

end TokenFault

/-- Why a command fails. -/
inductive CommandFault
  | settings (fault : SettingsFault)
  | masterKey (path : String) (fault : KeyFault)
  /-- The store cannot be opened. -/
  | opening (fault : StoreFault)
  /-- The server has no master key to start with. -/
  | startingKey (fault : KeyFault)
  /-- The server has no store to start with. -/
  | startingStore (fault : StoreFault)
  | issuerUrl (issuer : String) (fault : IssuerUrlFault)
  /-- The store's file cannot be read or written. -/
  | store (fault : StoreFault)
  | generation (fault : KeyFault)
  | unknownCredential (id scope : String)
  | unknownScope (scope : String)
  /-- No such credential is served from an issuer elsewhere. -/
  | notServed (id issuer : String)
  | token (fault : TokenFault)
  /-- A check finds an error. -/
  | finding (message : String)
  /-- No server can listen at the address. -/
  | address (address : String)
  deriving DecidableEq, Repr

/-- A scope as it is shown to people. -/
def displayScope (uri : String) : String :=
  if uri = "" then "(root)" else uri

namespace CommandFault

def message : CommandFault → String
  | settings _ => "Failed to load configuration"
  | masterKey path _ => "Failed to load master key " ++ path
  | opening _ => "Failed to open credential store"
  | startingKey _ | startingStore _ => "Failed to load credentials"
  | issuerUrl issuer fault => "Invalid issuer " ++ issuer ++ ": " ++ fault.message
  | store fault => fault.message
  | generation _ => "Failed to generate key pair"
  | unknownCredential id scope =>
      "No credential " ++ id ++ " in scope " ++ displayScope scope
  | unknownScope scope => "No scope " ++ displayScope scope
  | notServed id issuer => "No credential " ++ id ++ " served from " ++ issuer
  | token fault => fault.message
  | finding message => message
  | address text => "Failed to bind " ++ text

def causes : CommandFault → List String
  | settings fault => [fault.message]
  | masterKey _ fault | startingKey fault | generation fault => fault.message :: fault.causes
  | opening fault | startingStore fault => fault.message :: fault.causes
  | store fault => fault.causes
  | token fault => fault.causes
  | address _ => ["no address to listen at"]
  | issuerUrl .. | unknownCredential .. | unknownScope _ | notServed .. | finding _ => []

/-- The causes as they are listed; several are counted. -/
def listCauses : List String → String
  | [] => ""
  | [cause] => "\n\nCaused by:\n    " ++ cause
  | causes =>
      "\n\nCaused by:" ++ String.join (causes.zipIdx.map fun (cause, index) =>
        "\n    " ++ Decimal.text index ++ ": " ++ cause)

/-- What is printed where a command fails. -/
def report (fault : CommandFault) : String :=
  "Error: " ++ fault.message ++ listCauses fault.causes ++ "\n"

end CommandFault

/-- How a command ends. -/
inductive Ending
  | done
  | failed (fault : CommandFault)
  /-- Everything is ready to serve at an address. -/
  | serving (address : String)
  deriving DecidableEq, Repr

/-- What a command leaves behind. -/
structure Report where
  files : FileTree
  output : String
  ending : Ending

namespace Report

/-- A command that printed something and is done. -/
def printed (files : FileTree) (output : String) : Report :=
  ⟨files, output, .done⟩

/-- A command that failed before it printed anything. -/
def failed (files : FileTree) (fault : CommandFault) : Report :=
  ⟨files, "", .failed fault⟩

end Report

def line (text : String) : String :=
  text ++ "\n"

namespace Settings

/-- The master key of the settings' file, which is made if it is not there. -/
def masterKey (settings : Settings) (files : FileTree) :
    Random (FileTree × Except CommandFault MasterKey) := do
  let (files, outcome) ← MasterKey.loadOrGenerate files settings.masterKeyFile
  return (files, outcome.mapError (.masterKey settings.masterKeyFile))

/-- The store of the settings' file, with the master key. -/
def openStore (settings : Settings) (files : FileTree) :
    Random (FileTree × Except CommandFault Store) := do
  match ← settings.masterKey files with
  | (files, .error fault) => return (files, .error fault)
  | (files, .ok master) =>
      let (files, outcome) ←
        Store.load master settings.provider files settings.credentialsFile
      return (files, outcome.mapError .opening)

/-- The report of a command that needs the store. -/
def withStore (settings : Settings) (files : FileTree)
    (command : FileTree → Store → Random Report) : Random Report := do
  match ← settings.openStore files with
  | (files, .error fault) => return .failed files fault
  | (files, .ok store) => command files store

end Settings
end WorkloadIdentity
