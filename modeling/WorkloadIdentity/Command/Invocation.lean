import WorkloadIdentity.Algorithm
import WorkloadIdentity.Command.Arguments
import WorkloadIdentity.Settings

/-!
# Invocations

The commands of the program and how they are spelled on the command line.
-/

namespace WorkloadIdentity

/-- A credential that is to be made. -/
structure NewCredential where
  id : String
  algorithm : Algorithm
  scope : String
  issuer : Option String
  audience : Option String
  description : Option String
  deriving DecidableEq, Repr

inductive Command
  /-- Serve the documents of all issuers, perhaps at an address of its own. -/
  | server (address : Option String)
  | create (new : NewCredential)
  | list
  /-- Issue a token for a credential, perhaps for a job with its subject and number. -/
  | token (id scope : String) (job : Option (String × UInt64)) (claimsOnly : Bool)
  | discovery (scope : String) (issuer : Option String)
  /-- Print the keys of a scope, or that of a credential served from an issuer elsewhere. -/
  | jwks (scope : String) (external : Option (String × String))
  | checkIssuer (scope id : String) (issuer : Option String)
  | algorithms
  deriving DecidableEq, Repr

/-- A command with what holds for all of them. -/
structure Invocation where
  /-- The name of the settings file. -/
  config : String
  /-- Asks for a longer log. -/
  verbose : Bool
  command : Command
  deriving DecidableEq, Repr

namespace Command

/-- An option with a value. -/
def valued (name : String) (short : Option Char) : OptionForm :=
  ⟨name, short, .value⟩

/-- The options that may stand behind any command. -/
def globalOptions : List OptionForm :=
  [⟨"verbose", some 'v', .flag⟩, valued "config" none, ⟨"help", some 'h', .stop .help⟩]

/-- The name of the command that explains the others. -/
def helpName : String := "help"

/-- A command without commands below it, and how it is read. -/
structure Leaf where
  options : List OptionForm
  operands : Nat
  read : Given → Option Command

/-- What may stand behind the name of a leaf. -/
def Leaf.level (leaf : Leaf) : Level :=
  ⟨leaf.options ++ globalOptions, [], leaf.operands⟩

def scopeOption : OptionForm :=
  valued "scope" (some 's')

/-- A number of 64 bits, with or without a plus sign. -/
def word? (text : String) : Option UInt64 := do
  let digits :=
    match text.toList with
    | '+' :: digits => digits
    | digits => digits
  let n ← Decimal.value? digits
  if n < UInt64.size then some (UInt64.ofNat n) else none

/-- Two values that must be given together or not at all. -/
def together {α β : Type} : Option α → Option β → Option (Option (α × β))
  | some a, some b => some (some (a, b))
  | none, none => some none
  | _, _ => none

def serverLeaf : Leaf where
  options := [valued "bind" (some 'b')]
  operands := 0
  read given := some (.server (given.option? "bind"))

def createLeaf : Leaf where
  options := [valued "algorithm" (some 'a'), scopeOption, valued "issuer" none,
    valued "audience" none, valued "description" none]
  operands := 1
  read given := do
    let id ← given.operands.head?
    let algorithm ← Algorithm.ofName? ((given.option? "algorithm").getD Algorithm.rs256.name)
    return .create {
      id, algorithm
      scope := given.text "scope"
      issuer := given.option? "issuer"
      audience := given.option? "audience"
      description := given.option? "description" }

def listLeaf : Leaf where
  options := []
  operands := 0
  read _ := some .list

def tokenLeaf : Leaf where
  options := [scopeOption, valued "subject" none, valued "build" none, ⟨"claims", none, .flag⟩]
  operands := 1
  read given := do
    let id ← given.operands.head?
    let build ← (given.option? "build").mapM word?
    let job ← together (given.option? "subject") build
    return .token id (given.text "scope") job (given.has "claims")

/-- The command that prints a discovery document: that of a scope or that of an issuer. -/
def discoveryLeaf : Leaf where
  options := [scopeOption, valued "issuer" none]
  operands := 0
  read given :=
    if given.has "scope" ∧ given.has "issuer" then none
    else some (.discovery (given.text "scope") (given.option? "issuer"))

def jwksLeaf : Leaf where
  options := [scopeOption, valued "id" none, valued "issuer" none]
  operands := 0
  read given := do
    let external ← together (given.option? "id") (given.option? "issuer")
    return .jwks (given.text "scope") external

def checkIssuerLeaf : Leaf where
  options := [scopeOption, valued "id" none, valued "issuer" none]
  operands := 0
  read given :=
    some (.checkIssuer (given.text "scope") (given.text "id") (given.option? "issuer"))

def algorithmsLeaf : Leaf where
  options := []
  operands := 0
  read _ := some .algorithms

/-- The commands behind the program's name. -/
def leaves : List (String × Leaf) :=
  [("server", serverLeaf), ("token", tokenLeaf), ("discovery", discoveryLeaf),
    ("jwks", jwksLeaf), ("check-issuer", checkIssuerLeaf), ("algorithms", algorithmsLeaf)]

/-- The command with commands of its own. -/
def groupName : String := "credential"

def groupLeaves : List (String × Leaf) :=
  [("create", createLeaf), ("list", listLeaf)]

/-- What may stand behind the program's name. -/
def topLevel : Level :=
  ⟨⟨"version", some 'V', .stop .version⟩ :: globalOptions,
    helpName :: groupName :: leaves.map Prod.fst, 0⟩

/-- What may stand behind the name of the command on credentials. -/
def groupLevel : Level :=
  ⟨globalOptions, helpName :: groupLeaves.map Prod.fst, 0⟩

/-- What happens when help is asked for on some commands: they must be there. -/
def helpStop (names : List String) : Stop :=
  let isKnown :=
    match names with
    | [] => true
    | [name] => topLevel.commands.contains name
    | [group, name] => group = groupName && groupLevel.commands.contains name
    | _ => false
  if isKnown then .help else .usage

/-- The invocation that a leaf's arguments spell, with what was found on the levels above it, the
innermost first. -/
def readLeaf (leaf : Leaf) (above : List Given) (arguments : List String) :
    Except Stop Invocation := do
  let given ← leaf.level.read arguments
  let levels := given :: above
  match leaf.read given with
  | none => .error .usage
  | some command =>
      return {
        config := (levels.findSome? (·.option? "config")).getD Settings.defaultName
        verbose := levels.any (·.has "verbose")
        command }

/-- The invocation that arguments spell behind the name of a command. -/
def readBelow (known : List (String × Leaf)) (above : List Given) (helpAbove : List String)
    (command : Option (String × List String)) : Except Stop Invocation :=
  match command with
  | none => .error .usage
  | some (name, arguments) =>
      match known.lookup name with
      | some leaf => readLeaf leaf above arguments
      | none => .error (helpStop (helpAbove ++ arguments))

/-- The invocation that the program's arguments spell. -/
def read (arguments : List String) : Except Stop Invocation := do
  let top ← topLevel.read arguments
  match top.command with
  | some (name, arguments) =>
      if name = groupName then
        let group ← groupLevel.read arguments
        readBelow groupLeaves [group, top] [groupName] group.command
      else readBelow leaves [top] [] (some (name, arguments))
  | none => .error .usage

end Command
end WorkloadIdentity
