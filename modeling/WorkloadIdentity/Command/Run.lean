import WorkloadIdentity.Command.Publishing
import WorkloadIdentity.Command.Saving
import WorkloadIdentity.Command.Signing

/-!
# Running commands

From the arguments to the report.  The settings are loaded before any command runs, also before
one that needs none of them.
-/

namespace WorkloadIdentity

/-- What a run of the program finds around it. -/
structure Surroundings where
  files : FileTree
  /-- The variables of the environment. -/
  environment : List (String × String)
  /-- The time, in seconds since 1970. -/
  now : UInt64

namespace Command

/-- The report of a command under given settings. -/
def perform (settings : Settings) (files : FileTree) (now : UInt64) :
    Command → Random Report
  | server address => runServer settings files address
  | create new => runCreate settings files new
  | list => runList settings files
  | token id scope job claimsOnly => runToken settings files now id scope job claimsOnly
  | discovery scope issuer => return runDiscovery settings files scope issuer
  | jwks scope external => runJwks settings files scope external
  | checkIssuer scope id issuer => runCheckIssuer settings files scope id issuer
  | algorithms => return runAlgorithms files

def runInvocation (around : Surroundings) (invocation : Invocation) : Random Report :=
  match Settings.load around.files around.environment invocation.config with
  | .error fault => return .failed around.files (.settings fault)
  | .ok settings => invocation.command.perform settings around.files around.now

def versionText : String :=
  line "jobtoken 0.1.0"

/-- How the program is used. -/
def helpText : String :=
  String.join ([
    "jobtoken: OIDC ID tokens for CI jobs",
    "",
    "Usage: jobtoken [OPTIONS] <COMMAND>",
    "",
    "Commands:",
    "  server                           Start the server",
    "  credential create <ID>           Create a credential with a fresh key pair",
    "  credential list                  List credentials by scope",
    "  token <ID>                       Issue an ID token",
    "  discovery                        Print the discovery document of an issuer",
    "  jwks                             Print the JWKS of an issuer",
    "  check-issuer                     Check an issuer URL for a credential",
    "  algorithms                       List supported signing algorithms"].map line)

/-- The outcome of a run of the program: it stops before any command, or a command reports. -/
def run (around : Surroundings) (arguments : List String) : Random (Except Stop Report) :=
  match read arguments with
  | .error stop => return .error stop
  | .ok invocation => do return .ok (← runInvocation around invocation)

end Command
end WorkloadIdentity
