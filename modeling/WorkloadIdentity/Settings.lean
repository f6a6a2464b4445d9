import WorkloadIdentity.Files
import WorkloadIdentity.Provider
import WorkloadIdentity.Settings.Ini
import WorkloadIdentity.Settings.Json5
import WorkloadIdentity.Settings.JsonFile
import WorkloadIdentity.Settings.Ron
import WorkloadIdentity.Settings.Toml.Document
import WorkloadIdentity.Settings.Yaml.Document
import WorkloadIdentity.Text.Lossy

/-!
# Settings

What the program is told about its surroundings.  Defaults come first, then a file in one of
several formats, then the environment; what comes later counts.
-/

namespace WorkloadIdentity

/-- Where the provider is reached, where it listens and where it keeps its files. -/
structure Settings where
  rootUrl : String
  /-- The address that the server listens on. -/
  bind : String
  credentialsFile : String
  masterKeyFile : String
  /-- What administrators have to know; never the empty text. -/
  adminKey : Option String
  deriving DecidableEq, Repr

/-- Why there are no settings. -/
inductive SettingsFault
  | malformed (place : Place)
  | unsuitable (name : String)
  deriving DecidableEq, Repr

namespace SettingsFault

def message : SettingsFault → String
  | malformed place => "malformed settings in " ++ place.path
  | unsuitable name => "unsuitable value for " ++ name

end SettingsFault

namespace Settings

/-- The provider at the root URL. -/
def provider (settings : Settings) : Provider :=
  Provider.ofUrl settings.rootUrl

/-- The formats of settings files by the extension of the file's name. -/
def formats : List (String × (String → Option (List (String × Setting)))) :=
  [("toml", Toml.settings?), ("json", Json.settings?), ("yaml", Yaml.settings?),
    ("yml", Yaml.settings?), ("ini", Ini.settings?), ("ron", Ron.settings?),
    ("json5", Json5.settings?)]

/-- The name that settings files have by default. -/
def defaultName : String := "jobtoken"

/-- A file's name without its extension, if it has one. -/
def extension (name : String) : String :=
  let behind := name.toList.reverse.takeWhile (· ≠ '.')
  if behind.length + 1 < name.length then String.ofList behind.reverse else ""

/-- The place of a path with an extension after it.  A path that ends in a parent's mark names no
file. -/
def withSuffix (path suffix : String) : Option Place := do
  let place ← Place.ofPath? path
  let name ← place.name?
  return place.withName (name ++ "." ++ suffix)

/-- The places where the settings file of a name may stand. -/
def candidates (name : String) : List Place :=
  (Place.ofPath? name).toList ++ formats.filterMap fun format => withSuffix name format.1

def isFile (files : FileTree) (place : Place) : Bool :=
  match files.look place with
  | .ok (.file ..) => true
  | _ => false

/-- The settings file of a name with its format: the file of exactly this name, or else one with
an extension after it.  A file of exactly this name whose extension is of no format is passed
over, and no other is looked for. -/
def source? (files : FileTree) (name : String) :
    Option (Place × (String → Option (List (String × Setting)))) :=
  match (Place.ofPath? name).filter (isFile files) with
  | some place => do
      let format ← formats.lookup (extension (← place.name?))
      return (place, format)
  | none =>
      formats.findSome? fun (suffix, format) => do
        let place ← (withSuffix name suffix).filter (isFile files)
        return (place, format)

/-- The mark that a text in UTF-8 may begin with. -/
def byteOrderMark : Bytes :=
  [0xEF, 0xBB, 0xBF]

/-- The text of a file; the mark at its beginning does not belong to it. -/
def fileText (content : Bytes) : String :=
  Lossy.text (if byteOrderMark.isPrefixOf content then content.drop 3 else content)

/-- What the settings file of a name says.  There need not be one. -/
def fromFile (files : FileTree) (name : String) :
    Except SettingsFault (List (String × Setting)) :=
  match source? files name with
  | none => .ok []
  | some (place, format) =>
      match files.look place with
      | .ok (.file content _) =>
          match format (fileText content) with
          | some values => .ok values
          | none => .error (.malformed place)
      | _ => .ok []

/-- What the names of variables that hold settings begin with. -/
def variablePrefix : List Char :=
  "jobtoken_".toList

/-- What the environment says.  The names of variables do not depend on case. -/
def fromEnvironment (environment : List (String × String)) : List (String × Setting) :=
  environment.filterMap fun (name, value) =>
    let name := (SettingTable.lower name.toList).toList
    if variablePrefix.isPrefixOf name then
      some (String.ofList (name.drop variablePrefix.length), .text value)
    else none

/-- The values where nothing else is said. -/
def defaults : List (String × Setting) :=
  [("root_url", .text "http://localhost:3000"), ("bind", .text "0.0.0.0:3000"),
    ("credentials_file", .text "credentials.json"), ("master_key_file", .text "master.key")]

/-- Each name with the last of its values. -/
def lastOfEach : List (String × Setting) → List (String × Setting)
  | [] => []
  | entry :: entries =>
      if entries.any fun later => later.1 = entry.1 then lastOfEach entries
      else entry :: lastOfEach entries

/-- A setting that must be there. -/
def required (table : SettingTable) (name : String) : Except SettingsFault String :=
  match table.find? name with
  | some (.text value) => .ok value
  | _ => .error (.unsuitable name)

/-- A setting that may be left out. -/
def optional (table : SettingTable) (name : String) : Except SettingsFault (Option String) :=
  match table.find? name with
  | none | some .null => .ok none
  | some (.text value) => .ok (some value)
  | some _ => .error (.unsuitable name)

/-- The settings that a table gives. -/
def ofTable (table : SettingTable) : Except SettingsFault Settings := do
  let rootUrl ← required table "root_url"
  let address ← required table "bind"
  let credentialsFile ← required table "credentials_file"
  let masterKeyFile ← required table "master_key_file"
  let adminKey ← optional table "admin_key"
  return ⟨rootUrl, address, credentialsFile, masterKeyFile, adminKey.filter (· ≠ "")⟩

/-- The settings from the file of a name and from the environment. -/
def load (files : FileTree) (environment : List (String × String)) (name : String) :
    Except SettingsFault Settings := do
  let stated ← fromFile files name
  let sources := [defaults, lastOfEach stated, lastOfEach (fromEnvironment environment)]
  ofTable (sources.foldl SettingTable.putAll .empty)

end Settings
end WorkloadIdentity
