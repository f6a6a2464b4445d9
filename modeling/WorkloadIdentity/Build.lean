import WorkloadIdentity.Json.Record

/-!
# Builds

The build on whose behalf a token is asked for.
-/

namespace WorkloadIdentity

/-- One build: who runs, its number, and the scope it runs in. -/
structure Build where
  /-- The address of the job, which becomes the token's subject. -/
  subject : String
  /-- The number of the build. -/
  number : UInt64
  /-- The URI of the scope that the job belongs to; empty for the root scope. -/
  scope : String := ""
  deriving DecidableEq, Repr

namespace Build

/-- The build as it is named in messages: its subject and its number. -/
def identifier (build : Build) : String :=
  build.subject ++ "#" ++ Decimal.text build.number.toNat

def toJson (build : Build) : Json :=
  .object (Json.member "subject" (.ofText build.subject)
    ++ Json.member "build_number" (.ofWord build.number)
    ++ Json.member "scope" (.ofText build.scope))

def ofJson? (json : Json) : Option Build := do
  let record ← json.record? ["subject", "build_number", "scope"]
  return {
    subject := ← record.required? "subject" Json.text?
    number := ← record.required? "build_number" Json.word?
    scope := ← record.defaulted? "scope" "" Json.text? }

end Build
end WorkloadIdentity
