import WorkloadIdentity.Administration
import WorkloadIdentity.Algorithm
import WorkloadIdentity.Arithmetic.Modular
import WorkloadIdentity.Build
import WorkloadIdentity.Bytes
import WorkloadIdentity.Cipher.Aes
import WorkloadIdentity.Cipher.Gcm
import WorkloadIdentity.Command.Arguments
import WorkloadIdentity.Command.Invocation
import WorkloadIdentity.Command.Publishing
import WorkloadIdentity.Command.Report
import WorkloadIdentity.Command.Run
import WorkloadIdentity.Command.Saving
import WorkloadIdentity.Command.Signing
import WorkloadIdentity.Credential
import WorkloadIdentity.Der.Element
import WorkloadIdentity.Der.KeyInfo
import WorkloadIdentity.Discovery
import WorkloadIdentity.Domain.Direction
import WorkloadIdentity.Domain.Joiner
import WorkloadIdentity.Domain.Mapping
import WorkloadIdentity.Domain.Name
import WorkloadIdentity.Domain.Normal
import WorkloadIdentity.Domain.Punycode
import WorkloadIdentity.Elliptic.Generation
import WorkloadIdentity.Elliptic.Point
import WorkloadIdentity.Elliptic.Signature
import WorkloadIdentity.Entropy
import WorkloadIdentity.Files
import WorkloadIdentity.Hash.Sha2
import WorkloadIdentity.Hash.Sha3
import WorkloadIdentity.Http.Request
import WorkloadIdentity.Http.Response
import WorkloadIdentity.Http.Service
import WorkloadIdentity.Issuer
import WorkloadIdentity.Json.Document
import WorkloadIdentity.Json.Limits
import WorkloadIdentity.Json.Numeral
import WorkloadIdentity.Json.Record
import WorkloadIdentity.Json.Token
import WorkloadIdentity.Json.Value
import WorkloadIdentity.Key.Encoding
import WorkloadIdentity.Key.Fault
import WorkloadIdentity.Key.Jwk
import WorkloadIdentity.Key.Material
import WorkloadIdentity.Key.Pair
import WorkloadIdentity.Key.Record
import WorkloadIdentity.Main
import WorkloadIdentity.MasterKey
import WorkloadIdentity.MasterKey.File
import WorkloadIdentity.Proofs.Json.Lexing
import WorkloadIdentity.Provider
import WorkloadIdentity.Resolver
import WorkloadIdentity.Rsa.Generation
import WorkloadIdentity.Rsa.Key
import WorkloadIdentity.Rsa.Signature
import WorkloadIdentity.Settings
import WorkloadIdentity.Settings.Ini
import WorkloadIdentity.Settings.Json5
import WorkloadIdentity.Settings.JsonFile
import WorkloadIdentity.Settings.Ron
import WorkloadIdentity.Settings.Table
import WorkloadIdentity.Settings.Toml.Document
import WorkloadIdentity.Settings.Toml.Scalar
import WorkloadIdentity.Settings.Yaml.Document
import WorkloadIdentity.Settings.Yaml.Scalar
import WorkloadIdentity.Store.File
import WorkloadIdentity.Store.Restore
import WorkloadIdentity.Store.Scope
import WorkloadIdentity.Text.Base64
import WorkloadIdentity.Text.Blank
import WorkloadIdentity.Text.CodePoint
import WorkloadIdentity.Text.Decimal
import WorkloadIdentity.Text.Hex
import WorkloadIdentity.Text.Lossy
import WorkloadIdentity.Text.Percent
import WorkloadIdentity.Text.Printable
import WorkloadIdentity.Text.Quoted
import WorkloadIdentity.Text.Ranges
import WorkloadIdentity.Text.Reader
import WorkloadIdentity.Text.Real
import WorkloadIdentity.Token
import WorkloadIdentity.Url.Address
import WorkloadIdentity.Url.Host
import WorkloadIdentity.Proofs.Json.Documents
import WorkloadIdentity.Proofs.Store.Documents
import WorkloadIdentity.Proofs.Der.Envelopes
import WorkloadIdentity.Proofs.Key.Encodings
import WorkloadIdentity.Proofs.Key.Sealing
import WorkloadIdentity.Proofs.Credential.Persistence
import WorkloadIdentity.Proofs.Files.Replacing
import WorkloadIdentity.Proofs.Files.Staging
import WorkloadIdentity.Proofs.Store.Restoring
import WorkloadIdentity.Proofs.Store.Writing
import WorkloadIdentity.Proofs.Store.Migration
import WorkloadIdentity.Proofs.Scope.Visibility
import WorkloadIdentity.Proofs.Metadata.Addresses
import WorkloadIdentity.Proofs.Token.Publication
import WorkloadIdentity.Proofs.MasterKey.Keeping
import WorkloadIdentity.Proofs.Store.Saving
import WorkloadIdentity.Proofs.Command.Creation
import WorkloadIdentity.Proofs.Store.Refusal
import WorkloadIdentity.Proofs.Store.Acceptance
import WorkloadIdentity.Proofs.Store.Retry
import WorkloadIdentity.Proofs.Metadata.Dispatch
import WorkloadIdentity.Proofs.Http.Admission
import WorkloadIdentity.Proofs.Http.Disclosure
import WorkloadIdentity.Proofs.Command.Issuing
import WorkloadIdentity.Proofs.Http.Locations
import WorkloadIdentity.Proofs.Command.Adding
import WorkloadIdentity.Proofs.Metadata.Placement
import WorkloadIdentity.Proofs.Key.Pairing
import WorkloadIdentity.Proofs.Token.Documents
import WorkloadIdentity.Proofs.Key.Signatures
import WorkloadIdentity.Proofs.Token.Assembly
import WorkloadIdentity.Proofs.Text.Spellings
import WorkloadIdentity.Proofs.MasterKey.Secrets
import WorkloadIdentity.Proofs.Scope.Ancestry
import WorkloadIdentity.Proofs.Metadata.Documents
import WorkloadIdentity.Proofs.Command.Publishing
import WorkloadIdentity.Proofs.Rsa.Correctness
import WorkloadIdentity.Proofs.Token.Signing
import WorkloadIdentity.Proofs.Token.Refusal
import WorkloadIdentity.Proofs.Json.Limits
import WorkloadIdentity.Proofs.Key.Shapes
import WorkloadIdentity.Proofs.Key.Families
import WorkloadIdentity.Proofs.Key.Jwk
import WorkloadIdentity.Proofs.Store.Atomicity
import WorkloadIdentity.Proofs.Store.Updating
import WorkloadIdentity.Proofs.Text.Escapes
import WorkloadIdentity.Proofs.Url.Addresses
import WorkloadIdentity.Proofs.Administration.IssuerUrls
import WorkloadIdentity.Proofs.Text.Digits
import WorkloadIdentity.Proofs.Files.Directories
import WorkloadIdentity.Proofs.MasterKey.Sharing
import WorkloadIdentity.Proofs.Metadata.Reading
import WorkloadIdentity.Proofs.Metadata.Factories
import WorkloadIdentity.Proofs.Administration.Guidance
