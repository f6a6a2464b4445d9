import WorkloadIdentity.Files
import WorkloadIdentity.MasterKey
import WorkloadIdentity.Text.Blank

/-!
# The master key's file

The master key is kept in a file of its own, as sixty-four hexadecimal digits.  A file that is
there is never replaced; where there is none, a fresh key is written to it.
-/

namespace WorkloadIdentity
namespace MasterKey

def generate : Random MasterKey :=
  fun entropy => (⟨(entropy.draw 32).1, by simp⟩, (entropy.draw 32).2)

def toText (key : MasterKey) : String :=
  Hex.encode key.bytes

/-- Nobody but the owner may read the key. -/
def fileMode : Nat := 0o600

/-- The key that a file holds, between white space. -/
def load (tree : FileTree) (path : String) : Except KeyFault MasterKey :=
  match tree.readText path with
  | .error fault => .error (.file fault)
  | .ok text => ofText (trimBlank text)

/-- The tree with a key in a new file, which nobody else may read. -/
def write (tree : FileTree) (place : Place) (key : MasterKey) : Except FileFault FileTree := do
  let tree ← tree.write place (Bytes.ofText key.toText)
  tree.setMode place fileMode

/-- A key is written to the file at a path, whose directories are made first.  They are left if the
file cannot be written. -/
def store (tree : FileTree) (path : String) (key : MasterKey) :
    FileTree × Except FileFault Unit :=
  match FileTree.place path with
  | .error fault => (tree, .error fault)
  | .ok place =>
      match tree.makeDirectories place.parent >>= fun made => write made place key with
      | .error fault => (tree.withDirectories place.parent, .error fault)
      | .ok written => (written, .ok ())

/-- The key of the file at a path.  Where nothing is there, a fresh key is written. -/
def loadOrGenerate (tree : FileTree) (path : String) :
    Random (FileTree × Except KeyFault MasterKey) :=
  if tree.contains path then return (tree, load tree path)
  else do
    let key ← generate
    let (tree, outcome) := store tree path key
    return (tree, (outcome.mapError .file).map fun _ => key)

end MasterKey
end WorkloadIdentity
