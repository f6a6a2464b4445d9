import WorkloadIdentity.Bytes
import WorkloadIdentity.Key.Fault

/-!
# Files

The files and directories that the program works on, as a value, and the operations on them.  An
operation that fails leaves everything as it was.
-/

namespace WorkloadIdentity

/-- What stands at a place. -/
inductive FileNode
  | file (content : Bytes) (mode : Nat)
  | directory
  deriving DecidableEq, Repr

/-- A path: part by part from the working directory or from the root. -/
structure Place where
  /-- The path begins at the root. -/
  fromRoot : Bool := false
  /-- The parts of the path, without those that stand for the directory that they are in. -/
  parts : List String
  /-- The path ends in a slash or a mark, so that only a directory can be meant. -/
  asDirectory : Bool := false
  deriving DecidableEq, Repr

namespace Place

/-- The parts of a path between slashes. -/
def split (path : String) : List String :=
  let (current, done) := path.toList.foldr (fun c (current, done) =>
    if c = '/' then ([], String.ofList current :: done) else (c :: current, done))
    (([] : List Char), ([] : List String))
  String.ofList current :: done

/-- The mark of the directory above. -/
def parentMark : String := ".."

/-- The name that stands for the root of all files. -/
def root : String := "/"

/-- The names after one more part of a path.  A parent's mark takes the last name back; above the
working directory only marks are known, and nothing is above the root. -/
def push (names : List String) (part : String) : List String :=
  if part ≠ parentMark then names ++ [part]
  else if names = [root] then names
  else if names.getLast?.all (· = parentMark) then names ++ [part]
  else names.dropLast

/-- The place of a path; the empty path and paths with a NUL lead nowhere. -/
def ofPath? (path : String) : Option Place :=
  if path = "" ∨ '\x00' ∈ path.toList then none
  else
    let parts := split path
    some {
      fromRoot := path.startsWith "/"
      parts := parts.filter fun part => part ≠ "" ∧ part ≠ "."
      asDirectory := parts.getLast?.any fun last => ["", ".", parentMark].contains last }

/-- The names that some parts lead to. -/
def resolve (fromRoot : Bool) (parts : List String) : List String :=
  parts.foldl push (if fromRoot then [root] else [])

/-- The names that the path leads to, from the working directory or the root on. -/
def names (place : Place) : List String :=
  resolve place.fromRoot place.parts

/-- The names of the directories that the path leads through, in its order. -/
def through (place : Place) : List (List String) :=
  (List.range place.parts.length).map fun count =>
    resolve place.fromRoot (place.parts.take count)

/-- A path that leads to some names. -/
def pathTo : List String → String
  | [] => "."
  | first :: names =>
      if first = root then root ++ String.intercalate "/" names
      else String.intercalate "/" (first :: names)

/-- A path that leads to a place. -/
def path (place : Place) : String :=
  pathTo place.names

/-- The place without its last part. -/
def parent (place : Place) : Place :=
  { place with parts := place.parts.dropLast, asDirectory := false }

/-- The name that the path ends in, unless it ends in a parent's mark. -/
def name? (place : Place) : Option String :=
  place.parts.getLast?.filter (· ≠ parentMark)

/-- The characters of a file's name before its extension.  A dot at the beginning of the name
begins no extension. -/
def stem (name : String) : String :=
  match name.toList.reverse.dropWhile (· ≠ '.') with
  | [] => name
  | _ :: before => if before = [] then name else String.ofList before.reverse

/-- The place with another name at its end. -/
def withName (name : String) (place : Place) : Place :=
  { place with parts := place.parts.dropLast ++ [name], asDirectory := false }

/-- The place beside a file that has its name with another extension. -/
def withExtension (extension : String) (place : Place) : Place :=
  match place.name? with
  | none => place
  | some name => place.withName (stem name ++ "." ++ extension)

end Place

/-- All files and directories, each with its names from the working directory on. -/
structure FileTree where
  entries : List (List String × FileNode)
  deriving DecidableEq, Repr

namespace FileTree

def empty : FileTree :=
  ⟨[]⟩

/-- The names lead to the working directory, above it or to the root. -/
def isBase (names : List String) : Bool :=
  names = [Place.root] || names.all (· = Place.parentMark)

/-- What stands under some names.  The working directory, those above it and the root are always
there. -/
def node? (tree : FileTree) (names : List String) : Option FileNode :=
  if isBase names then some .directory else tree.entries.lookup names

/-- The directories that a path leads through are all there. -/
def checkAbove (tree : FileTree) (place : Place) : Except FileFault Unit :=
  place.through.forM fun above =>
    match tree.node? above with
    | some .directory => .ok ()
    | some (.file ..) => .error .notDirectory
    | none => .error .notFound

/-- What stands at a place. -/
def look (tree : FileTree) (place : Place) : Except FileFault FileNode := do
  tree.checkAbove place
  match tree.node? place.names with
  | none => .error .notFound
  | some (.file content mode) =>
      if place.asDirectory then .error .notDirectory else .ok (.file content mode)
  | some .directory => .ok .directory

/-- Where a path leads, for operations that fail on paths that lead nowhere. -/
def place (path : String) : Except FileFault Place :=
  match Place.ofPath? path with
  | none => .error (if path = "" then .notFound else .badPath)
  | some place => .ok place

def contains (tree : FileTree) (path : String) : Bool :=
  match place path >>= tree.look with
  | .ok _ => true
  | .error _ => false

def readBytes (tree : FileTree) (path : String) : Except FileFault Bytes := do
  match ← place path >>= tree.look with
  | .file content _ => .ok content
  | .directory => .error .isDirectory

def readText (tree : FileTree) (path : String) : Except FileFault String := do
  let content ← tree.readBytes path
  match Bytes.text? content with
  | none => .error .notText
  | some text => .ok text

/-- The tree with another node under some names. -/
def put (tree : FileTree) (names : List String) (node : FileNode) : FileTree :=
  if (tree.entries.lookup names).isSome then
    ⟨tree.entries.map fun entry => if entry.1 = names then (names, node) else entry⟩
  else ⟨tree.entries ++ [(names, node)]⟩

/-- The tree without what stands under some names. -/
def remove (tree : FileTree) (names : List String) : FileTree :=
  ⟨tree.entries.filter fun entry => entry.1 ≠ names⟩

/-- The permissions of a new file. -/
def defaultMode : Nat := 0o644

/-- The tree with other bytes in the file at a place, which is made if it is not there. -/
def write (tree : FileTree) (place : Place) (content : Bytes) : Except FileFault FileTree := do
  tree.checkAbove place
  match tree.node? place.names with
  | some .directory => .error .isDirectory
  | some (.file _ mode) =>
      if place.asDirectory then .error .notDirectory
      else .ok (tree.put place.names (.file content mode))
  | none =>
      if place.asDirectory then .error .isDirectory
      else .ok (tree.put place.names (.file content defaultMode))

/-- The tree with other permissions of the file at a place. -/
def setMode (tree : FileTree) (place : Place) (mode : Nat) : Except FileFault FileTree := do
  match ← tree.look place with
  | .file content _ => .ok (tree.put place.names (.file content mode))
  | .directory => .ok tree

/-- The tree with directories under some names, as far as no file is in the way. -/
def addDirectories (tree : FileTree) : List (List String) → FileTree
  | [] => tree
  | names :: rest =>
      match tree.node? names with
      | some .directory => tree.addDirectories rest
      | some (.file ..) => tree
      | none => (tree.put names .directory).addDirectories rest

/-- The tree with those directories on the way to a place, and at it, that can be made. -/
def withDirectories (tree : FileTree) (place : Place) : FileTree :=
  tree.addDirectories (place.through ++ [place.names])

/-- The tree with a directory at a place and all directories above it. -/
def makeDirectories (tree : FileTree) (place : Place) : Except FileFault FileTree :=
  let made := tree.withDirectories place
  if (place.through ++ [place.names]).all fun names => made.node? names = some .directory then
    .ok made
  else .error .notDirectory

/-- The tree with a file moved to another place, where it takes the place of another file. -/
def rename (tree : FileTree) (source target : Place) : Except FileFault FileTree := do
  match ← tree.look source with
  | .directory => .error .isDirectory
  | .file content mode =>
      tree.checkAbove target
      match tree.node? target.names with
      | some .directory => .error .isDirectory
      | _ =>
          if target.asDirectory then .error .notDirectory
          else .ok ((tree.remove source.names).put target.names (.file content mode))

/-- The names of all that stands in the working directory. -/
def topNames (tree : FileTree) : List String :=
  tree.entries.filterMap fun entry =>
    match entry.1 with
    | [name] => some name
    | _ => none

end FileTree
end WorkloadIdentity
