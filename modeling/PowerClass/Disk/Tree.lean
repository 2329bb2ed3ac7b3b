import PowerClass.Disk
import PowerClass.Text.Octets

/-!
# PowerClass.Disk.Tree

A tree of files as a plain value: a map from places to directories and files with their contents
and permission bits, and the directory that relative paths start from. There are no links, and the
one who reads and writes is not bound by permissions.
-/

namespace PowerClass

/-- What a file holds: text, or bytes that are not UTF-8. -/
inductive Content where
  | text (s : String)
  | malformed (bytes : List Nat)
  deriving DecidableEq

namespace Content

def ofBytes (bytes : List Nat) : Content :=
  match String.fromUTF8? ⟨(bytes.map UInt8.ofNat).toArray⟩ with
  | some s => .text s
  | none => .malformed bytes

/-- The text of a file, none when it holds something else. -/
def text? : Content → Option String
  | .text s => some s
  | .malformed _ => none

/-- The text of a file, with a replacement for what is not UTF-8. -/
def shown : Content → String
  | .text s => s
  | .malformed bytes => Text.ofOctets bytes

end Content

/-- What stands at a place. -/
inductive TreeNode where
  | directory
  | file (content : Content) (permissions : Nat)
  deriving DecidableEq

/-- A place in a tree: the names from the place up to the root. -/
abbrev Place := List String

/-- Directories and files by place, and the directory where relative paths start. The root is
always there. -/
structure Tree where
  nodes : List (Place × TreeNode)
  here : Place
  deriving DecidableEq

namespace Tree

/-- The permission bits of a file that is made by writing it. -/
def defaultPermissions : Nat := 0o644

def allowsWriting (permissions : Nat) : Bool :=
  permissions &&& 0o222 != 0

def get? (tree : Tree) (place : Place) : Option TreeNode :=
  if place = [] then some .directory else tree.nodes.lookup place

def put (tree : Tree) (place : Place) (node : TreeNode) : Tree :=
  { tree with nodes := (place, node) :: tree.nodes.filter fun entry => entry.1 != place }

/-- The tree without what stands at a place. -/
def erase (tree : Tree) (place : Place) : Tree :=
  { tree with nodes := tree.nodes.filter fun entry => entry.1 != place }

/-- The place where steps lead. Each step starts in a directory that is there. -/
def walk (tree : Tree) (place : Place) : List String → Except FileError Place
  | [] => .ok place
  | step :: rest =>
    match tree.get? place with
    | none => .error .notFound
    | some (.file _ _) => .error .notDirectory
    | some .directory =>
      if step = "." then tree.walk place rest
      else if step = ".." then tree.walk place.tail rest
      else tree.walk (step :: place) rest

/-- The place that a path leads to, whether anything stands there or not. -/
def resolve (tree : Tree) (path : Path) : Except FileError Place :=
  if path.isAbsolute then tree.walk [] path.steps
  else if path.steps = [] then .error .notFound
  else tree.walk tree.here path.steps

def find (tree : Tree) (path : Path) : Except FileError TreeNode :=
  match tree.resolve path with
  | .error e => .error e
  | .ok place =>
    match tree.get? place with
    | none => .error .notFound
    | some node => .ok node

def readText (tree : Tree) (path : Path) : Except FileError String :=
  match tree.find path with
  | .error e => .error e
  | .ok .directory => .error .isDirectory
  | .ok (.file (.text s) _) => .ok s
  | .ok (.file (.malformed _) _) => .error .notText

/-- Replaces the text of a file, or makes the file in a directory that is there. -/
def writeText (tree : Tree) (path : Path) (text : String) : Except FileError Tree :=
  match tree.resolve path with
  | .error e => .error e
  | .ok place =>
    match tree.get? place with
    | some .directory => .error .isDirectory
    | some (.file _ permissions) => .ok (tree.put place (.file (.text text) permissions))
    | none =>
      match tree.get? place.tail with
      | some .directory => .ok (tree.put place (.file (.text text) defaultPermissions))
      | some (.file _ _) => .error .notDirectory
      | none => .error .notFound

def status (tree : Tree) (path : Path) : Option FileStatus :=
  match tree.find path with
  | .ok .directory => some ⟨.directory, true⟩
  | .ok (.file _ permissions) => some ⟨.regular, allowsWriting permissions⟩
  | .error _ => none

def listDirectory (tree : Tree) (path : Path) : Except FileError (List String) :=
  match tree.resolve path with
  | .error e => .error e
  | .ok place =>
    match tree.get? place with
    | none => .error .notFound
    | some (.file _ _) => .error .notDirectory
    | some .directory =>
      .ok (tree.nodes.filterMap fun
        | (name :: parent, _) => if parent = place then some name else none
        | ([], _) => none)

/-- Makes the directories on the way of steps that are missing. -/
def makeSteps (tree : Tree) (place : Place) : List String → Except FileError Tree
  | [] => .ok tree
  | step :: rest =>
    if step = "." then tree.makeSteps place rest
    else if step = ".." then tree.makeSteps place.tail rest
    else
      match tree.get? (step :: place) with
      | some .directory => tree.makeSteps (step :: place) rest
      | some (.file _ _) => .error (if rest = [] then .alreadyExists else .notDirectory)
      | none => (tree.put (step :: place) .directory).makeSteps (step :: place) rest

/-- Makes a directory and the directories above it, as far as they are missing. -/
def makeDirectories (tree : Tree) (path : Path) : Except FileError Tree :=
  tree.makeSteps (if path.isAbsolute then [] else tree.here) path.steps

/-- A file with its content and permission bits, and the directories above it. -/
def addFile (tree : Tree) (path : Path) (content : Content) (permissions : Nat) :
    Except FileError Tree :=
  let start := if path.isAbsolute then [] else tree.here
  match tree.makeSteps start path.steps.dropLast with
  | .error e => .error e
  | .ok tree =>
    match tree.resolve path with
    | .error e => .error e
    | .ok place => .ok (tree.put place (.file content permissions))

/-- The tree without the file where a path leads. -/
def remove (tree : Tree) (path : Path) : Tree :=
  match tree.resolve path with
  | .ok place => tree.erase place
  | .error _ => tree

/-- The text of a file with a replacement for what is not UTF-8, none when there is no file. -/
def showFile (tree : Tree) (path : Path) : Option String :=
  match tree.find path with
  | .ok (.file content _) => some content.shown
  | _ => none

/-- An operation that changes the tree only when it succeeds. -/
def update (change : Tree → Except FileError Tree) : StateM Tree (Except FileError Unit) :=
  fun tree =>
    match change tree with
    | .ok tree => (.ok (), tree)
    | .error e => (.error e, tree)

instance : Disk (StateM Tree) where
  readText path := fun tree => (tree.readText path, tree)
  writeText path text := update fun tree => tree.writeText path text
  status path := fun tree => (tree.status path, tree)
  listDirectory path := fun tree => (tree.listDirectory path, tree)
  makeDirectories path := update fun tree => tree.makeDirectories path

end Tree
end PowerClass
