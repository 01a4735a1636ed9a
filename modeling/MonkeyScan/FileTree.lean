import MonkeyScan.Text.Quoted
import MonkeyScan.Utf8

/-!
# Files by path

A tree of directories with files at its ends. A path is followed from the root or from a working
directory, name by name; it leads to a file, to a directory or to nothing. What does not lead to a
file, or leads to a file that is not text, is `Unreadable`.
-/

namespace MonkeyScan

/-- Why a file cannot be read as text. -/
inductive Unreadable where
  | missing | isDirectory | notDirectory | nameTooLong | notText
  | other (cause : String)
deriving DecidableEq

def Unreadable.message : Unreadable → String
  | missing => "No such file or directory (os error 2)"
  | isDirectory => "Is a directory (os error 21)"
  | notDirectory => "Not a directory (os error 20)"
  | nameTooLong => "File name too long (os error 36)"
  | notText => "stream did not contain valid UTF-8"
  | other cause => cause

inductive FileTree where
  | file (bytes : List UInt8)
  | directory (entries : List (String × FileTree))

namespace FileTree

/-- A directory of files alone. -/
def ofFiles (files : List (String × List UInt8)) : FileTree :=
  directory (files.map fun f => (f.1, file f.2))

/-- The top directories of a system that hold nothing of interest. -/
def topDirectories : List String :=
  ["bin", "boot", "etc", "home", "lib", "lib64", "media", "mnt", "opt", "root", "run", "sbin",
    "srv", "sys", "usr", "var"]

/-- The working directory of `system`. -/
def working : List String := ["tmp", "work"]

/-- A system with some files in a working directory for them alone, an empty device, and the
standard input at its usual paths. -/
def system (files : List (String × List UInt8)) (input : List UInt8) : FileTree :=
  let descriptors := directory [("0", file input)]
  directory <|
    topDirectories.map (fun name => (name, directory [])) ++
      [("dev", directory [("null", file []), ("stdin", file input), ("fd", descriptors)]),
        ("proc", directory [("self", directory [("fd", descriptors)])]),
        ("tmp", directory [("work", ofFiles files)])]

/-- The bytes that a name may have. -/
def longestName : Nat := 255

/-- The bytes that a path may have. -/
def longestPath : Nat := 4095

/-- What a name in a tree leads to. -/
def child (t : FileTree) (name : String) : Except Unreadable FileTree :=
  match t with
  | file _ => .error .notDirectory
  | directory entries =>
    if longestName < name.utf8ByteSize then .error .nameTooLong
    else match entries.lookup name with
      | some t => .ok t
      | none => .error .missing

/-- Follows names from the last of a list of trees, each of which is in the one before it in the
tree; the innermost one comes first. The root is its own parent, and an empty name or a dot stays
in the directory. -/
def follow (root : FileTree) : List FileTree → List String → Except Unreadable FileTree
  | trail, [] => .ok (trail.headD root)
  | trail, name :: names =>
    match trail.headD root with
    | file _ => .error .notDirectory
    | here =>
      if name = "" ∨ name = "." then follow root trail names
      else if name = ".." then follow root trail.tail names
      else match here.child name with
        | .ok t => follow root (t :: trail) names
        | .error e => .error e

/-- The directories on the way from the root to the working directory `names`, the innermost one
first; the root itself is left out. -/
def trail (root : FileTree) (names : List String) : List FileTree :=
  (names.foldl (fun (trail : List FileTree) name =>
    match (trail.headD root).child name with
    | .ok t => t :: trail
    | .error _ => trail) [])

/-- The bytes of the file at the end of a path, which is followed from the working directory unless
it begins with a slash. -/
def read (root : FileTree) (working : List String) (path : String) :
    Except Unreadable (List UInt8) :=
  if path = "" then .error .missing
  else if longestPath < path.utf8ByteSize then .error .nameTooLong
  else
    let start := if path.startsWith "/" then [] else root.trail working
    match follow root start (path.splitOn "/") with
    | .ok (file bytes) => .ok bytes
    | .ok (directory _) => .error .isDirectory
    | .error e => .error e

end FileTree

end MonkeyScan
