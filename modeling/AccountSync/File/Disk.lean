import AccountSync.File
import AccountSync.Text.Split
import AccountSync.Text.Utf8

/-!
A file system in memory. Whatever is in it lies in a folder that is in it too.
-/

set_option autoImplicit false
set_option relaxedAutoImplicit false

namespace AccountSync.File

inductive Node
  | file (content : List UInt8)
  | folder
  deriving DecidableEq, Repr

structure Disk where
  nodes : List (List String × Node) := []
  deriving Repr

def parts (path : String) : List String :=
  ((Text.splitAll '/' path.toList).map String.ofList).filter fun p => p ≠ "" ∧ p ≠ "."

namespace Disk

/-- What stands at a path; the whole is a folder. -/
def node? (d : Disk) (path : List String) : Option Node :=
  if path.isEmpty then some .folder else d.nodes.lookup path

def place (d : Disk) (path : List String) (node : Node) : Disk :=
  ⟨d.nodes.filter (·.1 ≠ path) ++ [(path, node)]⟩

def erase (d : Disk) (path : List String) : Disk :=
  ⟨d.nodes.filter (·.1 ≠ path)⟩

/-- Creates the folders on the way from one path to another below it, as far as they are missing. -/
def createFolders (d : Disk) (above : List String) : List String → Bool × Disk
  | [] => (true, d)
  | p :: rest =>
    let here := above ++ [p]
    match d.node? here with
    | some .folder => d.createFolders here rest
    | some (.file _) => (false, d)
    | none => (d.place here .folder).createFolders here rest

/-- Puts a file or a folder at a path, and the folders on the way. -/
def add (d : Disk) (path : List String) : Node → Disk
  | .file content => (d.createFolders [] path.dropLast).2.place path (.file content)
  | .folder => (d.createFolders [] path).2

/-- Whether a file may stand at a path: it has to lie in a folder and must not be one. -/
def isFree (d : Disk) (path : List String) : Bool :=
  !path.isEmpty && d.node? path.dropLast = some .folder && d.node? path ≠ some .folder

def content? (d : Disk) (path : List String) : Option (List UInt8) :=
  match d.node? path with
  | some (.file content) => some content
  | _ => none

def files (d : Disk) : List (List String × List UInt8) :=
  d.nodes.filterMap fun (path, node) =>
    match node with
    | .file content => some (path, content)
    | .folder => none

def answer (q : Question) (d : Disk) : q.Answer × Disk :=
  match q with
  | .isPresent path => ((d.node? (parts path)).isSome, d)
  | .read path => ((d.content? (parts path)).bind Text.Utf8.decode?, d)
  | .createFolder path => d.createFolders [] (parts path)
  | .write path text =>
    if d.isFree (parts path) then (true, d.place (parts path) (.file (Text.Utf8.bytes text))) else (false, d)
  | .rename source target =>
    match d.content? (parts source) with
    | some content =>
      if d.isFree (parts target) then (true, (d.erase (parts source)).place (parts target) (.file content))
      else (false, d)
    | none => (false, d)
  | .remove path =>
    match d.content? (parts path) with
    | some _ => (true, d.erase (parts path))
    | none => (false, d)

end Disk

end AccountSync.File
