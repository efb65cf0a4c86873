import AccountSync.Dialogue
import AccountSync.Error

/-!
Files, as far as the stores use them. Each operation may fail; why it failed is not told further.
-/

set_option autoImplicit false
set_option relaxedAutoImplicit false

namespace AccountSync.File

inductive Question
  /-- Whether there is anything at a path. -/
  | isPresent (path : String)
  /-- The text of a file; a file that is not text cannot be read. -/
  | read (path : String)
  /-- Creates a folder and those above it, as far as they are missing. -/
  | createFolder (path : String)
  | write (path text : String)
  /-- Moves a file to another path, in place of the file there. -/
  | rename (source target : String)
  | remove (path : String)
  deriving DecidableEq, Repr

/-- Reading gives the text if it succeeds; of the others it is told whether they did. -/
abbrev Question.Answer : Question → Type
  | .isPresent _ => Bool
  | .read _ => Option String
  | .createFolder _ => Bool
  | .write .. => Bool
  | .rename .. => Bool
  | .remove _ => Bool

abbrev Talk := Dialogue Question Question.Answer

def fault (verb path : String) : String :=
  verb ++ path ++ ": <io error>"

def parent (path : String) : String :=
  String.ofList ((path.toList.reverse.dropWhile (· ≠ '/')).drop 1).reverse

def name (path : String) : List Char :=
  (path.toList.reverse.takeWhile (· ≠ '/')).reverse

/-- The last part of a path without its extension: what stands before its last dot, unless that is the
first character. -/
def stem (path : String) : List Char :=
  match (name path).reverse.dropWhile (· ≠ '.') with
  | _ :: c :: rest => (c :: rest).reverse
  | _ => name path

/-- The path of the file beside another that has the same name with the extension `tmp`. -/
def temporary (path : String) : String :=
  String.ofList (path.toList.take (path.length - (name path).length) ++ stem path ++ ['.', 't', 'm', 'p'])

end AccountSync.File
