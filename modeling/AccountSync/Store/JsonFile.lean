import AccountSync.File
import AccountSync.Json.Printer
import AccountSync.Json.Shape
import AccountSync.Store.Memory
import AccountSync.Text.Blank

/-!
A store of texts under keys that keeps a file: a JSON object, written anew at every change, first beside
the file and then moved into its place.
-/

set_option autoImplicit false
set_option relaxedAutoImplicit false

namespace AccountSync.Store

/-- The file, and the entries as they were last read or changed. -/
structure JsonFile where
  path : String
  entries : Entries := []
  deriving Repr

namespace Entries

def json (es : Entries) : Json :=
  .object (es.map fun e => (e.1, .string e.2))

/-- Reads a JSON object of texts. Of several under one name the last counts. -/
def read : Json.Reader Entries
  | .object ms => do
    let es ← ms.mapM fun m => do pure (← m.1, ← Json.Reader.string m.2)
    pure (es.foldl (fun acc e => acc.insert e.1 e.2) [])
  | _ => none

/-- The entries that a text tells; a blank one tells none. -/
def ofText (text : String) : Except SyncError Entries :=
  if (Text.trim text).isEmpty then .ok []
  else
    match read.ofText text with
    | some es => .ok es
    | none => .error .serialization

end Entries

namespace JsonFile

/-- Opens the store whose file is at a path. The file need not exist. -/
def openAt (path : String) : File.Talk (Except SyncError JsonFile) := do
  if ← Dialogue.question (File.Question.isPresent path) then
    match ← Dialogue.question (File.Question.read path) with
    | none => pure (.error (.storage (File.fault "read " path)))
    | some text => pure ((Entries.ofText text).map fun es => ⟨path, es⟩)
  else pure (.ok ⟨path, []⟩)

def persist (path : String) (es : Entries) : File.Talk (Except SyncError Unit) := do
  let folder := File.parent path
  let beside := File.temporary path
  if ← Dialogue.question (File.Question.createFolder folder) then
    if ← Dialogue.question (File.Question.write beside es.json.pretty) then
      if ← Dialogue.question (File.Question.rename beside path) then pure (.ok ())
      else pure (.error (.storage (File.fault "rename " path)))
    else pure (.error (.storage (File.fault "write " beside)))
  else pure (.error (.storage (File.fault "create " folder)))

def answer (s : JsonFile) (c : Call) : File.Talk (c.Answer × JsonFile) :=
  match c with
  | .get key => pure (.ok (s.entries.get? key), s)
  | .set key value => do
    let entries := s.entries.insert key value
    let result ← persist s.path entries
    pure (result, { s with entries })
  | .remove key => do
    if (s.entries.get? key).isSome then
      let entries := s.entries.erase key
      let result ← persist s.path entries
      pure (result, { s with entries })
    else pure (.ok (), s)

end JsonFile

end AccountSync.Store
