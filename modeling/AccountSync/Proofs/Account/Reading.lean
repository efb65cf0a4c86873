import AccountSync.Account.Wire
import AccountSync.Proofs.Json.Reading

/-!
Login states that were written and are read back. Each record reads the fields that it wrote (`read_tree`), and the
label says which record it is. Main statements: `ofText_of_written`, that a state is read from either of its texts, with
its secrets, and `eq_of_written`, that no two states have a text in common.
-/

set_option autoImplicit false
set_option relaxedAutoImplicit false

namespace AccountSync

open Json (slots_object string_tree bool_tree)
open Json.Reader (slots required)

private theorem Key32.whole_json (k : Key32) : k.json.Whole := trivial

theorem Key32.read_tree (k : Key32) : read k.json.tree = some k := by
  rw [read, json, string_tree, Option.bind_some, ofHex?_hex]

namespace KeyPair

private theorem whole_json (p : KeyPair) : p.json.Whole := by
  simp [json, Json.Whole, Json.WholeMembers, Key32.whole_json]

theorem read_tree (p : KeyPair) : read p.json.tree = some p := by
  have hslots : slots [["algorithm"], ["secret"]] p.json.tree = _ := slots_object rfl (by simp)
  rw [read, hslots]
  simp [required, string_tree, Key32.json, Key32.ofHex?_hex]

end KeyPair

namespace Engaged

private theorem whole_json (s : Engaged) : s.json.Whole := by
  simp [json, Json.Whole, Json.WholeMembers, Key32.whole_json]

theorem read_tree (s : Engaged) : read s.json.tree = some s := by
  have hslots : slots [["email"], ["uid"], ["verified"], ["session_token"], ["key_fetch_token"], ["unwrap_kb"]]
      s.json.tree = _ := slots_object rfl (by simp)
  rw [read, hslots]
  simp [required, string_tree, bool_tree, Key32.read_tree]

end Engaged

namespace Cohabiting

private theorem whole_json (s : Cohabiting) : s.json.Whole := by
  simp [json, Json.Whole, Json.WholeMembers, Key32.whole_json, KeyPair.whole_json]

theorem read_tree (s : Cohabiting) : read s.json.tree = some s := by
  have hslots : slots [["email"], ["uid"], ["session_token"], ["kA"], ["kB"], ["key_pair"]] s.json.tree = _ :=
    slots_object rfl (by simp)
  rw [read, hslots]
  simp [required, string_tree, Key32.read_tree, KeyPair.read_tree]

end Cohabiting

namespace Married

private theorem whole_json (m : Married) : m.json.Whole := by
  simp [json, Json.Whole, Json.WholeMembers, Cohabiting.whole_json]

theorem read_tree (m : Married) : read m.json.tree = some m := by
  have hslots : slots [["account"], ["certificate"]] m.json.tree = _ := slots_object rfl (by simp)
  rw [read, hslots]
  simp [required, string_tree, Cohabiting.read_tree]

end Married

namespace Owner

private theorem whole_json (o : Owner) : o.json.Whole := by
  simp [json, Json.Whole, Json.WholeMembers]

theorem read_tree (o : Owner) : read o.json.tree = some o := by
  have hslots : slots [["email"], ["uid"]] o.json.tree = _ := slots_object rfl (by simp)
  rw [read, hslots]
  simp [required, string_tree]

end Owner

private theorem StateLabel.ofText?_text (l : StateLabel) : ofText? l.text = some l := by
  cases l <;> decide

namespace Account

private theorem whole_stateJson (a : Account) : a.stateJson.Whole := by
  cases a with
  | engaged s => exact s.whole_json
  | cohabiting s => exact s.whole_json
  | married m => exact m.whole_json
  | separated o => exact o.whole_json
  | doghouse o => exact o.whole_json

private theorem whole_json (a : Account) : a.json.Whole := by
  simp [json, Json.Whole, Json.WholeMembers, whole_stateJson]

private theorem readState_label (a : Account) : readState a.label a.stateJson.tree = some a := by
  cases a with
  | engaged s => exact congrArg (Option.map _) s.read_tree
  | cohabiting s => exact congrArg (Option.map _) s.read_tree
  | married m => exact congrArg (Option.map _) m.read_tree
  | separated o => exact congrArg (Option.map _) o.read_tree
  | doghouse o => exact congrArg (Option.map _) o.read_tree

theorem read_tree (a : Account) : read a.json.tree = some a := by
  have hread : read a.json.tree = (StateLabel.ofText? a.label.text).bind (readState · a.stateJson.tree) := rfl
  rw [hread, StateLabel.ofText?_text, Option.bind_some, readState_label]

/-- The texts of a login state, without blanks and with a line for each field. -/
def Written (a : Account) (text : String) : Prop :=
  text = a.json.compact ∨ text = a.json.pretty

variable {a b : Account} {text : String}

theorem ofText_of_written (h : a.Written text) : read.ofText text = some a := by
  rcases h with rfl | rfl
  · rw [Json.ofText_compact read a.whole_json, read_tree]
  · rw [Json.ofText_pretty read a.whole_json, read_tree]

theorem eq_of_written (ha : a.Written text) (hb : b.Written text) : a = b :=
  Option.some.inj ((ofText_of_written ha).symm.trans (ofText_of_written hb))

end Account

end AccountSync
