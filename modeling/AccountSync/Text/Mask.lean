import AccountSync.Text.Quoted
import AccountSync.Text.Split

/-!
What people may see of values: a name and its fields between braces, two dots standing for fields that are
kept secret, and email addresses that are hidden but for a part.
-/

set_option autoImplicit false
set_option relaxedAutoImplicit false

namespace AccountSync.Text

namespace Describe

def record (name : String) (fields : List (String × String)) : String :=
  name ++ " \x7b " ++ ", ".intercalate (fields.map fun f => f.1 ++ ": " ++ f.2) ++ " \x7d"

/-- A record of which only some fields are shown. -/
def partly (name : String) (fields : List (String × String)) : String :=
  name ++ " \x7b " ++ String.join (fields.map fun f => f.1 ++ ": " ++ f.2 ++ ", ") ++ ".. \x7d"

def variant (name inner : String) : String :=
  name ++ "(" ++ inner ++ ")"

def option : Option String → String
  | none => "None"
  | some s => variant "Some" s

end Describe

/-- An email address with all but the first character before the at sign hidden. -/
def maskEmail (email : String) : String :=
  match splitOnce? '@' email.toList with
  | some (name, domain) => String.ofList (name.take 1 ++ ['*', '*', '*', '@'] ++ domain)
  | none => "***"

end AccountSync.Text
