import AccountSync.Text.Printable

/-!
Quoted text for people to read: quotes, backslashes and everything that does not show by itself are
escaped.
-/

set_option autoImplicit false
set_option relaxedAutoImplicit false

namespace AccountSync.Text

def quotedChar (c : Char) : List Char :=
  if c = '\x00' then ['\\', '0']
  else if c = '\t' then ['\\', 't']
  else if c = '\r' then ['\\', 'r']
  else if c = '\n' then ['\\', 'n']
  else if c = '\\' then ['\\', '\\']
  else if c = '"' then ['\\', '"']
  else if Printable.isShown c then [c]
  else '\\' :: 'u' :: '\x7b' :: Nat.toDigits 16 c.toNat ++ ['\x7d']

def quoted (text : String) : String :=
  String.ofList ('"' :: text.toList.flatMap quotedChar ++ ['"'])

end AccountSync.Text
