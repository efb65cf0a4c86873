import AccountSync.Text.Split
import AccountSync.Text.Utf8
import AccountSync.Url.Domain.Label
import AccountSync.Url.Domain.Mapping
import AccountSync.Url.Punycode

/-!
Domain names in ASCII form. A label with characters past ASCII is written in Punycode behind four
characters that mark it; a label that is given so has to stand for one that could have been given as it is.
-/

set_option autoImplicit false
set_option relaxedAutoImplicit false

namespace AccountSync.Url.Domain

/-- The ASCII characters that no domain holds. -/
def isForbidden (c : Char) : Bool :=
  c.toNat ≤ 32 || c.toNat = 127
    || ['%', '#', '/', ':', '<', '>', '?', '@', '[', '\\', ']', '^', '|'].contains c

def isAscii (c : Char) : Bool :=
  c.toNat < 128

def punycodeMark : List Char := "xn--".toList

/-- The characters that a label stands for. -/
def characters? (label : List Char) : Option (List Char) :=
  if punycodeMark.isPrefixOf label then
    match Punycode.decode? (label.drop 4) with
    | some cs => if !cs.all isAscii && isMapped cs && label.all isAscii then some cs else none
    | none => none
  else some label

def ascii (label : List Char) : List Char :=
  if label.all isAscii then label else punycodeMark ++ Punycode.encode label

/-- Whether labels, given by the characters that they stand for, make up a domain. -/
def areValid (labels : List (List Char)) : Bool :=
  labels.all (fun label => !label.any isForbidden && Label.isValid label)
    && (!labels.any Label.hasRightward || labels.all Label.isOneWay)

def toAscii? (bs : List UInt8) : Option (List Char) := do
  let text ← Text.Utf8.decode? bs
  let cs ← map? text.toList
  let labels := Text.splitAll '.' cs
  let meant ← labels.mapM characters?
  if areValid meant then some (['.'].intercalate (labels.map ascii)) else none

end AccountSync.Url.Domain
