import AccountSync.Text.Blank
import AccountSync.Text.LetterCase

/-!
Header fields of HTTP messages. Names are compared without regard to case; of fields with one name the
first counts.
-/

set_option autoImplicit false
set_option relaxedAutoImplicit false

namespace AccountSync.Http

/-- A header field: its name as it is written, and the bytes of its value. -/
structure Header where
  name : String
  value : List UInt8
  deriving DecidableEq, Repr

abbrev Headers := List Header

def isNameChar (c : Char) : Bool :=
  c.isAlphanum || "!#$%&'*+-.^_`|~".toList.contains c

/-- Whether a byte may stand in the value of a field: no control characters but the tab. -/
def isValueByte (b : UInt8) : Bool :=
  b = 9 || (32 ≤ b && b ≠ 127)

def isVisible (b : UInt8) : Bool :=
  b = 9 || (32 ≤ b && b < 127)

def Header.isAllowed (h : Header) : Bool :=
  !h.name.isEmpty && h.name.toList.all isNameChar && h.value.all isValueByte

def isSpacing (b : UInt8) : Bool :=
  b = 32 || b = 9

/-- The value as it is received: spaces and tabs around it are not part of it. -/
def Header.received (h : Header) : List UInt8 :=
  ((h.value.dropWhile isSpacing).reverse.dropWhile isSpacing).reverse

/-- The value of the first field of a name, which is given in small letters. -/
def Headers.value? (hs : Headers) (name : String) : Option (List UInt8) :=
  (hs.find? fun h => Text.LetterCase.lowerAscii h.name = name).map (·.value)

/-- The value of a field without the blanks around it. One with other than visible characters counts as
missing, and so does one that is blank. -/
def Headers.text? (hs : Headers) (name : String) : Option String := do
  let bs ← hs.value? name
  if bs.all isVisible then
    let text := Text.trim (String.ofList (bs.map fun b => Char.ofNat b.toNat))
    if text.isEmpty then none else some text
  else none

end AccountSync.Http
