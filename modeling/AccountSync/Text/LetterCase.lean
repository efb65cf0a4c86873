import AccountSync.Text.Rows
import AccountSync.Text.LetterCase.Table

/-!
Small and capital letters of a whole text. A capital sigma becomes the final small sigma where it ends
a word: a letter stands before it and none after it, characters that are passed over apart.
-/

set_option autoImplicit false
set_option relaxedAutoImplicit false

namespace AccountSync.Text.LetterCase

/-- Moves a code point by the run that it belongs to. -/
def move (runs : List Run) (n : Nat) : Nat :=
  match runs.find? fun r => r.first ≤ n && n ≤ r.last && (n - r.first) % r.step == 0 with
  | some r => ((n : Int) + r.distance).toNat
  | none => n

/-- The small form of a letter, wherever it stands. -/
def lowerChar (c : Char) : List Char :=
  if c.toNat < 128 then [c.toLower]
  else
    match lowerSequences.lookup c.toNat with
    | some ns => ns.map Char.ofNat
    | none => [Char.ofNat (move lowerRuns c.toNat)]

def upperChar (c : Char) : List Char :=
  if c.toNat < 128 then [c.toUpper]
  else
    match upperSequences.lookup c.toNat with
    | some ns => ns.map Char.ofNat
    | none => [Char.ofNat (move upperRuns c.toNat)]

/-- Whether the first character that is not passed over is a letter with case. -/
def meetsCased (cs : List Char) : Bool :=
  match cs.dropWhile fun c => Intervals.contains caseIgnorable c.toNat with
  | c :: _ => Intervals.contains cased c.toNat
  | [] => false

/-- The small forms of the letters of a text whose part before them is given, last character first. -/
def lowerAfter : List Char → List Char → List Char
  | _, [] => []
  | before, c :: rest =>
    let small :=
      if c = 'Σ' then (if meetsCased before && !meetsCased rest then ['ς'] else ['σ'])
      else lowerChar c
    small ++ lowerAfter (c :: before) rest

def lower (text : String) : String :=
  String.ofList (lowerAfter [] text.toList)

def upper (text : String) : String :=
  String.ofList (text.toList.flatMap upperChar)


/-- A text with its ASCII capitals made small. -/
def lowerAscii (text : String) : String :=
  String.ofList (text.toList.map Char.toLower)

end AccountSync.Text.LetterCase
