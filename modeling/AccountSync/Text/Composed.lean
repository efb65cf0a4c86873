import AccountSync.Text.Composed.Table

/-!
The composed form of text: characters are taken apart, the marks on each letter are put into the order of
their classes, and whatever has a composed character is put together again. The tables know the
characters of domain names; the syllables of Hangul are computed.
-/

set_option autoImplicit false
set_option relaxedAutoImplicit false

namespace AccountSync.Text.Composed

/-- The class of a mark; zero for a letter. -/
def classOf (n : Nat) : Nat :=
  (classes.findSome? fun row =>
    match row with
    | [first, last, k] => if first ≤ n ∧ n ≤ last then some k else none
    | _ => none).getD 0

/-- Syllables of Hangul: the numbers of their first letters, vowels and last letters. -/
structure Syllable where
  first : Nat
  vowel : Nat
  last : Nat

def Syllable.ofPoint? (n : Nat) : Option Syllable :=
  if 0xAC00 ≤ n ∧ n < 0xAC00 + 19 * 21 * 28 then
    some ⟨(n - 0xAC00) / 588, (n - 0xAC00) % 588 / 28, (n - 0xAC00) % 28⟩
  else none

/-- The letters of a syllable; there may be no last one. -/
def Syllable.letters (s : Syllable) : List Nat :=
  [0x1100 + s.first, 0x1161 + s.vowel] ++ if s.last = 0 then [] else [0x11A7 + s.last]

/-- The two characters that a character is composed of. -/
def parts? (n : Nat) : Option (Nat × Nat) :=
  compositions.findSome? fun row =>
    match row with
    | [whole, a, b] => if whole = n then some (a, b) else none
    | _ => none

/-- Takes a character apart, its parts in turn, and so on down to a depth that none exceeds. -/
def takeApart : Nat → Nat → List Nat
  | 0, n => [n]
  | depth + 1, n =>
    match Syllable.ofPoint? n, parts? n with
    | some s, _ => s.letters
    | none, some (a, b) => takeApart depth a ++ takeApart depth b
    | none, none => [n]

/-- Puts a mark behind the last of those before it, latest first, whose class is no higher. -/
def place (mark : Nat) : List Nat → List Nat
  | [] => [mark]
  | n :: before => if classOf mark < classOf n then n :: place mark before else mark :: n :: before

def arrange (ns : List Nat) : List Nat :=
  (ns.foldl (fun before n => if classOf n = 0 then n :: before else place n before) []).reverse

/-- The syllable that two characters make up: of a first letter and a vowel, or of these and a last
letter. -/
def joinSyllable? (a b : Nat) : Option Nat :=
  if 0x1100 ≤ a ∧ a < 0x1113 ∧ 0x1161 ≤ b ∧ b < 0x1176 then
    some (0xAC00 + (a - 0x1100) * 588 + (b - 0x1161) * 28)
  else
    match Syllable.ofPoint? a with
    | some s => if s.last = 0 ∧ 0x11A7 < b ∧ b < 0x11C3 then some (a + (b - 0x11A7)) else none
    | none => none

def join? (a b : Nat) : Option Nat :=
  joinSyllable? a b <|> compositions.findSome? fun row =>
    match row with
    | [whole, x, y] => if x = a ∧ y = b then some whole else none
    | _ => none

/-- What has been put together: all before the last letter, that letter, and the marks on it that it did
not take in. The latest come first. -/
structure Composing where
  before : List Nat := []
  letter : Option Nat := none
  marks : List Nat := []

namespace Composing

def all (c : Composing) : List Nat :=
  c.marks ++ c.letter.toList ++ c.before

/-- Begins with a letter, or keeps a mark. -/
def keep (c : Composing) (n : Nat) : Composing :=
  if classOf n = 0 then ⟨c.all, some n, []⟩ else { c with marks := n :: c.marks }

/-- Whether a mark that was kept stands between the letter and a character. -/
def isBlocked (c : Composing) (n : Nat) : Bool :=
  match c.marks with
  | [] => false
  | m :: _ => classOf n ≤ classOf m

/-- Lets the letter take in a character, or keeps it. -/
def next (c : Composing) (n : Nat) : Composing :=
  match c.letter with
  | none => c.keep n
  | some letter =>
    if c.isBlocked n then c.keep n
    else
      match join? letter n with
      | some whole => { c with letter := some whole }
      | none => c.keep n

end Composing

/-- The composed form of a text. Nothing in ASCII is composed of anything or goes into anything. -/
def compose (cs : List Char) : List Char :=
  if cs.all (·.toNat < 128) then cs else
  let letters := arrange (cs.flatMap fun c => takeApart 4 c.toNat)
  ((letters.foldl Composing.next {}).all.reverse).map Char.ofNat

end AccountSync.Text.Composed
