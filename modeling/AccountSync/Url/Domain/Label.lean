import AccountSync.Text.Composed
import AccountSync.Text.Direction
import AccountSync.Text.Joining

/-!
The labels of a domain, which stand between its dots. A label begins with no mark, joins its letters only
where that shows, and does not mix directions so that it could be read in two ways.
-/

set_option autoImplicit false
set_option relaxedAutoImplicit false

namespace AccountSync.Url.Domain.Label

def startsWithMark : List Char → Bool
  | c :: _ => Text.Mark.isMark c
  | [] => false

/-- Whether a character is a mark that takes away the vowel of the letter before it. -/
def isVirama (c : Char) : Bool :=
  Text.Composed.classOf c.toNat = 9

/-- Whether two letters that are given with all around them, nearest first, would join but for what
stands between them. -/
def wouldJoin (before after : List Char) : Bool :=
  match before.dropWhile Text.Joining.isTransparent, after.dropWhile Text.Joining.isTransparent with
  | a :: _, b :: _ => Text.Joining.joinsNext a && Text.Joining.joinsPrevious b
  | _, _ => false

/-- Whether each joiner stands behind such a mark, or keeps letters apart that would join. What stands
before is given latest first. -/
def joinersShow (before : List Char) : List Char → Bool
  | [] => true
  | c :: rest =>
    let behindVirama := before.head?.any isVirama
    let shows :=
      if c.toNat = 0x200C then behindVirama || wouldJoin before rest
      else if c.toNat = 0x200D then behindVirama
      else true
    shows && joinersShow (c :: before) rest

def isValid (label : List Char) : Bool :=
  !startsWithMark label && joinersShow [] label

def directions (label : List Char) : List Text.Direction :=
  label.map Text.Direction.ofChar

def hasRightward (label : List Char) : Bool :=
  (directions label).any fun d => d = .right || d = .arabicNumber

/-- Whether a label can be read in one way only beside others. Its letters have one direction, which the
first tells; a number of that direction or a letter ends it, marks apart. -/
def isOneWay (label : List Char) : Bool :=
  let ds := directions label
  let last := (ds.reverse.dropWhile (· = .nonspacing)).head?
  match ds with
  | [] => true
  | .left :: _ =>
    ds.all (fun d => [.left, .europeanNumber, .neutral, .nonspacing].contains d)
      && last.any fun d => d = .left || d = .europeanNumber
  | .right :: _ =>
    ds.all (· ≠ .left) && !(ds.contains .europeanNumber && ds.contains .arabicNumber)
      && last.any fun d => d = .right || d = .europeanNumber || d = .arabicNumber
  | _ => false

end AccountSync.Url.Domain.Label
