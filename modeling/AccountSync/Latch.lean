import AccountSync.Channel

/-!
A value handed over once, from one side that completes to one side that waits. The first value counts;
if the completing side goes away without one, the waiting side is told so. The value goes through a channel,
whose sender the completing side holds until it completes.
-/

set_option autoImplicit false
set_option relaxedAutoImplicit false

namespace AccountSync

namespace Latch

variable {σ α : Type} {c : Channel σ α}

inductive Step (α : Type)
  | complete (value : α)
  | isCompleted
  /-- The completing side goes away. -/
  | drop
  /-- The waiting side goes away. -/
  | dropWaiter
  | wait

inductive Answer (α : Type)
  | flag (value : Bool)
  | value (value : α)
  /-- There will never be a value. -/
  | abandoned
  | dropped
  /-- The side that the step is for has gone. -/
  | gone
  /-- There is no value yet. -/
  | pending
  deriving DecidableEq, Repr

/-- A latch over a channel: which of its two sides are there, and whether the sender is still held. -/
structure Over (c : Channel σ α) where
  isOpen : Bool := true
  holdsSender : Bool := true
  isAwaited : Bool := true
  channel : σ := c.opened

namespace Over

/-- Sends a value unless one was sent before. It makes no difference whether anyone is left to receive it. -/
def complete (l : Over c) (v : α) : Bool × Over c :=
  if l.holdsSender then (true, { l with holdsSender := false, channel := (c.send l.channel v).2 })
  else (false, l)

def isCompleted (l : Over c) : Bool := !l.holdsSender

/-- The completing side goes away, and the sender with it if it is still held. -/
def drop (l : Over c) : Over c :=
  { l with
    isOpen := false
    holdsSender := false
    channel := if l.holdsSender then c.dropSender l.channel else l.channel }

/-- The waiting side goes away, and the receiver with it. -/
def dropWaiter (l : Over c) : Over c :=
  { l with isAwaited := false, channel := c.dropReceiver l.channel }

def told : Option (Option α) → Answer α
  | some (some v) => .value v
  | some none => .abandoned
  | none => .pending

/-- Waits for what is sent. This uses the waiting side up, unless there is nothing to be had yet. -/
def wait (l : Over c) : Answer α × Over c :=
  (told (c.receive l.channel), if (c.receive l.channel).isSome then l.dropWaiter else l)

/-- Takes a step, if the side that it is for is there. -/
def step (l : Over c) : Step α → Answer α × Over c
  | .complete v =>
    if l.isOpen then
      let (isFirst, l) := l.complete v
      (.flag isFirst, l)
    else (.gone, l)
  | .isCompleted => if l.isOpen then (.flag l.isCompleted, l) else (.gone, l)
  | .drop => if l.isOpen then (.dropped, l.drop) else (.gone, l)
  | .dropWaiter => if l.isAwaited then (.dropped, l.dropWaiter) else (.gone, l)
  | .wait =>
    if l.isAwaited then l.wait
    -- Without a waiting side this still tells whether there is anything to be had.
    else if l.holdsSender then (.pending, l)
    else (.gone, l)

def run (l : Over c) : List (Step α) → List (Answer α) × Over c
  | [] => ([], l)
  | s :: rest =>
    let (a, l) := l.step s
    let (as, l) := l.run rest
    (a :: as, l)

variable {received : Option (Option α)} {v : α}

@[simp] theorem told_eq_value_iff : told received = .value v ↔ received = some (some v) := by
  rcases received with _ | _ | w <;> simp [told]

@[simp] theorem told_eq_abandoned_iff : told received = .abandoned ↔ received = some none := by
  rcases received with _ | _ | w <;> simp [told]

@[simp] theorem told_eq_pending_iff : told received = .pending ↔ received = none := by
  rcases received with _ | _ | w <;> simp [told]

end Over

/-- What is said where there will never be a value. -/
def abandonedMessage : String := "completion dropped without a value"

end Latch

/-- A latch whose value waits in a slot. -/
abbrev Latch (α : Type) : Type := Latch.Over (Slot.channel α)

end AccountSync
