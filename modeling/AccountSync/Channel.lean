/-!
A channel for one value, from a sender to a receiver. What may be relied on is what is promised of a receiver
that is still there: a value that was sent is received, and where the sender went away without one the receiver
is told so.
-/

set_option autoImplicit false
set_option relaxedAutoImplicit false

namespace AccountSync

/-- What the two halves of a channel do to its states `σ`. -/
structure Channel (σ α : Type) where
  /-- Both halves are there, and nothing was sent. -/
  opened : σ
  /-- Uses the sender up. A value that there is no one to receive is given back. -/
  send : σ → α → Option α × σ
  /-- The sender goes away without a value. -/
  dropSender : σ → σ
  /-- The receiver goes away. -/
  dropReceiver : σ → σ
  /-- What is received, unless it has to be waited for: the value, or `none` where there will never be one. -/
  receive : σ → Option (Option α)
  receive_opened : receive opened = none
  receive_send (v : α) : receive (send opened v).2 = some (some v)
  receive_dropSender : receive (dropSender opened) = some none

/-- A place for the value, and which of the two halves are left. -/
structure Slot (α : Type) where
  value : Option α := none
  hasSender : Bool := true
  hasReceiver : Bool := true

def Slot.channel (α : Type) : Channel (Slot α) α where
  opened := {}
  send s v :=
    if s.hasReceiver then (none, { s with value := some v, hasSender := false })
    else (some v, { s with hasSender := false })
  dropSender s := { s with hasSender := false }
  dropReceiver s := { s with value := none, hasReceiver := false }
  receive s :=
    match s.value with
    | some v => some (some v)
    | none => if s.hasSender then none else some none
  receive_opened := rfl
  receive_send _ := rfl
  receive_dropSender := rfl

end AccountSync
