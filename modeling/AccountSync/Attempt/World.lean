import AccountSync.Attempt.Question
import AccountSync.Ledger.State
import AccountSync.Provider.Client

/-!
Surroundings of an attempt: a ledger and an account store in memory, what the user has been told, and other
parties, each of whose answers takes some time. `Others.overHttp` lets servers answer over HTTP.
-/

set_option autoImplicit false
set_option relaxedAutoImplicit false

namespace AccountSync

/-- An account store in memory: how often it was written, and what its calls say where they fail. -/
structure AccountStore.Memory where
  account : Option Account := none
  saves : Nat := 0
  loadFault : Option String := none
  saveFault : Option String := none

def AccountStore.Memory.answer (m : AccountStore.Memory) (c : AccountStore.Call) :
    c.Answer × AccountStore.Memory :=
  match c with
  | .load =>
    match m.loadFault with
    | some text => (.error (.storage text), m)
    | none => (.ok m.account, m)
  | .save account =>
    match m.saveFault with
    | some text => (.error (.storage text), m)
    | none => (.ok (), { m with account := some account, saves := m.saves + 1 })

namespace Attempt

variable {σ : Type}

/-- Other parties answer at an instant, by the state they are in; the time that takes is told. -/
abbrev Others (σ : Type) := (q : Party.Question) → Instant → σ → q.Answer × Nat × σ

structure World (σ : Type) where
  ledger : Ledger.State
  accounts : AccountStore.Memory := {}
  said : List Notice.Event := []
  others : σ

def World.answer (others : Others σ) (q : Question) (w : World σ) : q.Answer × World σ :=
  match q with
  | .ledger q =>
    let (a, ledger) := w.ledger.answer q
    (a, { w with ledger })
  | .account c =>
    let (a, accounts) := w.accounts.answer c
    (a, { w with accounts })
  | .notice event => ((), { w with said := w.said ++ [event] })
  | .work duration => ((), { w with ledger := w.ledger.advance duration })
  | .party q =>
    let (a, elapsed, s) := others q w.ledger.clock w.others
    (a, { w with ledger := w.ledger.advance elapsed, others := s })

/-- A network: a request that is sent at an instant is answered after some time, or not at all. -/
abbrev Network (σ : Type) := Http.Request → Instant → σ → Option Http.Response × Nat × σ

/-- Goes through a dialogue with servers, and tells how long it took. -/
def converse {α : Type} (network : Network σ) (t : Http.Talk α) (now : Instant) (s : σ) : α × Nat × σ :=
  t.run answer (0, s)
where
  /-- Answers at the time that has come. -/
  answer (q : Http.Question) (s : Nat × σ) : q.Answer × Nat × σ :=
    match q with
    | .now => (after now s.1, s)
    | .send r =>
      let (response, elapsed, rest) := network r (after now s.1) s.2
      (response, s.1 + elapsed, rest)

/-- Has the servers of a configuration answer over a network, and all others by themselves. -/
def Others.overHttp (c : Config) (network : Network σ) (others : Others σ) : Others σ
  | .provider r => converse network (r.send c.identityServerUrl)
  | .exchange assertion clientState =>
    converse network (TokenServer.exchange c.tokenServerUrl assertion clientState)
  | .verify audience assertion => converse network (Verifier.verify c.verifierUrl audience assertion)
  | q => others q

end Attempt

end AccountSync
