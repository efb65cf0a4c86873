import AccountSync.Proofs.Login.Provenance

/-!
What `kB` an account comes to. `Recovers` says of an account that it has a given `kB`, or the key that unwraps it as long
as it has none. Steps keep this if the provider tells that `kB` in its wrapped form, and no other (`recovers_of_step`).
Main statement: `recovers_of_advance`, that so do whole runs, in all states that they report.
-/

set_option autoImplicit false
set_option relaxedAutoImplicit false

namespace AccountSync.Login

open Dialogue

/-- The account has this `kB`, or will unwrap it with this key. -/
def Recovers (kB unwrapKey : Key32) : Account → Prop
  | .engaged s => s.unwrapKey = unwrapKey
  | .cohabiting k => k.kB = kB
  | .married m => m.account.kB = kB
  | .separated _ => True
  | .doghouse _ => True

/-- Whenever the provider tells a wrapped key that can be read, it is this one. -/
def TellsWrapped (wrapped : Key32) (xs : Exchanges) : Prop :=
  ∀ token keys told, ⟨.ask (.fetchKeys token), .ok keys⟩ ∈ xs → Key32.ofHex? keys.wrapKB = some told → told = wrapped

variable {kB unwrapKey wrapped : Key32} {duration bound maxSteps : Nat} {target : StateLabel}
  {state next initial : Account} {xs ys : Exchanges} {t : Transition} {run : Run} {action : Action} {k : Cohabiting}

private theorem TellsWrapped.mono (h : TellsWrapped wrapped ys) (hsub : xs ⊆ ys) : TellsWrapped wrapped xs :=
  fun token keys told hmem hread => h token keys told (hsub hmem) hread

theorem Recovers.kB_eq (h : Recovers kB unwrapKey state) (hk : credentials? state = some k) : k.kB = kB := by
  cases state with
  | engaged s => cases hk
  | cohabiting k' =>
    obtain rfl := Option.some.inj hk
    exact h
  | married m =>
    obtain rfl := Option.some.inj hk
    exact h
  | separated o => cases hk
  | doghouse o => cases hk

private theorem mem_of_fetchCalls {token : String} {answer : Except SyncError Provider.KeysResponse}
    (h : (token, answer) ∈ fetchCalls xs) : ⟨.ask (.fetchKeys token), answer⟩ ∈ xs := by
  obtain ⟨x, hx, hcall⟩ := List.mem_filterMap.mp h
  unfold fetchCall? at hcall
  split at hcall
  · cases hcall
    exact hx
  · cases hcall

private theorem Fetched.kB_eq {s : Engaged} (h : Fetched s xs k) (hkey : s.unwrapKey = unwrapKey)
    (htells : TellsWrapped (kB.xor unwrapKey) xs) : k.kB = kB := by
  obtain ⟨keys, pair, hcalls, -, hsourced⟩ := h.calls
  obtain ⟨told, hread, hunwrapped⟩ := hsourced.kB
  have hmem : (s.keyFetchToken, .ok keys) ∈ fetchCalls xs := by
    rw [hcalls]
    exact List.mem_cons_self
  have htold := htells _ _ _ (mem_of_fetchCalls hmem) hread
  rw [hunwrapped, htold, hkey, unwrapKB, Key32.xor_xor]

/-- A step keeps what an account recovers. -/
theorem recovers_of_step (own : Own state.label action) (h : Course (step duration action state) xs (t, next))
    (htells : TellsWrapped (kB.xor unwrapKey) xs) (hstate : Recovers kB unwrapKey state) :
    Recovers kB unwrapKey next := by
  cases moves_of_course own h with
  | fetched _ _ _ =>
    rcases fetched_of_engaged own rfl h with hnone | ⟨k, hk, hfetched⟩
    · cases hnone
    · cases hk
      exact hfetched.kB_eq hstate htells
  | unverified s => exact hstate
  | signed k certificate => exact hstate
  | expired m => exact hstate
  | separated _ _ => trivial
  | doghouse _ _ _ => trivial
  | disproved _ _ _ => exact hstate
  | failed _ _ _ _ => exact hstate

private theorem Walk.recovers (h : Walk duration target bound state xs run)
    (htells : TellsWrapped (kB.xor unwrapKey) xs)
    (hstate : Recovers kB unwrapKey state) : ∀ a ∈ run.state :: states xs, Recovers kB unwrapKey a := by
  induction h with
  | settled _ => simpa [states, state?] using hstate
  | ended _ _ => simpa [states, state?] using hstate
  | exhausted _ _ => simpa [states, state?] using hstate
  | stayed _ ha hstep _ =>
    have hnext := recovers_of_step (own_of_nextAction ha) hstep
      (htells.mono fun _ hx => List.mem_cons_of_mem _ (List.mem_append_left _ hx)) hstate
    rw [states_of_round ((asks_step _ _ _).of_course hstep)]
    simpa [states] using hnext
  | moved _ ha hstep _ _ ih =>
    have hnext := recovers_of_step (own_of_nextAction ha) hstep
      (htells.mono fun _ hx => List.mem_cons_of_mem _ (List.mem_append_left _ hx)) hstate
    have hrest := ih
      (htells.mono fun _ hx => List.mem_cons_of_mem _ (List.mem_append_right _ (List.mem_cons_of_mem _ hx))) hnext
    rw [states_of_round ((asks_step _ _ _).of_course hstep)]
    intro a ha
    rcases List.mem_cons.mp ha with rfl | ha
    · exact hrest _ List.mem_cons_self
    · rcases List.mem_cons.mp ha with rfl | ha
      · exact hnext
      · exact hrest a (List.mem_cons_of_mem _ ha)

theorem recovers_of_advance (h : Course (advance maxSteps duration initial target) xs run)
    (htells : TellsWrapped (kB.xor unwrapKey) xs) (hinitial : Recovers kB unwrapKey initial) :
    ∀ a ∈ run.state :: states xs, Recovers kB unwrapKey a := by
  obtain ⟨ys, hw, rfl⟩ := course_advance_iff.mp h
  have hstates : states (ys ++ [⟨.final run.state, ()⟩]) = states ys := by
    rw [states_append]
    exact List.append_nil _
  rw [hstates]
  exact hw.recovers (htells.mono fun _ hx => List.mem_append_left _ hx) hinitial

end AccountSync.Login
