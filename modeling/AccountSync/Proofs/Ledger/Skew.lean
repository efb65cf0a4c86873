import AccountSync.Proofs.Ledger.Chronicle
import AccountSync.Proofs.Ledger.Failure

/-!
The time by the clock of a host. What is known of it is what was measured last (`skew_history`). Main statement:
`adjusted_to_measurement`, how far the time that is told for a host can be from the one that its clock would show, and
that other hosts have no part in it.
-/

set_option autoImplicit false
set_option relaxedAutoImplicit false

namespace AccountSync.Ledger

open Dialogue

/-- The skew that a step puts on record for a host. -/
def measured? (host : String) (s : State) : Step → Option Int
  | .operate (.recordSkew other seconds) => if sameHost other host then some seconds else none
  | .operate (.observeClock other server) => if sameHost other host then skewBetween? server s.clock else none
  | _ => none

def measurements (host : String) : State → List Step → List Int
  | _, [] => []
  | s, step :: steps => (measured? host s step).toList ++ measurements host (s.step step) steps

/-- What a server's clock shows some time after it was seen, if it runs like the local one. -/
def expected (server seen now : Instant) : Int := server.toNat + ((now.toNat : Int) - seen.toNat)

/-- A time that is told for a server's clock. It misses what that shows, or the greatest instant if that comes first, by
less than a second, on the side of the local time; and the skew that was measured is added as it is while the sum fits
64 bits. -/
structure Tracks (server seen now told : Instant) : Prop where
  near : ((told.toNat : Int) - min (expected server seen now) maxMillis).natAbs ≤ 999
  ahead : (now.toNat : Int) ≤ expected server seen now → now ≤ told ∧ (told.toNat : Int) ≤ expected server seen now
  behind : expected server seen now ≤ now.toNat → told ≤ now ∧ expected server seen now ≤ told.toNat
  exact : expected server seen now ≤ maxMillis →
    (told.toNat : Int) = now.toNat + 1000 * Int.tdiv ((server.toNat : Int) - seen.toNat) 1000

section Arithmetic

variable {server seen now : Instant} {seconds : Int}

private theorem tdiv_cases (d : Int) :
    (0 ≤ d ∧ 0 ≤ 1000 * Int.tdiv d 1000 ∧ 1000 * Int.tdiv d 1000 ≤ d ∧ d - 1000 * Int.tdiv d 1000 ≤ 999) ∨
      (d ≤ 0 ∧ 1000 * Int.tdiv d 1000 ≤ 0 ∧ d ≤ 1000 * Int.tdiv d 1000 ∧ 1000 * Int.tdiv d 1000 - d ≤ 999) := by
  rcases Int.le_total 0 d with hd | hd
  · have hdiv : Int.tdiv d 1000 = d / 1000 := Int.tdiv_eq_ediv_of_nonneg hd
    omega
  · have hdiv : Int.tdiv d 1000 = -(-d / 1000) := by
      rw [← Int.tdiv_eq_ediv_of_nonneg (by omega), Int.neg_tdiv, Int.neg_neg]
    omega

private theorem toNat_shift (now : Instant) (seconds : Int) :
    ((shift now seconds).toNat : Int) = max 0 (min (now.toNat + skewMillis seconds) maxMillis) := by
  unfold shift
  rw [UInt64.toNat_ofNat']
  simp only [maxMillis, UInt64.size]
  omega

private theorem skewMillis_of_fits (hlow : -0x8000000000000000 ≤ 1000 * seconds)
    (hhigh : 1000 * seconds < 0x8000000000000000) : skewMillis seconds = 1000 * seconds := by
  unfold skewMillis
  omega

private theorem skewBetween?_of_fits (hserver : server.toNat < 0x8000000000000000)
    (hseen : seen.toNat < 0x8000000000000000) :
    skewBetween? server seen = some (Int.tdiv ((server.toNat : Int) - seen.toNat) 1000) := if_pos ⟨hserver, hseen⟩

private theorem skewBetween?_of_exceeds (h : ¬ (server.toNat < 0x8000000000000000 ∧ seen.toNat < 0x8000000000000000)) :
    skewBetween? server seen = none := if_neg h

/-- What was measured tells the time of the server from then on. -/
theorem tracks_shift (hserver : server.toNat < 0x8000000000000000) (hseen : seen.toNat < 0x8000000000000000)
    (hlater : seen ≤ now) :
    Tracks server seen now (shift now (Int.tdiv ((server.toNat : Int) - seen.toNat) 1000)) := by
  have hround := tdiv_cases ((server.toNat : Int) - seen.toNat)
  have hshift := toNat_shift now (Int.tdiv ((server.toNat : Int) - seen.toNat) 1000)
  rw [skewMillis_of_fits (by omega) (by omega)] at hshift
  have hnow := now.toNat_lt
  have hle : seen.toNat ≤ now.toNat := hlater
  have hmax : (maxMillis : Int) = 18446744073709551615 := rfl
  constructor
  · unfold expected
    omega
  · intro hahead
    unfold expected at hahead ⊢
    rw [UInt64.le_iff_toNat_le]
    omega
  · intro hbehind
    unfold expected at hbehind ⊢
    rw [UInt64.le_iff_toNat_le]
    omega
  · intro hfits
    unfold expected at hfits
    omega

end Arithmetic

variable {s t : State} {host other : String} {server : Instant} {seconds : Int} {steps : List Step}

section Run

open Text.LetterCase (lowerAscii)

private theorem reply_skew (s : State) (host : String) : s.reply (.skew host) = s.skew (lowerAscii host) := rfl

theorem reply_skew_of_skews (h : t.skews = s.skews) : t.reply (.skew host) = s.reply (.skew host) := by
  rw [reply_skew, reply_skew, State.skew, State.skew, h]

private theorem run_recordSkew (s : State) (host : String) (seconds : Int) :
    (recordSkew host seconds).run State.answer s =
    ((), { s with skews := (lowerAscii host, seconds) :: s.skews }) := rfl

theorem run_observeClock_of_some (h : skewBetween? server s.clock = some seconds) :
    (observeClock host server).run State.answer s =
      (seconds, { s with skews := (lowerAscii host, seconds) :: s.skews }) := by
  rw [observeClock, run_bind, run_now]
  simp only [h]
  rfl

theorem run_observeClock_of_none (h : skewBetween? server s.clock = none) :
    (observeClock host server).run State.answer s = (s.reply (.skew host), s) := by
  rw [observeClock, run_bind, run_now]
  simp only [h]
  rfl

private theorem reply_adjustedNow (s : State) (host : String) :
    s.reply (.adjustedNow host) = shift s.clock (s.reply (.skew host)) := rfl

theorem reply_skew_recorded (s : State) (host other : String) (seconds : Int) :
    State.reply { s with skews := (lowerAscii other, seconds) :: s.skews } (.skew host) =
      if sameHost other host then seconds else s.reply (.skew host) := by
  rw [reply_skew, reply_skew, State.skew, State.skew, List.lookup_cons]
  by_cases h : lowerAscii other = lowerAscii host
  · have hbeq : (lowerAscii host == lowerAscii other) = true := beq_iff_eq.mpr h.symm
    have hsame : sameHost other host = true := decide_eq_true h
    rw [hbeq, if_pos hsame]
    rfl
  · have hbeq : (lowerAscii host == lowerAscii other) = false := beq_eq_false_iff_ne.mpr (Ne.symm h)
    have hsame : ¬ sameHost other host = true := fun hs => h (of_decide_eq_true hs)
    rw [hbeq, if_neg hsame]

end Run

def Question.Records (q : Question) : Prop := ∃ host seconds, q = .recordSkew host seconds

private theorem skews_answer (q : Question) (s : State) (h : ¬ q.Records) : (State.answer q s).2.skews = s.skews := by
  cases q with
  | now => rfl
  | store c => rfl
  | skew host => rfl
  | recordSkew host seconds => exact (h ⟨host, seconds, rfl⟩).elim

private theorem asks_not_records {o : Operation} (hrecord : ∀ host seconds, o ≠ .recordSkew host seconds)
    (hobserve : ∀ host server, o ≠ .observeClock host server) : o.talk.Asks fun q => ¬ q.Records := by
  have hnow : ¬ Question.now.Records := nofun
  have hstore : ∀ c, ¬ (Question.store c).Records := fun _ => nofun
  have hskew : ∀ host, ¬ (Question.skew host).Records := fun _ => nofun
  cases o with
  | extend p delay => exact asks_extend_of hnow (fun _ => hstore _) (fun _ => hstore _) delay
  | clear p => exact asks_question.mpr (hstore _)
  | switchHost host => exact asks_switchHost_of (fun _ => hstore _) (fun _ => hstore _) (fun _ => hstore _) host
  | setLastHost host => exact asks_question.mpr (hstore _)
  | recordSkew host seconds => exact (hrecord host seconds rfl).elim
  | observeClock host server => exact (hobserve host server rfl).elim
  | now => exact asks_question.mpr hnow
  | deadline p => exact asks_deadline_of fun _ => hstore _
  | remaining p => exact asks_remaining_of hnow fun _ => hstore _
  | mayProceed p forced => exact asks_mayProceed_of hnow (fun _ => hstore _) forced
  | lastHost => exact asks_question.mpr (hstore _)
  | skew host => exact asks_question.mpr (hskew _)
  | adjustedNow host => exact asks_adjustedNow_of hnow hskew host

private theorem skew_step (s : State) (host : String) (step : Step) :
    (s.step step).reply (.skew host) = (measured? host s step).getD (s.reply (.skew host)) := by
  have hquiet : ∀ o : Operation, (∀ host seconds, o ≠ .recordSkew host seconds) →
      (∀ host server, o ≠ .observeClock host server) →
      (s.step (.operate o)).reply (.skew host) = s.reply (.skew host) := by
    intro o hrecord hobserve
    exact reply_skew_of_skews (view_run State.skews skews_answer (asks_not_records hrecord hobserve) s)
  cases step with
  | setClock now => rfl
  | operate o =>
    cases o with
    | recordSkew other seconds =>
      rw [State.step, Operation.talk, run_recordSkew, reply_skew_recorded, measured?]
      by_cases h : sameHost other host
      · rw [if_pos h, if_pos h, Option.getD_some]
      · rw [if_neg h, if_neg h, Option.getD_none]
    | observeClock other server =>
      rw [State.step, Operation.talk, measured?]
      cases hbetween : skewBetween? server s.clock with
      | none =>
        rw [run_observeClock_of_none hbetween, ite_self]
        rfl
      | some seconds =>
        rw [run_observeClock_of_some hbetween, reply_skew_recorded]
        by_cases h : sameHost other host
        · rw [if_pos h, if_pos h, Option.getD_some]
        · rw [if_neg h, if_neg h, Option.getD_none]
    | _ => exact hquiet _ nofun nofun

/-- After any history the skew of a host is the one that was put on record for it last. -/
theorem skew_history (s : State) (host : String) (steps : List Step) :
    (s.history steps).reply (.skew host) = (measurements host s steps).getLast?.getD (s.reply (.skew host)) := by
  induction steps generalizing s with
  | nil => rfl
  | cons step steps ih =>
    have hrest : (s.history (step :: steps)).reply (.skew host) =
        (measurements host (s.step step) steps).getLast?.getD ((s.step step).reply (.skew host)) := ih (s.step step)
    rw [hrest, skew_step, measurements, List.getLast?_append]
    cases measured? host s step <;> cases (measurements host (s.step step) steps).getLast? <;> rfl

private theorem reply_skew_of_sameHost (s : State) (h : sameHost other host = true) :
    s.reply (.skew other) = s.reply (.skew host) :=
  congrArg s.skew (of_decide_eq_true h)

private theorem skew_of_unmeasured (h : sameHost other host = true) (hnone : measurements host s steps = []) :
    (s.history steps).reply (.skew other) = s.reply (.skew host) := by
  rw [reply_skew_of_sameHost _ h, skew_history, hnone]
  rfl

private theorem adjustedNow_of_skew (h : t.reply (.skew host) = s.reply (.skew host)) (hclock : t.clock = s.clock) :
    t.reply (.adjustedNow host) = s.reply (.adjustedNow host) := by
  rw [reply_adjustedNow, reply_adjustedNow, h, hclock]

private theorem clock_operate (s : State) (o : Operation) : (s.step (.operate o)).clock = s.clock := by
  refine view_run State.clock (W := fun _ => False) ?_ ?_ s
  · intro q s _
    cases q <;> rfl
  · exact (asks_any _).mono fun _ _ => id

private theorem unaffected_of_unmeasured (s : State) {o : Operation} (h : measured? other s (.operate o) = none) :
    (s.step (.operate o)).reply (.skew other) = s.reply (.skew other) ∧
      (s.step (.operate o)).reply (.adjustedNow other) = s.reply (.adjustedNow other) := by
  have hskew : (s.step (.operate o)).reply (.skew other) = s.reply (.skew other) := by
    rw [skew_step, h]
    rfl
  exact ⟨hskew, adjustedNow_of_skew hskew (clock_operate s o)⟩

/-- When a server's clock is seen, and both times fit 63 bits, the skew is the difference in whole seconds, rounded
toward zero; and until another one is put on record for the host, the time that is told for it is less than a second
from the one that its clock shows, or from the greatest instant if that comes first, on the side of the local time.
Otherwise nothing changes. Other hosts are not affected; and any skew that is put on record is added in milliseconds,
first within the 64 bits of a number with a sign and then within those of an instant. -/
theorem adjusted_to_measurement (s : State) (host : String) (server : Instant) :
    (server.toNat < 0x8000000000000000 ∧ s.clock.toNat < 0x8000000000000000 →
      s.reply (.observeClock host server) = Int.tdiv ((server.toNat : Int) - s.clock.toNat) 1000 ∧
      ∀ other steps, sameHost other host = true →
        measurements host (s.step (.operate (.observeClock host server))) steps = [] →
        let later := (s.step (.operate (.observeClock host server))).history steps
        later.reply (.skew other) = Int.tdiv ((server.toNat : Int) - s.clock.toNat) 1000 ∧
        (s.clock ≤ later.clock → Tracks server s.clock later.clock (later.reply (.adjustedNow other)))) ∧
    (¬ (server.toNat < 0x8000000000000000 ∧ s.clock.toNat < 0x8000000000000000) →
      s.reply (.observeClock host server) = s.reply (.skew host) ∧ s.step (.operate (.observeClock host server)) = s) ∧
    (∀ other o, sameHost host other = false →
      (o = .observeClock host server ∨ ∃ seconds, o = .recordSkew host seconds) →
      (s.step (.operate o)).reply (.skew other) = s.reply (.skew other) ∧
        (s.step (.operate o)).reply (.adjustedNow other) = s.reply (.adjustedNow other)) ∧
    ∀ seconds other steps, sameHost other host = true →
      measurements host (s.step (.operate (.recordSkew host seconds))) steps = [] →
      let later := (s.step (.operate (.recordSkew host seconds))).history steps
      ((later.reply (.adjustedNow other)).toNat : Int) =
        max 0 (min (later.clock.toNat + max (-0x8000000000000000) (min (1000 * seconds) 0x7FFFFFFFFFFFFFFF))
          maxMillis) := by
  have hself : sameHost host host = true := decide_eq_true rfl
  refine ⟨?_, ?_, ?_, ?_⟩
  · rintro ⟨hserver, hclock⟩
    have hbetween := skewBetween?_of_fits hserver hclock
    have hrun : (observeClock host server).run State.answer s = (_, _) := run_observeClock_of_some hbetween
    have hmeasured : (s.step (.operate (.observeClock host server))).reply (.skew host) =
        Int.tdiv ((server.toNat : Int) - s.clock.toNat) 1000 := by
      rw [skew_step, measured?, if_pos hself, hbetween, Option.getD_some]
    refine ⟨congrArg Prod.fst hrun, fun other steps hsame hnone => ?_⟩
    have hlater := (skew_of_unmeasured hsame hnone).trans hmeasured
    refine ⟨hlater, fun hle => ?_⟩
    rw [reply_adjustedNow, hlater]
    exact tracks_shift hserver hclock hle
  · intro hexceeds
    have hrun : (observeClock host server).run State.answer s = (_, s) :=
      run_observeClock_of_none (skewBetween?_of_exceeds hexceeds)
    exact ⟨congrArg Prod.fst hrun, congrArg Prod.snd hrun⟩
  · intro other o hother ho
    refine unaffected_of_unmeasured s ?_
    rcases ho with rfl | ⟨seconds, rfl⟩
    · rw [measured?, hother, if_neg Bool.false_ne_true]
    · rw [measured?, hother, if_neg Bool.false_ne_true]
  · intro seconds other steps hsame hnone
    have hrecorded : (s.step (.operate (.recordSkew host seconds))).reply (.skew host) = seconds := by
      rw [skew_step, measured?, if_pos hself, Option.getD_some]
    dsimp only
    rw [reply_adjustedNow, skew_of_unmeasured hsame hnone, hrecorded, toNat_shift]
    rfl

/-- A server is four and a half seconds ahead, and its host is named in capitals later on. -/
theorem adjusted_to_measurement_ahead :
    let seen : State := ⟨1000, {}, []⟩
    let steps := [Step.operate (.extend .scheduler 5), .setClock 10000]
    let later := (seen.step (.operate (.observeClock "h.example" 5500))).history steps
    sameHost "H.example" "h.example" = true ∧
      measurements "h.example" (seen.step (.operate (.observeClock "h.example" 5500))) steps = [] ∧
      later.reply (.skew "H.example") = 4 ∧ Tracks 5500 1000 10000 (later.reply (.adjustedNow "H.example")) := by
  intro seen steps later
  have hsame : sameHost "H.example" "h.example" = true := by decide
  have hnone : measurements "h.example" (seen.step (.operate (.observeClock "h.example" 5500))) steps = [] := rfl
  obtain ⟨-, hmeasured⟩ := (adjusted_to_measurement seen "h.example" 5500).1 ⟨by decide, by decide⟩
  obtain ⟨hskew, htracks⟩ := hmeasured "H.example" steps hsame hnone
  exact ⟨hsame, hnone, hskew, htracks (by decide)⟩

/-- Where a server's clock would show more than 64 bits can, the time that is told for it stays far behind. -/
theorem told_short_of_expected :
    let seen : State := ⟨0, {}, []⟩
    let later := (seen.step (.operate (.observeClock "h" 0x7FFFFFFFFFFFFFFF))).history [.setClock 0xFFFFFFFFFFFFFFFF]
    measurements "h" (seen.step (.operate (.observeClock "h" 0x7FFFFFFFFFFFFFFF))) [.setClock 0xFFFFFFFFFFFFFFFF] = [] ∧
      seen.clock ≤ later.clock ∧
      ¬ (((later.reply (.adjustedNow "h")).toNat : Int) -
        expected 0x7FFFFFFFFFFFFFFF seen.clock later.clock).natAbs ≤ 999 := by
  refine ⟨rfl, by decide, ?_⟩
  decide

end AccountSync.Ledger
