/-
  Libmsr.Powmon.Timer

  The interval timer of powmon (demoapps/powmon/ghighres.c): `init_msTimer`,
  `init_sync_msTimer` and `timer_sleep`.

  The clock is read once by each function and is an argument here.  `sleep_ms` changes
  nothing that the functions use.
-/
import Libmsr.Lib.Loops
import Libmsr.Lib.Runs
import Libmsr.Rapl.Units

namespace Libmsr

/-- `struct mstimer`. -/
structure MsTimer where
  startms : Word
  step : BitVec 32
  interval : BitVec 32
  nextms : Word
  deriving Repr, DecidableEq

namespace MsTimer

/-- `t->startms + t->step * t->interval`: the product is a `uint`. -/
def deadline (t : MsTimer) : Word := t.startms + (t.step * t.interval).setWidth 64

/-- `t->step++`, and the deadline of that step. -/
def advance (t : MsTimer) : MsTimer :=
  let t := { t with step := t.step + 1 }
  { t with nextms := t.deadline }

end MsTimer

/-- `init_sync_msTimer`. -/
def initSyncMsTimer (msInterval : BitVec 32) (start : Word) : MsTimer :=
  let t : MsTimer := ⟨start, 1, msInterval, 0⟩
  { t with nextms := t.deadline }

/-- `init_msTimer` at the time `now`. -/
def initMsTimer (msInterval : BitVec 32) (now : Word) : MsTimer := initSyncMsTimer msInterval now

/-- A round of `while (t->nextms <= now)`, on the timer and `cadd`.  The `int` overflows, and
    the round has no outcome, where `cadd` is the largest there is. -/
def catchUpBody (now : Word) (s : MsTimer × Int) : Option (Loops.Round (MsTimer × Int) Int) :=
  if s.1.nextms ≤ now then
    if s.2 + 1 < 2 ^ 31 then some (.again (s.1.advance, s.2 + 1)) else none
  else some (.done s.2 s)

/-- `timer_sleep` at the time `now`: return value and timer.  After `2 ^ 31` rounds `cadd` has
    overflowed. -/
def timerSleep (t : MsTimer) (now : Word) : Option (Int × MsTimer) :=
  if t.nextms ≤ now then
    (Loops.rounds (catchUpBody now) (2 ^ 31) (t, 0)).map fun r => (r.1, r.2.1)
  else some (0, t.advance)

/-- The timer after a call. -/
def timerStep (t : MsTimer) (now : Word) : Option MsTimer := (timerSleep t now).map Prod.snd

section Rounds

variable {now : Word} {s s' : MsTimer × Int}

theorem catchUpBody_again_iff : catchUpBody now s = some (.again s') ↔
    s.1.nextms ≤ now ∧ s.2 + 1 < 2 ^ 31 ∧ s' = (s.1.advance, s.2 + 1) := by
  unfold catchUpBody
  split_ifs with hlate hover
  · rw [Option.some.injEq, Loops.Round.again.injEq]
    exact ⟨fun h => ⟨hlate, hover, h.symm⟩, fun h => h.2.2.symm⟩
  · exact iff_of_false (fun h => nomatch h) fun h => hover h.2.1
  · exact iff_of_false (fun h => nomatch h) fun h => hlate h.1

theorem catchUpBody_done_iff {r : Int} : catchUpBody now s = some (.done r s') ↔
    ¬ s.1.nextms ≤ now ∧ r = s.2 ∧ s' = s := by
  unfold catchUpBody
  split_ifs with hlate hover
  · exact iff_of_false (fun h => nomatch h) fun h => h.1 hlate
  · exact iff_of_false (fun h => nomatch h) fun h => h.1 hlate
  · rw [Option.some.injEq, Loops.Round.done.injEq]
    exact ⟨fun h => ⟨hlate, h.1.symm, h.2.symm⟩, fun h => ⟨h.2.1.symm, h.2.2.symm⟩⟩

end Rounds

/-- With more rounds the loop would come to the same. -/
theorem catchUp_fuel (now : Word) (extra : Nat) {fuel : Nat} {t : MsTimer} {cadd : Int}
    (hlt : cadd < 2 ^ 31) (hfuel : 2 ^ 31 ≤ fuel + cadd) :
    Loops.rounds (catchUpBody now) (fuel + extra) (t, cadd) =
      Loops.rounds (catchUpBody now) fuel (t, cadd) := by
  induction fuel generalizing t cadd with
  | zero => omega
  | succ fuel ih =>
    have hsucc : fuel + 1 + extra = fuel + extra + 1 := by omega
    rw [hsucc]
    by_cases hlate : t.nextms ≤ now
    · by_cases hover : cadd + 1 < 2 ^ 31
      · have hbody := catchUpBody_again_iff (s := (t, cadd)).mpr ⟨hlate, hover, rfl⟩
        rw [Loops.rounds_again hbody, Loops.rounds_again hbody]
        exact ih hover (by push_cast at hfuel; omega)
      · have hbody : catchUpBody now (t, cadd) = none := by
          rw [catchUpBody, if_pos hlate, if_neg hover]
        rw [Loops.rounds, Loops.rounds, hbody]
    · have hbody := catchUpBody_done_iff (s := (t, cadd)).mpr ⟨hlate, rfl, rfl⟩
      rw [Loops.rounds_done hbody, Loops.rounds_done hbody]

end Libmsr
