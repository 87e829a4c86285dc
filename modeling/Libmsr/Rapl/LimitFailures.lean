/-
  Libmsr.Rapl.LimitFailures

  Setting power limits when accesses fail.

  A failed read of the current value does not stop `set_pkg_rapl_limit`: the word
  is composed from zero and written, and only the return code tells.  The
  caller's structs are rewritten while they are encoded, before the call can
  still fail.  `set_dram_rapl_limit` drops the return code of its write.  The
  theorem says exactly when a call has an outcome, leaves register and structs
  alone if it failed, and has set the register if not.
-/
import Libmsr.Rapl.LimitHalves

namespace Libmsr

section LimitFailures

variable {K : Type} [Field K] [LinearOrder K] [IsStrictOrderedRing K] [FloorRing K]

/-! ## Failure safety -/

/-- A limit's own bits with its enable and clamp bits; nothing for NULL. -/
def ownWord (u : RaplUnits K) (offset : Nat) (limit : Option (RaplLimit K)) : Word :=
  match limit with
  | none => 0
  | some l =>
    l.ownBits u offset ||| ((1 : Word) <<< (15 + offset)) ||| ((1 : Word) <<< (16 + offset))

/-- The word a request composes over the current value. -/
def requestWord (raw current : Word) (limit1 limit2 : Option (RaplLimit K)) : Word :=
  keptHalf current limit1 limit2 ||| ownWord (.ofMsr raw) 0 limit1 |||
    ownWord (.ofMsr raw) 32 limit2

omit [IsStrictOrderedRing K] in
theorem composedWord_eq {h : Host} {cpu : Nat} {raw : Word}
    {limit1 limit2 l₁ l₂ : Option (RaplLimit K)}
    (h1 : l₁.map RaplLimit.bits = limit1.map (·.ownBits (.ofMsr raw) 0))
    (h2 : l₂.map RaplLimit.bits = limit2.map (·.ownBits (.ofMsr raw) 32)) :
    composedWord h cpu limit1 limit2 l₁ l₂ =
      requestWord raw (currentValue h cpu msrPkgPowerLimit) limit1 limit2 := by
  have hown1 : enabled1 l₁ = ownWord (.ofMsr raw) 0 limit1 := by
    cases l₁ <;> cases limit1 <;> simp_all [enabled1, ownWord]
  have hown2 : enabled2 l₂ = ownWord (.ofMsr raw) 32 limit2 := by
    cases l₂ <;> cases limit2 <;> simp_all [enabled2, ownWord]
  rw [composedWord, requestWord, hown1, hown2]

section Safety

variable (R : RaplSetup K) (h : Host) (socket : BitVec 32) (raw : Word)

/-- A package call that does not return 0 has changed neither the register nor
    the structs; one that returns 0 on a request has set the register to the
    composed word. -/
def PkgFailureSafe (limit1 limit2 : Option (RaplLimit K)) (r : PkgLimitResult K) : Prop :=
  (r.rc ≠ 0 →
    r.host.regs (socketCpu R socket) msrPkgPowerLimit =
      h.regs (socketCpu R socket) msrPkgPowerLimit ∧ r.limit1 = limit1 ∧ r.limit2 = limit2) ∧
  (r.rc = 0 → (limit1.isSome || limit2.isSome) = true →
    r.host.regs (socketCpu R socket) msrPkgPowerLimit =
      requestWord raw (h.regs (socketCpu R socket) msrPkgPowerLimit) limit1 limit2)

/-- The same of a DRAM call. -/
def DramFailureSafe (limit : Option (RaplLimit K)) (r : DramLimitResult K) : Prop :=
  (r.rc ≠ 0 →
    r.host.regs (socketCpu R socket) msrDramPowerLimit =
      h.regs (socketCpu R socket) msrDramPowerLimit ∧ r.limit = limit) ∧
  (r.rc = 0 → ∀ l, limit = some l →
    r.host.regs (socketCpu R socket) msrDramPowerLimit =
      l.ownBits (.ofMsr raw) 0 ||| ((1 : Word) <<< 15))

/-- The conversions are defined, and wherever the call fails, what it has done by
    then makes no difference: a struct that was encoded was settled, and a register
    that was written although the read was lost held that word already. -/
def PkgHarmless (limit1 limit2 : Option (RaplLimit K)) : Prop :=
  announces R.flags pkgPowerLimit = true → PkgDefined raw limit1 limit2 ∧
    ((limit1.isSome || limit2.isSome) = true → ¬ GivenRefused raw limit1 →
      (GivenRefused raw limit2 → GivenSettled raw 0 limit1) ∧
      (¬ GivenRefused raw limit2 →
        (ReadLost R h socket limit1 limit2 ∨
            h.failsWrite (socketCpu R socket) msrPkgPowerLimit = true →
          GivenSettled raw 0 limit1 ∧ GivenSettled raw 32 limit2) ∧
        (ReadLost R h socket limit1 limit2 →
            h.failsWrite (socketCpu R socket) msrPkgPowerLimit = false →
          requestWord raw 0 limit1 limit2 = h.regs (socketCpu R socket) msrPkgPowerLimit)))

/-- The conversions of a DRAM limit are defined, and one that is not refused can be
    written, or is in the register already. -/
def DramHarmless (limit : Option (RaplLimit K)) : Prop :=
  announces R.flags dramPowerLimit = true → GivenDefined raw 0 limit ∧
    ∀ l, limit = some l → ¬ l.Refused raw →
      h.failsWrite (socketCpu R socket) msrDramPowerLimit = true →
        l.ownBits (.ofMsr raw) 0 ||| ((1 : Word) <<< 15) =
          h.regs (socketCpu R socket) msrDramPowerLimit

/-- A package call has an outcome, and that outcome keeps to the return code. -/
def PkgCallSafe (limit1 limit2 : Option (RaplLimit K)) : Prop :=
  ∃ r, setPkgRaplLimit R h socket limit1 limit2 = some r ∧
    PkgFailureSafe R h socket raw limit1 limit2 r

/-- The same of a DRAM call. -/
def DramCallSafe (limit : Option (RaplLimit K)) : Prop :=
  ∃ r, setDramRaplLimit R h socket limit = some r ∧ DramFailureSafe R h socket raw limit r

variable {R h socket raw} (hinit : Initialised R h socket raw)
include hinit

omit hinit [IsStrictOrderedRing K] in
/-- A request whose limits were both encoded is written, unless the write fails;
    it returns 0 if neither access is lost. -/
theorem pkgFailureSafe_written {limit1 limit2 l₁ l₂ : Option (RaplLimit K)} {r : PkgLimitResult K}
    (hreq : (limit1.isSome || limit2.isSome) = true) (hlimit1 : r.limit1 = l₁)
    (hlimit2 : r.limit2 = l₂)
    (hrc : r.rc = 0 ↔ ¬ ReadLost R h socket limit1 limit2 ∧
      h.failsWrite (socketCpu R socket) msrPkgPowerLimit = false)
    (hregs : r.host.regs (socketCpu R socket) msrPkgPowerLimit =
      if h.failsWrite (socketCpu R socket) msrPkgPowerLimit then
        h.regs (socketCpu R socket) msrPkgPowerLimit
      else requestWord raw (currentValue h (socketCpu R socket) msrPkgPowerLimit) limit1 limit2)
    (hsame1 : l₁ = limit1 ↔ GivenSettled raw 0 limit1)
    (hsame2 : l₂ = limit2 ↔ GivenSettled raw 32 limit2) :
    PkgFailureSafe R h socket raw limit1 limit2 r ↔
      (ReadLost R h socket limit1 limit2 ∨
          h.failsWrite (socketCpu R socket) msrPkgPowerLimit = true →
        GivenSettled raw 0 limit1 ∧ GivenSettled raw 32 limit2) ∧
      (ReadLost R h socket limit1 limit2 →
          h.failsWrite (socketCpu R socket) msrPkgPowerLimit = false →
        requestWord raw 0 limit1 limit2 = h.regs (socketCpu R socket) msrPkgPowerLimit) := by
  rw [PkgFailureSafe, hlimit1, hlimit2, hsame1, hsame2, hregs, ne_eq, hrc]
  cases hwrite : h.failsWrite (socketCpu R socket) msrPkgPowerLimit with
  | true => simp
  | false =>
    by_cases hlost : ReadLost R h socket limit1 limit2
    · -- composed from zero and written all the same
      have hzero : currentValue h (socketCpu R socket) msrPkgPowerLimit = 0 := by
        rw [currentValue, if_pos hlost.2]
      simp only [hzero, hlost, not_true_eq_false, not_false_eq_true, true_or,
        forall_true_left, Bool.false_eq_true, if_false, false_implies, and_true]
      exact and_comm
    · have hread : readsCurrent limit1 limit2 = true →
          h.fails (socketCpu R socket) msrPkgPowerLimit = false := by
        intro hneed
        cases hfail : h.fails (socketCpu R socket) msrPkgPowerLimit with
        | true => exact absurd ⟨hneed, hfail⟩ hlost
        | false => rfl
      simp [hlost, hreq, requestWord, keptHalf_currentValue hread]

omit [IsStrictOrderedRing K] in
/-- A call that asks for nothing leaves everything alone. -/
theorem pkgFailureSafe_empty (hflag : announces R.flags pkgPowerLimit = true)
    {r : PkgLimitResult K} (hset : setPkgRaplLimit R h socket none none = some r) :
    PkgFailureSafe R h socket raw none none r := by
  obtain ⟨r', hset', hlimit1, hlimit2, hregs, -⟩ := setPkgRaplLimit_empty hinit hflag
  obtain rfl := Option.some.inj (hset'.symm.trans hset)
  exact ⟨fun _ => ⟨by rw [hregs], hlimit1, hlimit2⟩, fun _ hreq => absurd hreq (by simp)⟩

omit [IsStrictOrderedRing K] in
/-- A refused call is safe if the structs it encoded before come back unchanged. -/
theorem pkgFailureSafe_refused {limit1 limit2 l₁ l₂ : Option (RaplLimit K)} {rc : Int}
    {r : PkgLimitResult K} (hflag : announces R.flags pkgPowerLimit = true) (hrc : rc ≠ 0)
    (hcalc : calcPkgRaplLimit R socket.toNat limit1 limit2 = some (rc, l₁, l₂))
    (hset : setPkgRaplLimit R h socket limit1 limit2 = some r) :
    PkgFailureSafe R h socket raw limit1 limit2 r ↔ l₁ = limit1 ∧ l₂ = limit2 := by
  obtain ⟨r', hset', hfail, hlimit1, hlimit2, hregs, -⟩ :=
    setPkgRaplLimit_refused hinit hflag hrc hcalc
  obtain rfl := Option.some.inj (hset'.symm.trans hset)
  rw [PkgFailureSafe, hfail, hlimit1, hlimit2, hregs]
  simp

/-- The outcome of a package call. -/
theorem pkgFailureSafe_iff {limit1 limit2 : Option (RaplLimit K)} {r : PkgLimitResult K}
    (hset : setPkgRaplLimit R h socket limit1 limit2 = some r) :
    PkgFailureSafe R h socket raw limit1 limit2 r ↔ PkgHarmless R h socket raw limit1 limit2 := by
  cases hflag : announces R.flags pkgPowerLimit with
  | false =>
    rw [setPkgRaplLimit, hflag, if_neg Bool.false_ne_true] at hset
    obtain rfl := Option.some.inj hset
    refine iff_of_true ⟨fun _ => ⟨rfl, rfl, rfl⟩, fun hrc => absurd hrc (by simp)⟩ ?_
    intro htrue
    rw [hflag] at htrue
    exact absurd htrue Bool.false_ne_true
  | true =>
    rw [PkgHarmless, forall_prop_of_true hflag, ← calcPkgRaplLimit_isSome_iff hinit.units]
    rcases hcalc : calcPkgRaplLimit R socket.toNat limit1 limit2 with _ | ⟨rc, l₁, l₂⟩
    · rw [setPkgRaplLimit_none hflag hcalc] at hset
      contradiction
    · rw [Option.isSome_some, eq_self, true_and]
      cases hreq : (limit1.isSome || limit2.isSome) with
      | false =>
        rw [Bool.or_eq_false_iff, Option.isSome_eq_false_iff, Option.isNone_iff_eq_none,
          Option.isSome_eq_false_iff, Option.isNone_iff_eq_none] at hreq
        obtain ⟨rfl, rfl⟩ := hreq
        -- nothing is asked for
        exact iff_of_true (pkgFailureSafe_empty hinit hflag hset) (by simp)
      | true =>
        rw [forall_prop_of_true rfl]
        rcases calcPkgRaplLimit_outcome hinit.units hcalc with
          ⟨href1, rfl, hl1, hl2⟩ |
          ⟨href1, hsame1, ⟨href2, rfl, hl2⟩ | ⟨href2, rfl, hbits1, hbits2, hsame2⟩⟩
        · -- limit 1 is refused before anything is encoded
          rw [pkgFailureSafe_refused hinit hflag (by omega) hcalc hset]
          exact iff_of_true ⟨hl1, hl2⟩ fun hnot => absurd href1 hnot
        · -- limit 2 is refused when limit 1 has been encoded
          rw [pkgFailureSafe_refused hinit hflag (by omega) hcalc hset, hsame1]
          simp [href1, href2, hl2]
        · -- both are encoded, and the word is written
          have hreq' : (l₁.isSome || l₂.isSome) = true := by
            have hsome1 := congrArg Option.isSome hbits1
            have hsome2 := congrArg Option.isSome hbits2
            simp only [Option.isSome_map] at hsome1 hsome2
            rw [hsome1, hsome2, hreq]
          obtain ⟨r', hset', hlimit1, hlimit2, hrc, hregs, -, -⟩ :=
            setPkgRaplLimit_written hinit hflag hreq' hcalc
          obtain rfl := Option.some.inj (hset'.symm.trans hset)
          rw [← not_readLost_iff] at hrc
          have hplace : r'.host.regs (socketCpu R socket) msrPkgPowerLimit =
              if h.failsWrite (socketCpu R socket) msrPkgPowerLimit then
                h.regs (socketCpu R socket) msrPkgPowerLimit
              else requestWord raw (currentValue h (socketCpu R socket) msrPkgPowerLimit)
                limit1 limit2 := by
            rw [hregs, ← composedWord_eq hbits1 hbits2]
            cases h.failsWrite (socketCpu R socket) msrPkgPowerLimit <;> simp
          rw [forall_prop_of_true href1, pkgFailureSafe_written hreq hlimit1 hlimit2 hrc hplace
            hsame1 hsame2]
          simp only [href2, false_implies, not_false_eq_true, forall_true_left, true_and]

/-- The outcome of a DRAM call. -/
theorem dramFailureSafe_iff {limit : Option (RaplLimit K)} {r : DramLimitResult K}
    (hset : setDramRaplLimit R h socket limit = some r) :
    DramFailureSafe R h socket raw limit r ↔ DramHarmless R h socket raw limit := by
  have hdef := (setDramRaplLimit_isSome_iff hinit.units h limit).mp (by rw [hset]; rfl)
  cases hflag : announces R.flags dramPowerLimit with
  | false =>
    simp only [setDramRaplLimit, hflag, Bool.false_eq_true, if_false, Option.some.injEq] at hset
    obtain rfl := hset
    refine iff_of_true ⟨fun _ => ⟨rfl, rfl⟩, fun hrc => absurd hrc (by simp)⟩ ?_
    intro htrue
    rw [hflag] at htrue
    exact absurd htrue Bool.false_ne_true
  | true =>
    rw [DramHarmless, forall_prop_of_true hflag, and_iff_right (hdef hflag)]
    cases limit with
    | none =>
      simp only [setDramRaplLimit, hflag, if_true, Option.some.injEq] at hset
      obtain rfl := hset
      exact iff_of_true ⟨fun hrc => absurd rfl hrc, fun _ l hl => absurd hl (by simp)⟩ (by simp)
    | some limit =>
      rcases hcalc : calcStdRaplLimit R socket.toNat limit with _ | ⟨rc, l⟩
      · rw [setDramRaplLimit_none hflag hcalc] at hset
        contradiction
      · rcases calcRaplLimit_outcome hinit.units hcalc with
          ⟨href, rfl, rfl⟩ | ⟨href, rfl, hbits, -⟩
        · rw [setDramRaplLimit_refused hflag (by omega) hcalc] at hset
          obtain rfl := Option.some.inj hset
          refine iff_of_true ⟨fun _ => ⟨rfl, rfl⟩, fun hrc => absurd hrc (by simp)⟩ ?_
          intro l' hl' hnot
          rw [← Option.some.inj hl'] at hnot
          exact absurd href hnot
        · obtain ⟨r', hset', hrc, hregs, -⟩ := setDramRaplLimit_written hflag hinit hcalc
          obtain rfl := Option.some.inj (hset'.symm.trans hset)
          rw [DramFailureSafe, hrc, hregs, hbits]
          -- the return code is 0 either way
          cases hwrite : h.failsWrite (socketCpu R socket) msrDramPowerLimit with
          | true => simp [href, eq_comm]
          | false => simp

/-- **Package calls.** -/
theorem pkgCallSafe_iff (limit1 limit2 : Option (RaplLimit K)) :
    PkgCallSafe R h socket raw limit1 limit2 ↔ PkgHarmless R h socket raw limit1 limit2 := by
  constructor
  · rintro ⟨r, hset, hsafe⟩
    exact (pkgFailureSafe_iff hinit hset).mp hsafe
  · intro hharm
    have hsome := (setPkgRaplLimit_isSome_iff hinit.units h limit1 limit2).mpr
      fun hflag => (hharm hflag).1
    obtain ⟨r, hset⟩ := Option.isSome_iff_exists.mp hsome
    exact ⟨r, hset, (pkgFailureSafe_iff hinit hset).mpr hharm⟩

/-- **DRAM calls.** -/
theorem dramCallSafe_iff (limit : Option (RaplLimit K)) :
    DramCallSafe R h socket raw limit ↔ DramHarmless R h socket raw limit := by
  constructor
  · rintro ⟨r, hset, hsafe⟩
    exact (dramFailureSafe_iff hinit hset).mp hsafe
  · intro hharm
    have hsome := (setDramRaplLimit_isSome_iff hinit.units h limit).mpr
      fun hflag => (hharm hflag).1
    obtain ⟨r, hset⟩ := Option.isSome_iff_exists.mp hsome
    exact ⟨r, hset, (dramFailureSafe_iff hinit hset).mpr hharm⟩

/-- **Exact failure safety.**  A call has an outcome that left everything alone or did
    what was asked, as its return code says, if and only if its conversions are
    defined and what it did before it failed makes no difference. -/
theorem setFailureSafe_iff :
    (∀ limit1 limit2 : Option (RaplLimit K),
      PkgCallSafe R h socket raw limit1 limit2 ↔ PkgHarmless R h socket raw limit1 limit2) ∧
    ∀ limit : Option (RaplLimit K),
      DramCallSafe R h socket raw limit ↔ DramHarmless R h socket raw limit :=
  ⟨pkgCallSafe_iff hinit, dramCallSafe_iff hinit⟩

end Safety

end LimitFailures

/-! ## One socket -/

theorem storedLimit_not_refused : ¬ storedLimit.Refused 0xA1003 :=
  fun href => absurd href.1 (by decide)

/-- Encoding a stored word for limit 2 alone keeps its bits. -/
theorem calcPkgRaplLimit_storedLimit2 :
    ∃ l, calcPkgRaplLimit oneSocket 0 none (some storedLimit) = some (0, none, some l) ∧
      l.bits = storedLimit.bits := by
  obtain ⟨watts, seconds, h2⟩ := calcRaplLimit_storedLimit 32
  refine ⟨⟨0x0000832000008320, watts, seconds⟩, ?_, rfl⟩
  rw [calcPkgRaplLimit_eq, calcGivenLimit, calcGivenLimit, h2]
  rfl

/-- Where every access succeeds, setting a stored word keeps to the return code. -/
theorem storedLimits_failureSafe :
    PkgCallSafe oneSocket (.opened 1) 0 0xA1003 none (some storedLimit) ∧
      DramCallSafe oneSocket (.opened 1) 0 0xA1003 (some storedLimit) := by
  obtain ⟨hpkg, hdram⟩ := setFailureSafe_iff (K := ℚ) oneSocket_initialised
  constructor
  · refine (hpkg none (some storedLimit)).mpr fun _ => ⟨⟨fun l hl => (nomatch hl), fun _ => ?_⟩,
      fun _ _ => ⟨fun href => ?_, fun _ => ⟨?_, ?_⟩⟩⟩
    · rintro l ⟨⟩
      exact storedLimit_defined _ _
    · obtain ⟨l, hl, href⟩ := href
      rw [← Option.some.inj hl] at href
      exact absurd href storedLimit_not_refused
    · rintro (hlost | hwrite)
      · exact absurd hlost.2 (by decide)
      · exact absurd hwrite (by decide)
    · intro hlost
      exact absurd hlost.2 (by decide)
  · refine (hdram (some storedLimit)).mpr fun _ => ⟨?_, fun _ _ _ hwrite => ?_⟩
    · rintro l ⟨⟩
      exact storedLimit_defined _ _
    · exact absurd hwrite (by decide)

/-- With reads failing, a request for limit 2 alone is written over a register
    that held 0 and still does not return 0; with writes failing, a DRAM limit is
    not set and the call returns 0. -/
theorem lostAccess_not_reported :
    (∃ r, setPkgRaplLimit oneSocket { Host.opened 1 with fails := fun _ _ => true } 0 none
        (some storedLimit) = some r ∧
      ¬ PkgFailureSafe oneSocket { Host.opened 1 with fails := fun _ _ => true } 0 0xA1003 none
        (some storedLimit) r) ∧
    ∃ r, setDramRaplLimit oneSocket { Host.opened 1 with failsWrite := fun _ _ => true } 0
        (some storedLimit) = some r ∧
      ¬ DramFailureSafe oneSocket { Host.opened 1 with failsWrite := fun _ _ => true } 0 0xA1003
        (some storedLimit) r := by
  constructor
  · have hfailing : Initialised oneSocket { Host.opened 1 with fails := fun _ _ => true } 0
        0xA1003 :=
      ⟨by decide, ⟨(Host.opened_ready 1).length, (Host.opened_ready 1).entry⟩, by decide,
        oneSocket_units⟩
    obtain ⟨l, hcalc, -⟩ := calcPkgRaplLimit_storedLimit2
    obtain ⟨r, hset, -⟩ := setPkgRaplLimit_written hfailing (by decide) rfl hcalc
    refine ⟨r, hset, ?_⟩
    rw [pkgFailureSafe_iff hfailing hset]
    intro hsafe
    have hnot : ¬ GivenRefused 0xA1003 (some storedLimit) := by
      rintro ⟨l, hl, href⟩
      rw [← Option.some.inj hl] at href
      exact absurd href storedLimit_not_refused
    have hword := (((hsafe (by decide)).2 rfl (by rintro ⟨l, hl, -⟩; contradiction)).2 hnot).2
      ⟨rfl, rfl⟩ rfl
    have hown : storedLimit.ownBits (.ofMsr 0xA1003) 32 = storedLimit.bits := by
      rw [RaplLimit.ownBits, if_pos (by decide)]
    rw [requestWord, ownWord, ownWord, hown] at hword
    exact absurd hword (by decide)
  · have hfailing : Initialised oneSocket { Host.opened 1 with failsWrite := fun _ _ => true } 0
        0xA1003 :=
      ⟨by decide, ⟨(Host.opened_ready 1).length, (Host.opened_ready 1).entry⟩, by decide,
        oneSocket_units⟩
    obtain ⟨watts, seconds, hcalc⟩ := calcRaplLimit_storedLimit 0
    obtain ⟨r, hset, -⟩ := setDramRaplLimit_written (by decide) hfailing hcalc
    refine ⟨r, hset, ?_⟩
    rw [dramFailureSafe_iff hfailing hset]
    intro hsafe
    have hword := (hsafe (by decide)).2 _ rfl storedLimit_not_refused rfl
    have hown : storedLimit.ownBits (.ofMsr 0xA1003) 0 = storedLimit.bits := by
      rw [RaplLimit.ownBits, if_pos (by decide)]
    rw [hown] at hword
    exact absurd hword (by decide)

end Libmsr
