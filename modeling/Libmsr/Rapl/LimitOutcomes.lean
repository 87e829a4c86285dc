/-
  Libmsr.Rapl.LimitOutcomes

  What encoding a limit can come to: undefined, refused, or encoded.

  Raw bits are only decoded, so they always have an outcome.  Values are
  converted to `uint64_t` (the first limit's seconds through their logarithm)
  before anything is checked, and C leaves a conversion out of range undefined.
  The second limit of a package request is not looked at when the first is
  refused.
-/
import Libmsr.Rapl.LimitEncoding

namespace Libmsr

section LimitOutcomes

variable {K : Type} [Field K] [LinearOrder K] [IsStrictOrderedRing K] [FloorRing K]

/-- The bits a limit stands for in the half at `offset`: its raw bits, or else
    the fields its values convert to. -/
def RaplLimit.ownBits (limit : RaplLimit K) (u : RaplUnits K) (offset : Nat) : Word :=
  if limit.bits ≠ 0 then limit.bits
  else
    match limitFields u offset limit with
    | some (some (watts, time)) => watts <<< (0 + offset) ||| time <<< (17 + offset)
    | _ => 0

/-- `calc_pkg_rapl_limit` on one of its pointers. -/
def calcGivenLimit (R : RaplSetup K) (socket offset : Nat) :
    Option (RaplLimit K) → Option (Int × Option (RaplLimit K))
  | none => some (0, none)
  | some l => (calcRaplLimit R socket l offset).map fun r => (r.1, some r.2)

omit [IsStrictOrderedRing K] in
theorem calcPkgRaplLimit_eq (R : RaplSetup K) (socket : Nat)
    (limit1 limit2 : Option (RaplLimit K)) :
    calcPkgRaplLimit R socket limit1 limit2 =
      (calcGivenLimit R socket 0 limit1).bind fun r1 =>
        if r1.1 ≠ 0 then some (-1, r1.2, limit2)
        else (calcGivenLimit R socket 32 limit2).bind fun r2 =>
          if r2.1 ≠ 0 then some (-1, r1.2, r2.2) else some (0, r1.2, r2.2) := by
  cases limit1 <;> cases limit2 <;> rfl

omit [IsStrictOrderedRing K] in
theorem calcGivenLimit_isSome {R : RaplSetup K} {socket offset : Nat}
    {limit l : Option (RaplLimit K)} {rc : Int}
    (h : calcGivenLimit R socket offset limit = some (rc, l)) : l.isSome = limit.isSome := by
  cases limit with
  | none =>
    obtain ⟨-, rfl⟩ : 0 = rc ∧ none = l := by simpa [calcGivenLimit] using h
    rfl
  | some limit =>
    obtain ⟨r, -, heq⟩ := Option.map_eq_some_iff.mp h
    rw [← (Prod.mk.inj heq).2]
    rfl

/-! ## Defined conversions -/

/-- A value converts to `uint64_t`. -/
def InU64 (x : K) : Prop := -1 < x ∧ x < (2 ^ 64 : Nat)

/-- The conversions that encoding the limit makes are defined: none for raw bits,
    else that of the watts and that of the seconds or of their logarithm. -/
def RaplLimit.Defined (limit : RaplLimit K) (raw : Word) (offset : Nat) : Prop :=
  limit.bits = 0 → InU64 (limit.wattUnits raw) ∧
    if offset ≥ 32 then InU64 limit.seconds
    else 1 / (2 : Nat) < limit.timeUnits raw ∧ Log2.trunc (limit.timeUnits raw) < 2 ^ 64

omit [IsStrictOrderedRing K] in
theorem toU64_isSome_iff (x : K) : (toU64 x).isSome = true ↔ InU64 x := by
  rw [toU64, InU64, Nat.cast_pow, Nat.cast_ofNat]
  split
  · rename_i hrange
    exact iff_of_true rfl hrange
  · rename_i hrange
    exact iff_of_false Bool.false_ne_true hrange

omit [IsStrictOrderedRing K] in
theorem secondsToBits_isSome_iff (x : K) :
    (secondsToBits x).isSome = true ↔ 1 / (2 : Nat) < x ∧ Log2.trunc x < 2 ^ 64 := by
  rw [secondsToBits, Nat.cast_ofNat]
  split
  · rename_i hrange
    exact iff_of_true rfl hrange
  · rename_i hrange
    exact iff_of_false Bool.false_ne_true hrange

omit [IsStrictOrderedRing K] in
/-- What is made of the seconds. -/
theorem timeField_isSome_iff (limit : RaplLimit K) (raw : Word) (offset : Nat) :
    (timeField (.ofMsr raw) offset limit.seconds).isSome = true ↔
      if offset ≥ 32 then InU64 limit.seconds
      else 1 / (2 : Nat) < limit.timeUnits raw ∧ Log2.trunc (limit.timeUnits raw) < 2 ^ 64 := by
  by_cases hoff : offset ≥ 32
  · rw [timeField, if_pos hoff, if_pos hoff, toU64_isSome_iff]
  · rw [timeField, if_neg hoff, if_neg hoff, ofMsr_seconds, ← limit.timeUnits_eq,
      secondsToBits_isSome_iff]

omit [IsStrictOrderedRing K] in
theorem limitFields_isSome_iff {limit : RaplLimit K} (hbits : limit.bits = 0) (raw : Word)
    (offset : Nat) :
    (limitFields (.ofMsr raw) offset limit).isSome = true ↔ limit.Defined raw offset := by
  have hunits : limit.watts / (RaplUnits.ofMsr raw : RaplUnits K).watts = limit.wattUnits raw := by
    rw [ofMsr_watts, one_div, div_inv_eq_mul, limit.wattUnits_eq]
  rw [RaplLimit.Defined, forall_prop_of_true hbits, ← toU64_isSome_iff,
    ← timeField_isSome_iff limit raw offset, limitFields, hunits]
  -- the fields are there when both conversions are
  cases timeField (RaplUnits.ofMsr raw : RaplUnits K) offset limit.seconds with
  | none => simp
  | some time =>
    cases toU64 (limit.wattUnits raw) with
    | none => simp
    | some watts =>
      simp only [Option.bind_eq_bind, Option.bind_some, Option.isSome_some, and_self, iff_true]
      split <;> rfl

/-- **Encoding one limit** has an outcome exactly when its conversions are defined. -/
theorem calcRaplLimit_isSome_iff {R : RaplSetup K} {socket : Nat} {raw : Word}
    (hru : R.ru[socket]? = some (.ofMsr raw)) (limit : RaplLimit K) (offset : Nat) :
    (calcRaplLimit R socket limit offset).isSome = true ↔ limit.Defined raw offset := by
  by_cases hbits : limit.bits = 0
  · rw [calcRaplLimit_values hru limit hbits, Option.isSome_map, limitFields_isSome_iff hbits]
  · rw [calcRaplLimit_raw hru limit hbits]
    exact iff_of_true rfl fun h => absurd h hbits

/-! ## Refused or encoded -/

/-- The limit is given by more watts than 15 bits hold. -/
def RaplLimit.Refused (limit : RaplLimit K) (raw : Word) : Prop :=
  limit.bits = 0 ∧ limit.TooLarge raw

/-- The struct already is what encoding or decoding makes of it: values that are
    encoded as zero, or raw bits with the values they stand for. -/
def RaplLimit.Settled (limit : RaplLimit K) (u : RaplUnits K) (offset : Nat) : Prop :=
  limit.ownBits u offset = limit.bits ∧
    (limit.bits ≠ 0 → limit = decodedLimit u limit.bits offset)

section OneLimit

variable {R : RaplSetup K} {socket : Nat} {raw : Word}
  (hru : R.ru[socket]? = some (.ofMsr raw)) {offset : Nat}
include hru

omit hru in
/-- A defined conversion of the watts is refused exactly when they are too large. -/
theorem toU64_tooLarge {limit : RaplLimit K} {watts : Word}
    (h : toU64 (limit.watts / (RaplUnits.ofMsr raw : RaplUnits K).watts) = some watts) :
    watts.toNat ≥ 2 ^ 15 ↔ limit.TooLarge raw := by
  rw [ofMsr_watts, one_div, div_inv_eq_mul, ← limit.wattUnits_eq, toU64] at h
  split at h
  · rename_i hrange
    have hfloor : ⌊limit.wattUnits raw⌋₊ < 2 ^ 64 := by
      rw [Nat.floor_lt' (by omega), Nat.cast_pow, Nat.cast_ofNat]
      exact hrange.2
    rw [← Option.some.inj h, BitVec.toNat_ofNat, Nat.mod_eq_of_lt hfloor, ge_iff_le,
      Nat.le_floor_iff' (by omega), RaplLimit.TooLarge]
  · contradiction

/-- A limit is refused and left alone, or encoded; then it is unchanged exactly
    if it was settled. -/
theorem calcRaplLimit_outcome {limit l : RaplLimit K} {rc : Int}
    (h : calcRaplLimit R socket limit offset = some (rc, l)) :
    (limit.Refused raw ∧ rc = -1 ∧ l = limit) ∨
      (¬ limit.Refused raw ∧ rc = 0 ∧ l.bits = limit.ownBits (.ofMsr raw) offset ∧
        (l = limit ↔ limit.Settled (.ofMsr raw) offset)) := by
  by_cases hbits : limit.bits = 0
  · rw [calcRaplLimit_values hru limit hbits, Option.map_eq_some_iff] at h
    obtain ⟨fields, hfields, heq⟩ := h
    have hwatts : ∃ watts, toU64 (limit.watts / (RaplUnits.ofMsr raw : RaplUnits K).watts) =
        some watts ∧ (fields = none ↔ watts.toNat ≥ 2 ^ 15) := by
      simp only [limitFields, Option.bind_eq_bind, Option.bind_eq_some_iff] at hfields
      obtain ⟨time, -, watts, hwatts, hsplit⟩ := hfields
      refine ⟨watts, hwatts, ?_⟩
      by_cases hlarge : watts.toNat ≥ 2 ^ 15
      · rw [if_pos hlarge] at hsplit
        exact iff_of_true (Option.some.inj hsplit).symm hlarge
      · rw [if_neg hlarge] at hsplit
        exact iff_of_false (by simp [← Option.some.inj hsplit]) hlarge
    obtain ⟨watts, hwatts, hnone⟩ := hwatts
    rw [toU64_tooLarge hwatts] at hnone
    cases fields with
    | none =>
      obtain ⟨rfl, rfl⟩ := Prod.mk.inj heq
      exact Or.inl ⟨⟨hbits, hnone.mp rfl⟩, rfl, rfl⟩
    | some fields =>
      obtain ⟨rfl, rfl⟩ := Prod.mk.inj heq
      have hown : limit.ownBits (.ofMsr raw) offset =
          fields.1 <<< (0 + offset) ||| fields.2 <<< (17 + offset) := by
        rw [RaplLimit.ownBits, if_neg (not_not.mpr hbits), hfields]
      refine Or.inr ⟨fun href => ?_, rfl, hown.symm, ?_⟩
      · exact absurd (hnone.mpr href.2) (by simp)
      · rw [RaplLimit.Settled, hown]
        constructor
        · intro hsame
          exact ⟨congrArg RaplLimit.bits hsame, fun hne => absurd hbits hne⟩
        · rintro ⟨hsame, -⟩
          -- only the bits are set, so equal bits make equal structs
          cases limit
          simp only [RaplLimit.mk.injEq, and_true]
          exact hsame
  · rw [calcRaplLimit_raw hru limit hbits offset] at h
    obtain ⟨rfl, rfl⟩ := Prod.mk.inj (Option.some.inj h)
    have hown : limit.ownBits (.ofMsr raw) offset = limit.bits := by
      rw [RaplLimit.ownBits, if_pos hbits]
    refine Or.inr ⟨fun href => hbits href.1, rfl, hown.symm, ?_⟩
    constructor
    · intro hsame
      exact ⟨hown, fun _ => hsame.symm⟩
    · intro hset
      exact (hset.2 hbits).symm

/-- A request refuses if its limit does. -/
def GivenRefused (raw : Word) (limit : Option (RaplLimit K)) : Prop :=
  ∃ l, limit = some l ∧ l.Refused raw

/-- A struct that is given is settled. -/
def GivenSettled (raw : Word) (offset : Nat) (limit : Option (RaplLimit K)) : Prop :=
  ∀ l, limit = some l → l.Settled (.ofMsr raw) offset

/-- The same outcomes for a limit that may be NULL. -/
theorem calcGivenLimit_outcome {limit l : Option (RaplLimit K)} {rc : Int}
    (h : calcGivenLimit R socket offset limit = some (rc, l)) :
    (GivenRefused raw limit ∧ rc = -1 ∧ l = limit) ∨
      (¬ GivenRefused raw limit ∧ rc = 0 ∧
        l.map RaplLimit.bits = limit.map (·.ownBits (.ofMsr raw) offset) ∧
        (l = limit ↔ GivenSettled raw offset limit)) := by
  cases limit with
  | none =>
    obtain ⟨rfl, rfl⟩ := Prod.mk.inj (Option.some.inj h)
    exact Or.inr ⟨by simp [GivenRefused], rfl, rfl, by simp [GivenSettled]⟩
  | some limit =>
    obtain ⟨⟨rc', l'⟩, hcalc, heq⟩ := Option.map_eq_some_iff.mp h
    obtain ⟨rfl, rfl⟩ := Prod.mk.inj heq
    rcases calcRaplLimit_outcome hru hcalc with ⟨href, hrc, rfl⟩ | ⟨href, hrc, hbits, hsame⟩
    · exact Or.inl ⟨⟨_, rfl, href⟩, hrc, rfl⟩
    · refine Or.inr ⟨?_, hrc, congrArg some hbits, ?_⟩
      · rintro ⟨_, heq, href'⟩
        obtain rfl := Option.some.inj heq
        exact href href'
      · simp only [GivenSettled, Option.some.injEq, forall_eq', ← hsame]

/-- The outcomes of a package request: limit 1 refused, limit 2 refused after
    limit 1 was encoded, or both encoded. -/
theorem calcPkgRaplLimit_outcome {limit1 limit2 l₁ l₂ : Option (RaplLimit K)} {rc : Int}
    (h : calcPkgRaplLimit R socket limit1 limit2 = some (rc, l₁, l₂)) :
    (GivenRefused raw limit1 ∧ rc = -1 ∧ l₁ = limit1 ∧ l₂ = limit2) ∨
      (¬ GivenRefused raw limit1 ∧ (l₁ = limit1 ↔ GivenSettled raw 0 limit1) ∧
        ((GivenRefused raw limit2 ∧ rc = -1 ∧ l₂ = limit2) ∨
          (¬ GivenRefused raw limit2 ∧ rc = 0 ∧
            l₁.map RaplLimit.bits = limit1.map (·.ownBits (.ofMsr raw) 0) ∧
            l₂.map RaplLimit.bits = limit2.map (·.ownBits (.ofMsr raw) 32) ∧
            (l₂ = limit2 ↔ GivenSettled raw 32 limit2)))) := by
  have hfail : (-1 : Int) ≠ 0 := by omega
  have hok : ¬ (0 : Int) ≠ 0 := by omega
  rw [calcPkgRaplLimit_eq, Option.bind_eq_some_iff] at h
  obtain ⟨⟨rc1, l₁'⟩, hcalc1, h⟩ := h
  rcases calcGivenLimit_outcome hru hcalc1 with ⟨href1, rfl, rfl⟩ | ⟨href1, rfl, hbits1, hsame1⟩
  · rw [if_pos hfail] at h
    simp only [Option.some.injEq, Prod.mk.injEq] at h
    obtain ⟨rfl, rfl, rfl⟩ := h
    exact Or.inl ⟨href1, rfl, rfl, rfl⟩
  · rw [if_neg hok, Option.bind_eq_some_iff] at h
    obtain ⟨⟨rc2, l₂'⟩, hcalc2, h⟩ := h
    rcases calcGivenLimit_outcome hru hcalc2 with ⟨href2, rfl, rfl⟩ | ⟨href2, rfl, hbits2, hsame2⟩
    · rw [if_pos hfail] at h
      simp only [Option.some.injEq, Prod.mk.injEq] at h
      obtain ⟨rfl, rfl, rfl⟩ := h
      exact Or.inr ⟨href1, hsame1, Or.inl ⟨href2, rfl, rfl⟩⟩
    · rw [if_neg hok] at h
      simp only [Option.some.injEq, Prod.mk.injEq] at h
      obtain ⟨rfl, rfl, rfl⟩ := h
      exact Or.inr ⟨href1, hsame1, Or.inr ⟨href2, rfl, hbits1, hbits2, hsame2⟩⟩

end OneLimit

/-! ## Defined requests -/

/-- The conversions of a limit that is given are defined. -/
def GivenDefined (raw : Word) (offset : Nat) (limit : Option (RaplLimit K)) : Prop :=
  ∀ l, limit = some l → l.Defined raw offset

/-- All conversions that a package request makes are defined. -/
def PkgDefined (raw : Word) (limit1 limit2 : Option (RaplLimit K)) : Prop :=
  GivenDefined raw 0 limit1 ∧ (¬ GivenRefused raw limit1 → GivenDefined raw 32 limit2)

section Requests

variable {R : RaplSetup K} {socket : Nat} {raw : Word}
  (hru : R.ru[socket]? = some (.ofMsr raw))
include hru

theorem calcGivenLimit_isSome_iff (offset : Nat) (limit : Option (RaplLimit K)) :
    (calcGivenLimit R socket offset limit).isSome = true ↔ GivenDefined raw offset limit := by
  cases limit with
  | none => exact iff_of_true rfl fun l hl => nomatch hl
  | some l =>
    rw [calcGivenLimit, Option.isSome_map, calcRaplLimit_isSome_iff hru, GivenDefined]
    simp only [Option.some.injEq, forall_eq']

/-- **Encoding a request** has an outcome exactly when its conversions are defined. -/
theorem calcPkgRaplLimit_isSome_iff (limit1 limit2 : Option (RaplLimit K)) :
    (calcPkgRaplLimit R socket limit1 limit2).isSome = true ↔ PkgDefined raw limit1 limit2 := by
  rw [calcPkgRaplLimit_eq, PkgDefined, ← calcGivenLimit_isSome_iff hru 0,
    ← calcGivenLimit_isSome_iff hru 32]
  cases hcalc1 : calcGivenLimit R socket 0 limit1 with
  | none => simp
  | some r =>
    rw [Option.bind_some]
    rcases calcGivenLimit_outcome hru hcalc1 with ⟨href, hrc, -⟩ | ⟨href, hrc, -⟩
    · -- limit 2 is not looked at
      rw [if_pos (by omega)]
      exact iff_of_true rfl ⟨rfl, fun hnot => absurd href hnot⟩
    · rw [if_neg (by omega)]
      cases calcGivenLimit R socket 32 limit2 with
      | none => simp [href]
      | some r₂ =>
        rw [Option.bind_some]
        refine iff_of_true ?_ ⟨rfl, fun _ => rfl⟩
        split <;> rfl

end Requests

/-! ## Accesses -/

section Accesses

variable (R : RaplSetup K) (h : Host) (socket : BitVec 32)

/-- The current value is needed and cannot be read. -/
def ReadLost (limit1 limit2 : Option (RaplLimit K)) : Prop :=
  readsCurrent limit1 limit2 = true ∧ h.fails (socketCpu R socket) msrPkgPowerLimit = true

/-- Nothing stops the call: no limit is refused and no access fails. -/
structure PkgAccepted (raw : Word) (limit1 limit2 : Option (RaplLimit K)) : Prop where
  first : ¬ GivenRefused raw limit1
  second : ¬ GivenRefused raw limit2
  read : ¬ ReadLost R h socket limit1 limit2
  write : h.failsWrite (socketCpu R socket) msrPkgPowerLimit = false

end Accesses

omit [Field K] [LinearOrder K] [IsStrictOrderedRing K] [FloorRing K] in
theorem not_readLost_iff {R : RaplSetup K} {h : Host} {socket : BitVec 32}
    {limit1 limit2 : Option (RaplLimit K)} :
    ¬ ReadLost R h socket limit1 limit2 ↔ (readsCurrent limit1 limit2 = true →
      h.fails (socketCpu R socket) msrPkgPowerLimit = false) := by
  rw [ReadLost, not_and, Bool.not_eq_true]

omit [IsStrictOrderedRing K] in
/-- A call that asks for nothing reads at most. -/
theorem setPkgRaplLimit_empty {R : RaplSetup K} {h : Host} {socket : BitVec 32} {raw : Word}
    (hinit : Initialised R h socket raw) (hflag : announces R.flags pkgPowerLimit = true) :
    ∃ r, setPkgRaplLimit R h socket none none = some r ∧ r.limit1 = none ∧ r.limit2 = none ∧
      r.host.regs = h.regs ∧ r.host.writes = h.writes := by
  obtain ⟨h', hgrab, -, hregs, hwrites⟩ :=
    grabOtherLimit_spec hinit (none : Option (RaplLimit K)) none
  generalize (if readsCurrent (none : Option (RaplLimit K)) none &&
    h.fails (socketCpu R socket) msrPkgPowerLimit then (-1 : Int) else 0) = ret at hgrab
  refine ⟨⟨ret, none, none, h'⟩, ?_, rfl, rfl, hregs, hwrites⟩
  simp only [setPkgRaplLimit, hflag, if_true, hgrab, calcPkgRaplLimit, Option.bind_eq_bind,
    Option.bind_some, ne_eq, not_true_eq_false, if_false, Option.isSome_none, Bool.or_self,
    Bool.false_eq_true]

/-- **A package call** has an outcome exactly when the register is missing or its
    conversions are defined. -/
theorem setPkgRaplLimit_isSome_iff {R : RaplSetup K} {socket : BitVec 32} {raw : Word}
    (hru : R.ru[socket.toNat]? = some (.ofMsr raw)) (h : Host)
    (limit1 limit2 : Option (RaplLimit K)) :
    (setPkgRaplLimit R h socket limit1 limit2).isSome = true ↔
      (announces R.flags pkgPowerLimit = true → PkgDefined raw limit1 limit2) := by
  rw [← calcPkgRaplLimit_isSome_iff hru]
  cases hflag : announces R.flags pkgPowerLimit with
  | false => simp [setPkgRaplLimit, hflag]
  | true =>
    rw [forall_prop_of_true rfl]
    cases hcalc : calcPkgRaplLimit R socket.toNat limit1 limit2 with
    | none =>
      rw [setPkgRaplLimit_none hflag hcalc]
      rfl
    | some r =>
      simp only [setPkgRaplLimit, hflag, if_true, hcalc, Option.bind_eq_bind, Option.bind_some,
        Option.isSome_some, iff_true]
      -- refused, written, or nothing asked for
      split
      · rfl
      · split <;> rfl

/-- **A DRAM call** likewise. -/
theorem setDramRaplLimit_isSome_iff {R : RaplSetup K} {socket : BitVec 32} {raw : Word}
    (hru : R.ru[socket.toNat]? = some (.ofMsr raw)) (h : Host) (limit : Option (RaplLimit K)) :
    (setDramRaplLimit R h socket limit).isSome = true ↔
      (announces R.flags dramPowerLimit = true → GivenDefined raw 0 limit) := by
  cases hflag : announces R.flags dramPowerLimit with
  | false => simp [setDramRaplLimit, hflag]
  | true =>
    rw [forall_prop_of_true rfl]
    cases limit with
    | none =>
      refine iff_of_true ?_ fun l hl => absurd hl (Option.some_ne_none l).symm
      simp only [setDramRaplLimit, hflag, if_true, Option.isSome_some]
    | some l =>
      have hone := calcRaplLimit_isSome_iff hru l 0
      simp only [GivenDefined, Option.some.injEq, forall_eq']
      rw [← hone]
      cases hcalc : calcRaplLimit R socket.toNat l 0 with
      | none =>
        rw [setDramRaplLimit_none hflag hcalc]
        rfl
      | some r =>
        simp only [setDramRaplLimit, calcStdRaplLimit, hflag, if_true, hcalc, Option.bind_eq_bind,
          Option.bind_some, Option.isSome_some, iff_true]
        split <;> rfl

end LimitOutcomes

end Libmsr
