/-
  Libmsr.Rapl.LimitFrames

  Which registers the functions on limits and power information can change,
  wherever they return: the getters, `rapl_init` and `dump_rapl_power_info` none,
  `set_pkg_rapl_limit` and `set_dram_rapl_limit` the limit of one CPU.
-/
import Libmsr.Core.RegFrames
import Libmsr.Rapl.Locks
import Libmsr.Rapl.RaplDump

namespace Libmsr

section Frames

variable {K : Type} [Field K] [LinearOrder K] [FloorRing K]
  {R : RaplSetup K} {h : Host} {socket : BitVec 32}

/-! ## Getters -/

omit [Field K] [LinearOrder K] [FloorRing K] in
theorem readLimitBits_unchanged (limit : Option (RaplLimit K)) :
    h.Unchanged (readLimitBits R h socket limit).2 := by
  cases limit with
  | none => exact .refl h
  | some l => exact readMsrByCoord_unchanged R.cfg R.topo h socket 0 0 msrPkgPowerLimit l.bits

theorem getPkgRaplLimit_unchanged {limit1 limit2 : Option (RaplLimit K)} {r : PkgLimitResult K}
    (hget : getPkgRaplLimit R h socket limit1 limit2 = some r) : h.Unchanged r.host := by
  rw [getPkgRaplLimit] at hget
  split at hget
  · simp only [Option.bind_eq_bind, Option.bind_eq_some_iff] at hget
    obtain ⟨_, _, hr⟩ := hget
    obtain rfl := Option.some.inj hr
    exact (readLimitBits_unchanged limit1).trans (readLimitBits_unchanged limit2)
  · obtain rfl := Option.some.inj hget
    exact .refl h

theorem getDramRaplLimit_unchanged {limit : Option (RaplLimit K)} {r : DramLimitResult K}
    (hget : getDramRaplLimit R h socket limit = some r) : h.Unchanged r.host := by
  cases limit with
  | none =>
    obtain rfl := Option.some.inj hget
    exact .refl h
  | some l =>
    simp only [getDramRaplLimit] at hget
    split at hget
    · simp only [Option.bind_eq_bind, Option.bind_eq_some_iff] at hget
      obtain ⟨_, _, hr⟩ := hget
      obtain rfl := Option.some.inj hr
      exact readMsrByCoord_unchanged R.cfg R.topo h socket 0 0 msrDramPowerLimit l.bits
    · obtain rfl := Option.some.inj hget
      exact .refl h

omit [LinearOrder K] [FloorRing K] in
theorem getMaxTurboActivationRatio_unchanged (info : TurboActivationRatioData K) :
    h.Unchanged (getMaxTurboActivationRatio R h socket info).2.2 := by
  rw [getMaxTurboActivationRatio]
  split
  · exact readMsrByCoord_unchanged R.cfg R.topo h socket 0 0 msrTurboActivationRatio info.bits
  · exact .refl h

theorem readDomainInfo_unchanged {msr : Nat} {info info' : DomainInfo K} {h' : Host}
    (hread : readDomainInfo R h socket msr info = some (info', h')) : h.Unchanged h' := by
  simp only [readDomainInfo, Option.bind_eq_bind, Option.bind_eq_some_iff] at hread
  obtain ⟨_, _, _, _, _, _, _, _, hout⟩ := hread
  obtain ⟨-, rfl⟩ := Prod.mk.inj (Option.some.inj hout)
  exact readMsrByCoord_unchanged R.cfg R.topo h socket 0 0 msr info.msr

theorem flaggedDomainInfo_unchanged {flag : Bool} {msr : Nat} {info info' : DomainInfo K}
    {h' : Host}
    (hread : (if flag then readDomainInfo R h socket msr info else some (info, h)) =
      some (info', h')) : h.Unchanged h' := by
  cases flag with
  | true => exact readDomainInfo_unchanged hread
  | false =>
    obtain ⟨-, rfl⟩ := Prod.mk.inj (Option.some.inj hread)
    exact .refl h

theorem getRaplPowerInfo_unchanged {info info' : RaplPowerInfo K} {h' : Host}
    (hget : getRaplPowerInfo R h socket info = some (info', h')) : h.Unchanged h' := by
  simp only [getRaplPowerInfo, Option.bind_eq_bind, flagged_bind_iff] at hget
  obtain ⟨⟨pkg, h₁⟩, hpkg, hget⟩ := hget
  obtain ⟨⟨dram, h₂⟩, hdram, hout⟩ := hget
  obtain ⟨-, rfl⟩ := Prod.mk.inj (Option.some.inj hout)
  exact (flaggedDomainInfo_unchanged hpkg).trans (flaggedDomainInfo_unchanged hdram)

theorem dumpRaplPowerInfo_unchanged {info info' : RaplPowerInfo K} {out : List (RaplPrint K)}
    {h' : Host} (hdump : dumpRaplPowerInfo R h info = some (out, info', h')) :
    h.Unchanged h' := by
  refine Loops.foldlM_keeps (I := fun t : List (RaplPrint K) × RaplPowerInfo K × Host =>
    h.Unchanged t.2.2) ?_ (.refl h) hdump
  rintro ⟨out, info, h₁⟩ s t hI hbody
  simp only [Option.bind_eq_bind, Option.bind_eq_some_iff] at hbody
  obtain ⟨⟨info', h₂⟩, hget, hout⟩ := hbody
  obtain rfl := Option.some.inj hout
  exact hI.trans (getRaplPowerInfo_unchanged hget)

/-! ## rapl_init -/

section Locks

variable {s s' : LockState K}

omit [Field K] [LinearOrder K] [FloorRing K] in
theorem countIf_host (s : LockState K) (p : Prop) [Decidable p] :
    (s.countIf p).host = s.host := by
  rw [LockState.countIf]
  split <;> rfl

omit [Field K] [LinearOrder K] [FloorRing K] in
/-- Clearing flags is no access. -/
theorem clearedIf_host {p : Prop} [Decidable p] {flags : Word} {numlocked : Int}
    (hs : (if p then some { s with flags := flags, numlocked := numlocked } else some s) =
      some s') : s'.host = s.host := by
  split at hs <;>
    · obtain rfl := Option.some.inj hs
      rfl

theorem checkPkgLock_unchanged (hcheck : checkPkgLock R socket s = some s') :
    s.host.Unchanged s'.host := by
  simp only [checkPkgLock, Option.bind_eq_bind] at hcheck
  split at hcheck
  · simp only [Option.bind_eq_some_iff] at hcheck
    obtain ⟨r, hget, s₁, hs₁, hs⟩ := hcheck
    obtain rfl := Option.some.inj hs₁
    rw [clearedIf_host hs, countIf_host, countIf_host]
    exact getPkgRaplLimit_unchanged hget
  · rw [Option.bind_some] at hcheck
    rw [clearedIf_host hcheck, countIf_host]
    exact .refl s.host

theorem checkDramLock_unchanged (hcheck : checkDramLock R socket s = some s') :
    s.host.Unchanged s'.host := by
  rw [checkDramLock] at hcheck
  split at hcheck
  · simp only [Option.bind_eq_bind, Option.bind_eq_some_iff] at hcheck
    obtain ⟨r, hget, hs⟩ := hcheck
    rw [clearedIf_host hs]
    exact getDramRaplLimit_unchanged hget
  · obtain rfl := Option.some.inj hcheck
    exact .refl s.host

omit [LinearOrder K] [FloorRing K] in
theorem checkTurboLock_unchanged : s.host.Unchanged (checkTurboLock R socket s).host := by
  have hread : s.host.Unchanged
      (getMaxTurboActivationRatio { R with flags := s.flags } s.host socket s.tar).2.2 :=
    getMaxTurboActivationRatio_unchanged s.tar
  simp only [checkTurboLock]
  split
  · split
    · exact hread
    · exact hread
  · exact .refl s.host

theorem raplInit_unchanged {storage rc : Int} {rl1 rl2 : RaplLimit K}
    {tar : TurboActivationRatioData K} {flags : Word} {h' : Host}
    (hinit : raplInit R storage h rl1 rl2 tar = some (rc, flags, h')) : h.Unchanged h' := by
  rw [raplInit] at hinit
  split at hinit
  · obtain ⟨-, hrest⟩ := Prod.mk.inj (Option.some.inj hinit)
    obtain ⟨-, rfl⟩ := Prod.mk.inj hrest
    exact .refl h
  · rw [Option.map_eq_some_iff] at hinit
    obtain ⟨s, hlocks, hs⟩ := hinit
    obtain ⟨-, hrest⟩ := Prod.mk.inj hs
    obtain ⟨-, rfl⟩ := Prod.mk.inj hrest
    refine Loops.foldlM_keeps (I := fun t : LockState K => h.Unchanged t.host) ?_ (.refl h) hlocks
    intro t i t' hI hbody
    simp only [checkSocketLocks, Option.bind_eq_bind, Option.bind_eq_some_iff] at hbody
    obtain ⟨t₁, hpkg, t₂, hdram, hout⟩ := hbody
    obtain rfl := Option.some.inj hout
    exact ((hI.trans (checkPkgLock_unchanged hpkg)).trans (checkDramLock_unchanged hdram)).trans
      checkTurboLock_unchanged

end Locks

/-! ## Setters -/

variable {n : Nat} (hready : h.Ready n)
include hready

/-- `set_pkg_rapl_limit` changes the package limit of the socket's CPU at most. -/
theorem setPkgRaplLimit_within {limit1 limit2 : Option (RaplLimit K)} {r : PkgLimitResult K}
    (hset : setPkgRaplLimit R h socket limit1 limit2 = some r) :
    h.Within (fun cpu msr => cpu = coordCpu R.cfg R.topo socket 0 0 ∧ msr = msrPkgPowerLimit)
      r.host := by
  have hgrab : h.Unchanged (grabOtherLimit R h socket limit1 limit2).2.2 := by
    rw [grabOtherLimit]
    split
    · exact readMsrByCoord_unchanged R.cfg R.topo h socket 0 0 msrPkgPowerLimit 0
    · split
      · exact readMsrByCoord_unchanged R.cfg R.topo h socket 0 0 msrPkgPowerLimit 0
      · exact .refl h
  rw [setPkgRaplLimit] at hset
  split at hset
  · simp only [Option.bind_eq_bind, Option.bind_eq_some_iff] at hset
    obtain ⟨⟨rc, limit1', limit2'⟩, hcalc, hset⟩ := hset
    split at hset
    · obtain rfl := Option.some.inj hset
      exact hgrab.within _
    · split at hset
      · obtain rfl := Option.some.inj hset
        exact (hgrab.within _).trans (writeMsrByCoord_within R.cfg R.topo socket 0 0 _ _
          (Host.Within.ready hgrab hready))
      · obtain rfl := Option.some.inj hset
        exact hgrab.within _
  · obtain rfl := Option.some.inj hset
    exact .refl _ h

/-- `set_dram_rapl_limit` changes the DRAM limit of the socket's CPU at most. -/
theorem setDramRaplLimit_within {limit : Option (RaplLimit K)} {r : DramLimitResult K}
    (hset : setDramRaplLimit R h socket limit = some r) :
    h.Within (fun cpu msr => cpu = coordCpu R.cfg R.topo socket 0 0 ∧ msr = msrDramPowerLimit)
      r.host := by
  cases limit with
  | none =>
    simp only [setDramRaplLimit] at hset
    split at hset <;>
      · obtain rfl := Option.some.inj hset
        exact .refl _ h
  | some l =>
    simp only [setDramRaplLimit] at hset
    split at hset
    · simp only [Option.bind_eq_bind, Option.bind_eq_some_iff] at hset
      obtain ⟨⟨rc, l'⟩, hcalc, hset⟩ := hset
      split at hset
      · obtain rfl := Option.some.inj hset
        exact .refl _ h
      · obtain rfl := Option.some.inj hset
        exact writeMsrByCoord_within R.cfg R.topo socket 0 0 _ _ hready
    · obtain rfl := Option.some.inj hset
      exact .refl _ h

end Frames

end Libmsr
