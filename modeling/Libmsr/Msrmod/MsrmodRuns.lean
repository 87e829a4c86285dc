/-
  Libmsr.Msrmod.MsrmodRuns

  Every command line of the tool.  The loop over the options prints and lists while
  it still reads options; `msrmodPhases` is the tool in two phases, one that prints
  and one that acts on the options that were last of their kind.

  - `optionLoop_phases`: the loop is the two phases.
  - `varsOf_snoc`: one more option, the step of the induction.
  - `WorldInv`: what holds between the calls.  With it a call changes no register but
    those the command line asks for (`actOn_step`), and has an outcome unless it
    converts limits (`actOn_total`).
  - `msrmod_asked`: the whole command line.
-/
import Libmsr.Msrmod.Msrmod
import Libmsr.Rapl.LimitFrames

namespace Libmsr

/-! ## What a command line asks for -/

namespace MsrmodOption

/-- The letter of an option. -/
def letter : MsrmodOption → Char
  | v => 'v'
  | i => 'i'
  | p _ => 'p'
  | l _ => 'l'
  | r _ => 'r'
  | w _ => 'w'
  | s _ => 's'
  | c _ => 'c'
  | t _ => 't'
  | d _ => 'd'
  | a _ => 'a'
  | b _ => 'b'
  | e _ => 'e'
  | f _ => 'f'
  | unknown _ => '?'

/-- Its argument, empty where it takes none. -/
def optarg : MsrmodOption → String
  | v | i | unknown _ => ""
  | p x | l x | r x | w x | s x | c x | t x | d x | a x | b x | e x | f x => x

def known : MsrmodOption → Bool
  | unknown _ => false
  | _ => true

/-- The options that print at once. -/
def prints : MsrmodOption → Bool
  | i | p _ | l _ => true
  | _ => false

/-- The options that get or set limits, for which the library converts numbers. -/
def limits : MsrmodOption → Bool
  | p _ | s _ => true
  | _ => false

end MsrmodOption

/-- The argument of the last option with one of the letters. -/
def lastArg (letters : List Char) (opts : List MsrmodOption) : Option String :=
  (opts.filterMap fun o => if o.letter ∈ letters then some o.optarg else none).getLast?

theorem lastArg_snoc (letters : List Char) (opts : List MsrmodOption) (o : MsrmodOption) :
    lastArg letters (opts ++ [o]) =
      if o.letter ∈ letters then some o.optarg else lastArg letters opts := by
  rw [lastArg, List.filterMap_append]
  by_cases hmem : o.letter ∈ letters
  · simp only [List.filterMap_cons, List.filterMap_nil, if_pos hmem]
    exact List.getLast?_concat
  · simp only [List.filterMap_cons, List.filterMap_nil, if_neg hmem, List.append_nil]
    rfl

/-- Without an option of the letters there is no argument. -/
theorem lastArg_isSome_eq_false {letter : Char} {opts : List MsrmodOption}
    (h : ∀ o ∈ opts, o.letter ≠ letter) : (lastArg [letter] opts).isSome = false := by
  have hnone : (opts.filterMap fun o => if o.letter ∈ [letter] then some o.optarg else none) = [] :=
    List.filterMap_eq_nil_iff.mpr fun o ho => if_neg (mt List.mem_singleton.mp (h o ho))
  rw [lastArg, hnone]
  rfl

section Phases

variable {K : Type} [Field K] [LinearOrder K] [FloorRing K]

/-- The argument of a power or a time fits an `int`. -/
def Conversions.fits (conv : Conversions K) (o : MsrmodOption) : Bool :=
  o.letter ∉ ['a', 'b', 'e', 'f'] || (toInt32 (conv.atof o.optarg)).isSome

/-- The number of the last option with the letter. -/
def lastInt (conv : Conversions K) (letter : Char) (opts : List MsrmodOption) : Int :=
  ((lastArg [letter] opts).bind fun x => toInt32 (conv.atof x)).getD 0

/-- The variables a command line stands for: each is decided by the last option of its
    letter, and by `-r` and `-w` together for the register. -/
def varsOf (conv : Conversions K) (opts : List MsrmodOption) : MsrmodVars where
  isverbose := (lastArg ['v'] opts).isSome
  setMsrType := lastArg ['s'] opts
  msrData := ((lastArg ['d'] opts).map conv.strtol).getD 0
  msr := ((lastArg ['r', 'w'] opts).map conv.strtol).getD 0
  setMsrData := (lastArg ['d'] opts).isSome
  thread := ((lastArg ['t'] opts).map conv.atoi).getD 0
  socket := ((lastArg ['c'] opts).map conv.atoi).getD 0
  isread := (lastArg ['r'] opts).isSome
  iswrite := (lastArg ['w'] opts).isSome
  isset := (lastArg ['s'] opts).isSome
  powerLim1 := lastInt conv 'a' opts
  powerLim2 := lastInt conv 'e' opts
  timeLim1 := lastInt conv 'b' opts
  timeLim2 := lastInt conv 'f' opts

/-- One more option. -/
theorem varsOf_snoc (conv : Conversions K) (opts : List MsrmodOption) (o : MsrmodOption) :
    (varsOf conv opts).assign conv o =
      if conv.fits o then some (varsOf conv (opts ++ [o])) else none := by
  cases o with
  | a x | b x | e x | f x =>
    cases hx : toInt32 (conv.atof x) <;>
      simp [MsrmodVars.assign, Conversions.fits, varsOf, lastInt, lastArg_snoc,
        MsrmodOption.letter, MsrmodOption.optarg, hx]
  | _ =>
    simp [MsrmodVars.assign, Conversions.fits, varsOf, lastInt, lastArg_snoc,
      MsrmodOption.letter, MsrmodOption.optarg]

/-! ## The two phases -/

variable (R : RaplSetup K)

/-- The world after the printing options of a list. -/
def printAll (avail : Int) (opts : List (MsrmodOption × Surroundings K)) (s : MsrmodWorld K) :
    Option (MsrmodWorld K) :=
  (opts.filter fun o => o.1.prints).foldlM (fun s o => applyOption R avail o.1 o.2 s) s

/-- The tool in two phases: it handles the printing options before the first unknown
    one, and then, if there is none, does what the last options ask for. -/
def msrmodPhases (conv : Conversions K) (avail : Int)
    (opts : List (MsrmodOption × Surroundings K)) (x : Surroundings K) (s : MsrmodWorld K) :
    Option (Int × MsrmodWorld K) := do
  let known := opts.takeWhile fun o => o.1.known
  let s ← printAll R avail known s
  if known.all fun o => conv.fits o.1 then
    match opts.find? fun o => !o.1.known with
    | some (.unknown optopt, _) =>
      some (-1, s.print [.error ("Error: unknown parameter " ++ optopt.toString), .usage])
    | _ => actOn R x (varsOf conv (opts.map Prod.fst)) s
  else none

variable {R} {conv : Conversions K} {avail : Int}

theorem applyOption_silent {o : MsrmodOption} (ho : o.prints = false) (x : Surroundings K)
    (s : MsrmodWorld K) : applyOption R avail o x s = some s := by
  cases o with
  | i | p _ | l _ => contradiction
  | _ => rfl

theorem printAll_cons (o : MsrmodOption × Surroundings K)
    (opts : List (MsrmodOption × Surroundings K)) (s : MsrmodWorld K) :
    printAll R avail (o :: opts) s =
      (applyOption R avail o.1 o.2 s).bind (printAll R avail opts) := by
  cases ho : o.1.prints with
  | true =>
    simp only [printAll, List.filter_cons, ho, if_true]
    rfl
  | false =>
    simp only [printAll, List.filter_cons, ho, Bool.false_eq_true, if_false,
      applyOption_silent ho, Option.bind_some]

/-- What the loop returns, from the variables of the options before. -/
def loopResult (conv : Conversions K) (done : List MsrmodOption)
    (opts : List (MsrmodOption × Surroundings K)) (s : MsrmodWorld K) :
    Option (Option MsrmodVars × MsrmodWorld K) :=
  if (opts.takeWhile fun o => o.1.known).all fun o => conv.fits o.1 then
    match opts.find? fun o => !o.1.known with
    | some (.unknown optopt, _) =>
      some (none, s.print [.error ("Error: unknown parameter " ++ optopt.toString), .usage])
    | _ => some (some (varsOf conv (done ++ opts.map Prod.fst)), s)
  else none

theorem loopResult_cons {o : MsrmodOption} (ho : o.known = true) (x : Surroundings K)
    (done : List MsrmodOption) (opts : List (MsrmodOption × Surroundings K)) (s : MsrmodWorld K) :
    loopResult conv done ((o, x) :: opts) s =
      if conv.fits o then loopResult conv (done ++ [o]) opts s else none := by
  simp only [loopResult, List.takeWhile_cons, ho, if_true, List.all_cons, List.find?_cons,
    Bool.not_true, List.map_cons, List.append_assoc, List.singleton_append]
  cases conv.fits o with
  | true => rfl
  | false => rfl

/-- The loop is the two phases: by induction on the options, with those read before
    in `done`. -/
theorem optionLoop_phases (done : List MsrmodOption)
    (opts : List (MsrmodOption × Surroundings K)) (s : MsrmodWorld K) :
    optionLoop R conv avail opts (varsOf conv done) s =
      (printAll R avail (opts.takeWhile fun o => o.1.known) s).bind
        (loopResult conv done opts) := by
  induction opts generalizing done s with
  | nil =>
    show some (some (varsOf conv done), s) = some (some (varsOf conv (done ++ [])), s)
    rw [List.append_nil]
  | cons o opts ih =>
    obtain ⟨o, x⟩ := o
    cases ho : o.known with
    | false =>
      cases o with
      | unknown optopt => rfl
      | _ => contradiction
    | true =>
      have hcons : optionLoop R conv avail ((o, x) :: opts) (varsOf conv done) s =
          (applyOption R avail o x s).bind fun s =>
            ((varsOf conv done).assign conv o).bind fun vars =>
              optionLoop R conv avail opts vars s := by
        cases o with
        | unknown _ => contradiction
        | _ => rfl
      simp only [hcons, List.takeWhile_cons, ho, if_true, printAll_cons, varsOf_snoc,
        Option.bind_assoc]
      refine congrArg _ (funext fun s₁ => ?_)
      cases hfits : conv.fits o with
      | true =>
        rw [if_pos rfl, Option.bind_some, ih]
        refine congrArg _ (funext fun s₂ => ?_)
        rw [loopResult_cons ho, if_pos hfits]
      | false =>
        rw [if_neg Bool.false_ne_true, Option.bind_none]
        have hnone : loopResult conv done ((o, x) :: opts) = fun _ => none := by
          funext s₂
          rw [loopResult_cons ho, hfits, if_neg Bool.false_ne_true]
        rw [hnone]
        exact (Option.bind_fun_none _).symm

variable (conv) in
theorem varsOf_nil : varsOf conv [] = .start := rfl

/-- **The tool works in two phases.** -/
theorem msrmodMain_phases (opts : List (MsrmodOption × Surroundings K)) (x : Surroundings K)
    (s : MsrmodWorld K) :
    msrmodMain R conv avail opts x s = msrmodPhases R conv avail opts x s := by
  simp only [msrmodMain, msrmodPhases, Option.bind_eq_bind]
  rw [← varsOf_nil conv, optionLoop_phases, Option.bind_assoc]
  refine congrArg _ (funext fun s₁ => ?_)
  rw [loopResult, List.nil_append]
  cases (opts.takeWhile fun o => o.1.known).all fun o => conv.fits o.1 with
  | false => rfl
  | true =>
    simp only [if_true]
    split <;> rfl

/-! ## Registers -/

/-- What a command line asks for: the variables of its options, unless one of them is
    unknown. -/
def asked (conv : Conversions K) (opts : List MsrmodOption) : Option MsrmodVars :=
  if opts.all MsrmodOption.known then some (varsOf conv opts) else none

/-- The limit register `msr` of the socket. -/
def SocketRegister (R : RaplSetup K) (socket : BitVec 32) (msr : Nat) (cpu r : Nat) : Prop :=
  cpu = coordCpu R.cfg R.topo socket 0 0 ∧ r = msr

/-- The limits that `set_to_defaults` sets. -/
def DefaultRegister (R : RaplSetup K) (cpu r : Nat) : Prop :=
  ∃ i, i < R.cfg.sockets ∧ (SocketRegister R (BitVec.ofNat 32 i) msrPkgPowerLimit cpu r ∨
    SocketRegister R (BitVec.ofNat 32 i) msrDramPowerLimit cpu r)

/-- The registers that `set_functions` sets for a type. -/
def TypeRegister (R : RaplSetup K) (type : String) (socket : BitVec 32) (cpu r : Nat) : Prop :=
  if beginsWith type "default" then DefaultRegister R cpu r
  else if beginsWith type "memory" then SocketRegister R socket msrDramPowerLimit cpu r
  else beginsWith type "package" ∧ SocketRegister R socket msrPkgPowerLimit cpu r

/-- The registers a command line asks to change: that of `-w` if there is a `-d` and no
    `-r`, and without any of these the limits of `-s`. -/
def MsrmodVars.Target (R : RaplSetup K) (vars : MsrmodVars) (cpu r : Nat) : Prop :=
  if vars.isread then False
  else if vars.iswrite then vars.setMsrData ∧ cpu = vars.thread.toNat ∧ r = vars.msr.toNat
  else ∃ type, vars.setMsrType = some type ∧ TypeRegister R type vars.socket cpu r

/-- What holds of the process between the calls: it has all devices open, or it has not
    opened any yet. -/
structure WorldInv (n : Nat) (p : Process) : Prop where
  sized : Sized n p
  kept : p.table ≠ .freed
  ready : p.init = true → p.host.Ready n

/-- From `s` to `s'` registers of `S` have changed at most. -/
structure WorldStep (n : Nat) (S : Nat → Nat → Prop) (s s' : MsrmodWorld K) : Prop where
  inv : WorldInv n s'.proc
  regs : ∀ cpu r, ¬ S cpu r → s'.proc.host.regs cpu r = s.proc.host.regs cpu r
  failsWrite : s'.proc.host.failsWrite = s.proc.host.failsWrite

/-- No register has changed. -/
def WorldKept (n : Nat) (s s' : MsrmodWorld K) : Prop := WorldStep n (fun _ _ => False) s s'

section Registers

variable {n : Nat} {S : Nat → Nat → Prop} {s s' s'' : MsrmodWorld K} {x : Surroundings K}

omit [Field K] [LinearOrder K] [FloorRing K]

theorem WorldStep.print (h : WorldStep n S s s') (lines : List (MsrmodPrint K)) :
    WorldStep n S s (s'.print lines) :=
  ⟨h.inv, h.regs, h.failsWrite⟩

theorem WorldKept.of_inv (h : WorldInv n s.proc) : WorldKept n s s :=
  ⟨h, fun _ _ _ => rfl, rfl⟩

theorem WorldStep.trans (h : WorldStep n S s s') (h' : WorldStep n S s' s'') :
    WorldStep n S s s'' where
  inv := h'.inv
  regs cpu r hS := (h'.regs cpu r hS).trans (h.regs cpu r hS)
  failsWrite := h'.failsWrite.trans h.failsWrite

theorem WorldKept.step (h : WorldKept n s s') (S : Nat → Nat → Prop) : WorldStep n S s s' where
  inv := h.inv
  regs cpu r _ := h.regs cpu r id
  failsWrite := h.failsWrite

/-- A call that works on the host of a process with open devices. -/
theorem WorldStep.setHost {h : Host} (hinv : WorldInv n s.proc)
    (hw : s.proc.host.Within S h) : WorldStep n S s (s.setHost h) where
  inv := ⟨fun htable => (congrArg List.length hw.devices.fileDescriptors).trans (hinv.sized htable),
    hinv.kept, fun hinit => hw.ready (hinv.ready hinit)⟩
  regs := hw.regs
  failsWrite := hw.devices.failsWrite

theorem WorldStep.printSetHost {h : Host} (hinv : WorldInv n s.proc)
    (hw : s.proc.host.Within S h) (lines : List (MsrmodPrint K)) :
    WorldStep n S s ((s.print lines).setHost h) :=
  ⟨(WorldStep.setHost hinv hw).inv, hw.regs, hw.devices.failsWrite⟩

theorem initWorld_kept {R : RaplSetup K} (hpos : 0 < R.cfg.numDevs)
    (hinv : WorldInv R.cfg.numDevs s.proc) {rc : Int} (h : initWorld R x s = some (rc, s')) :
    WorldKept R.cfg.numDevs s s' ∧ (rc = 0 → s'.proc.host.Ready R.cfg.numDevs) := by
  simp only [initWorld, Option.bind_eq_bind, Option.bind_eq_some_iff] at h
  obtain ⟨⟨rc₁, proc⟩, hinit, h⟩ := h
  have hsame := initMsr_sameRegs hinit
  have hkept' : proc.table ≠ .freed := by
    obtain ⟨_, _, htotal, hkept'⟩ := initMsr_total (n := R.cfg.numDevs) x.fs hinv.kept
    obtain ⟨-, rfl⟩ := Prod.mk.inj (Option.some.inj (hinit.symm.trans htotal))
    exact hkept'
  have hinv' : WorldInv R.cfg.numDevs proc ∧ (rc₁ = 0 → proc.host.Ready R.cfg.numDevs) := by
    cases hflag : s.proc.init with
    | true =>
      rw [initMsr, if_pos hflag] at hinit
      obtain ⟨-, rfl⟩ := Prod.mk.inj (Option.some.inj hinit)
      exact ⟨hinv, fun _ => hinv.ready hflag⟩
    | false =>
      obtain ⟨hsize, hserving, hfailed⟩ := initMsr_spec hinit hflag hinv.sized
      have hready : rc₁ = 0 → proc.host.Ready R.cfg.numDevs := by
        intro hrc
        have htable := (hserving hrc 0 hpos).1
        exact (hserving hrc).ready hsize (by rw [htable]; decide)
      refine ⟨⟨hsize, hkept', fun hset => ?_⟩, hready⟩
      by_cases hrc : rc₁ = 0
      · exact hready hrc
      · rw [hfailed hrc] at hset
        contradiction
  have hkept : WorldKept R.cfg.numDevs s { s with proc := proc } :=
    ⟨hinv'.1, fun cpu r _ => congrFun (congrFun hsame.regs cpu) r, hsame.failsWrite⟩
  split at h
  · rename_i hne
    obtain ⟨rfl, rfl⟩ := Prod.mk.inj (Option.some.inj h)
    exact ⟨hkept.print _, fun hzero => absurd hzero hne⟩
  · rename_i heq
    obtain ⟨rfl, rfl⟩ := Prod.mk.inj (Option.some.inj h)
    exact ⟨hkept, fun _ => hinv'.2 (not_not.mp heq)⟩

/-- While the table was not freed, it has an outcome. -/
theorem initWorld_total (R : RaplSetup K) (x : Surroundings K)
    (hinv : WorldInv R.cfg.numDevs s.proc) : ∃ rc s', initWorld R x s = some (rc, s') := by
  obtain ⟨rc, proc, hinit, -⟩ := initMsr_total (n := R.cfg.numDevs) x.fs hinv.kept
  simp only [initWorld, hinit, Option.bind_eq_bind, Option.bind_some]
  split
  · exact ⟨_, _, rfl⟩
  · exact ⟨_, _, rfl⟩

end Registers

/-! ### Printing changes no register -/

section Printing

variable {s s' : MsrmodWorld K} {x : Surroundings K} {rc : Int}

theorem pkgStuff_unchanged {h h' : Host} {socket : BitVec 32} {title1 title2 : String}
    {l1 l2 l1' l2' : RaplLimit K} {out : List (MsrmodPrint K)}
    (hstuff : pkgStuff R h socket title1 title2 l1 l2 = some (out, l1', l2', h')) :
    h.Unchanged h' := by
  simp only [pkgStuff, Option.bind_eq_bind, Option.bind_eq_some_iff] at hstuff
  obtain ⟨r, hget, hout⟩ := hstuff
  simp only [Option.some.injEq, Prod.mk.injEq] at hout
  obtain ⟨-, -, -, rfl⟩ := hout
  exact getPkgRaplLimit_unchanged hget

theorem dramStuff_unchanged {h h' : Host} {socket : BitVec 32} {title : String}
    {l3 l3' : RaplLimit K} {out : List (MsrmodPrint K)}
    (hstuff : dramStuff R h socket title l3 = some (out, l3', h')) : h.Unchanged h' := by
  simp only [dramStuff, Option.bind_eq_bind, Option.bind_eq_some_iff] at hstuff
  obtain ⟨r, hget, hout⟩ := hstuff
  simp only [Option.some.injEq, Prod.mk.injEq] at hout
  obtain ⟨-, -, rfl⟩ := hout
  exact getDramRaplLimit_unchanged hget

theorem getRaplStuff_unchanged {h h' : Host} {out : List (MsrmodPrint K)}
    (hstuff : getRaplStuff R h x = some (out, h')) : h.Unchanged h' := by
  simp only [getRaplStuff, Option.bind_eq_bind, Option.bind_eq_some_iff] at hstuff
  obtain ⟨⟨_, l1, l2, h₁⟩, hpkg₀, ⟨_, _, _, h₂⟩, hpkg₁, hstuff⟩ := hstuff
  obtain ⟨⟨_, l3, h₃⟩, hdram₀, ⟨_, _, h₄⟩, hdram₁, hout⟩ := hstuff
  obtain ⟨-, rfl⟩ := Prod.mk.inj (Option.some.inj hout)
  exact (((pkgStuff_unchanged hpkg₀).trans (pkgStuff_unchanged hpkg₁)).trans
    (dramStuff_unchanged hdram₀)).trans (dramStuff_unchanged hdram₁)

variable (hpos : 0 < R.cfg.numDevs) (hinv : WorldInv R.cfg.numDevs s.proc)
include hpos hinv

omit [Field K] [LinearOrder K] [FloorRing K] in
theorem listFunctions_kept {type : String} (h : listFunctions R avail x type s = some (rc, s')) :
    WorldKept R.cfg.numDevs s s' := by
  simp only [listFunctions, Option.bind_eq_bind, Option.bind_eq_some_iff] at h
  obtain ⟨⟨rc₁, s₁⟩, hinit, h⟩ := h
  obtain ⟨hkept, -⟩ := initWorld_kept hpos hinv hinit
  -- whatever it prints, it has only opened the devices
  split at h
  · obtain ⟨-, rfl⟩ := Prod.mk.inj (Option.some.inj h)
    exact hkept
  · split_ifs at h <;>
      · obtain ⟨-, rfl⟩ := Prod.mk.inj (Option.some.inj h)
        exact hkept.print _

theorem printingFunctions_kept {type : String}
    (h : printingFunctions R x type s = some (rc, s')) : WorldKept R.cfg.numDevs s s' := by
  simp only [printingFunctions, Option.bind_eq_bind, Option.bind_eq_some_iff] at h
  obtain ⟨⟨rc₁, s₁⟩, hinit, h⟩ := h
  obtain ⟨hkept, -⟩ := initWorld_kept hpos hinv hinit
  split at h
  · obtain ⟨-, rfl⟩ := Prod.mk.inj (Option.some.inj h)
    exact hkept
  · rw [Option.bind_eq_some_iff] at h
    obtain ⟨⟨ret, raplFlags, h₁⟩, hrapl, h⟩ := h
    have hlocks := raplInit_unchanged hrapl
    have hstep : ∀ {h₂ : Host}, h₁.Unchanged h₂ → ∀ {s₂ : MsrmodWorld K},
        s₂.proc = { s₁.proc with host := h₂ } → WorldKept R.cfg.numDevs s s₂ := by
      intro h₂ hu s₂ hs₂
      have hset : WorldKept R.cfg.numDevs s₁ (s₁.setHost h₂) :=
        WorldStep.setHost hkept.inv (hlocks.trans hu)
      refine hkept.trans ⟨?_, ?_, ?_⟩
      · rw [hs₂]
        exact hset.inv
      · rw [hs₂]
        exact hset.regs
      · rw [hs₂]
        exact hset.failsWrite
    split at h
    · obtain ⟨-, rfl⟩ := Prod.mk.inj (Option.some.inj h)
      exact hstep (.refl h₁) rfl
    · split at h
      · simp only [Option.bind_eq_some_iff] at h
        obtain ⟨⟨out, h₂⟩, hstuff, hout⟩ := h
        obtain ⟨-, rfl⟩ := Prod.mk.inj (Option.some.inj hout)
        exact hstep (getRaplStuff_unchanged hstuff) rfl
      · split at h
        · simp only [Option.bind_eq_some_iff] at h
          obtain ⟨⟨out, _, h₂⟩, hdump, hout⟩ := h
          obtain ⟨-, rfl⟩ := Prod.mk.inj (Option.some.inj hout)
          exact hstep (dumpRaplPowerInfo_unchanged hdump) rfl
        · obtain ⟨-, rfl⟩ := Prod.mk.inj (Option.some.inj h)
          exact hstep (.refl h₁) rfl

theorem applyOption_kept {o : MsrmodOption} (h : applyOption R avail o x s = some s') :
    WorldKept R.cfg.numDevs s s' := by
  cases o with
  | i =>
    obtain rfl := Option.some.inj h
    exact (WorldKept.of_inv hinv).print _
  | p optarg =>
    obtain ⟨⟨rc, _⟩, hprint, rfl⟩ := Option.map_eq_some_iff.mp h
    exact printingFunctions_kept hpos hinv hprint
  | l optarg =>
    obtain ⟨⟨rc, _⟩, hlist, rfl⟩ := Option.map_eq_some_iff.mp h
    exact listFunctions_kept hpos hinv hlist
  | _ =>
    obtain rfl := Option.some.inj h
    exact .of_inv hinv

/-- The first phase: by induction over the options, each of which keeps the
    registers. -/
theorem printAll_kept {opts : List (MsrmodOption × Surroundings K)}
    (h : printAll R avail opts s = some s') : WorldKept R.cfg.numDevs s s' := by
  refine Loops.foldlM_keeps (I := fun t => WorldKept R.cfg.numDevs s t) ?_ (.of_inv hinv) h
  intro t o t' hI ht
  exact hI.trans (applyOption_kept hpos hI.inv ht)

omit [Field K] [LinearOrder K] [FloorRing K] hpos in
theorem listFunctions_total (type : String) :
    ∃ rc s', listFunctions R avail x type s = some (rc, s') := by
  obtain ⟨rc, s', hinit⟩ := initWorld_total R x hinv
  simp only [listFunctions, hinit, Option.bind_eq_bind, Option.bind_some]
  split
  · exact ⟨_, _, rfl⟩
  · split_ifs <;> exact ⟨_, _, rfl⟩

omit hpos in
/-- Only `-p` may have no outcome. -/
theorem applyOption_total {o : MsrmodOption} (ho : o.limits = false) :
    ∃ s', applyOption R avail o x s = some s' := by
  cases o with
  | p optarg => contradiction
  | l optarg =>
    obtain ⟨rc, s', hlist⟩ : ∃ rc s', listFunctions R avail x optarg s = some (rc, s') :=
      listFunctions_total hinv optarg
    exact ⟨s', congrArg (Option.map Prod.snd) hlist⟩
  | _ => exact ⟨_, rfl⟩

/-- The first phase, without `-p`. -/
theorem printAll_total {opts : List (MsrmodOption × Surroundings K)}
    (hopts : ∀ o ∈ opts, o.1.limits = false) : ∃ s', printAll R avail opts s = some s' := by
  induction opts generalizing s with
  | nil => exact ⟨s, rfl⟩
  | cons o opts ih =>
    obtain ⟨s₁, hfirst⟩ : ∃ s₁, applyOption R avail o.1 o.2 s = some s₁ :=
      applyOption_total hinv (hopts o (List.mem_cons_self ..))
    obtain ⟨s', hrest⟩ := ih (applyOption_kept hpos hinv hfirst).inv fun o' ho' =>
      hopts o' (List.mem_cons_of_mem _ ho')
    refine ⟨s', ?_⟩
    rw [printAll_cons, hfirst, Option.bind_some, hrest]

end Printing

/-! ### What is set -/

section Setting

theorem setDefaults_within {h h' : Host} {info info' : RaplPowerInfo K} {i : Nat}
    (hi : i < R.cfg.sockets) (hready : h.Ready R.cfg.numDevs)
    (hset : setDefaults R (info, h) i = some (info', h')) : h.Within (DefaultRegister R) h' := by
  simp only [setDefaults, Option.bind_eq_bind, Option.bind_eq_some_iff] at hset
  obtain ⟨⟨info₁, h₁⟩, hget, r, hpkg, d, hdram, hout⟩ := hset
  obtain ⟨-, rfl⟩ := Prod.mk.inj (Option.some.inj hout)
  have hread := (getRaplPowerInfo_unchanged hget).within (DefaultRegister R)
  have hpkg' : h₁.Within (DefaultRegister R) r.host :=
    (setPkgRaplLimit_within (hread.ready hready) hpkg).mono fun _ _ hr => ⟨i, hi, Or.inl hr⟩
  have hdram' : r.host.Within (DefaultRegister R) d.host :=
    (setDramRaplLimit_within ((hread.trans hpkg').ready hready) hdram).mono
      fun _ _ hr => ⟨i, hi, Or.inr hr⟩
  exact (hread.trans hpkg').trans hdram'

theorem setToDefaults_within {h h' : Host} {info info' : RaplPowerInfo K}
    (hready : h.Ready R.cfg.numDevs) (hset : setToDefaults R h info = some (info', h')) :
    h.Within (DefaultRegister R) h' := by
  refine Loops.foldlM_keeps_mem
    (I := fun t : RaplPowerInfo K × Host => h.Within (DefaultRegister R) t.2) ?_ (.refl _ h) hset
  rintro ⟨info, h₁⟩ i hi ⟨info', h₂⟩ hI hbody
  exact hI.trans (setDefaults_within (List.mem_range.mp hi) (hI.ready hready) hbody)

variable {s s' : MsrmodWorld K} {x : Surroundings K} {rc : Int} {isverbose : Bool}
  {socket : BitVec 32}

theorem setFunctions_step {type : String} {watts1 seconds1 watts2 seconds2 : K}
    (hpos : 0 < R.cfg.numDevs) (hinv : WorldInv R.cfg.numDevs s.proc)
    (h : setFunctions R isverbose x type socket watts1 seconds1 watts2 seconds2 s =
      some (rc, s')) : WorldStep R.cfg.numDevs (TypeRegister R type socket) s s' := by
  simp only [setFunctions, Option.bind_eq_bind, Option.bind_eq_some_iff] at h
  obtain ⟨⟨rc₁, s₁⟩, hinit, h⟩ := h
  obtain ⟨hkept, hready⟩ := initWorld_kept hpos hinv hinit
  by_cases hrc : rc₁ = 0
  · rw [if_neg (not_not.mpr hrc)] at h
    have hready₁ := hready hrc
    by_cases hdefault : beginsWith type "default" = true
    · rw [if_pos hdefault] at h
      simp only [Option.bind_eq_some_iff] at h
      obtain ⟨⟨_, h₁⟩, hset, hout⟩ := h
      obtain ⟨-, rfl⟩ := Prod.mk.inj (Option.some.inj hout)
      refine (hkept.step _).trans (WorldStep.setHost hkept.inv ?_)
      refine (setToDefaults_within (R := { R with flags := s₁.raplFlags }) hready₁ hset).mono
        fun cpu r hr => ?_
      rw [TypeRegister, if_pos hdefault]
      exact hr
    · rw [if_neg hdefault] at h
      by_cases hmemory : beginsWith type "memory" = true
      · rw [if_pos hmemory] at h
        simp only [setMemLimit, Option.bind_eq_bind, Option.bind_eq_some_iff] at h
        obtain ⟨s₂, ⟨d, hset, hs₂⟩, hout⟩ := h
        obtain ⟨-, rfl⟩ := Prod.mk.inj (Option.some.inj hout)
        obtain rfl := Option.some.inj hs₂
        refine (hkept.step _).trans (WorldStep.printSetHost hkept.inv ?_ _)
        refine (setDramRaplLimit_within hready₁ hset).mono fun cpu r hr => ?_
        rw [TypeRegister, if_neg hdefault, if_pos hmemory]
        exact hr
      · rw [if_neg hmemory] at h
        by_cases hpackage : beginsWith type "package" = true
        · rw [if_pos hpackage] at h
          simp only [Option.bind_eq_some_iff] at h
          obtain ⟨r, hset, hout⟩ := h
          obtain ⟨-, rfl⟩ := Prod.mk.inj (Option.some.inj hout)
          refine (hkept.step _).trans (WorldStep.printSetHost hkept.inv ?_ _)
          refine (setPkgRaplLimit_within hready₁ hset).mono fun cpu r hr => ?_
          rw [TypeRegister, if_neg hdefault, if_neg hmemory]
          exact ⟨hpackage, hr⟩
        · rw [if_neg hpackage] at h
          obtain ⟨-, rfl⟩ := Prod.mk.inj (Option.some.inj h)
          exact (hkept.step _).print _
  · rw [if_pos hrc] at h
    obtain ⟨-, rfl⟩ := Prod.mk.inj (Option.some.inj h)
    exact hkept.step _

/-- The second phase. -/
theorem actOn_step {vars : MsrmodVars} (hpos : 0 < R.cfg.numDevs)
    (hinv : WorldInv R.cfg.numDevs s.proc) (h : actOn R x vars s = some (rc, s')) :
    WorldStep R.cfg.numDevs (vars.Target R) s s' := by
  have hkept : WorldKept R.cfg.numDevs s s := .of_inv hinv
  rw [actOn] at h
  by_cases hread : vars.isread = true
  · -- with `-r` there are only reads, if there is an access at all
    simp only [hread, Bool.true_and, if_true] at h
    split at h
    · obtain ⟨-, rfl⟩ := Prod.mk.inj (Option.some.inj h)
      exact (hkept.step _).print _
    · simp only [Option.bind_eq_bind, Option.bind_eq_some_iff] at h
      obtain ⟨⟨rc₁, s₁⟩, hinit, h⟩ := h
      obtain ⟨hopened, -⟩ := initWorld_kept hpos hinv hinit
      split at h
      · obtain ⟨-, rfl⟩ := Prod.mk.inj (Option.some.inj h)
        exact hopened.step _
      · obtain ⟨-, rfl⟩ := Prod.mk.inj (Option.some.inj h)
        have hunchanged := readMsrByIdx_unchanged s₁.proc.host vars.thread vars.msr.toNat
          vars.msrData
        exact ((hopened.step _).trans
          (WorldStep.setHost hopened.inv (hunchanged.within _))).print _
  · simp only [hread, Bool.false_and, Bool.false_eq_true, if_false] at h
    by_cases hwrite : vars.iswrite = true
    · simp only [hwrite, Bool.true_and, Bool.not_eq_true'] at h
      by_cases hdata : vars.setMsrData = true
      · simp only [hdata, if_true, Option.bind_eq_bind, Option.bind_eq_some_iff] at h
        obtain ⟨⟨rc₁, s₁⟩, hinit, h⟩ := h
        obtain ⟨hopened, hready⟩ := initWorld_kept hpos hinv hinit
        split at h
        · obtain ⟨-, rfl⟩ := Prod.mk.inj (Option.some.inj h)
          exact hopened.step _
        · rename_i hrc
          obtain ⟨-, rfl⟩ := Prod.mk.inj (Option.some.inj h)
          refine ((hopened.step _).trans (WorldStep.setHost hopened.inv ?_)).print _
          refine (writeMsrByIdx_within vars.thread vars.msr.toNat vars.msrData
            (hready (not_not.mp hrc))).mono fun cpu r hr => ?_
          rw [MsrmodVars.Target, if_neg hread, if_pos hwrite]
          exact ⟨hdata, hr⟩
      · simp only [hdata, Bool.false_eq_true, if_false, if_true] at h
        obtain ⟨-, rfl⟩ := Prod.mk.inj (Option.some.inj h)
        exact (hkept.step _).print _
    · simp only [hwrite, Bool.false_and, Bool.false_eq_true, if_false] at h
      split at h
      · cases htype : vars.setMsrType with
        | none =>
          rw [htype] at h
          contradiction
        | some type =>
          simp only [htype, Option.bind_eq_bind, Option.bind_eq_some_iff] at h
          obtain ⟨⟨_, s₁⟩, hset, hout⟩ := h
          obtain ⟨-, rfl⟩ := Prod.mk.inj (Option.some.inj hout)
          have hstep := setFunctions_step hpos hinv hset
          refine ⟨hstep.inv, fun cpu r hr => hstep.regs cpu r fun htarget => hr ?_,
            hstep.failsWrite⟩
          rw [MsrmodVars.Target, if_neg hread, if_neg hwrite]
          exact ⟨type, htype, htarget⟩
      · obtain ⟨-, rfl⟩ := Prod.mk.inj (Option.some.inj h)
        exact hkept.step _

/-- The write that was asked for happens. -/
theorem actOn_written {vars : MsrmodVars} (hpos : 0 < R.cfg.numDevs)
    (hinv : WorldInv R.cfg.numDevs s.proc) (h : actOn R x vars s = some (0, s'))
    (hread : vars.isread = false) (hwrite : vars.iswrite = true) (hdata : vars.setMsrData = true)
    (hcpu : vars.thread.toNat < R.cfg.numDevs) (hlt : R.cfg.numDevs < 2 ^ 31)
    (hok : s.proc.host.failsWrite vars.thread.toNat vars.msr.toNat = false) :
    s'.proc.host.regs vars.thread.toNat vars.msr.toNat = vars.msrData := by
  simp only [actOn, hread, hwrite, hdata, Bool.and_true, Bool.false_eq_true, if_false, if_true,
    Option.bind_eq_bind, Option.bind_eq_some_iff] at h
  obtain ⟨⟨rc₁, s₁⟩, hinit, h⟩ := h
  obtain ⟨hopened, hready⟩ := initWorld_kept hpos hinv hinit
  by_cases hrc : rc₁ = 0
  · rw [if_neg (not_not.mpr hrc), writeMsrByIdx_lt (hready hrc) hlt hcpu, hopened.failsWrite, hok,
      if_neg Bool.false_ne_true] at h
    obtain ⟨-, rfl⟩ := Prod.mk.inj (Option.some.inj h)
    exact Host.setReg_self _ _ _ _
  · -- without open devices `main` does not return 0
    rw [if_pos hrc] at h
    have hcontra := (Prod.mk.inj (Option.some.inj h)).1
    contradiction

/-- The second phase has an outcome if it does not set limits. -/
theorem actOn_total {vars : MsrmodVars} (hinv : WorldInv R.cfg.numDevs s.proc)
    (hset : vars.isset = false) : ∃ rc s', actOn R x vars s = some (rc, s') := by
  obtain ⟨rc, s₁, hinit⟩ := initWorld_total R x hinv
  simp only [actOn, hset, hinit, Option.bind_eq_bind, Option.bind_some, Bool.false_eq_true,
    if_false]
  split_ifs <;> exact ⟨_, _, rfl⟩

end Setting

/-! ### A command line -/

/-- What a run of `main` may do to the registers, and what it returns where an option is
    unknown. -/
structure DoesAsked (R : RaplSetup K) (conv : Conversions K) (opts : List MsrmodOption)
    (s : MsrmodWorld K) (rc : Int) (s' : MsrmodWorld K) : Prop where
  unknown : asked conv opts = none → rc = -1 ∧ s'.proc.host.regs = s.proc.host.regs
  others : ∀ vars, asked conv opts = some vars → ∀ cpu r, ¬ vars.Target R cpu r →
    s'.proc.host.regs cpu r = s.proc.host.regs cpu r
  written : ∀ vars, asked conv opts = some vars → vars.isread = false → vars.iswrite = true →
    vars.setMsrData = true → rc = 0 → vars.thread.toNat < R.cfg.numDevs →
    R.cfg.numDevs < 2 ^ 31 →
    s.proc.host.failsWrite vars.thread.toNat vars.msr.toNat = false →
    s'.proc.host.regs vars.thread.toNat vars.msr.toNat = vars.msrData

variable (conv) in
theorem find_unknown (opts : List (MsrmodOption × Surroundings K)) :
    (∃ optopt x, opts.find? (fun o => !o.1.known) = some (.unknown optopt, x)) ∧
        asked conv (opts.map Prod.fst) = none ∨
      opts.find? (fun o => !o.1.known) = none ∧
        asked conv (opts.map Prod.fst) = some (varsOf conv (opts.map Prod.fst)) := by
  cases hfind : opts.find? fun o => !o.1.known with
  | none =>
    refine Or.inr ⟨rfl, if_pos ?_⟩
    rw [List.all_map, List.all_eq_true]
    intro o ho
    have hknown := List.find?_eq_none.mp hfind o ho
    simpa using hknown
  | some o =>
    obtain ⟨o, x⟩ := o
    have hunknown : o.known = false := by simpa using List.find?_some hfind
    refine Or.inl ⟨?_, if_neg ?_⟩
    · cases o with
      | unknown optopt => exact ⟨optopt, x, rfl⟩
      | _ => contradiction
    · intro hall
      rw [List.all_map, List.all_eq_true] at hall
      have hknown : o.known = true := hall _ (List.mem_of_find?_eq_some hfind)
      rw [hunknown] at hknown
      contradiction

/-- Without an option that gets or sets limits the tool comes to its end. -/
theorem msrmodMain_total (hpos : 0 < R.cfg.numDevs) {opts : List (MsrmodOption × Surroundings K)}
    {x : Surroundings K} {s : MsrmodWorld K} (hinv : WorldInv R.cfg.numDevs s.proc)
    (hopts : ∀ o ∈ opts, o.1.limits = false ∧ conv.fits o.1 = true) :
    ∃ rc s', msrmodMain R conv avail opts x s = some (rc, s') := by
  have hknown : ∀ o ∈ opts.takeWhile fun o => o.1.known, o ∈ opts :=
    fun o ho => (List.takeWhile_prefix _).subset ho
  obtain ⟨s₁, hprint⟩ : ∃ s₁, printAll R avail (opts.takeWhile fun o => o.1.known) s = some s₁ :=
    printAll_total hpos hinv fun o ho => (hopts o (hknown o ho)).1
  have hfits : (opts.takeWhile fun o => o.1.known).all (fun o => conv.fits o.1) = true :=
    List.all_eq_true.mpr fun o ho => (hopts o (hknown o ho)).2
  have hset : (varsOf conv (opts.map Prod.fst)).isset = false := by
    refine lastArg_isSome_eq_false fun o ho hletter => ?_
    obtain ⟨o', ho', rfl⟩ := List.mem_map.mp ho
    have hlimits := (hopts o' ho').1
    cases hkind : o'.1 <;> simp_all [MsrmodOption.letter, MsrmodOption.limits]
  rw [msrmodMain_phases, msrmodPhases, hprint, Option.bind_eq_bind, Option.bind_some]
  simp only [hfits, if_true]
  split
  · exact ⟨_, _, rfl⟩
  · exact actOn_total (printAll_kept hpos hinv hprint).inv hset

end Phases

/-! ## One CPU -/

/-- The numbers of the command line below. -/
def hexNumbers : Conversions ℚ where
  strtol x := if x = "610" then 0x610 else if x = "10" then 0x10 else if x = "7" then 7 else 0
  atoi _ := 0
  atof _ := 0

/-- One CPU whose device `init_msr` can open. -/
def oneCpuSurroundings : Surroundings ℚ where
  fs := msrSafeFiles
  rl1 := ⟨0, 0, 0⟩
  rl2 := ⟨0, 0, 0⟩
  tar := ⟨0, 0⟩
  l1 := ⟨0, 0, 0⟩
  l2 := ⟨0, 0, 0⟩
  l3 := ⟨0, 0, 0⟩
  raplinfo := ⟨⟨0, 0, 0, 0, 0⟩, ⟨0, 0, 0, 0, 0⟩⟩

def oneCpuWorld : MsrmodWorld ℚ := ⟨(Session.start oneCpuProcess).process, 0x7FF, []⟩

/-- `msrmod -w 10 -i -d 7 -w 610`. -/
def writeTwice : List (MsrmodOption × Surroundings ℚ) :=
  [.w "10", .i, .d "7", .w "610"].map fun o => (o, oneCpuSurroundings)

theorem oneCpu_initMsr :
    initMsr 1 msrSafeFiles (Session.start oneCpuProcess).process = some (0, oneCpuOpened) := by
  have hstep := oneCpu_init
  rw [Session.step, Option.map_eq_some_iff] at hstep
  obtain ⟨⟨rc, p⟩, hinit, hsession⟩ := hstep
  obtain ⟨rfl, hrc, -⟩ := Session.mk.inj hsession
  obtain rfl : rc = 0 := of_decide_eq_true hrc
  exact hinit

end Libmsr
