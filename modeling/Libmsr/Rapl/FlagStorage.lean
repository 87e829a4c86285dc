/-
  Libmsr.Rapl.FlagStorage

  `rapl_storage` and the functions that fetch their flags with it (src/msr_rapl.c,
  src/msr_turbo.c).

  The flags are one word, which `rapl_storage` allocates and has `setflags` fill in.
  Each of the functions keeps a pointer to it in a static variable, and fetches it when
  that is NULL, or when a flag of its own says so.  A result `none` stands for a NULL
  pointer that is followed.  What goes to the pointer `data` is left out, and so is
  what the functions do with the flags, apart from what `check_for_locks` clears.
-/
import Libmsr.Lib.Runs
import Libmsr.Rapl.Flags

namespace Libmsr

/-- A function that fetches the flags. -/
inductive FlagUser where
  | checkForLocks
  | printAvailableRapl
  | setPkgRaplLimit
  | setDramRaplLimit
  | getRaplPowerInfo
  | getPkgRaplLimit
  | getDramRaplLimit
  | dumpRaplDataTerseLabel
  | dumpRaplDataTerse
  | dumpRaplData
  | dumpRaplPowerInfo
  | pollRaplData
  | deltaRaplData
  | readRaplData
  | getMaxTurboActivationRatio
  | getTurboRatioLimit
  deriving Repr, DecidableEq

/-- When a function calls `rapl_storage`. -/
inductive FetchGuard where
  /-- every time -/
  | always
  /-- when its static pointer is NULL -/
  | pointer
  /-- when its static `init` is 0; that is set to 1 before the call -/
  | initBefore
  /-- when its static `init` is 0; that is set to 1 after a successful call -/
  | initAfter
  deriving Repr, DecidableEq

def FlagUser.fetchGuard : FlagUser → FetchGuard
  | .printAvailableRapl => .always
  | .dumpRaplData => .initBefore
  | .deltaRaplData | .readRaplData => .initAfter
  | _ => .pointer

/-- The functions it calls when it has the flags, their return codes dropped. -/
def FlagUser.calls (sockets : Nat) : FlagUser → List FlagUser
  | .dumpRaplDataTerse | .pollRaplData => [.readRaplData, .deltaRaplData]
  | .dumpRaplPowerInfo => List.replicate sockets .getRaplPowerInfo
  | _ => []

/-- The statics: those of `rapl_storage` with the word they point to, and for each of the
    functions whether its pointer is set, and its `init`. -/
structure FlagStorage where
  init : Bool
  raplFlags : Option Word
  pointer : FlagUser → Bool
  begun : FlagUser → Bool

namespace FlagStorage

def start : FlagStorage := ⟨false, none, fun _ => false, fun _ => false⟩

def setPointer (s : FlagStorage) (u : FlagUser) : FlagStorage :=
  { s with pointer := Function.update s.pointer u true }

def setBegun (s : FlagStorage) (u : FlagUser) : FlagStorage :=
  { s with begun := Function.update s.begun u true }

/-- `*rapl_flags &= ~reg`. -/
def clear (s : FlagStorage) (reg : Word) : FlagStorage :=
  { s with raplFlags := s.raplFlags.map fun flags => flags &&& ~~~reg }

/-- `*rapl_flags` in the function. -/
def deref (s : FlagStorage) (u : FlagUser) : Option Word :=
  if s.pointer u then s.raplFlags else none

end FlagStorage

/-- -1 if `rapl_storage` failed; the flag words that were read; and the statics. -/
structure FlagResult where
  rc : Int
  words : List Word
  state : FlagStorage

/-- And then `f`, whose return code is dropped. -/
def FlagResult.follow (r : FlagResult) (f : FlagStorage → Option FlagResult) :
    Option FlagResult :=
  (f r.state).map fun q => ⟨r.rc, r.words ++ q.words, q.state⟩

section Calls

variable (model : Nat) (malloced : Word)

/-- `rapl_storage`, where `malloced` is what the word holds when it is allocated. -/
def raplStorage (s : FlagStorage) : Int × FlagStorage :=
  if s.init then (0, s)
  else
    -- `init` is set first, and stays when `setflags` fails
    let r := setflags model malloced
    (if r.1 ≠ 0 then -1 else 0, { s with init := true, raplFlags := some r.2 })

/-- `rapl_storage(.., &rapl_flags)`. -/
def askStorage (u : FlagUser) (s : FlagStorage) : Int × FlagStorage :=
  let r := raplStorage model malloced s
  (r.1, if r.1 = 0 then r.2.setPointer u else r.2)

/-- How a function comes by the flags. -/
def fetchFlags (u : FlagUser) (s : FlagStorage) : Int × FlagStorage :=
  match u.fetchGuard with
  | .always => askStorage model malloced u s
  | .pointer => if s.pointer u then (0, s) else askStorage model malloced u s
  | .initBefore => if s.begun u then (0, s) else askStorage model malloced u (s.setBegun u)
  | .initAfter =>
    if s.begun u then (0, s)
    else
      let r := askStorage model malloced u s
      (r.1, if r.1 = 0 then r.2.setBegun u else r.2)

/-- A function up to its first look at the flags.  `poll_rapl_data` takes only the data. -/
def useFlags (u : FlagUser) (s : FlagStorage) : Option FlagResult :=
  let r := fetchFlags model malloced u s
  if r.1 ≠ 0 then some ⟨-1, [], r.2⟩
  else if u = .pollRaplData then some ⟨0, [], r.2⟩
  else (r.2.deref u).map fun flags => ⟨0, [flags], r.2⟩

def useAll : List FlagUser → FlagStorage → Option FlagResult
  | [], s => some ⟨0, [], s⟩
  | u :: us, s => (useFlags model malloced u s).bind fun r => r.follow (useAll us)

/-- A function with those it calls. -/
def callFlags (sockets : Nat) (u : FlagUser) (s : FlagStorage) : Option FlagResult :=
  (useFlags model malloced u s).bind fun r =>
    if r.rc ≠ 0 then some r else r.follow (useAll model malloced (u.calls sockets))

/-- The registers of a socket that `check_for_locks` finds locked. -/
structure SocketLocks where
  pkg : Bool
  dram : Bool
  turbo : Bool
  deriving Repr, DecidableEq

/-- One register in `check_for_locks`: if the flags announce it, it is fetched with `u`,
    and its flag is cleared if it is locked. -/
def checkLock (u : FlagUser) (reg : Word) (locked : Bool) (s : FlagStorage) : Option FlagResult :=
  (s.deref .checkForLocks).bind fun flags =>
    if announces flags reg then
      (useFlags model malloced u s).map fun r =>
        ⟨0, flags :: r.words, if locked then r.state.clear reg else r.state⟩
    else some ⟨0, [flags], s⟩

/-- Loop body of `check_for_locks`. -/
def checkSocket (l : SocketLocks) (s : FlagStorage) : Option FlagResult :=
  (checkLock model malloced .getPkgRaplLimit pkgPowerLimit l.pkg s).bind fun r =>
    (r.follow (checkLock model malloced .getDramRaplLimit dramPowerLimit l.dram)).bind fun r =>
      r.follow (checkLock model malloced .getMaxTurboActivationRatio turboActivationRatio l.turbo)

def checkSockets : List SocketLocks → FlagStorage → Option FlagResult
  | [], s => some ⟨0, [], s⟩
  | l :: ls, s => (checkSocket model malloced l s).bind fun r => r.follow (checkSockets ls)

/-- The word that `rapl_storage` hands out through its second argument. -/
def handOut (flags : Bool) (s : FlagStorage) : List Word :=
  if flags then s.raplFlags.toList else []

/-- `rapl_init`; `flags` says whether its second argument is not NULL. -/
def initFlags (flags : Bool) (locks : List SocketLocks) (s : FlagStorage) : Option FlagResult :=
  let r := raplStorage model malloced s
  if r.1 ≠ 0 then some ⟨-1, [], r.2⟩
  else
    (useFlags model malloced .checkForLocks r.2).bind fun q =>
      if q.rc ≠ 0 then some q
      else FlagResult.follow ⟨0, handOut flags r.2 ++ q.words, q.state⟩
        (checkSockets model malloced locks)

end Calls

/-! ## Sequences of calls -/

/-- A call: of `rapl_storage`, of `rapl_init`, or of one of the functions. -/
inductive FlagCall where
  | storage (flags : Bool)
  | init (flags : Bool) (locks : List SocketLocks)
  | use (u : FlagUser)

/-- The statics, and whether a call has failed. -/
structure FlagRun where
  state : FlagStorage
  failed : Bool

def FlagRun.start : FlagRun := ⟨.start, false⟩

section Sequences

variable (model sockets : Nat) (malloced : Word)

def FlagCall.exec (s : FlagStorage) : FlagCall → Option FlagResult
  | .storage flags =>
    let r := raplStorage model malloced s
    some ⟨r.1, if r.1 = 0 then handOut flags r.2 else [], r.2⟩
  | .init flags locks => initFlags model malloced flags locks s
  | .use u => callFlags model malloced sockets u s

def FlagRun.step (r : FlagRun) (c : FlagCall) : Option FlagRun :=
  (c.exec model sockets malloced r.state).map fun q => ⟨q.state, r.failed || q.rc ≠ 0⟩

/-- The flags that `check_for_locks` may clear. -/
def lockFlags : Word := pkgPowerLimit ||| dramPowerLimit ||| turboActivationRatio

/-- `setflags` succeeded, and the word is what it set, apart from these flags. -/
def SetBy (flags : Word) : Prop :=
  (setflags model 0).1 = 0 ∧ flags &&& ~~~lockFlags = (setflags model 0).2 &&& ~~~lockFlags

/-- The call fails if one has failed before, and every word it gets was set by
    `setflags`. -/
def FlagsSound (r : FlagRun) (c : FlagCall) : Prop :=
  ∃ q, c.exec model sockets malloced r.state = some q ∧ (r.failed = true → q.rc ≠ 0) ∧
    ∀ flags ∈ q.words, SetBy model flags

/-- The condition: the model has RAPL, or this is the first call. -/
def RaplOrFirst (r : FlagRun) (_ : FlagCall) : Prop :=
  (setflags model 0).1 = 0 ∨ r.state.init = false

end Sequences

end Libmsr
