/-
  Libmsr.Powmon.Highlander

  The powmon processes of a node (demoapps/powmon/highlander.c): the first one to
  create `/power_wrapperK` is the highlander and measures, the others are its foes.
  `highlander_wait` is to hold the highlander back until all foes have called it.

  A step is one call on a semaphore, which is atomic; what a process keeps in its
  statics `semk` and `seml`, the semaphore's number, stands in its program counter.
  Each process calls `highlander` and then `highlander_wait`, as the `main` functions do.
-/
import Libmsr.Lib.Runs
import Libmsr.Lib.Semaphores

namespace Libmsr

/-- The names `/power_wrapperK` and `/power_wrapperL`. -/
inductive PowerWrapper where
  | k
  | l
  deriving Repr, DecidableEq

/-- Where a process is: the next call of `highlander` or `highlander_wait`. -/
inductive PowmonPc where
  /-- `sem_open(K, O_CREAT | O_EXCL)` -/
  | start
  /-- it failed: `sem_open(K, O_CREAT)` -/
  | foeOpenK
  /-- `sem_open(L, O_CREAT)` -/
  | foeOpenL (semk : Nat)
  /-- `sem_post(semk)` -/
  | foePost (semk seml : Nat)
  /-- `highlander` returned 0 -/
  | foe (semk seml : Nat)
  /-- in `highlander_wait`: `sem_wait(semk)` -/
  | foeWait (semk seml : Nat)
  /-- `sem_post(seml)` -/
  | foeAnswer (seml : Nat)
  /-- `highlander_wait` returned -/
  | foeLeft
  /-- `K` is created: `sem_open(L, O_CREAT)` -/
  | openL (semk : Nat)
  /-- `highlander` returned 1 -/
  | highlander (semk seml : Nat)
  /-- in `highlander_wait`: `sem_getvalue(semk, &v)` -/
  | getvalue (semk seml : Nat)
  /-- `while (v > 1) sem_wait(seml)` -/
  | loop (seml v : Nat)
  /-- `sem_unlink(K)` -/
  | unlinkK
  /-- `sem_unlink(L)` -/
  | unlinkL
  /-- `highlander_wait` returned -/
  | left
  deriving Repr, DecidableEq

/-- The processes of a node and their semaphores. -/
structure Node (n : Nat) where
  procs : Fin n → PowmonPc
  sems : Semaphores PowerWrapper

/-- Before any process was started. -/
def Node.start (n : Nat) : Node n := ⟨fun _ => .start, .init⟩

/-- The step of a process at a program counter; `none` while it blocks and when it has
    returned. -/
def PowmonPc.step (sems : Semaphores PowerWrapper) :
    PowmonPc → Option (PowmonPc × Semaphores PowerWrapper)
  | .start =>
    match sems.openExcl .k with
    | none => some (.foeOpenK, sems)
    | some (semk, sems) => some (.openL semk, sems)
  | .foeOpenK =>
    let (semk, sems) := sems.openCreat .k
    some (.foeOpenL semk, sems)
  | .foeOpenL semk =>
    let (seml, sems) := sems.openCreat .l
    some (.foePost semk seml, sems)
  -- the value that is read after the post is not used
  | .foePost semk seml => some (.foe semk seml, sems.post (.k, semk))
  | .foe semk seml => some (.foeWait semk seml, sems)
  | .foeWait semk seml => (sems.wait (.k, semk)).map fun sems => (.foeAnswer seml, sems)
  | .foeAnswer seml => some (.foeLeft, sems.post (.l, seml))
  | .foeLeft => none
  | .openL semk =>
    let (seml, sems) := sems.openCreat .l
    some (.highlander semk seml, sems)
  | .highlander semk seml => some (.getvalue semk seml, sems)
  | .getvalue semk seml => some (.loop seml (sems.value (.k, semk)), sems)
  -- `v` does not change in the loop
  | .loop seml v =>
    if v > 1 then (sems.wait (.l, seml)).map fun sems => (.loop seml v, sems)
    else some (.unlinkK, sems)
  | .unlinkK => some (.unlinkL, sems.unlink .k)
  | .unlinkL => some (.left, sems.unlink .l)
  | .left => none

/-- One step of process `i`. -/
def Node.step {n : Nat} (s : Node n) (i : Fin n) : Option (Node n) :=
  ((s.procs i).step s.sems).map fun r => ⟨Function.update s.procs i r.1, r.2⟩

/-! ## What the functions are for -/

/-- The process is the highlander, and has not left `highlander_wait`. -/
def PowmonPc.isHighlander : PowmonPc → Bool
  | .openL _ | .highlander _ _ | .getvalue _ _ | .loop _ _ | .unlinkK | .unlinkL => true
  | _ => false

/-- The process has joined as a foe. -/
def PowmonPc.joined : PowmonPc → Bool
  | .foe _ _ | .foeWait _ _ | .foeAnswer _ | .foeLeft => true
  | _ => false

/-- The process is a foe that has called `highlander_wait`. -/
def PowmonPc.called : PowmonPc → Bool
  | .foeWait _ _ | .foeAnswer _ | .foeLeft => true
  | _ => false

/-- The node, and for each highlander the processes that had joined as foes when it
    called `highlander_wait`. -/
structure Watched (n : Nat) where
  node : Node n
  before : Fin n → Fin n → Bool

def Watched.start (n : Nat) : Watched n := ⟨.start n, fun _ _ => false⟩

/-- What is recorded with a step of process `i`. -/
def Watched.record {n : Nat} (w : Watched n) (i : Fin n) : Fin n → Fin n → Bool :=
  match w.node.procs i with
  -- `highlander_wait` is called
  | .highlander _ _ => Function.update w.before i fun f => (w.node.procs f).joined
  | _ => w.before

/-- One step of process `i`. -/
def Watched.step {n : Nat} (w : Watched n) (i : Fin n) : Option (Watched n) :=
  (w.node.step i).map fun node => ⟨node, w.record i⟩

/-- Whatever happens from here on, the semaphore is not posted again. -/
def Node.NeverPosted {n : Nat} (s : Node n) (k : Semaphore PowerWrapper) : Prop :=
  ∀ calls s', Runs.run Node.step s calls = some s' → s'.sems.value k = 0

/-- There is one highlander; it leaves `highlander_wait` after the foes of before have
    called it, and is not left waiting once they have. -/
structure HighlanderLaw {n : Nat} (w : Watched n) : Prop where
  one : ∀ i j, (w.node.procs i).isHighlander → (w.node.procs j).isHighlander → i = j
  waited : ∀ h f, w.node.procs h = .left → w.before h f → (w.node.procs f).called
  woken : ∀ h seml v, w.node.procs h = .loop seml v → v > 1 →
    (∀ f, w.before h f → (w.node.procs f).called) → ¬ w.node.NeverPosted (.l, seml)

/-! ## When it works -/

/-- Inside `highlander`, on the way to a foe. -/
def PowmonPc.joining : PowmonPc → Bool
  | .foeOpenK | .foeOpenL _ | .foePost _ _ => true
  | _ => false

/-- A highlander in `highlander_wait` that has looked at the semaphore. -/
def PowmonPc.closing : PowmonPc → Bool
  | .loop _ _ | .unlinkK | .unlinkL => true
  | _ => false

/-- The condition on the step of process `i`: no process enters `highlander` while a
    highlander is closing down; when a highlander looks at its semaphore none is
    inside, and no foe is counted, or one that has called `highlander_wait`. -/
def Undisturbed {n : Nat} (w : Watched n) (i : Fin n) : Prop :=
  match w.node.procs i with
  | .start => ∀ j, (w.node.procs j).closing = false
  | .getvalue semk _ => (∀ j, (w.node.procs j).joining = false) ∧
      (w.node.sems.value (.k, semk) = 0 ∨
        w.node.sems.value (.k, semk) = 1 ∧ ∃ j seml, w.node.procs j = .foeWait semk seml)
  | _ => True

end Libmsr
