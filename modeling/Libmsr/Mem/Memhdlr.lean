/-
  Libmsr.Mem.Memhdlr

  The memory handler (src/memhdlr.c): `libmsr_malloc`, `libmsr_calloc`,
  `libmsr_realloc`, `libmsr_free` and `memhdlr_finalize`, which all go through
  `memory_handler`.

  `malloc` and its siblings are the C library's.  They are taken to succeed, since the
  handler exits the process when they return NULL; the addresses they return are given
  with each call.  Pointers are compared by address, and a block is used and freed as
  the allocation it is.
-/
import Libmsr.Lib.Heap
import Mathlib.Algebra.Group.Nat.Defs

namespace Libmsr

/-- The heap and the static variables of `memory_handler`: the table `arrays`, what
    `arrays[0]` to `arrays[last - 1]` hold, and `size`. -/
structure Memhdlr where
  heap : Heap
  arrays : Option Block
  slots : List (Option Block)
  size : Nat
  deriving Repr, DecidableEq

/-- Before any call. -/
def Memhdlr.init : Memhdlr := ⟨.init, none, [], 16⟩

/-- `p == q` for two pointers. -/
def sameAddr (p q : Option Block) : Bool := p.map Block.addr = q.map Block.addr

/-- An access to the table. -/
def touchTable (arrays : Option Block) (h : Heap) : Option Unit := do
  let table ← arrays
  h.touch table

/-- A loop `for (i = 0; i < last; i++)` with an `int` variable ends. -/
def loopEnds (last : Nat) : Bool := last < 2 ^ 31

/-! ## memory_handler -/

/-- Case `LIBMSR_MALLOC` and `LIBMSR_CALLOC`.  `tableAddr` is where the table is put if
    it is created or moved. -/
def handleAlloc (m : Memhdlr) (address : Block) (tableAddr : Nat) : Option Memhdlr := do
  let m : Memhdlr :=
    match m.arrays with
    | some _ => m
    | none => { m with
        arrays := some (m.heap.newBlock tableAddr)
        heap := m.heap.alloc tableAddr }
  let m ←
    if m.slots.length ≥ m.size then do
      let heap ← m.heap.realloc m.arrays tableAddr
      -- size *= 2 on an unsigned
      some { m with
        heap := heap
        arrays := some (m.heap.newBlock tableAddr)
        size := m.size * 2 % 2 ^ 32 }
    else some m
  touchTable m.arrays m.heap
  if m.slots.length < m.size then some { m with slots := m.slots ++ [some address] } else none

/-- The loop of case `LIBMSR_REALLOC`. -/
def reallocLoop (arrays : Option Block) (h : Heap) (address oldaddr : Option Block) :
    List (Option Block) → Option (List (Option Block))
  | [] => some []
  | p :: ps => do
    touchTable arrays h
    let ps ← reallocLoop arrays h address oldaddr ps
    some ((if sameAddr p oldaddr then address else p) :: ps)

/-- `free(p)`, which does nothing for NULL. -/
def freePtr (h : Heap) : Option Block → Option Heap
  | none => some h
  | some b => h.free b

/-- The loop of case `LIBMSR_FREE`. -/
def freeLoop (arrays : Option Block) (oldaddr : Option Block) :
    Heap → List (Option Block) → Option (Heap × List (Option Block))
  | h, [] => some (h, [])
  | h, p :: ps => do
    touchTable arrays h
    if sameAddr p oldaddr then do
      let h ← freePtr h oldaddr
      touchTable arrays h
      let (h, ps) ← freeLoop arrays oldaddr h ps
      some (h, none :: ps)
    else do
      let (h, ps) ← freeLoop arrays oldaddr h ps
      some (h, p :: ps)

/-- The loop of case `LIBMSR_FINALIZE`. -/
def finalizeLoop (arrays : Option Block) : Heap → List (Option Block) → Option Heap
  | h, [] => some h
  | h, p :: ps => do
    touchTable arrays h
    let h ← freePtr h p
    finalizeLoop arrays h ps

/-! ## The functions -/

/-- A call of the handler's functions, with the addresses that the allocator returns. -/
inductive MemCall where
  | malloc (addr tableAddr : Nat)
  | calloc (addr tableAddr : Nat)
  | realloc (old : Option Block) (addr : Nat)
  | free (old : Option Block)
  | finalize
  deriving Repr, DecidableEq

/-- `libmsr_malloc` and `libmsr_calloc`. -/
def libmsrAlloc (m : Memhdlr) (addr tableAddr : Nat) : Option Memhdlr :=
  handleAlloc { m with heap := m.heap.alloc addr } (m.heap.newBlock addr) tableAddr

/-- `libmsr_realloc`. -/
def libmsrRealloc (m : Memhdlr) (old : Option Block) (addr : Nat) : Option Memhdlr := do
  let heap ← m.heap.realloc old addr
  if loopEnds m.slots.length then do
    let slots ← reallocLoop m.arrays heap (some (m.heap.newBlock addr)) old m.slots
    some { m with heap := heap, slots := slots }
  else none

/-- `libmsr_free`. -/
def libmsrFree (m : Memhdlr) (old : Option Block) : Option Memhdlr :=
  if loopEnds m.slots.length then do
    let (heap, slots) ← freeLoop m.arrays old m.heap m.slots
    some { m with heap := heap, slots := slots }
  else none

/-- `memhdlr_finalize`.  The static variables keep their values. -/
def memhdlrFinalize (m : Memhdlr) : Option Memhdlr :=
  if loopEnds m.slots.length then do
    let heap ← finalizeLoop m.arrays m.heap m.slots
    let heap ← freePtr heap m.arrays
    some { m with heap := heap }
  else none

/-- One call. -/
def memStep (m : Memhdlr) : MemCall → Option Memhdlr
  | .malloc addr tableAddr => libmsrAlloc m addr tableAddr
  | .calloc addr tableAddr => libmsrAlloc m addr tableAddr
  | .realloc old addr => libmsrRealloc m old addr
  | .free old => libmsrFree m old
  | .finalize => memhdlrFinalize m

/-! ## The allocator -/

/-- The allocator keeps to what it promises: a new block is put where no live one is,
    and a moved one there or where it was. -/
def AllocatorOk (m : Memhdlr) : MemCall → Prop
  | .malloc addr tableAddr => m.heap.Unused addr ∧ tableAddr ≠ addr ∧
      (m.heap.Unused tableAddr ∨ ∃ t, m.arrays = some t ∧ tableAddr = t.addr)
  | .calloc addr tableAddr => m.heap.Unused addr ∧ tableAddr ≠ addr ∧
      (m.heap.Unused tableAddr ∨ ∃ t, m.arrays = some t ∧ tableAddr = t.addr)
  | .realloc old addr => m.heap.Unused addr ∨ ∃ b, old = some b ∧ addr = b.addr
  | .free _ => True
  | .finalize => True

end Libmsr
