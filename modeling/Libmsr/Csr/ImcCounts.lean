/-
  Libmsr.Csr.ImcCounts

  Reading and printing the iMC counters (src/csr_imc.c): `mem_bw_on_ctr`,
  `read_imc_counter_batch`, `print_mem_bw_from_ctr`, `print_mem_pct_rw_from_ctr`,
  `print_mem_page_empty_from_ctr`, `print_mem_page_miss_from_ctr` and
  `print_pmon_ctrs`.

  The four functions that print a value of each channel have one shape: they read the
  batch of all counters once for each counter they use, and then print line by line.
  The numbers are kept as the code has them before it formats them, a quotient as its
  two operands.
-/
import Libmsr.Csr.ImcEventsRuns
import Mathlib.Data.List.ReduceOption

namespace Libmsr

/-- `UMASK_CAS_RD`. -/
def umaskCasRd : BitVec 32 := 0x3

/-- `UMASK_CAS_WR`. -/
def umaskCasWr : BitVec 32 := 0xC

/-! ## mem_bw_on_ctr -/

/-- The messages of `mem_bw_on_ctr`. -/
inductive MemBwMessage where
  /-- `mem_bw_on_ctr(): iMC pmon counter does not exist` -/
  | counterDoesNotExist
  /-- `mem_bw_on_ctr(): invalid bandwidth measurement specifier` -/
  | invalidSpecifier
  /-- A message of `pmon_config`. -/
  | config (text : ImcMessage)
  deriving Repr, DecidableEq

/-- The configuration for a type of bandwidth: reads, writes, or both. -/
def memBwConfig (counter : Nat) : Int → Option PmonConfig
  | 0 => some ⟨0x0, 0x0, 0x0, umaskCasRd, evtCasCount, counter⟩
  | 1 => some ⟨0x0, 0x0, 0x0, umaskCasWr, evtCasCount, counter⟩
  | 2 => some ⟨0x0, 0x0, 0x0, umaskCasAll, evtCasCount, counter⟩
  | _ => none

/-- `mem_bw_on_ctr`. -/
def memBwOnCtr (sockets counter : Nat) (type : Int) (x : ImcExecution) (s : ImcState) :
    Option (Int × List MemBwMessage × ImcState) :=
  if 4 < counter then some (-1, [.counterDoesNotExist], s)
  else
    match memBwConfig counter type with
    | none => some (-1, [.invalidSpecifier], s)
    | some c => (pmonConfig sockets c x s).map fun (rc, texts, s) => (rc, texts.map .config, s)

/-! ## Reading -/

/-- `do_csr_batch_op(CSR_IMC_CTRS)`, and what it does to the registers. -/
def doImcCounters (x : ImcExecution) (s : ImcState) : Option (Int × ImcState) :=
  let ops := s.proc.ops csrImcCtrs
  (doCsrBatchOp s.proc csrImcCtrs (x.ioctl ops)).map fun (r, p) =>
    (r.rc, if r.ioctl = none then { s with proc := p } else
      { s with proc := p, regs := x.registers ops s.regs, executed := s.executed + 1 })

/-- `read_imc_counter_batch`: every counter is read with the batch of all. -/
def readImcCounterBatch (counter : Nat) (x : ImcExecution) (s : ImcState) :
    Option (Int × ImcState) :=
  if counter ≤ 4 then doImcCounters x s else some (-1, s)

/-- A call for each of the counters, the return codes dropped; `xs j` is for batch `j`. -/
def readCounters : List Nat → (Nat → ImcExecution) → ImcState → Option ImcState
  | [], _, s => some s
  | c :: cs, xs, s => do
    let (_, s) ← readImcCounterBatch c (xs 0) s
    readCounters cs (fun j => xs (j + 1)) s

/-- `*ctr[i]` of a counter. -/
def ImcState.word (s : ImcState) (counter i : Nat) : Option Word := do
  let ctr ← s.pcd.ctr counter
  let p ← ptrAt ctr i
  let op ← s.proc.st.opAt csrImcCtrs p
  some op.csrdata

/-! ## Printing -/

/-- A number that is printed: `%lu bytes`, or the quotient of two doubles. -/
inductive MemValue where
  | bytes (n : Word)
  | quotient (x y : Word)
  deriving Repr, DecidableEq

/-- What such a function is made of: the counters it reads, and what it prints of their
    values on a channel. -/
structure MemPrint where
  title : String
  counters : List Nat
  value : (Nat → Word) → MemValue

/-- `v ? v : 1`. -/
def orOne (v : Word) : Word := if v ≠ 0 then v else 1

/-- `print_mem_bw_from_ctr`. -/
def printMemBwFromCtr (counter : Nat) : MemPrint where
  title := "Memory Bandwidth"
  counters := [counter]
  value w := .bytes (w 0 * 64)

/-- `print_mem_pct_rw_from_ctr`. -/
def printMemPctRwFromCtr (rcounter wcounter : Nat) (type : Bool) : MemPrint where
  title := if type then "Percent read Requests" else "Percent write Requests"
  counters := [rcounter, wcounter]
  value w := .quotient (if type then w 0 else w 1) (orOne (w 0 + w 1))

/-- `print_mem_page_empty_from_ctr`. -/
def printMemPageEmptyFromCtr (act pre cas : Nat) : MemPrint where
  title := "Percent Requests Caused Page Empty"
  counters := [act, pre, cas]
  value w := .quotient (w 0 - w 1) (orOne (w 2))

/-- `print_mem_page_miss_from_ctr`. -/
def printMemPageMissFromCtr (pre cas : Nat) : MemPrint where
  title := "Percent Requests Caused Page Miss"
  counters := [pre, cas]
  value w := .quotient (w 0) (orOne (w 1))

/-- One line: the channel and the value. -/
def MemPrint.line (f : MemPrint) (h : ImcHeader) (s : ImcState) (i : Nat) :
    Option (ImcPlace × MemValue) := do
  let words ← f.counters.mapM fun c => s.word c i
  some (h.printed i, f.value fun j => words.getD j 0)

/-- A call of the function: the lines behind its title. -/
def MemPrint.call (f : MemPrint) (h : ImcHeader) (sockets : Nat) (xs : Nat → ImcExecution)
    (s : ImcState) : Option (List (ImcPlace × MemValue) × ImcState) := do
  let s ← readCounters f.counters xs s
  let lines ← (List.range (numCtrs * sockets)).mapM (f.line h s)
  some (lines, s)

/-- `init_pmon_ctrs`, on any call. -/
def ImcState.initPmonCtrs (h : ImcHeader) (sockets : Nat) (s : ImcState) :
    Option (Int × ImcState) :=
  if s.init then some (-1, s)
  else (Libmsr.initPmonCtrs h sockets s.proc.st).map fun r =>
    (r.rc, { s with pcd := r.pcd, init := true, proc := { s.proc with st := r.st } })

/-- A line of `print_pmon_ctrs`: "dev %d func %d sock %d", or "CTR%d %lx". -/
inductive PmonLine where
  | place (p : ImcPlace)
  | ctr (n : Nat) (v : Word)
  deriving Repr, DecidableEq

/-- The lines for slot `i`; `none` is one whose value is behind a NULL pointer. -/
def ImcState.pmonLines (h : ImcHeader) (s : ImcState) (i : Nat) : List (Option PmonLine) :=
  some (.place (h.printed i)) :: (List.range 5).map fun c => (s.word c i).map (PmonLine.ctr c)

/-- What a call of `print_pmon_ctrs` prints, and its return code and the state it leaves if
    it comes to its end. -/
structure PmonPrint where
  lines : List PmonLine
  ended : Option (Int × ImcState)

/-- `print_pmon_ctrs`.  What was printed before a NULL pointer stays printed. -/
def printPmonCtrs (h : ImcHeader) (sockets : Nat) (x : ImcExecution) (s : ImcState) :
    Option PmonPrint := do
  let (rc, s) ← s.initPmonCtrs h sockets
  -- the call that initialises returns the number of pointers
  if rc > 0 then some ⟨[], some (-1, s)⟩
  else do
    let (_, s) ← doImcCounters x s
    let lines := (List.range (numCtrs * sockets)).flatMap (s.pmonLines h)
    some ⟨(lines.takeWhile Option.isSome).reduceOption,
      if lines.all Option.isSome then some (0, s) else none⟩

/-! ## Calls -/

/-- A call of one of the four functions. -/
inductive PrintCall where
  | bw (counter : Nat)
  | pctRw (rcounter wcounter : Nat) (type : Bool)
  | pageEmpty (act pre cas : Nat)
  | pageMiss (pre cas : Nat)
  deriving Repr, DecidableEq

def PrintCall.function : PrintCall → MemPrint
  | .bw counter => printMemBwFromCtr counter
  | .pctRw rcounter wcounter type => printMemPctRwFromCtr rcounter wcounter type
  | .pageEmpty act pre cas => printMemPageEmptyFromCtr act pre cas
  | .pageMiss pre cas => printMemPageMissFromCtr pre cas

/-- A call that configures, reads or prints the counters. -/
inductive ImcCtrCall where
  | imc (c : ImcCall)
  | bw (counter : Nat) (type : Int) (x : ImcExecution)
  | read (counter : Nat) (x : ImcExecution)
  | print (c : PrintCall) (xs : Nat → ImcExecution)
  | printPmonCtrs (x : ImcExecution)

/-- The state after the call. -/
def imcCtrStep (h : ImcHeader) (sockets : Nat) (s : ImcState) : ImcCtrCall → Option ImcState
  | .imc c => imcStep h sockets s c
  | .bw counter type x => (memBwOnCtr sockets counter type x s).map fun r => r.2.2
  | .read counter x => (readImcCounterBatch counter x s).map Prod.snd
  | .print c xs => (c.function.call h sockets xs s).map Prod.snd
  | .printPmonCtrs x => (printPmonCtrs h sockets x s).bind fun r => r.ended.map Prod.snd

/-- The states that calls can lead to. -/
def MemReachable (h : ImcHeader) (sockets : Nat) (s : ImcState) : Prop :=
  ∃ p regs calls, Runs.run (imcCtrStep h sockets) (.start sockets p regs) calls = some s

end Libmsr
