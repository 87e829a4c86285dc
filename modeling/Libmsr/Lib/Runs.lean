/-
  Libmsr.Lib.Runs

  Runs of a partial step function.  `step s o` is the state after operation `o`
  in state `s`, or `none` if the operation has no defined outcome there.

  - `run` executes a list of operations.
  - `Along P s os`: `P` holds of every operation of `os` in the state it is
    executed in.  After an operation without outcome nothing more is required.
  - `run_inv`, `run_record`: invariants of every run, the second with a record of
    the operations.
  - `along_iff`: two step properties that agree wherever an invariant holds,
    the second of which keeps the invariant, agree along every run.
  - `along_iff_forall`: a step property that is one of the operations alone.
  - `outputs_congr`: states that no operation tells apart.
  - `outputs_sameOutcome`: two machines of which every operation outputs the same.
  - `outputs_take_iff`: two machines of which an operation outputs the same under a
    condition output the same all the way if and only if the condition holds along the
    run.
-/
import Mathlib.Data.List.Basic

namespace Runs

variable {σ ο : Type*}

/-- Execute the operations in order. -/
def run (step : σ → ο → Option σ) : σ → List ο → Option σ
  | s, [] => some s
  | s, o :: os => (step s o).bind fun s' => run step s' os

/-- `P` holds at every operation of the run from `s`. -/
def Along (step : σ → ο → Option σ) (P : σ → ο → Prop) : σ → List ο → Prop
  | _, [] => True
  | s, o :: os => P s o ∧ ∀ s', step s o = some s' → Along step P s' os

variable {step : σ → ο → Option σ}

@[simp] theorem run_nil (s : σ) : run step s [] = some s := rfl

@[simp] theorem run_cons (s : σ) (o : ο) (os : List ο) :
    run step s (o :: os) = (step s o).bind fun s' => run step s' os := rfl

@[simp] theorem along_cons (P : σ → ο → Prop) (s : σ) (o : ο) (os : List ο) :
    Along step P s (o :: os) ↔ P s o ∧ ∀ s', step s o = some s' → Along step P s' os := Iff.rfl

/-- A call with a known result: what holds of some result holds of this one. -/
theorem result_iff {β : Type*} {call : Option (σ × β)} {s : σ} {b : β}
    (h : call = some (s, b)) {Q : σ → β → Prop} :
    (∃ s' b', call = some (s', b') ∧ Q s' b') ↔ Q s b := by
  constructor
  · rintro ⟨s', b', h', hQ⟩
    obtain ⟨rfl, rfl⟩ := Prod.mk.inj (Option.some.inj (h.symm.trans h'))
    exact hQ
  · intro hQ
    exact ⟨s, b, h, hQ⟩

/-- One operation with a known outcome, and the rest. -/
theorem Along.cons {P : σ → ο → Prop} {s s' : σ} {o : ο} {os : List ο} (hP : P s o)
    (hs : step s o = some s') (h : Along step P s' os) : Along step P s (o :: os) :=
  ⟨hP, fun _ ht => Option.some.inj (hs.symm.trans ht) ▸ h⟩

theorem run_append (s : σ) (os os' : List ο) :
    run step s (os ++ os') = (run step s os).bind fun s' => run step s' os' := by
  induction os generalizing s with
  | nil => rfl
  | cons o os ih =>
    simp only [List.cons_append, run_cons, ih]
    cases step s o <;> rfl

/-- A run one operation longer. -/
theorem run_take_succ (s : σ) {os : List ο} {i : Nat} {o : ο} (h : os[i]? = some o) :
    run step s (os.take (i + 1)) = (run step s (os.take i)).bind fun s' => step s' o := by
  rw [List.take_add_one, h, Option.toList_some, run_append]
  refine congrArg _ (funext fun s' => ?_)
  rw [run_cons]
  cases step s' o <;> rfl

/-- **Run lemma.**  If every operation satisfying `P` succeeds and keeps `I`,
    then a run along `P` from a state with `I` succeeds and ends with `I`. -/
theorem Along.run_inv {P : σ → ο → Prop} {I : σ → Prop}
    (hstep : ∀ s o, I s → P s o → ∃ s', step s o = some s' ∧ I s')
    {s : σ} {os : List ο} (hI : I s) (h : Along step P s os) :
    ∃ s', run step s os = some s' ∧ I s' := by
  induction os generalizing s with
  | nil => exact ⟨s, rfl, hI⟩
  | cons o os ih =>
    obtain ⟨hP, hrest⟩ := h
    obtain ⟨s', hs', hI'⟩ := hstep s o hI hP
    obtain ⟨s'', hs'', hI''⟩ := ih hI' (hrest s' hs')
    refine ⟨s'', ?_, hI''⟩
    rw [run_cons, hs']
    exact hs''

/-- A run of operations satisfying `P`, each of which keeps `I` if it succeeds. -/
theorem Along.run_keeps {P : σ → ο → Prop} {I : σ → Prop}
    (hstep : ∀ s o s', I s → P s o → step s o = some s' → I s') {s s' : σ} {os : List ο}
    (hI : I s) (h : Along step P s os) (hrun : run step s os = some s') : I s' := by
  induction os generalizing s with
  | nil =>
    obtain rfl := Option.some.inj hrun
    exact hI
  | cons o os ih =>
    obtain ⟨hP, hrest⟩ := h
    obtain ⟨t, ht, hrun⟩ := Option.bind_eq_some_iff.mp hrun
    exact ih (hstep s o t hI hP ht) (hrest t ht) hrun

/-- What holds along a run holds along the beginning of it. -/
theorem Along.take {P : σ → ο → Prop} {s : σ} {os : List ο} (h : Along step P s os) (k : Nat) :
    Along step P s (os.take k) := by
  induction os generalizing s k with
  | nil => simp [Along]
  | cons o os ih =>
    cases k with
    | zero => trivial
    | succ k => exact ⟨h.1, fun s' hs' => ih (h.2 s' hs') k⟩

/-- An invariant kept by every successful operation holds after every run. -/
theorem run_inv {I : σ → Prop} (hstep : ∀ s o s', I s → step s o = some s' → I s')
    {s s' : σ} {os : List ο} (hI : I s) (h : run step s os = some s') : I s' := by
  induction os generalizing s with
  | nil =>
    obtain rfl := Option.some.inj h
    exact hI
  | cons o os ih =>
    rw [run_cons, Option.bind_eq_some_iff] at h
    obtain ⟨t, ht, hrun⟩ := h
    exact ih (hstep s o t hI ht) hrun

/-- A run with a record of it: if every operation satisfying `P` succeeds and keeps
    `I`, the record brought up to date by `upd`, then so does every run of such
    operations. -/
theorem run_record {γ : Type*} {P : ο → Prop} {I : σ → γ → Prop} {upd : γ → ο → γ}
    (hstep : ∀ s g o, I s g → P o → ∃ s', step s o = some s' ∧ I s' (upd g o))
    {s : σ} {g : γ} {os : List ο} (hI : I s g) (hP : ∀ o ∈ os, P o) :
    ∃ s', run step s os = some s' ∧ I s' (os.foldl upd g) := by
  induction os generalizing s g with
  | nil => exact ⟨s, rfl, hI⟩
  | cons o os ih =>
    obtain ⟨s', hs', hI'⟩ := hstep s g o hI (hP o (List.mem_cons_self ..))
    obtain ⟨s'', hs'', hI''⟩ := ih hI' fun o' ho' => hP o' (List.mem_cons_of_mem _ ho')
    refine ⟨s'', ?_, hI''⟩
    rw [run_cons, hs']
    exact hs''

/-- Where `P` and `Q` agree under the invariant `I`, and operations satisfying
    `Q` keep `I`, a run has `P` throughout exactly when it has `Q` throughout. -/
theorem along_iff {P Q : σ → ο → Prop} {I : σ → Prop}
    (hPQ : ∀ s o, I s → (P s o ↔ Q s o))
    (hkeep : ∀ s o s', I s → Q s o → step s o = some s' → I s')
    {s : σ} {os : List ο} (hI : I s) : Along step P s os ↔ Along step Q s os := by
  induction os generalizing s with
  | nil => exact Iff.rfl
  | cons o os ih =>
    rw [along_cons, along_cons, hPQ s o hI]
    refine and_congr_right fun hQ => ?_
    exact forall_congr' fun s' => imp_congr_right fun hs' => ih (hkeep s o s' hI hQ hs')

/-- Where `P` says of an operation only that it satisfies `Q`, and operations that do
    succeed, `P` holds along a run exactly when all operations satisfy `Q`. -/
theorem along_iff_forall {P : σ → ο → Prop} {Q : ο → Prop} {I : σ → Prop} {os : List ο}
    (hPQ : ∀ s, I s → ∀ o ∈ os, (P s o ↔ Q o))
    (hstep : ∀ s, I s → ∀ o ∈ os, Q o → ∃ s', step s o = some s' ∧ I s') {s : σ} (hI : I s) :
    Along step P s os ↔ ∀ o ∈ os, Q o := by
  induction os generalizing s with
  | nil => exact ⟨fun _ o ho => absurd ho List.not_mem_nil, fun _ => trivial⟩
  | cons o os ih =>
    have ih' := fun {s} => ih (s := s) (fun s hs o' ho' => hPQ s hs o' (List.mem_cons_of_mem _ ho'))
      fun s hs o' ho' => hstep s hs o' (List.mem_cons_of_mem _ ho')
    rw [along_cons, List.forall_mem_cons, hPQ s hI o (List.mem_cons_self ..)]
    refine and_congr_right fun hQ => ?_
    obtain ⟨s', hs', hI'⟩ := hstep s hI o (List.mem_cons_self ..) hQ
    constructor
    · intro hrest
      exact (ih' hI').mp (hrest s' hs')
    · intro hall s'' hs''
      obtain rfl := Option.some.inj (hs'.symm.trans hs'')
      exact (ih' hI').mpr hall

/-- Two properties along a run. -/
theorem along_and {P Q : σ → ο → Prop} {s : σ} {os : List ο} :
    Along step (fun s o => P s o ∧ Q s o) s os ↔ Along step P s os ∧ Along step Q s os := by
  induction os generalizing s with
  | nil => exact ⟨fun _ => ⟨trivial, trivial⟩, fun _ => trivial⟩
  | cons o os ih =>
    simp only [along_cons, ih]
    constructor
    · rintro ⟨⟨hP, hQ⟩, hrest⟩
      exact ⟨⟨hP, fun s' hs' => (hrest s' hs').1⟩, hQ, fun s' hs' => (hrest s' hs').2⟩
    · rintro ⟨⟨hP, hrestP⟩, hQ, hrestQ⟩
      exact ⟨⟨hP, hQ⟩, fun s' hs' => ⟨hrestP s' hs', hrestQ s' hs'⟩⟩

/-! ## Outputs -/

section Outputs

variable {σ ο ω : Type*}

/-- What a list of operations outputs, and the state after it. -/
def outputs (step : σ → ο → Option (ω × σ)) : σ → List ο → Option (List ω × σ)
  | s, [] => some ([], s)
  | s, o :: os => do
    let (x, s) ← step s o
    let (xs, s) ← outputs step s os
    some (x :: xs, s)

/-- The operation outputs the same in both states, and keeps them related; or it fails in
    both. -/
inductive SameOutput (step : σ → ο → Option (ω × σ)) (R : σ → σ → Prop) (s s' : σ) (o : ο) :
    Prop
  | fails (h : step s o = none) (h' : step s' o = none)
  | returns (x : ω) (t t' : σ) (h : step s o = some (x, t)) (h' : step s' o = some (x, t'))
      (related : R t t')

variable {step : σ → ο → Option (ω × σ)} {R : σ → σ → Prop} {s s' : σ}

/-- One operation, and a rest that outputs the same from related states. -/
theorem SameOutput.cons {o : ο} {os : List ο} (h : SameOutput step R s s' o)
    (hrest : ∀ t t', R t t' →
      (outputs step t os).map Prod.fst = (outputs step t' os).map Prod.fst) :
    (outputs step s (o :: os)).map Prod.fst = (outputs step s' (o :: os)).map Prod.fst := by
  cases h with
  | fails h h' => simp only [outputs, h, h', Option.bind_eq_bind, Option.bind_none]
  | returns x t t' h h' hrel =>
    have hsame := hrest t t' hrel
    simp only [outputs, h, h', Option.bind_eq_bind, Option.bind_some]
    cases ht : outputs step t os with
    | none =>
      rw [ht, Option.map_none, eq_comm, Option.map_eq_none_iff] at hsame
      rw [hsame]
    | some r =>
      rw [ht, Option.map_some, eq_comm, Option.map_eq_some_iff] at hsame
      obtain ⟨r', hr', heq⟩ := hsame
      rw [hr']
      simp only [Option.bind_some, Option.map_some, heq]

/-- States that no operation tells apart output the same. -/
theorem outputs_congr (hstep : ∀ s s' o, R s s' → SameOutput step R s s' o) (hR : R s s')
    (os : List ο) : (outputs step s os).map Prod.fst = (outputs step s' os).map Prod.fst := by
  induction os generalizing s s' with
  | nil => rfl
  | cons o os ih => exact (hstep s s' o hR).cons fun t t' hrel => ih hrel

end Outputs

/-! ## Two machines -/

section Refinement

variable {σ τ ο ω : Type*}

/-- Both outcomes are missing, or they output the same and leave related states. -/
abbrev SameOutcome (R : σ → τ → Prop) : Option (ω × σ) → Option (ω × τ) → Prop :=
  Option.Rel fun a b => a.1 = b.1 ∧ R a.2 b.2

variable {step : σ → ο → Option (ω × σ)} {spec : τ → ο → Option (ω × τ)} {R : σ → τ → Prop}
  {P : ο → Prop} {s : σ} {t : τ} {os : List ο}

/-- **Refinement.**  If every operation has the same outcome on both machines, then so
    has every list of operations. -/
theorem outputs_sameOutcome
    (hstep : ∀ s t o, R s t → P o → SameOutcome R (step s o) (spec t o)) (hR : R s t)
    (hP : ∀ o ∈ os, P o) : SameOutcome R (outputs step s os) (outputs spec t os) := by
  induction os generalizing s t with
  | nil => exact .some ⟨rfl, hR⟩
  | cons o os ih =>
    have hhead := hstep s t o hR (hP o List.mem_cons_self)
    have htail := fun {s t} (h : R s t) => ih h fun o' ho' => hP o' (List.mem_cons_of_mem _ ho')
    simp only [outputs, Option.bind_eq_bind]
    revert hhead
    generalize step s o = a, spec t o = b
    intro hhead
    cases hhead with
    | none => exact .none
    | some h =>
      have hrest := htail h.2
      rw [Option.bind_some, Option.bind_some]
      revert hrest
      generalize outputs step _ os = c, outputs spec _ os = d
      intro hrest
      cases hrest with
      | none => exact .none
      | some h' => exact .some ⟨by rw [h.1, h'.1], h'.2⟩

/-- The state after an operation, without its output. -/
def next (step : σ → ο → Option (ω × σ)) (s : σ) (o : ο) : Option σ := (step s o).map Prod.snd

/-- The outputs of an operation that returns, and of the rest. -/
theorem outputs_cons {o : ο} {x : ω} {s' : σ} (h : step s o = some (x, s')) (os : List ο) :
    (outputs step s (o :: os)).map Prod.fst =
      ((outputs step s' os).map Prod.fst).map (x :: ·) := by
  simp only [outputs, h, Option.bind_eq_bind, Option.bind_some]
  cases outputs step s' os <;> rfl

theorem outputs_cons_fails {o : ο} (h : step s o = none) (os : List ο) :
    outputs step s (o :: os) = none := by
  simp only [outputs, h, Option.bind_eq_bind, Option.bind_none]

theorem along_next_cons {Q : τ → ο → Prop} {o : ο} {y : ω} {t' : τ}
    (h : spec t o = some (y, t')) (os : List ο) :
    Along (next spec) Q t (o :: os) ↔ Q t o ∧ Along (next spec) Q t' os := by
  have hnext : next spec t o = some t' := by rw [next, h, Option.map_some]
  rw [along_cons]
  refine and_congr_right fun _ => ⟨fun hrest => hrest t' hnext, fun hrest t'' ht => ?_⟩
  obtain rfl := Option.some.inj (hnext.symm.trans ht)
  exact hrest

/-- Two runs that both begin with an output agree all the way when the outputs are
    the same and the rests agree. -/
theorem outputs_take_cons_iff {o : ο} {x y : ω} {s' : σ} {t' : τ} (hs : step s o = some (x, s'))
    (ht : spec t o = some (y, t')) (os : List ο) :
    (∀ k, (outputs step s ((o :: os).take k)).map Prod.fst =
        (outputs spec t ((o :: os).take k)).map Prod.fst) ↔
      x = y ∧ ∀ k, (outputs step s' (os.take k)).map Prod.fst =
        (outputs spec t' (os.take k)).map Prod.fst := by
  constructor
  · intro hall
    have hone := hall 1
    rw [List.take_succ_cons, List.take_zero, outputs_cons hs, outputs_cons ht] at hone
    have hxy : x = y := List.singleton_inj.mp (Option.some.inj hone)
    refine ⟨hxy, fun k => ?_⟩
    have hmore := hall (k + 1)
    rw [List.take_succ_cons, outputs_cons hs, outputs_cons ht, hxy] at hmore
    exact Option.map_injective List.cons_injective hmore
  · rintro ⟨hxy, hrest⟩ k
    cases k with
    | zero => rfl
    | succ k => rw [List.take_succ_cons, outputs_cons hs, outputs_cons ht, hxy, hrest k]

/-- **Conditional refinement.**  If every operation fails on both machines or on none,
    and outputs the same exactly under the condition `Q`, then what is output agrees all
    the way exactly if `Q` holds along the run. -/
theorem outputs_take_iff {P Q : τ → ο → Prop}
    (hstep : ∀ s t o, R s t → P t o →
      Option.Rel (fun a b => (a.1 = b.1 ↔ Q t o) ∧ R a.2 b.2) (step s o) (spec t o))
    (hfails : ∀ t o, spec t o = none → Q t o) (hR : R s t) (hP : Along (next spec) P t os) :
    (∀ k, (outputs step s (os.take k)).map Prod.fst =
        (outputs spec t (os.take k)).map Prod.fst) ↔ Along (next spec) Q t os := by
  induction os generalizing s t with
  | nil =>
    simp only [List.take_nil]
    exact iff_of_true (fun _ => rfl) trivial
  | cons o os ih =>
    have hhead := hstep s t o hR hP.1
    cases hs : step s o with
    | none =>
      cases ht : spec t o with
      | none =>
        have hnext : next spec t o = none := by rw [next, ht, Option.map_none]
        refine iff_of_true (fun k => ?_) ⟨hfails t o ht, fun s' hs' => ?_⟩
        · cases k with
          | zero => rfl
          | succ k =>
            rw [List.take_succ_cons, outputs_cons_fails hs, outputs_cons_fails ht]
            rfl
        · rw [hnext] at hs'
          contradiction
      | some b =>
        rw [hs, ht] at hhead
        contradiction
    | some a =>
      cases ht : spec t o with
      | none =>
        rw [hs, ht] at hhead
        contradiction
      | some b =>
        obtain ⟨x, s'⟩ := a
        obtain ⟨y, t'⟩ := b
        rw [hs, ht] at hhead
        obtain ⟨hsame, hR'⟩ : (x = y ↔ Q t o) ∧ R s' t' := by
          cases hhead with
          | some h => exact h
        rw [outputs_take_cons_iff hs ht, along_next_cons ht, hsame,
          ih hR' ((along_next_cons ht os).mp hP).2]

end Refinement

end Runs
