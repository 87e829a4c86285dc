/-
  Libmsr.Lib.Components

  Components that take turns on one shared state, each with a state of its own.
  Nothing here mentions a particular program.

  A `Contract` says of every component what it relies on (`Inv`), what a call of it
  may do to the shared state (`Guar`) and what the call is for (`Post`).  It is
  `Kept` if every call does its part and no other component minds.  Then every
  sequence of calls, in any order and with any changes from outside in between that
  the contract allows, runs through, and each call of it does what it is for
  (`Contract.Kept.run`).
-/
import Libmsr.Lib.Runs
import Mathlib.Logic.Function.Basic

namespace Components

open Runs

/-- What each component keeps, which calls it has, what they return, and what a call
    does to the shared state and to the component's own. -/
structure Family (ι σ : Type*) where
  Own : ι → Type
  Op : ι → Type
  Out : ι → Type
  step : ∀ i, σ → Own i → Op i → Option (Out i × σ × Own i)

variable {ι σ : Type*}

/-- The shared state and everyone's own. -/
structure State (F : Family ι σ) where
  shared : σ
  own : ∀ i, F.Own i

/-- A call of one component, or a change of the shared state that none of them makes. -/
inductive Turn (F : Family ι σ) where
  | call (i : ι) (o : F.Op i)
  | outside (f : σ → σ)

/-- The state after a turn. -/
def turn [DecidableEq ι] (F : Family ι σ) (s : State F) : Turn F → Option (State F)
  | .call i o =>
    (F.step i s.shared (s.own i) o).map fun r => ⟨r.2.1, Function.update s.own i r.2.2⟩
  | .outside f => some ⟨f s.shared, s.own⟩

/-- What the components ask of each other. -/
structure Contract (F : Family ι σ) where
  Inv : ∀ i, σ → F.Own i → Prop
  Guar : ι → σ → σ → Prop
  Post : ∀ i, σ → F.Op i → F.Out i → σ → Prop
  Outside : (σ → σ) → Prop

namespace Contract

variable {F : Family ι σ} (C : Contract F)

/-- Every component finds what it relies on. -/
def All (s : State F) : Prop := ∀ i, C.Inv i s.shared (s.own i)

/-- Any call may be made, but not every change from outside. -/
def Allowed : Turn F → Prop
  | .call _ _ => True
  | .outside f => C.Outside f

/-- A call returns and does what it is for. -/
def Good (s : State F) : Turn F → Prop
  | .call i o => ∃ x s' l', F.step i s.shared (s.own i) o = some (x, s', l') ∧
      C.Post i s.shared o x s'
  | .outside f => C.Outside f

/-- Every component does its part, and what one does the others can live with. -/
structure Kept : Prop where
  call : ∀ i s (l : F.Own i) (o : F.Op i), C.Inv i s l →
    ∃ x s' l', F.step i s l o = some (x, s', l') ∧ C.Inv i s' l' ∧ C.Guar i s s' ∧
      C.Post i s o x s'
  stable : ∀ i j, j ≠ i → ∀ s s' (l : F.Own j), C.Inv j s l → C.Guar i s s' → C.Inv j s' l
  outside : ∀ f, C.Outside f → ∀ j s (l : F.Own j), C.Inv j s l → C.Inv j (f s) l

variable {C} {s : State F}

theorem Kept.good_iff (hC : C.Kept) (hI : C.All s) (t : Turn F) : C.Good s t ↔ C.Allowed t := by
  cases t with
  | call i o =>
    obtain ⟨x, s', l', hstep, -, -, hpost⟩ := hC.call i s.shared (s.own i) o (hI i)
    exact iff_of_true ⟨x, s', l', hstep, hpost⟩ trivial
  | outside f => exact Iff.rfl

variable [DecidableEq ι]

/-- One turn leaves every component what it relies on. -/
theorem Kept.turn (hC : C.Kept) (hI : C.All s) {t : Turn F} (ht : C.Allowed t) :
    ∃ s', Components.turn F s t = some s' ∧ C.All s' := by
  cases t with
  | call i o =>
    obtain ⟨x, s', l', hstep, hinv, hguar, -⟩ := hC.call i s.shared (s.own i) o (hI i)
    refine ⟨⟨s', Function.update s.own i l'⟩, ?_, fun j => ?_⟩
    · rw [Components.turn, hstep]
      rfl
    · -- the component that was called, and the others
      show C.Inv j s' (Function.update s.own i l' j)
      rcases eq_or_ne j i with rfl | hne
      · rw [Function.update_self]
        exact hinv
      · rw [Function.update_of_ne hne]
        exact hC.stable i j hne _ _ _ (hI j) hguar
  | outside f => exact ⟨⟨f s.shared, s.own⟩, rfl, fun j => hC.outside f ht j _ _ (hI j)⟩

/-- **Any order of calls.** -/
theorem Kept.run (hC : C.Kept) (hI : C.All s) {ts : List (Turn F)} (hts : ∀ t ∈ ts, C.Allowed t) :
    (∃ s', Runs.run (Components.turn F) s ts = some s' ∧ C.All s') ∧
      Along (Components.turn F) C.Good s ts := by
  have halong : Along (Components.turn F) C.Good s ts :=
    (along_iff_forall (I := C.All) (fun _ hI t _ => hC.good_iff hI t)
      (fun _ hI _ _ ht => hC.turn hI ht) hI).mpr hts
  refine ⟨halong.run_inv (fun s t hI hgood => ?_) hI, halong⟩
  exact hC.turn hI ((hC.good_iff hI t).mp hgood)

end Contract

end Components
