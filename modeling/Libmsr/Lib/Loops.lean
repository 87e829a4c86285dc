/-
  Libmsr.Lib.Loops

  Counted loops whose body may fail, as `foldlM` over `List.range n` in
  `Option`.  Nothing here mentions a particular program.

  - `foldlM_range_inv`: an invariant indexed by the iteration number that every
    iteration succeeds under carries the loop to its end.
  - `foldlM_keeps`: an invariant that every successful iteration keeps.
  - `updatedBelow`: what a loop that updates element `k` of a list in iteration
    `k` has made of the list so far.
  - `rounds`: a loop that may start over; `rounds_returns` is its invariant and
    variant.
-/
import Mathlib.Data.List.Range

namespace Loops

variable {σ : Type*}

theorem foldlM_range_succ (f : σ → Nat → Option σ) (s : σ) (n : Nat) :
    (List.range (n + 1)).foldlM f s = (List.range n).foldlM f s >>= fun t => f t n := by
  rw [List.range_succ, List.foldlM_append]
  simp only [List.foldlM_cons, List.foldlM_nil, bind_pure]

/-- **Loop invariant.**  If iteration `k` succeeds from every state satisfying
    `I k` and establishes `I (k + 1)`, the loop succeeds and ends in `I n`. -/
theorem foldlM_range_inv (f : σ → Nat → Option σ) (I : Nat → σ → Prop) (n : Nat) (s : σ)
    (h0 : I 0 s)
    (hstep : ∀ k, k < n → ∀ t, I k t → ∃ t', f t k = some t' ∧ I (k + 1) t') :
    ∃ t, (List.range n).foldlM f s = some t ∧ I n t := by
  induction n with
  | zero => exact ⟨s, rfl, h0⟩
  | succ n ih =>
    obtain ⟨t, ht, hI⟩ := ih (fun k hk => hstep k (by omega))
    obtain ⟨t', ht', hI'⟩ := hstep n (by omega) t hI
    refine ⟨t', ?_, hI'⟩
    rw [foldlM_range_succ, ht]
    exact ht'

/-- A loop that has failed stays failed. -/
theorem foldlM_range_none {f : σ → Nat → Option σ} {s : σ} {m n : Nat} (hmn : m ≤ n)
    (h : (List.range m).foldlM f s = none) : (List.range n).foldlM f s = none := by
  induction hmn with
  | refl => exact h
  | step _ ih =>
    rw [Nat.succ_eq_add_one, foldlM_range_succ, ih]
    rfl

/-- An invariant that every successful iteration keeps holds after the loop. -/
theorem foldlM_keeps {β : Type*} {f : σ → β → Option σ} {I : σ → Prop} {l : List β}
    (hstep : ∀ s x s', I s → f s x = some s' → I s') {s s' : σ} (hI : I s)
    (h : l.foldlM f s = some s') : I s' := by
  induction l generalizing s with
  | nil =>
    obtain rfl := Option.some.inj h
    exact hI
  | cons x l ih =>
    rw [List.foldlM_cons, Option.bind_eq_bind, Option.bind_eq_some_iff] at h
    obtain ⟨t, ht, hrest⟩ := h
    exact ih (hstep s x t hI ht) hrest

/-- The same, where an iteration may know which element it is for. -/
theorem foldlM_keeps_mem {β : Type*} {f : σ → β → Option σ} {I : σ → Prop} {l : List β}
    (hstep : ∀ s, ∀ x ∈ l, ∀ s', I s → f s x = some s' → I s') {s s' : σ} (hI : I s)
    (h : l.foldlM f s = some s') : I s' := by
  induction l generalizing s with
  | nil =>
    obtain rfl := Option.some.inj h
    exact hI
  | cons x l ih =>
    rw [List.foldlM_cons, Option.bind_eq_bind, Option.bind_eq_some_iff] at h
    obtain ⟨t, ht, hrest⟩ := h
    exact ih (fun t y hy => hstep t y (List.mem_cons_of_mem _ hy))
      (hstep s x (List.mem_cons_self ..) t hI ht) hrest

/-- A check of the numbers below `n` in order passes, or fails first at some number. -/
theorem first_false (check : Nat → Bool) (n : Nat) :
    (∀ i, i < n → check i = true) ∨
      ∃ j, j < n ∧ check j = false ∧ ∀ i, i < j → check i = true := by
  induction n with
  | zero => exact Or.inl fun i hi => absurd hi (Nat.not_lt_zero i)
  | succ n ih =>
    rcases ih with hall | ⟨j, hj, hfirst⟩
    · cases hn : check n with
      | true =>
        refine Or.inl fun i hi => ?_
        rcases Nat.lt_succ_iff_lt_or_eq.mp hi with hlt | rfl
        · exact hall i hlt
        · exact hn
      | false => exact Or.inr ⟨n, Nat.lt_succ_self n, hn, hall⟩
    · exact Or.inr ⟨j, Nat.lt_succ_of_lt hj, hfirst⟩

/-- A list of computations all of which succeed. -/
theorem mapM_some {α β : Type*} {f : α → Option β} {g : α → β} {l : List α}
    (h : ∀ a ∈ l, f a = some (g a)) : l.mapM f = some (l.map g) := by
  induction l with
  | nil => rfl
  | cons a l ih =>
    have hrest := ih fun b hb => h b (List.mem_cons_of_mem _ hb)
    rw [List.mapM_cons, h a (List.mem_cons_self ..), hrest]
    rfl

/-- It fails where its body fails once. -/
theorem mapM_none {α β : Type*} {f : α → Option β} {l : List α} {a : α} (ha : a ∈ l)
    (h : f a = none) : l.mapM f = none := by
  induction l with
  | nil => exact absurd ha List.not_mem_nil
  | cons b l ih =>
    rw [List.mapM_cons]
    rcases List.mem_cons.mp ha with rfl | ha
    · rw [h]
      rfl
    · rw [ih ha]
      cases f b <;> rfl

/-! ## Loops that update element `k` in iteration `k` -/

variable {α : Type*}

theorem mapIdx_getElem?_eq_some {β : Type*} {f : Nat → α → β} {l : List α} {i : Nat} {y : β} :
    (l.mapIdx f)[i]? = some y ↔ ∃ x, l[i]? = some x ∧ f i x = y := by
  rw [List.getElem?_mapIdx, Option.map_eq_some_iff]

/-- The list with `f` applied to the elements below `k`. -/
def updatedBelow (f : Nat → α → α) (k : Nat) (l : List α) : List α :=
  l.mapIdx fun i x => if i < k then f i x else x

theorem updatedBelow_zero (f : Nat → α → α) (l : List α) : updatedBelow f 0 l = l := by
  apply List.ext_getElem?
  intro i
  rw [updatedBelow, List.getElem?_mapIdx]
  simp only [Nat.not_lt_zero, if_false, Option.map_id']

theorem updatedBelow_length (f : Nat → α → α) (k : Nat) (l : List α) :
    (updatedBelow f k l).length = l.length := by
  rw [updatedBelow, List.length_mapIdx]

/-- Element `k` is still to come. -/
theorem updatedBelow_getElem?_self (f : Nat → α → α) (k : Nat) (l : List α) :
    (updatedBelow f k l)[k]? = l[k]? := by
  rw [updatedBelow, List.getElem?_mapIdx]
  simp only [Nat.lt_irrefl, if_false, Option.map_id']

/-- Iteration `k` extends the updated part by one. -/
theorem updatedBelow_set (f : Nat → α → α) {k : Nat} {l : List α} {x : α} (hx : l[k]? = some x) :
    (updatedBelow f k l).set k (f k x) = updatedBelow f (k + 1) l := by
  obtain ⟨hk, -⟩ := List.getElem?_eq_some_iff.mp hx
  apply List.ext_getElem?
  intro i
  by_cases hi : k = i
  · subst hi
    rw [List.getElem?_set_self (by rw [updatedBelow_length]; exact hk), updatedBelow,
      List.getElem?_mapIdx, hx, Option.map_some, if_pos (Nat.lt_succ_self k)]
  · have hsame : i < k + 1 ↔ i < k := by omega
    rw [List.getElem?_set_ne hi, updatedBelow, updatedBelow, List.getElem?_mapIdx,
      List.getElem?_mapIdx]
    simp only [hsame]

/-- At the end every element is updated. -/
theorem updatedBelow_all (f : Nat → α → α) (l : List α) :
    updatedBelow f l.length l = l.mapIdx f := by
  apply List.ext_getElem?
  intro i
  rw [updatedBelow, List.getElem?_mapIdx, List.getElem?_mapIdx]
  by_cases hi : i < l.length
  · simp only [hi, if_true]
  · rw [List.getElem?_eq_none (Nat.le_of_not_lt hi), Option.map_none, Option.map_none]

/-! ## Loops that are not counted -/

section Rounds

variable {ρ : Type*}

/-- What a round of a loop comes to. -/
inductive Round (σ ρ : Type*) where
  | again (s : σ)
  | done (r : ρ) (s : σ)

/-- The loop, for at most `fuel` rounds; `none` also if a round fails. -/
def rounds (body : σ → Option (Round σ ρ)) : Nat → σ → Option (ρ × σ)
  | 0, _ => none
  | fuel + 1, s =>
    match body s with
    | none => none
    | some (.again s) => rounds body fuel s
    | some (.done r s) => some (r, s)

variable {body : σ → Option (Round σ ρ)}

theorem rounds_again {s s' : σ} (h : body s = some (.again s')) (fuel : Nat) :
    rounds body (fuel + 1) s = rounds body fuel s' := by
  rw [rounds, h]

theorem rounds_done {s s' : σ} {r : ρ} (h : body s = some (.done r s')) (fuel : Nat) :
    rounds body (fuel + 1) s = some (r, s') := by
  rw [rounds, h]

/-- A loop of which no round is the last does not return. -/
theorem rounds_eq_none (hbody : ∀ s r s', body s ≠ some (.done r s')) (fuel : Nat) (s : σ) :
    rounds body fuel s = none := by
  induction fuel generalizing s with
  | zero => rfl
  | succ fuel ih =>
    cases hs : body s with
    | none => rw [rounds, hs]
    | some x =>
      cases x with
      | again s' => exact (rounds_again hs fuel).trans (ih s')
      | done r s' => exact absurd hs (hbody s r s')

/-- **Invariant.**  Where every round keeps `I`, and a last one from `I` gives `Q`, a loop that
    returns gives `Q`. -/
theorem rounds_result {I : σ → Prop} {Q : ρ → σ → Prop}
    (hagain : ∀ s s', I s → body s = some (.again s') → I s')
    (hdone : ∀ s r s', I s → body s = some (.done r s') → Q r s') {fuel : Nat} {s s' : σ} {r : ρ}
    (hI : I s) (h : rounds body fuel s = some (r, s')) : Q r s' := by
  induction fuel generalizing s with
  | zero => exact absurd h (by simp [rounds])
  | succ fuel ih =>
    cases hs : body s with
    | none => simp [rounds, hs] at h
    | some x =>
      cases x with
      | again t =>
        rw [rounds_again hs] at h
        exact ih (hagain s t hI hs) h
      | done r' t =>
        rw [rounds_done hs] at h
        obtain ⟨rfl, rfl⟩ := Prod.mk.inj (Option.some.inj h)
        exact hdone s r' t hI hs

/-- **Invariant and variant.**  If every round from a state with `I` ends the loop with
    `Q`, or keeps `I` and lowers `μ`, then the loop ends with `Q`. -/
theorem rounds_returns {I : σ → Prop} {Q : ρ → σ → Prop} {μ : σ → Nat}
    (hbody : ∀ s, I s → (∃ s', body s = some (.again s') ∧ I s' ∧ μ s' < μ s) ∨
      ∃ r s', body s = some (.done r s') ∧ Q r s')
    {s : σ} (hI : I s) :
    ∃ r s', Q r s' ∧ ∀ fuel, μ s < fuel → rounds body fuel s = some (r, s') := by
  induction hμ : μ s using Nat.strong_induction_on generalizing s with
  | _ m ih =>
    rcases hbody s hI with ⟨s', hs', hI', hlt⟩ | ⟨r, s', hs', hQ⟩
    · obtain ⟨r, t, hQ, hrest⟩ := ih (μ s') (hμ ▸ hlt) hI' rfl
      refine ⟨r, t, hQ, fun fuel hfuel => ?_⟩
      obtain ⟨fuel, rfl⟩ := Nat.exists_eq_add_of_lt hfuel
      rw [rounds_again hs']
      exact hrest _ (by omega)
    · refine ⟨r, s', hQ, fun fuel hfuel => ?_⟩
      obtain ⟨fuel, rfl⟩ := Nat.exists_eq_add_of_lt hfuel
      exact rounds_done hs' _

end Rounds

end Loops
