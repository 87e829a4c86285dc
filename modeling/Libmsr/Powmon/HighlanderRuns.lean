/-
  Libmsr.Powmon.HighlanderRuns

  Runs of any number of powmon processes, their steps interleaved in any order.

  `highlander_wait` reads the number of foes once, asks for more than 1, and does not
  change it in the loop: with one foe the highlander does not wait, with two it never
  stops.  Nothing keeps a process from joining while the semaphores are being removed.
  `Undisturbed` are the steps that meet none of this.

  The proof follows the phases of a node: nobody is the highlander; there is one, with
  its foes counted by its semaphore; or it is closing down and has no foe left.
-/
import Libmsr.Powmon.Highlander

namespace Libmsr

open Processes

/-! ## Phases -/

/-- The number of `semk`, while the process may still use it. -/
def PowmonPc.semk : PowmonPc → Option Nat
  | .foeOpenL k | .foePost k _ | .foe k _ | .foeWait k _ | .openL k | .highlander k _
  | .getvalue k _ => some k
  | _ => none

/-- A foe that is joining, or is still to call `highlander_wait`. -/
def PowmonPc.pending (pc : PowmonPc) : Bool :=
  pc.joining || pc.joined && !pc.called

/-- A foe that semaphore `k` counts. -/
def PowmonPc.counted (k : Nat) (pc : PowmonPc) : Bool :=
  pc.joined && decide (pc.semk = some k)

/-- The highlander before it looks at semaphore `k`. -/
def PowmonPc.active (k : Nat) (pc : PowmonPc) : Bool :=
  pc.isHighlander && decide (pc.semk = some k)

variable {n : Nat} {s s' : Node n}

/-- Nobody but `h` is a highlander. -/
def Alone (s : Node n) (h : Fin n) : Prop := ∀ i, i ≠ h → (s.procs i).isHighlander = false

/-- No foe is joining or still to call `highlander_wait`. -/
def NonePending (s : Node n) : Prop := ∀ i, (s.procs i).pending = false

/-- The phases of a node. -/
inductive Phase (s : Node n) : Prop
  | idle (unbound : s.sems.bound .k = none) (nobody : ∀ i, (s.procs i).isHighlander = false)
      (none : NonePending s)
  | active (h : Fin n) (k : Nat) (highlander : (s.procs h).active k = true)
      (bound : s.sems.bound .k = some k) (alone : Alone s h)
      (joins : ∀ i, (s.procs i).pending = true →
        ∀ k', (s.procs i).semk = some k' → k' = k)
      (value : s.sems.value (.k, k) = count (fun pc => PowmonPc.counted k pc = true) s.procs)
  | closing (h : Fin n) (highlander : (s.procs h).closing = true)
      (bound : s.sems.bound .k = .none ↔ s.procs h = .unlinkL) (alone : Alone s h)
      (none : NonePending s) (small : ∀ seml v, s.procs h = .loop seml v → v ≤ 1)

/-- Semaphores in use are older than the next one. -/
structure Older (s : Node n) : Prop where
  semk : ∀ i k, (s.procs i).semk = some k → k < s.sems.next
  bound : ∀ k, s.sems.bound .k = some k → k < s.sems.next

theorem phase_start : Phase (Node.start n) :=
  .idle rfl (fun _ => rfl) fun _ => rfl

theorem older_start : Older (Node.start n) :=
  ⟨fun _ _ h => (nomatch h), fun _ h => nomatch h⟩

section Points

variable {pc : PowmonPc} {k : Nat}

theorem PowmonPc.isHighlander_of_active (h : pc.active k = true) : pc.isHighlander = true :=
  (Bool.and_eq_true_iff.mp h).1

theorem PowmonPc.isHighlander_of_closing (h : pc.closing = true) : pc.isHighlander = true := by
  cases pc <;> first | rfl | contradiction

theorem PowmonPc.closing_of_active (h : pc.active k = true) : pc.closing = false := by
  cases pc <;> first | rfl | simp [PowmonPc.active, PowmonPc.semk] at h

/-- A foe that has joined and is not pending has called `highlander_wait`. -/
theorem PowmonPc.called_of_joined (hp : pc.pending = false) (hj : pc.joined = true) :
    pc.called = true := by
  simpa [PowmonPc.pending, hj] using (Bool.or_eq_false_iff.mp hp).2

@[simp] theorem PowmonPc.counted_foe {l k' : Nat} :
    (PowmonPc.foe k l).counted k' = decide (k = k') := by
  simp [PowmonPc.counted, PowmonPc.joined, PowmonPc.semk]

@[simp] theorem PowmonPc.counted_foeWait {l k' : Nat} :
    (PowmonPc.foeWait k l).counted k' = decide (k = k') := by
  simp [PowmonPc.counted, PowmonPc.joined, PowmonPc.semk]

theorem PowmonPc.semk_of_counted (h : pc.counted k = true) : pc.semk = some k :=
  of_decide_eq_true (Bool.and_eq_true_iff.mp h).2

end Points

/-! ## Steps of foes -/

/-- The node after process `i` moved. -/
def Node.moved (s : Node n) (i : Fin n) (pc : PowmonPc) (sems : Semaphores PowerWrapper) :
    Node n := ⟨Function.update s.procs i pc, sems⟩

@[simp] theorem moved_self (s : Node n) (i : Fin n) (pc : PowmonPc)
    (sems : Semaphores PowerWrapper) : (s.moved i pc sems).procs i = pc :=
  Function.update_self ..

theorem moved_ne (s : Node n) {i j : Fin n} (hne : j ≠ i) (pc : PowmonPc)
    (sems : Semaphores PowerWrapper) : (s.moved i pc sems).procs j = s.procs j :=
  Function.update_of_ne hne ..

/-- What holds of the new point and of the others holds of all. -/
theorem moved_all {Q : PowmonPc → Prop} (s : Node n) {i : Fin n} {pc : PowmonPc}
    {sems : Semaphores PowerWrapper} (hnew : Q pc) (hothers : ∀ j, j ≠ i → Q (s.procs j))
    (j : Fin n) : Q ((s.moved i pc sems).procs j) := by
  by_cases hj : j = i
  · subst hj
    rwa [moved_self]
  · rw [moved_ne s hj]
    exact hothers j hj

theorem Older.moved (hO : Older s) {i : Fin n} {pc : PowmonPc} {sems : Semaphores PowerWrapper}
    (hnext : s.sems.next ≤ sems.next) (hsemk : ∀ k, pc.semk = some k → k < s.sems.next)
    (hbound : ∀ k, sems.bound .k = some k → k < s.sems.next) : Older (s.moved i pc sems) := by
  constructor
  · refine fun j k hk => Nat.lt_of_lt_of_le ?_ hnext
    exact moved_all (Q := fun pc => pc.semk = some k → k < s.sems.next) s (hsemk k)
      (fun j _ => hO.semk j k) j hk
  · exact fun k hk => Nat.lt_of_lt_of_le (hbound k hk) hnext

/-- What a step of a foe may do: it stays off `K`, and comes to be pending only while a
    highlander is there, with its semaphore. -/
structure FoeMove (s : Node n) (i : Fin n) (pc : PowmonPc) (sems : Semaphores PowerWrapper) :
    Prop where
  before : (s.procs i).isHighlander = false
  after : pc.isHighlander = false
  bound : sems.bound .k = s.sems.bound .k
  next : s.sems.next ≤ sems.next
  pending : pc.pending = true → (s.procs i).pending = true ∨
    s.sems.bound .k ≠ none ∧ ∀ j, (s.procs j).closing = false
  semk : ∀ k, pc.semk = some k → (s.procs i).semk = some k ∧
    (pc.pending = true → (s.procs i).pending = true) ∨ s.sems.bound .k = some k
  value : ∀ k, s.sems.value (.k, k) = count (fun pc => PowmonPc.counted k pc = true) s.procs →
    sems.value (.k, k) =
      count (fun pc => PowmonPc.counted k pc = true) (Function.update s.procs i pc)

section FoeMove

variable {i : Fin n} {pc : PowmonPc} {sems : Semaphores PowerWrapper}

theorem FoeMove.alone (hm : FoeMove s i pc sems) {h : Fin n} (ha : Alone s h) :
    Alone (s.moved i pc sems) h := by
  intro j hj
  by_cases hji : j = i
  · subst hji
    rw [moved_self]
    exact hm.after
  · rw [moved_ne s hji]
    exact ha j hj

/-- Where no highlander could be joined, none is. -/
theorem FoeMove.nonePending (hm : FoeMove s i pc sems) (hnone : NonePending s)
    (hshut : s.sems.bound .k = none ∨ ∃ j, (s.procs j).closing = true) :
    NonePending (s.moved i pc sems) := by
  refine moved_all (Q := fun pc => pc.pending = false) s (Bool.eq_false_iff.mpr fun hp => ?_)
    fun j _ => hnone j
  -- it was pending before, or found a highlander
  rcases hm.pending hp with hold | ⟨hbound, hopen⟩
  · rw [hnone i] at hold
    contradiction
  · rcases hshut with hunbound | ⟨j, hj⟩
    · exact hbound hunbound
    · rw [hopen j] at hj
      contradiction

/-- The highlander is another process. -/
theorem FoeMove.ne (hm : FoeMove s i pc sems) {h : Fin n}
    (hh : (s.procs h).isHighlander = true) : h ≠ i := by
  rintro rfl
  rw [hm.before] at hh
  contradiction

/-- A step of a foe keeps the phase. -/
theorem FoeMove.phase (hm : FoeMove s i pc sems) (hP : Phase s) : Phase (s.moved i pc sems) := by
  cases hP with
  | idle unbound nobody none =>
    exact .idle (hm.bound.trans unbound)
      (moved_all (Q := fun pc => pc.isHighlander = false) s hm.after fun j _ => nobody j)
      (hm.nonePending none (Or.inl unbound))
  | active h k highlander bound alone joins value =>
    have hh := moved_ne s (hm.ne (PowmonPc.isHighlander_of_active highlander)) pc sems
    refine .active h k (hh ▸ highlander) (hm.bound.trans bound) (hm.alone alone) ?_
      (hm.value k value)
    refine moved_all (Q := fun pc => pc.pending = true → ∀ k', pc.semk = some k' → k' = k) s
      (fun hp k' hk' => ?_) fun j _ => joins j
    rcases hm.semk k' hk' with ⟨hold, hpend⟩ | hbound
    · exact joins i (hpend hp) k' hold
    · exact Option.some.inj (hbound.symm.trans bound)
  | closing h highlander bound alone none small =>
    have hh := moved_ne s (hm.ne (PowmonPc.isHighlander_of_closing highlander)) pc sems
    refine .closing h (hh ▸ highlander) ?_ (hm.alone alone)
      (hm.nonePending none (Or.inr ⟨h, highlander⟩)) (hh ▸ small)
    rw [hh]
    exact hm.bound ▸ bound

theorem FoeMove.older (hm : FoeMove s i pc sems) (hO : Older s) : Older (s.moved i pc sems) := by
  refine hO.moved hm.next (fun k hk => ?_) fun k hk => hO.bound k (hm.bound ▸ hk)
  rcases hm.semk k hk with ⟨hold, -⟩ | hbound
  · exact hO.semk i k hold
  · exact hO.bound k hbound

/-- A step that leaves semaphores `K` and the counted foes alone. -/
theorem FoeMove.of_same (hbefore : (s.procs i).isHighlander = false)
    (hafter : pc.isHighlander = false) (hbound : sems.bound .k = s.sems.bound .k)
    (hnext : s.sems.next ≤ sems.next)
    (hvalue : ∀ k, sems.value (.k, k) = s.sems.value (.k, k))
    (hpend : pc.pending = true → (s.procs i).pending = true)
    (hsemk : ∀ k, pc.semk = some k → (s.procs i).semk = some k)
    (hcounted : ∀ k, pc.counted k = (s.procs i).counted k) : FoeMove s i pc sems := by
  refine ⟨hbefore, hafter, hbound, hnext, fun hp => Or.inl (hpend hp),
    fun k hk => Or.inl ⟨hsemk k hk, hpend⟩, fun k hk => ?_⟩
  have hsame : pc.counted k = true ↔ (s.procs i).counted k = true := by rw [hcounted k]
  rw [hvalue k, hk, count_update_same hsame]

end FoeMove

/-! ## The steps of a foe -/

section FoeSteps

variable {i : Fin n} {k l : Nat}

/-- There is a highlander, so a process that comes now is a foe. -/
theorem foeMove_start (hpc : s.procs i = .start) (hbound : s.sems.bound .k = some k)
    (hopen : ∀ j, (s.procs j).closing = false) : FoeMove s i .foeOpenK s.sems := by
  refine ⟨by rw [hpc]; rfl, rfl, rfl, Nat.le_refl _,
    fun _ => Or.inr ⟨by rw [hbound]; exact Option.some_ne_none k, hopen⟩,
    fun _ hk => (nomatch hk), fun k hk => ?_⟩
  rw [hk, count_update_same]
  rw [hpc]
  rfl

/-- The name is still there, since the highlander is. -/
theorem foeMove_openK (hpc : s.procs i = .foeOpenK) (hbound : s.sems.bound .k = some k) :
    FoeMove s i (.foeOpenL k) s.sems := by
  refine ⟨by rw [hpc]; rfl, rfl, rfl, Nat.le_refl _, fun _ => Or.inl (by rw [hpc]; rfl),
    fun k' hk => Or.inr (hbound.trans hk), fun k' hk => ?_⟩
  rw [hk, count_update_same]
  rw [hpc]
  simp [PowmonPc.counted, PowmonPc.joined]

theorem foeMove_openL (hpc : s.procs i = .foeOpenL k) :
    FoeMove s i (.foePost k (s.sems.openCreat .l).1) (s.sems.openCreat .l).2 := by
  obtain ⟨hbound, hvalue⟩ :=
    Semaphores.openCreat_other (s := s.sems) (by decide : PowerWrapper.k ≠ .l)
  exact .of_same (by rw [hpc]; rfl) rfl hbound Semaphores.openCreat_next hvalue
    (fun _ => by rw [hpc]; rfl) (fun k' hk => by rw [hpc]; exact hk)
    fun k' => by rw [hpc]; simp [PowmonPc.counted, PowmonPc.joined]

/-- The foe counts from here on. -/
theorem foeMove_post (hpc : s.procs i = .foePost k l) :
    FoeMove s i (.foe k l) (s.sems.post (.k, k)) := by
  have hold : ∀ k', (s.procs i).counted k' = false := fun k' => by
    rw [hpc]
    rfl
  refine ⟨by rw [hpc]; rfl, rfl, rfl, Nat.le_refl _, fun _ => Or.inl (by rw [hpc]; rfl),
    fun k' hk => Or.inl ⟨by rw [hpc]; exact hk, fun _ => by rw [hpc]; rfl⟩, fun k' hk => ?_⟩
  -- only the foes of `k` are one more
  by_cases heq : k' = k
  · subst heq
    rw [count_update_enter (by simp [hold]) (by simp), ← hk, Semaphores.post_value_self]
  · rw [count_update_same (by simp [hold, Ne.symm heq]), ← hk]
    exact Semaphores.post_value_of_ne fun h => heq (Prod.mk.inj h).2

/-- It still counts when it has called `highlander_wait`. -/
theorem foeMove_call (hpc : s.procs i = .foe k l) : FoeMove s i (.foeWait k l) s.sems :=
  .of_same (by rw [hpc]; rfl) rfl rfl (Nat.le_refl _) (fun _ => rfl) (fun h => nomatch h)
    (fun k' hk => by rw [hpc]; exact hk) fun k' => by rw [hpc]; rfl

/-- And no longer when it has taken its post back. -/
theorem foeMove_wait (hpc : s.procs i = .foeWait k l) {sems : Semaphores PowerWrapper}
    (hsems : s.sems.wait (.k, k) = some sems) : FoeMove s i (.foeAnswer l) sems := by
  obtain ⟨hpos, rfl⟩ := Semaphores.wait_eq_some hsems
  refine ⟨by rw [hpc]; rfl, rfl, rfl, Nat.le_refl _, fun h => (nomatch h), fun _ hk => (nomatch hk),
    fun k' hk => ?_⟩
  have hnew : ∀ k', (PowmonPc.foeAnswer l).counted k' = false := fun _ => rfl
  -- only the foes of `k` are one less
  by_cases heq : k' = k
  · subst heq
    have hleave : count (fun pc => PowmonPc.counted k' pc = true)
        (Function.update s.procs i (.foeAnswer l)) + 1 =
        count (fun pc => PowmonPc.counted k' pc = true) s.procs :=
      count_update_leave (by rw [hpc]; simp) (by simp [hnew])
    refine (Function.update_self ..).trans ?_
    omega
  · rw [count_update_same, ← hk]
    · exact Function.update_of_ne (fun h => heq (Prod.mk.inj h).2) _ _
    · rw [hpc]
      simp [hnew, Ne.symm heq]

theorem foeMove_answer (hpc : s.procs i = .foeAnswer l) :
    FoeMove s i .foeLeft (s.sems.post (.l, l)) := by
  refine .of_same (by rw [hpc]; rfl) rfl rfl (Nat.le_refl _) (fun k => ?_) (fun h => nomatch h)
    (fun k' hk => nomatch hk) fun k' => by rw [hpc]; rfl
  exact Semaphores.post_value_of_ne (by simp)

end FoeSteps

/-! ## The steps of the highlander -/

section HighlanderSteps

variable {i : Fin n} {k l v : Nat}

/-- Nobody counts for a semaphore that is still to be created. -/
theorem count_new (hO : Older s) :
    count (fun pc => PowmonPc.counted s.sems.next pc = true) s.procs = 0 :=
  count_eq_zero.mpr fun j hj =>
    absurd (hO.semk j _ (PowmonPc.semk_of_counted hj)) (Nat.lt_irrefl _)

/-- The name is free: there is no other highlander. -/
theorem phase_create (hP : Phase s) (hO : Older s) (hpc : s.procs i = .start)
    (hbound : s.sems.bound .k = none) (hopen : ∀ j, (s.procs j).closing = false) :
    Phase (s.moved i (.openL s.sems.next) (s.sems.create .k).2) := by
  cases hP with
  | idle unbound nobody none =>
    refine .active i s.sems.next ?_ ?_ (fun j hj => ?_) ?_ ?_
    · rw [moved_self]
      simp [PowmonPc.active, PowmonPc.isHighlander, PowmonPc.semk]
    · exact Semaphores.create_bound_self
    · rw [moved_ne s hj]
      exact nobody j
    · refine moved_all (Q := fun pc => pc.pending = true → ∀ k', pc.semk = some k' →
        k' = s.sems.next) s (fun h => nomatch h) fun j _ hp => ?_
      rw [none j] at hp
      contradiction
    · have hsame : (PowmonPc.openL s.sems.next).counted s.sems.next = true ↔
          (s.procs i).counted s.sems.next = true := by
        rw [hpc]
        rfl
      exact Semaphores.create_value_self.trans
        ((count_update_same hsame).trans (count_new hO)).symm
  | active h k _ bound _ _ _ =>
    rw [hbound] at bound
    contradiction
  | closing h highlander _ _ _ _ =>
    rw [hopen h] at highlander
    contradiction

/-- The highlander of an active node. -/
theorem Phase.of_active (hP : Phase s) (hk : (s.procs i).active k = true) :
    s.sems.bound .k = some k ∧ Alone s i ∧
      (∀ j, (s.procs j).pending = true → ∀ k', (s.procs j).semk = some k' → k' = k) ∧
      s.sems.value (.k, k) = count (fun pc => PowmonPc.counted k pc = true) s.procs := by
  have hhigh := PowmonPc.isHighlander_of_active hk
  cases hP with
  | idle _ nobody _ =>
    rw [nobody i] at hhigh
    contradiction
  | active h k' highlander bound alone joins value =>
    obtain rfl : i = h := by
      by_contra hne
      rw [alone i hne] at hhigh
      contradiction
    have hsemk : (s.procs i).semk = some k' :=
      of_decide_eq_true (Bool.and_eq_true_iff.mp highlander).2
    have hsemk' : (s.procs i).semk = some k := of_decide_eq_true (Bool.and_eq_true_iff.mp hk).2
    obtain rfl := Option.some.inj (hsemk'.symm.trans hsemk)
    exact ⟨bound, alone, joins, value⟩
  | closing h highlander _ alone _ _ =>
    obtain rfl : i = h := by
      by_contra hne
      rw [alone i hne] at hhigh
      contradiction
    rw [PowmonPc.closing_of_active hk] at highlander
    contradiction

/-- The highlander goes on, and leaves its semaphore alone. -/
theorem phase_active (hP : Phase s) (hk : (s.procs i).active k = true) {pc : PowmonPc}
    {sems : Semaphores PowerWrapper} (hpc : pc.active k = true) (hjoined : pc.joined = false)
    (hjoined' : (s.procs i).joined = false) (hpend : pc.pending = false)
    (hbound : sems.bound .k = s.sems.bound .k)
    (hvalue : sems.value (.k, k) = s.sems.value (.k, k)) : Phase (s.moved i pc sems) := by
  obtain ⟨bound, alone, joins, value⟩ := hP.of_active hk
  refine .active i k ?_ (hbound.trans bound) (fun j hj => ?_) ?_ ?_
  · rw [moved_self]
    exact hpc
  · rw [moved_ne s hj]
    exact alone j hj
  · refine moved_all (Q := fun pc => pc.pending = true → ∀ k', pc.semk = some k' → k' = k) s
      (fun h => ?_) fun j _ => joins j
    rw [hpend] at h
    contradiction
  · refine hvalue.trans (value.trans (count_update_same ?_).symm)
    simp [PowmonPc.counted, hjoined, hjoined']

/-- When it looks at its semaphore, no foe is left. -/
theorem phase_getvalue (hP : Phase s) (hpc : s.procs i = .getvalue k l)
    (hjoining : ∀ j, (s.procs j).joining = false)
    (hval : s.sems.value (.k, k) = 0 ∨
      s.sems.value (.k, k) = 1 ∧ ∃ j seml, s.procs j = .foeWait k seml) :
    Phase (s.moved i (.loop l (s.sems.value (.k, k))) s.sems) := by
  have hk : (s.procs i).active k = true := by
    rw [hpc]
    simp [PowmonPc.active, PowmonPc.isHighlander, PowmonPc.semk]
  obtain ⟨bound, alone, joins, value⟩ := hP.of_active hk
  -- a foe that is still to call would be counted
  have hnone : NonePending s := by
    intro j
    refine Bool.eq_false_iff.mpr fun hp => ?_
    cases hj : s.procs j with
    | foe k' l' =>
      obtain rfl : k' = k := joins j hp k' (by rw [hj]; rfl)
      have hcounted : (s.procs j).counted k' = true := by rw [hj]; simp
      rcases hval with h0 | ⟨h1, j', l'', hj'⟩
      · exact count_eq_zero.mp (value.symm.trans h0) j hcounted
      · have hcounted' : (s.procs j').counted k' = true := by rw [hj']; simp
        have hsame : j = j' := eq_of_count_le_one (P := fun pc => PowmonPc.counted k' pc = true)
          (value.symm.trans h1).le hcounted hcounted'
        rw [hsame, hj'] at hj
        contradiction
    | foeOpenK => simpa [hj, PowmonPc.joining] using hjoining j
    | foeOpenL _ => simpa [hj, PowmonPc.joining] using hjoining j
    | foePost _ _ => simpa [hj, PowmonPc.joining] using hjoining j
    | _ => simp [hj, PowmonPc.pending, PowmonPc.joining, PowmonPc.joined, PowmonPc.called] at hp
  refine .closing i ?_ ?_ (fun j hj => ?_) ?_ fun seml v hloop => ?_
  · rw [moved_self]
    rfl
  · rw [moved_self]
    show s.sems.bound .k = none ↔ _
    rw [bound]
    simp
  · rw [moved_ne s hj]
    exact alone j hj
  · exact moved_all (Q := fun pc => pc.pending = false) s rfl fun j _ => hnone j
  · rw [moved_self] at hloop
    obtain ⟨-, rfl⟩ := PowmonPc.loop.inj hloop
    rcases hval with h0 | ⟨h1, -⟩ <;> omega

/-- The highlander of a node that is closing down. -/
theorem Phase.of_closing (hP : Phase s) (hclosing : (s.procs i).closing = true) :
    (s.sems.bound .k = none ↔ s.procs i = .unlinkL) ∧ Alone s i ∧ NonePending s ∧
      ∀ seml v, s.procs i = .loop seml v → v ≤ 1 := by
  have hhigh := PowmonPc.isHighlander_of_closing hclosing
  cases hP with
  | idle _ nobody _ =>
    rw [nobody i] at hhigh
    contradiction
  | active h k highlander _ alone _ _ =>
    obtain rfl : i = h := by
      by_contra hne
      rw [alone i hne] at hhigh
      contradiction
    rw [PowmonPc.closing_of_active highlander] at hclosing
    contradiction
  | closing h _ bound alone none small =>
    obtain rfl : i = h := by
      by_contra hne
      rw [alone i hne] at hhigh
      contradiction
    exact ⟨bound, alone, none, small⟩

/-- It removes the names one after the other. -/
theorem phase_closing (hP : Phase s) (hclosing : (s.procs i).closing = true) {pc : PowmonPc}
    {sems : Semaphores PowerWrapper} (hpc : pc.closing = true) (hpend : pc.pending = false)
    (hbound : sems.bound .k = none ↔ pc = .unlinkL) (hloop : ∀ seml v, pc ≠ .loop seml v) :
    Phase (s.moved i pc sems) := by
  obtain ⟨-, alone, none, -⟩ := hP.of_closing hclosing
  refine .closing i ?_ ?_ (fun j hj => ?_) ?_ fun seml v h => ?_
  · rw [moved_self]
    exact hpc
  · rw [moved_self]
    exact hbound
  · rw [moved_ne s hj]
    exact alone j hj
  · exact moved_all (Q := fun pc => pc.pending = false) s hpend fun j _ => none j
  · rw [moved_self] at h
    exact absurd h (hloop seml v)

/-- And leaves. -/
theorem phase_leave (hP : Phase s) (hpc : s.procs i = .unlinkL) :
    Phase (s.moved i .left (s.sems.unlink .l)) := by
  have hclosing : (s.procs i).closing = true := by rw [hpc]; rfl
  obtain ⟨hbound, alone, none, -⟩ := hP.of_closing hclosing
  refine .idle ?_ ?_ ?_
  · exact (Semaphores.unlink_bound_of_ne (by decide)).trans (hbound.mpr hpc)
  · exact moved_all (Q := fun pc => pc.isHighlander = false) s rfl alone
  · exact moved_all (Q := fun pc => pc.pending = false) s rfl fun j _ => none j

end HighlanderSteps

/-! ## Runs -/

/-- What every step that meets the condition keeps. -/
structure WatchedInv (w : Watched n) : Prop where
  phase : Phase w.node
  older : Older w.node
  recorded : ∀ h f, w.before h f = true → (w.node.procs f).joined = true
  waited : ∀ h f, w.node.procs h = .left → w.before h f = true →
    (w.node.procs f).called = true

theorem watchedInv_start : WatchedInv (Watched.start n) :=
  ⟨phase_start, older_start, fun _ _ h => (nomatch h), fun _ _ h => nomatch h⟩

section Steps

variable {pc pc' : PowmonPc} {sems sems' : Semaphores PowerWrapper}

/-- A foe stays a foe, and what it called it has called. -/
theorem PowmonPc.step_joined (h : pc.step sems = some (pc', sems')) :
    (pc.joined = true → pc'.joined = true) ∧ (pc.called = true → pc'.called = true) := by
  cases pc with
  | foe k l =>
    obtain ⟨rfl, -⟩ := Prod.mk.inj (Option.some.inj h)
    exact ⟨fun _ => rfl, fun h => nomatch h⟩
  | foeWait k l =>
    obtain ⟨sems₁, -, heq⟩ := Option.map_eq_some_iff.mp h
    obtain ⟨rfl, -⟩ := Prod.mk.inj heq
    exact ⟨fun _ => rfl, fun _ => rfl⟩
  | foeAnswer l =>
    obtain ⟨rfl, -⟩ := Prod.mk.inj (Option.some.inj h)
    exact ⟨fun _ => rfl, fun _ => rfl⟩
  | foeLeft => contradiction
  | _ => exact ⟨fun h => (nomatch h), fun h => nomatch h⟩

/-- Only the last step of a highlander leaves `highlander_wait`. -/
theorem PowmonPc.step_left (h : pc.step sems = some (.left, sems')) : pc = .unlinkL := by
  cases pc with
  | unlinkL => rfl
  | start =>
    rw [PowmonPc.step] at h
    split at h <;> simp at h
  | foeWait k l => simp [PowmonPc.step] at h
  | loop l v =>
    rw [PowmonPc.step] at h
    split at h <;> simp at h
  | _ => simp [PowmonPc.step] at h

end Steps

/-- A step of a node: the process that moves, and where to. -/
theorem Node.step_eq_some {i : Fin n} (h : s.step i = some s') :
    ∃ pc sems, (s.procs i).step s.sems = some (pc, sems) ∧ s' = s.moved i pc sems := by
  obtain ⟨⟨pc, sems⟩, hstep, rfl⟩ := Option.map_eq_some_iff.mp h
  exact ⟨pc, sems, hstep, rfl⟩

/-- A process that is joining finds the name of the highlander's semaphore. -/
theorem Phase.bound_of_pending (hP : Phase s) {i : Fin n} (hpend : (s.procs i).pending = true) :
    ∃ k, s.sems.bound .k = some k := by
  cases hP with
  | idle _ _ none =>
    rw [none i] at hpend
    contradiction
  | active _ k _ bound _ _ _ => exact ⟨k, bound⟩
  | closing _ _ _ _ none _ =>
    rw [none i] at hpend
    contradiction

theorem older_create (hO : Older s) (i : Fin n) :
    Older (s.moved i (.openL s.sems.next) (s.sems.create .k).2) := by
  constructor
  · intro j k
    refine moved_all (Q := fun pc => pc.semk = some k → k < s.sems.next + 1) s (fun hk => ?_)
      (fun j _ hk => Nat.lt_succ_of_lt (hO.semk j k hk)) j
    obtain rfl := Option.some.inj hk
    exact Nat.lt_succ_self _
  · intro k hk
    obtain rfl := Option.some.inj (Semaphores.create_bound_self.symm.trans hk)
    exact Nat.lt_succ_self _

/-- A step of the highlander, whose semaphore is not younger than the next one. -/
theorem Older.highlander (hO : Older s) {i : Fin n} {pc : PowmonPc}
    {sems : Semaphores PowerWrapper} (hnext : s.sems.next ≤ sems.next)
    (hsemk : ∀ k, pc.semk = some k → (s.procs i).semk = some k)
    (hbound : ∀ k, sems.bound .k = some k → s.sems.bound .k = some k) :
    Older (s.moved i pc sems) :=
  hO.moved hnext (fun k hk => hO.semk i k (hsemk k hk)) fun k hk => hO.bound k (hbound k hk)

section PhaseSteps

variable {i : Fin n} {pc : PowmonPc} {sems : Semaphores PowerWrapper}

/-- A process starts: it becomes the highlander if the name is free, and a foe if not. -/
theorem phase_step_start (hP : Phase s) (hO : Older s) (hpc : s.procs i = .start)
    (hopen : ∀ j, (s.procs j).closing = false)
    (hstep : (s.procs i).step s.sems = some (pc, sems)) :
    Phase (s.moved i pc sems) ∧ Older (s.moved i pc sems) := by
  rw [hpc, PowmonPc.step] at hstep
  cases hbound : s.sems.bound .k with
  | some k =>
    rw [Semaphores.openExcl_of_bound hbound] at hstep
    obtain ⟨rfl, rfl⟩ := Prod.mk.inj (Option.some.inj hstep)
    have hm := foeMove_start hpc hbound hopen
    exact ⟨hm.phase hP, hm.older hO⟩
  | none =>
    rw [Semaphores.openExcl_of_unbound hbound] at hstep
    obtain ⟨rfl, rfl⟩ := Prod.mk.inj (Option.some.inj hstep)
    exact ⟨phase_create hP hO hpc hbound hopen, older_create hO i⟩

/-- A process that has started and is not the highlander makes the steps of a foe. -/
theorem foeMove_of_step (hP : Phase s) (hstarted : s.procs i ≠ .start)
    (hfoe : (s.procs i).isHighlander = false)
    (hstep : (s.procs i).step s.sems = some (pc, sems)) : FoeMove s i pc sems := by
  cases hpc : s.procs i with
  | start => exact absurd hpc hstarted
  | foeOpenK =>
    obtain ⟨k, hbound⟩ := hP.bound_of_pending (i := i) (by rw [hpc]; rfl)
    rw [hpc, PowmonPc.step, Semaphores.openCreat_of_bound hbound] at hstep
    obtain ⟨rfl, rfl⟩ := Prod.mk.inj (Option.some.inj hstep)
    exact foeMove_openK hpc hbound
  | foeOpenL k =>
    rw [hpc] at hstep
    obtain ⟨rfl, rfl⟩ := Prod.mk.inj (Option.some.inj hstep)
    exact foeMove_openL hpc
  | foePost k l =>
    rw [hpc] at hstep
    obtain ⟨rfl, rfl⟩ := Prod.mk.inj (Option.some.inj hstep)
    exact foeMove_post hpc
  | foe k l =>
    rw [hpc] at hstep
    obtain ⟨rfl, rfl⟩ := Prod.mk.inj (Option.some.inj hstep)
    exact foeMove_call hpc
  | foeWait k l =>
    rw [hpc] at hstep
    obtain ⟨sems₁, hwait, heq⟩ := Option.map_eq_some_iff.mp hstep
    obtain ⟨rfl, rfl⟩ := Prod.mk.inj heq
    exact foeMove_wait hpc hwait
  | foeAnswer l =>
    rw [hpc] at hstep
    obtain ⟨rfl, rfl⟩ := Prod.mk.inj (Option.some.inj hstep)
    exact foeMove_answer hpc
  | foeLeft =>
    rw [hpc] at hstep
    contradiction
  | left =>
    rw [hpc] at hstep
    contradiction
  | _ =>
    rw [hpc] at hfoe
    contradiction

/-- The highlander before it looks at its semaphore. -/
theorem phase_step_active {k : Nat} (hP : Phase s) (hO : Older s)
    (hpc : s.procs i = .openL k ∨ ∃ l, s.procs i = .highlander k l)
    (hstep : (s.procs i).step s.sems = some (pc, sems)) :
    Phase (s.moved i pc sems) ∧ Older (s.moved i pc sems) := by
  have hk : (s.procs i).active k = true := by
    rcases hpc with hpc | ⟨l, hpc⟩ <;> rw [hpc] <;> exact decide_eq_true rfl
  rcases hpc with hpc | ⟨l, hpc⟩
  · rw [hpc] at hstep
    obtain ⟨rfl, rfl⟩ := Prod.mk.inj (Option.some.inj hstep)
    -- `L` is another name
    obtain ⟨hbound, hvalue⟩ :=
      Semaphores.openCreat_other (s := s.sems) (by decide : PowerWrapper.k ≠ .l)
    refine ⟨phase_active hP hk (decide_eq_true rfl) rfl (by rw [hpc]; rfl) rfl hbound
      (hvalue k), ?_⟩
    exact hO.highlander Semaphores.openCreat_next (fun k' hk' => by rw [hpc]; exact hk')
      fun k' hk' => hbound ▸ hk'
  · rw [hpc] at hstep
    obtain ⟨rfl, rfl⟩ := Prod.mk.inj (Option.some.inj hstep)
    refine ⟨phase_active hP hk (decide_eq_true rfl) rfl (by rw [hpc]; rfl) rfl rfl rfl, ?_⟩
    exact hO.highlander (Nat.le_refl _) (fun k' hk' => by rw [hpc]; exact hk') fun _ h => h

/-- The highlander after it has looked. -/
theorem phase_step_closing (hP : Phase s) (hO : Older s) (hclosing : (s.procs i).closing = true)
    (hstep : (s.procs i).step s.sems = some (pc, sems)) :
    Phase (s.moved i pc sems) ∧ Older (s.moved i pc sems) := by
  obtain ⟨hbound, -, -, small⟩ := hP.of_closing hclosing
  cases hpc : s.procs i with
  | loop l v =>
    -- the loop is not entered
    rw [hpc, PowmonPc.step, if_neg (Nat.not_lt.mpr (small l v hpc))] at hstep
    obtain ⟨rfl, rfl⟩ := Prod.mk.inj (Option.some.inj hstep)
    refine ⟨phase_closing hP hclosing rfl rfl ?_ fun _ _ h => (nomatch h), ?_⟩
    · rw [hbound, hpc]
      exact iff_of_false (fun h => nomatch h) fun h => nomatch h
    · exact hO.highlander (Nat.le_refl _) (fun _ h => nomatch h) fun _ h => h
  | unlinkK =>
    rw [hpc] at hstep
    obtain ⟨rfl, rfl⟩ := Prod.mk.inj (Option.some.inj hstep)
    refine ⟨phase_closing hP hclosing rfl rfl
      (iff_of_true Semaphores.unlink_bound_self rfl) fun _ _ h => (nomatch h), ?_⟩
    refine hO.highlander (Nat.le_refl _) (fun _ h => nomatch h) fun k hk => ?_
    rw [Semaphores.unlink_bound_self] at hk
    contradiction
  | unlinkL =>
    rw [hpc] at hstep
    obtain ⟨rfl, rfl⟩ := Prod.mk.inj (Option.some.inj hstep)
    refine ⟨phase_leave hP hpc, ?_⟩
    refine hO.highlander (Nat.le_refl _) (fun _ h => nomatch h) fun k hk => ?_
    rwa [Semaphores.unlink_bound_of_ne (by decide)] at hk
  | _ =>
    rw [hpc] at hclosing
    contradiction

end PhaseSteps

/-- **Step lemma.**  A step that meets the condition keeps the phase. -/
theorem phase_step {w : Watched n} (hP : Phase w.node) (hO : Older w.node) {i : Fin n}
    (hU : Undisturbed w i) (hstep : w.node.step i = some s') : Phase s' ∧ Older s' := by
  obtain ⟨pc, sems, hpc', rfl⟩ := Node.step_eq_some hstep
  rw [Undisturbed] at hU
  cases hpc : w.node.procs i with
  | start =>
    rw [hpc] at hU
    exact phase_step_start hP hO hpc hU hpc'
  | openL k => exact phase_step_active hP hO (Or.inl hpc) hpc'
  | highlander k l => exact phase_step_active hP hO (Or.inr ⟨l, hpc⟩) hpc'
  | getvalue k l =>
    rw [hpc] at hpc' hU
    obtain ⟨rfl, rfl⟩ := Prod.mk.inj (Option.some.inj hpc')
    refine ⟨phase_getvalue hP hpc hU.1 hU.2, ?_⟩
    exact hO.highlander (Nat.le_refl _) (fun _ h => nomatch h) fun _ h => h
  | loop _ _ => exact phase_step_closing hP hO (by rw [hpc]; rfl) hpc'
  | unlinkK => exact phase_step_closing hP hO (by rw [hpc]; rfl) hpc'
  | unlinkL => exact phase_step_closing hP hO (by rw [hpc]; rfl) hpc'
  | _ =>
    -- the points of a foe, and the end
    have hm : FoeMove w.node i pc sems :=
      foeMove_of_step hP (by rw [hpc]; exact fun h => nomatch h) (by rw [hpc]; rfl) hpc'
    exact ⟨hm.phase hP, hm.older hO⟩

/-- Nothing is recorded but a call of `highlander_wait` by process `i`. -/
theorem Watched.record_cases (w : Watched n) (i : Fin n) :
    w.record i = w.before ∨
      w.record i = Function.update w.before i fun f => (w.node.procs f).joined := by
  rw [Watched.record]
  split
  · exact Or.inr rfl
  · exact Or.inl rfl

/-- A step that meets the condition keeps the invariant: a highlander that leaves has no
    foe that is still to call `highlander_wait`. -/
theorem watchedInv_step {w w' : Watched n} {i : Fin n} (hI : WatchedInv w)
    (hU : Undisturbed w i) (hstep : w.step i = some w') : WatchedInv w' := by
  obtain ⟨node, hnode, rfl⟩ := Option.map_eq_some_iff.mp hstep
  obtain ⟨hphase, holder⟩ := phase_step hI.phase hI.older hU hnode
  obtain ⟨pc, sems, hpc, rfl⟩ := Node.step_eq_some hnode
  have hkeeps := PowmonPc.step_joined hpc
  have hjoined : ∀ f, (w.node.procs f).joined = true →
      ((w.node.moved i pc sems).procs f).joined = true := fun f hf => by
    by_cases hfi : f = i
    · subst hfi
      rw [moved_self]
      exact hkeeps.1 hf
    · rwa [moved_ne _ hfi]
  have hcalled : ∀ f, (w.node.procs f).called = true →
      ((w.node.moved i pc sems).procs f).called = true := fun f hf => by
    by_cases hfi : f = i
    · subst hfi
      rw [moved_self]
      exact hkeeps.2 hf
    · rwa [moved_ne _ hfi]
  have hrecord : ∀ h f, w.record i h f = true → (w.node.procs f).joined = true := by
    intro h f hf
    rcases w.record_cases i with heq | heq
    · exact hI.recorded h f (heq ▸ hf)
    · rw [heq] at hf
      by_cases hh : h = i
      · subst hh
        rwa [Function.update_self] at hf
      · rw [Function.update_of_ne hh] at hf
        exact hI.recorded h f hf
  refine ⟨hphase, holder, fun h f hf => hjoined f (hrecord h f hf), fun h f hleft hf => ?_⟩
  refine hcalled f ?_
  by_cases hh : h = i
  · subst hh
    rw [moved_self] at hleft
    subst hleft
    have hpc' := PowmonPc.step_left hpc
    obtain ⟨-, -, hnone, -⟩ := hI.phase.of_closing (i := h) (by rw [hpc']; rfl)
    exact PowmonPc.called_of_joined (hnone f) (hrecord h f hf)
  · rw [moved_ne _ hh] at hleft
    refine hI.waited h f hleft ?_
    -- what is recorded of a process that has left stays
    rcases w.record_cases i with heq | heq
    · exact heq ▸ hf
    · rw [← Function.update_of_ne hh (fun f => (w.node.procs f).joined) w.before, ← heq]
      exact hf

/-- Two processes that are the highlander are one. -/
theorem Phase.one (hP : Phase s) {i j : Fin n} (hi : (s.procs i).isHighlander = true)
    (hj : (s.procs j).isHighlander = true) : i = j := by
  have hothers : ∀ h, Alone s h → i = j := fun h alone => by
    have heq : ∀ k, (s.procs k).isHighlander = true → k = h := fun k hk => by
      by_contra hne
      rw [alone k hne] at hk
      contradiction
    exact (heq i hi).trans (heq j hj).symm
  cases hP with
  | idle _ nobody _ =>
    rw [nobody i] at hi
    contradiction
  | active h _ _ _ alone _ _ => exact hothers h alone
  | closing h _ _ alone _ _ => exact hothers h alone

theorem WatchedInv.law {w : Watched n} (hI : WatchedInv w) : HighlanderLaw w where
  one i j := hI.phase.one
  waited := hI.waited
  woken h l v hpc hv _ := by
    obtain ⟨-, -, -, small⟩ := hI.phase.of_closing (i := h) (by rw [hpc]; rfl)
    exact absurd (small l v hpc) (Nat.not_le.mpr hv)

/-- Any number of processes, their steps in any order: as long as every step meets the
    condition, there is one highlander at a time, and it waits for its foes. -/
theorem highlanderLaw_along {n : Nat} {calls : List (Fin n)}
    (hcond : Runs.Along Watched.step Undisturbed (Watched.start n) calls) (k : Nat)
    {w : Watched n} (hrun : Runs.run Watched.step (Watched.start n) (calls.take k) = some w) :
    HighlanderLaw w :=
  ((hcond.take k).run_keeps (fun _ _ _ hI hU hstep => watchedInv_step hI hU hstep)
    watchedInv_start hrun).law

/-- Where no process can move, nothing is posted. -/
theorem Node.neverPosted_of_stuck {k : Semaphore PowerWrapper}
    (hstuck : ∀ i, s.step i = none) (hk : s.sems.value k = 0) : s.NeverPosted k := by
  intro calls s' hrun
  cases calls with
  | nil =>
    obtain rfl := Option.some.inj hrun
    exact hk
  | cons i calls =>
    rw [Runs.run_cons, hstuck i] at hrun
    contradiction

/-- One foe that has called `highlander_wait` when the highlander looks; both leave. -/
theorem highlanderLaw_along_twoProcesses :
    ∃ w : Watched 2,
      Runs.run Watched.step (Watched.start 2) [0, 0, 1, 1, 1, 1, 0, 1, 0, 0, 0, 0, 1, 1] = some w ∧
        w.node.procs 0 = .left ∧ w.node.procs 1 = .foeLeft ∧ HighlanderLaw w := by
  refine ⟨_, rfl, rfl, rfl, @highlanderLaw_along 2
    [0, 0, 1, 1, 1, 1, 0, 1, 0, 0, 0, 0, 1, 1] ?_ 14 _ rfl⟩
  refine .cons (fun j => by revert j; decide) rfl ?_
  refine .cons trivial rfl ?_
  refine .cons (fun j => by revert j; decide) rfl ?_
  refine .cons trivial rfl (.cons trivial rfl (.cons trivial rfl ?_))
  refine .cons trivial rfl (.cons trivial rfl ?_)
  -- the highlander looks
  refine .cons ⟨fun j => by revert j; decide, Or.inr ⟨rfl, 1, 1, rfl⟩⟩ rfl ?_
  exact .cons trivial rfl (.cons trivial rfl (.cons trivial rfl
    (.cons trivial rfl (.cons trivial rfl trivial))))

/-- With one foe that has joined the highlander leaves at once.  With two it stays when
    both have left.  A process that starts before `L` is removed is a second
    highlander. -/
theorem highlander_disturbed :
    (∃ w ∈ Runs.run Watched.step (Watched.start 2) [0, 0, 1, 1, 1, 1, 0, 0, 0, 0, 0],
      w.node.procs 0 = .left ∧ w.before 0 1 = true ∧ (w.node.procs 1).called = false ∧
        ¬ HighlanderLaw w) ∧
    (∃ w ∈ Runs.run Watched.step (Watched.start 3)
        [0, 0, 1, 1, 1, 1, 2, 2, 2, 2, 0, 0, 1, 1, 1, 2, 2, 2, 0, 0],
      w.node.procs 0 = .loop 1 2 ∧ w.node.sems.value (.l, 1) = 0 ∧ (∀ i, w.node.step i = none) ∧
        ¬ HighlanderLaw w) ∧
    ∃ w ∈ Runs.run Watched.step (Watched.start 2) [0, 0, 0, 0, 0, 0, 1],
      (w.node.procs 0).isHighlander = true ∧ (w.node.procs 1).isHighlander = true ∧
        ¬ HighlanderLaw w := by
  refine ⟨?_, ?_, ?_⟩
  · obtain ⟨w, hrun, hleft, hbefore, hcalled⟩ :
        ∃ w ∈ Runs.run Watched.step (Watched.start 2) [0, 0, 1, 1, 1, 1, 0, 0, 0, 0, 0],
          w.node.procs 0 = .left ∧ w.before 0 1 = true ∧ (w.node.procs 1).called = false := by
      decide +kernel
    refine ⟨w, hrun, hleft, hbefore, hcalled, fun h => ?_⟩
    rw [h.waited 0 1 hleft hbefore] at hcalled
    contradiction
  · obtain ⟨w, hrun, hloop, hvalue, hstuck, hcalled⟩ :
        ∃ w ∈ Runs.run Watched.step (Watched.start 3)
            [0, 0, 1, 1, 1, 1, 2, 2, 2, 2, 0, 0, 1, 1, 1, 2, 2, 2, 0, 0],
          w.node.procs 0 = .loop 1 2 ∧ w.node.sems.value (.l, 1) = 0 ∧
            (∀ i, w.node.step i = none) ∧
            ∀ f, w.before 0 f = true → (w.node.procs f).called = true := by
      decide +kernel
    refine ⟨w, hrun, hloop, hvalue, hstuck, fun h => ?_⟩
    exact h.woken 0 1 2 hloop (by decide) hcalled (Node.neverPosted_of_stuck hstuck hvalue)
  · obtain ⟨w, hrun, h0, h1⟩ :
        ∃ w ∈ Runs.run Watched.step (Watched.start 2) [0, 0, 0, 0, 0, 0, 1],
          (w.node.procs 0).isHighlander = true ∧ (w.node.procs 1).isHighlander = true := by
      decide +kernel
    exact ⟨w, hrun, h0, h1, fun h => absurd (h.one 0 1 h0 h1) (by decide)⟩

end Libmsr
