/-
  Libmsr.Lib.GrowTable

  A table that is created on first use and extended when a higher number is
  asked for: entries and, beside them, one size for each.

  New entries are `d` and new sizes are `c`.  `grow_spec`: growing makes room for
  a number and is otherwise invisible, as an entry that the table does not have
  yet already reads as `d` with size `c`.
-/
import Mathlib.Data.List.Basic
import Mathlib.Tactic.Common

/-- The entries, once there are any, how many there are, and their sizes. -/
structure GrowTable (ε : Type*) where
  entries : Option (List ε)
  arrsize : Nat
  sizes : List Nat
  deriving Repr, DecidableEq

namespace GrowTable

variable {ε : Type*}

/-- Before the first use. -/
def init : GrowTable ε := ⟨none, 1, []⟩

/-- Make sure the table has an entry `b`. -/
def grow (d : ε) (c : Nat) (t : GrowTable ε) (b : Nat) : GrowTable ε :=
  let t : GrowTable ε :=
    match t.entries with
    | some _ => t
    | none =>
      let arrsize := if b + 1 > t.arrsize then b + 1 else t.arrsize
      ⟨some (List.replicate arrsize d), arrsize, List.replicate arrsize c⟩
  if b + 1 > t.arrsize then
    { entries := t.entries.map (· ++ List.replicate (b + 1 - t.arrsize) d)
      arrsize := b + 1
      sizes := t.sizes ++ List.replicate (b + 1 - t.arrsize) c }
  else t

/-- Entry `b`. -/
def entry (d : ε) (t : GrowTable ε) (b : Nat) : ε := (t.entries.bind (·[b]?)).getD d

/-- The size of entry `b`. -/
def capacity (c : Nat) (t : GrowTable ε) (b : Nat) : Nat := t.sizes[b]?.getD c

def setEntry (t : GrowTable ε) (b : Nat) (e : ε) : GrowTable ε :=
  { t with entries := t.entries.map (·.set b e) }

def setCapacity (t : GrowTable ε) (b n : Nat) : GrowTable ε :=
  { t with sizes := t.sizes.set b n }

/-- Entries and sizes are `arrsize` once they exist. -/
structure Sized (t : GrowTable ε) : Prop where
  arrsize_pos : 0 < t.arrsize
  lengths : ∀ l, t.entries = some l → l.length = t.arrsize ∧ t.sizes.length = t.arrsize
  unset : t.entries = none → t.sizes = []

/-- The table has an entry for number `b`. -/
def HasEntry (t : GrowTable ε) (b : Nat) : Prop := ∃ l, t.entries = some l ∧ b < l.length

theorem init_sized : (init : GrowTable ε).Sized where
  arrsize_pos := Nat.one_pos
  lengths := fun _ h => nomatch h
  unset := fun _ => rfl

section Access

variable {t : GrowTable ε} {b : Nat} {d : ε} {c : Nat}

theorem HasEntry.lt (hs : t.Sized) (h : t.HasEntry b) : b < t.arrsize := by
  obtain ⟨l, hl, hb⟩ := h
  rwa [(hs.lengths l hl).1] at hb

/-- An entry that is not as the table starts it is there. -/
theorem hasEntry_of_entry_ne (h : t.entry d b ≠ d) : t.HasEntry b := by
  cases hentries : t.entries with
  | none => exact absurd (by simp [entry, hentries]) h
  | some l =>
    refine ⟨l, hentries, ?_⟩
    by_contra hout
    exact h (by simp [entry, hentries, List.getElem?_eq_none (Nat.le_of_not_lt hout)])

theorem entry_setEntry_self (h : t.HasEntry b) (e : ε) : (t.setEntry b e).entry d b = e := by
  obtain ⟨l, hl, hb⟩ := h
  simp [setEntry, entry, hl, hb]

theorem entry_setEntry_of_ne {b' : Nat} (h : b' ≠ b) (e : ε) :
    (t.setEntry b e).entry d b' = t.entry d b' := by
  cases hentries : t.entries with
  | none => simp [setEntry, entry, hentries]
  | some l => simp [setEntry, entry, hentries, List.getElem?_set_ne (Ne.symm h)]

@[simp] theorem capacity_setEntry (e : ε) (b' : Nat) :
    (t.setEntry b e).capacity c b' = t.capacity c b' := rfl

@[simp] theorem entry_setCapacity (n b' : Nat) :
    (t.setCapacity b n).entry d b' = t.entry d b' := rfl

theorem capacity_setCapacity_self (hs : t.Sized) (h : t.HasEntry b) (n : Nat) :
    (t.setCapacity b n).capacity c b = n := by
  obtain ⟨l, hl, hb⟩ := h
  obtain ⟨hlen, hsize⟩ := hs.lengths l hl
  simp [setCapacity, capacity, List.getElem?_set_self (show b < t.sizes.length by omega)]

theorem capacity_setCapacity_of_ne {b' : Nat} (h : b' ≠ b) (n : Nat) :
    (t.setCapacity b n).capacity c b' = t.capacity c b' := by
  simp [setCapacity, capacity, List.getElem?_set_ne (Ne.symm h)]

theorem Sized.setEntry (hs : t.Sized) (e : ε) : (t.setEntry b e).Sized := by
  refine ⟨hs.arrsize_pos, fun l hl => ?_, fun hnone => hs.unset ?_⟩
  · simp only [GrowTable.setEntry, Option.map_eq_some_iff] at hl
    obtain ⟨l', hl', rfl⟩ := hl
    rw [List.length_set]
    exact hs.lengths l' hl'
  · simpa [GrowTable.setEntry] using hnone

theorem Sized.setCapacity (hs : t.Sized) (n : Nat) : (t.setCapacity b n).Sized := by
  refine ⟨hs.arrsize_pos, fun l hl => ?_, fun hnone => ?_⟩
  · obtain ⟨hlen, hsize⟩ := hs.lengths l hl
    exact ⟨hlen, by simpa [GrowTable.setCapacity] using hsize⟩
  · simp [GrowTable.setCapacity, hs.unset hnone]

theorem HasEntry.setEntry (h : t.HasEntry b) (e : ε) (b' : Nat) : (t.setEntry b' e).HasEntry b := by
  obtain ⟨l, hl, hb⟩ := h
  exact ⟨l.set b' e, by simp [GrowTable.setEntry, hl], by rw [List.length_set]; exact hb⟩

theorem HasEntry.setCapacity (h : t.HasEntry b) (n b' : Nat) : (t.setCapacity b' n).HasEntry b := h

end Access

/-! ## Growing -/

theorem getElem?_getD_append_replicate {α : Type*} (l : List α) (k i : Nat) (d : α) :
    (l ++ List.replicate k d)[i]?.getD d = l[i]?.getD d := by
  by_cases hi : i < l.length
  · rw [List.getElem?_append_left hi]
  · rw [List.getElem?_append_right (by omega), List.getElem?_replicate,
      List.getElem?_eq_none (by omega)]
    split <;> rfl

theorem getElem?_getD_replicate {α : Type*} (k i : Nat) (d : α) :
    (List.replicate k d)[i]?.getD d = d := by
  rw [List.getElem?_replicate]
  split <;> rfl

/-- What growing does to a table: the number has an entry then, and nothing else is
    seen to change. -/
structure Grown (d : ε) (c : Nat) (t : GrowTable ε) (b : Nat) (t' : GrowTable ε) : Prop where
  sized : t'.Sized
  hasEntry : t'.HasEntry b
  entry : ∀ b', t'.entry d b' = t.entry d b'
  capacity : ∀ b', t'.capacity c b' = t.capacity c b'

section Grow

variable {t : GrowTable ε} (d : ε) (c : Nat) (b : Nat)

/-- The first use. -/
theorem grow_unset (hs : t.Sized) (hnone : t.entries = none) : Grown d c t b (t.grow d c b) := by
  have hsizes := hs.unset hnone
  -- whichever size is picked, the new table is a block of new entries
  obtain ⟨n, hn, hgrow⟩ : ∃ n, b < n ∧
      t.grow d c b = ⟨some (List.replicate n d), n, List.replicate n c⟩ := by
    by_cases hb : b + 1 > t.arrsize
    · refine ⟨b + 1, Nat.lt_succ_self b, ?_⟩
      simp only [grow, hnone, if_pos hb, gt_iff_lt, Nat.lt_irrefl, if_false]
    · refine ⟨t.arrsize, by omega, ?_⟩
      simp only [grow, hnone, if_neg hb]
  rw [hgrow]
  refine ⟨⟨Nat.zero_lt_of_lt hn, fun l hl => ?_, fun h => nomatch h⟩,
    ⟨_, rfl, by rwa [List.length_replicate]⟩, fun b' => ?_, fun b' => ?_⟩
  · obtain rfl := Option.some.inj hl
    exact ⟨List.length_replicate, List.length_replicate⟩
  · rw [entry, entry, hnone]
    exact getElem?_getD_replicate n b' d
  · rw [capacity, capacity, hsizes]
    exact getElem?_getD_replicate n b' c

/-- A table that is too short is extended with new entries. -/
theorem grow_short (hs : t.Sized) {l : List ε} (hl : t.entries = some l)
    (hb : t.arrsize < b + 1) : Grown d c t b (t.grow d c b) := by
  obtain ⟨hlen, hsize⟩ := hs.lengths l hl
  have hgrow : t.grow d c b = ⟨some (l ++ List.replicate (b + 1 - t.arrsize) d), b + 1,
      t.sizes ++ List.replicate (b + 1 - t.arrsize) c⟩ := by
    simp only [grow, hl, gt_iff_lt, if_pos hb, Option.map_some]
  rw [hgrow]
  refine ⟨⟨Nat.succ_pos b, fun l' hl' => ?_, fun h => nomatch h⟩, ⟨_, rfl, ?_⟩, fun b' => ?_,
    fun b' => ?_⟩
  · obtain rfl := Option.some.inj hl'
    simp only [List.length_append, List.length_replicate]
    omega
  · simp only [List.length_append, List.length_replicate]
    omega
  · simp only [entry, hl, Option.bind_some]
    exact getElem?_getD_append_replicate l _ b' d
  · exact getElem?_getD_append_replicate t.sizes _ b' c

/-- **Growing is invisible.** -/
theorem grow_spec (hs : t.Sized) : Grown d c t b (t.grow d c b) := by
  cases hentries : t.entries with
  | none => exact grow_unset d c b hs hentries
  | some l =>
    by_cases hb : t.arrsize < b + 1
    · exact grow_short d c b hs hentries hb
    · -- long enough already
      have hlen := (hs.lengths l hentries).1
      have hgrow : t.grow d c b = t := by simp only [grow, hentries, gt_iff_lt, if_neg hb]
      rw [hgrow]
      exact ⟨hs, ⟨l, hentries, by omega⟩, fun _ => rfl, fun _ => rfl⟩

end Grow

end GrowTable
