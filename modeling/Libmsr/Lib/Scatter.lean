/-
  Libmsr.Lib.Scatter

  Storing a list of values under a list of keys, one after the other.  Nothing
  here mentions a particular program.

  - `scatter_of_not_mem`: the other keys keep their values.
  - `scatter_getElem?` / `map_scatter`: where the keys are distinct, each ends
    with its own value, and collecting the keys gives the list back.
  - `scatter_pairs`: where a key is only ever given one value.
-/
import Mathlib.Data.List.Basic
import Mathlib.Data.List.Nodup
import Mathlib.Logic.Function.Basic

namespace Scatter

variable {α β : Type*} [DecidableEq α]

/-- Store the values under the keys in order; a later one wins. -/
def scatter (m : α → β) : List α → List β → α → β
  | k :: ks, v :: vs => scatter (Function.update m k v) ks vs
  | _, _ => m

@[simp] theorem scatter_cons (m : α → β) (k : α) (ks : List α) (v : β) (vs : List β) :
    scatter m (k :: ks) (v :: vs) = scatter (Function.update m k v) ks vs := rfl

theorem scatter_of_not_mem {keys : List α} {k : α} (hk : k ∉ keys) (m : α → β)
    (vals : List β) : scatter m keys vals k = m k := by
  induction keys generalizing m vals with
  | nil => rfl
  | cons k' ks ih =>
    rw [List.mem_cons, not_or] at hk
    cases vals with
    | nil => rfl
    | cons v vs => rw [scatter_cons, ih hk.2, Function.update_of_ne hk.1]

/-- Of distinct keys each ends with its own value. -/
theorem scatter_getElem? {keys : List α} {vals : List β} (hnodup : keys.Nodup) (m : α → β)
    {i : Nat} {k : α} {v : β} (hk : keys[i]? = some k) (hv : vals[i]? = some v) :
    scatter m keys vals k = v := by
  induction keys generalizing m vals i with
  | nil => simp at hk
  | cons k' ks ih =>
    obtain ⟨hnot, hnodup⟩ := List.nodup_cons.mp hnodup
    cases vals with
    | nil => simp at hv
    | cons v' vs =>
      cases i with
      | zero =>
        obtain rfl : k' = k := by simpa using hk
        obtain rfl : v' = v := by simpa using hv
        rw [scatter_cons, scatter_of_not_mem hnot, Function.update_self]
      | succ i => exact ih hnodup _ hk hv

/-- What was stored under distinct keys is found there again. -/
theorem map_scatter {keys : List α} {vals : List β} (hnodup : keys.Nodup)
    (hlen : keys.length = vals.length) (m : α → β) : keys.map (scatter m keys vals) = vals := by
  apply List.ext_getElem?
  intro i
  rw [List.getElem?_map]
  by_cases hi : i < keys.length
  · have hk := List.getElem?_eq_getElem hi
    have hv := List.getElem?_eq_getElem (hlen ▸ hi : i < vals.length)
    rw [hk, hv, Option.map_some, scatter_getElem? hnodup m hk hv]
  · rw [List.getElem?_eq_none (by omega), List.getElem?_eq_none (by omega), Option.map_none]

/-- Where everything stored under a key is the same, the key ends with it or was not
    among the keys. -/
theorem scatter_pairs (l : List (α × β)) {k : α} {v : β} (hsame : ∀ x ∈ l, x.1 = k → x.2 = v)
    (m : α → β) :
    scatter m (l.map Prod.fst) (l.map Prod.snd) k = if k ∈ l.map Prod.fst then v else m k := by
  induction l generalizing m with
  | nil => rfl
  | cons x l ih =>
    rw [List.map_cons, List.map_cons, scatter_cons,
      ih (fun y hy => hsame y (List.mem_cons_of_mem _ hy))]
    by_cases hk : k ∈ l.map Prod.fst
    · rw [if_pos hk, if_pos (List.mem_cons_of_mem _ hk)]
    · rw [if_neg hk]
      by_cases hx : k = x.1
      · rw [if_pos (hx ▸ List.mem_cons_self ..), hx, Function.update_self,
          hsame x (List.mem_cons_self ..) hx.symm]
      · rw [if_neg (by simp [hx, hk]), Function.update_of_ne hx]

end Scatter
