/-
  Libmsr.Lib.Listing

  Printed tables: a line of labels and a line of values, which are made by separate
  loops and belong together by position only.

  A label is printed as a text.  `Labelled text named labels values` says that where
  the text of a label stands, the value it names stands.  If texts are unambiguous,
  this is an equation between two lists (`labelled_iff`), and an equation between two
  nested loops with blocks of the same lengths is one between their blocks
  (`flatMap_eq_flatMap_iff`).

  `numbered name n` is a name with a zero-padded number behind it, and is unambiguous
  (`numbered_inj`).  `columnLabels` are names without digits, each with its number
  behind it; values printed number by number stand under them (`labelled_columns`).
-/
import Mathlib.Data.List.Nodup

namespace Listing

/-! ## Labels and values -/

section Labelled

variable {ι κ τ β : Type*}

/-- There are as many values as labels, and each is the one that the label at its
    position names. -/
structure Labelled (text : κ → τ) (named : κ → β) (labels : List τ) (values : List β) :
    Prop where
  length : values.length = labels.length
  each : ∀ (i : Nat) (label : κ),
    labels[i]? = some (text label) → values[i]? = some (named label)

theorem labelled_iff {text : κ → τ} (htext : Function.Injective text) (named : κ → β)
    (labels : List κ) (values : List β) :
    Labelled text named (labels.map text) values ↔ values = labels.map named := by
  constructor
  · intro h
    apply List.ext_getElem?
    intro i
    rw [List.getElem?_map]
    cases hi : labels[i]? with
    | some label =>
      apply h.each i label
      rw [List.getElem?_map, hi, Option.map_some]
    | none =>
      -- no label, and so no value
      have hlen := List.getElem?_eq_none_iff.mp hi
      rw [← List.length_map, ← h.length] at hlen
      rw [List.getElem?_eq_none hlen, Option.map_none]
  · rintro rfl
    refine ⟨by rw [List.length_map, List.length_map], fun i label hi => ?_⟩
    rw [List.getElem?_map, Option.map_eq_some_iff] at hi
    obtain ⟨label', hi, heq⟩ := hi
    obtain rfl := htext heq
    rw [List.getElem?_map, hi, Option.map_some]

/-- Loops whose blocks have the same lengths print the same if and only if all their
    blocks are the same. -/
theorem flatMap_eq_flatMap_iff {is : List ι} {f g : ι → List β}
    (hlen : ∀ i ∈ is, (f i).length = (g i).length) :
    is.flatMap f = is.flatMap g ↔ ∀ i ∈ is, f i = g i := by
  induction is with
  | nil => exact iff_of_true rfl fun i hi => absurd hi List.not_mem_nil
  | cons i is ih =>
    have hhead := hlen i List.mem_cons_self
    have htail := ih fun j hj => hlen j (List.mem_cons_of_mem _ hj)
    rw [List.flatMap_cons, List.flatMap_cons, List.append_eq_append_iff_of_size_eq_left hhead,
      htail, List.forall_mem_cons]

end Labelled

/-! ## Numbers in texts -/

/-- `%0wd` of a number. -/
def pad (w n : Nat) : String :=
  String.ofList (List.replicate (w - (Nat.toDigits 10 n).length) '0' ++ Nat.toDigits 10 n)

theorem toList_pad (w n : Nat) : (pad w n).toList =
    List.replicate (w - (Nat.toDigits 10 n).length) '0' ++ Nat.toDigits 10 n :=
  String.toList_ofList

/-- Leading zeroes do not change a number. -/
theorem ofDigitChars_pad (w n : Nat) : Nat.ofDigitChars 10 (pad w n).toList 0 = n := by
  rw [toList_pad, Nat.ofDigitChars_append, Nat.ofDigitChars_replicate_zero, Nat.mul_zero,
    Nat.ofDigitChars_toDigits (by decide) (by decide)]

theorem pad_injective (w : Nat) : Function.Injective (pad w) := by
  intro m n h
  rw [← ofDigitChars_pad w m, h, ofDigitChars_pad]

theorem underscore_not_mem_pad (w n : Nat) : '_' ∉ (pad w n).toList := by
  rw [toList_pad, List.mem_append]
  rintro (hzero | hdigit)
  · exact absurd (List.eq_of_mem_replicate hzero) (by decide)
  · exact Nat.underscore_not_in_toDigits hdigit

/-- What stands behind the last separator, and what stands before it. -/
theorem append_cons_inj {α : Type*} {x : α} {a b c d : List α} (hc : x ∉ c) (hd : x ∉ d)
    (h : a ++ x :: c = b ++ x :: d) : a = b ∧ c = d := by
  induction a generalizing b with
  | nil =>
    cases b with
    | nil => exact ⟨rfl, (List.cons.inj h).2⟩
    | cons y b =>
      -- the second separator would be in `c`
      have hmem : x ∈ c := by
        rw [(List.cons.inj h).2]
        exact List.mem_append_right _ List.mem_cons_self
      exact absurd hmem hc
  | cons z a ih =>
    cases b with
    | nil =>
      have hmem : x ∈ d := by
        rw [← (List.cons.inj h).2]
        exact List.mem_append_right _ List.mem_cons_self
      exact absurd hmem hd
    | cons y b =>
      obtain ⟨hhead, htail⟩ := List.cons.inj h
      obtain ⟨rfl, hrest⟩ := ih htail
      exact ⟨hhead ▸ rfl, hrest⟩

/-- A name, an underscore and a number of two digits or more. -/
def numbered (name : String) (n : Nat) : String := name ++ "_" ++ pad 2 n

theorem toList_numbered (name : String) (n : Nat) :
    (numbered name n).toList = name.toList ++ '_' :: (pad 2 n).toList := by
  rw [numbered, String.toList_append, String.toList_append, List.append_assoc]
  rfl

/-- The name and the number can be told from the text, whatever the name. -/
theorem numbered_inj {name name' : String} {n n' : Nat} (h : numbered name n = numbered name' n') :
    name = name' ∧ n = n' := by
  have hlist := congrArg String.toList h
  rw [toList_numbered, toList_numbered] at hlist
  obtain ⟨hname, hnum⟩ :=
    append_cons_inj (underscore_not_mem_pad 2 n) (underscore_not_mem_pad 2 n') hlist
  exact ⟨String.toList_inj.mp hname, pad_injective 2 (String.toList_inj.mp hnum)⟩

/-! ## Columns -/

/-- What is not of a kind in front, and what is of the kind behind. -/
theorem append_inj_of_kind {α : Type*} {p : α → Prop} {a b c d : List α} (ha : ∀ x ∈ a, ¬ p x)
    (hb : ∀ x ∈ b, ¬ p x) (hc : ∀ x ∈ c, p x) (hd : ∀ x ∈ d, p x) (h : a ++ c = b ++ d) :
    a = b ∧ c = d := by
  induction a generalizing b with
  | nil =>
    cases b with
    | nil => exact ⟨rfl, h⟩
    | cons y b =>
      -- the first element would be of both kinds
      refine absurd (hc y ?_) (hb y List.mem_cons_self)
      rw [List.nil_append] at h
      rw [h]
      exact List.mem_cons_self
  | cons x a ih =>
    cases b with
    | nil =>
      refine absurd (hd x ?_) (ha x List.mem_cons_self)
      rw [List.nil_append] at h
      rw [← h]
      exact List.mem_cons_self
    | cons y b =>
      obtain ⟨rfl, hrest⟩ := List.cons.inj h
      obtain ⟨rfl, rfl⟩ := ih (fun z hz => ha z (List.mem_cons_of_mem _ hz))
        (fun z hz => hb z (List.mem_cons_of_mem _ hz)) hrest
      exact ⟨rfl, rfl⟩

theorem isDigit_of_mem_pad {w n : Nat} {c : Char} (h : c ∈ (pad w n).toList) :
    c.isDigit = true := by
  rw [toList_pad, List.mem_append] at h
  rcases h with hzero | hdigit
  · rw [List.eq_of_mem_replicate hzero]
    rfl
  · exact Nat.isDigit_of_mem_toDigits (by decide) (by decide) hdigit

/-- A name without digits. -/
def digitFree (name : String) : Bool := name.toList.all fun c => !c.isDigit

theorem isDigit_of_digitFree {name : String} (h : digitFree name = true) {c : Char}
    (hc : c ∈ name.toList) : c.isDigit = false := by
  have hnot := List.all_eq_true.mp h c hc
  rwa [Bool.not_eq_true'] at hnot

/-- A name without digits and a number can be told from their text. -/
theorem append_pad_inj {name name' : String} {w n n' : Nat} (hname : digitFree name = true)
    (hname' : digitFree name' = true) (h : name ++ pad w n = name' ++ pad w n') :
    name = name' ∧ n = n' := by
  have hlist := congrArg String.toList h
  rw [String.toList_append, String.toList_append] at hlist
  obtain ⟨hleft, hright⟩ := append_inj_of_kind (p := fun c : Char => c.isDigit = true)
    (fun c hc => by rw [isDigit_of_digitFree hname hc]; decide)
    (fun c hc => by rw [isDigit_of_digitFree hname' hc]; decide)
    (fun _ hc => isDigit_of_mem_pad hc) (fun _ hc => isDigit_of_mem_pad hc) hlist
  exact ⟨String.toList_inj.mp hleft, pad_injective w (String.toList_inj.mp hright)⟩

/-- A line of labels: for each number below `n` all names with the number behind, of
    `w` digits or more. -/
def columnLabels (w : Nat) (names : List String) (n : Nat) : List String :=
  (List.range n).flatMap fun i => names.map fun name => name ++ pad w i

/-- A column: which of the names, and the number behind it. -/
def columnText (w : Nat) (names : List String) (l : Fin names.length × Nat) : String :=
  names[l.1] ++ pad w l.2

theorem columnText_injective {w : Nat} {names : List String} (hnodup : names.Nodup)
    (hdigits : ∀ name ∈ names, digitFree name = true) :
    Function.Injective (columnText w names) := by
  rintro ⟨k, i⟩ ⟨k', i'⟩ h
  obtain ⟨hname, rfl⟩ := append_pad_inj (hdigits _ (List.getElem_mem k.isLt))
    (hdigits _ (List.getElem_mem k'.isLt)) h
  rw [Prod.mk.injEq]
  exact ⟨Fin.ext ((hnodup.getElem_inj_iff).mp hname), rfl⟩

/-- **Tables.**  Values that are printed number by number, and for each number in the
    order of the names, stand under their labels. -/
theorem labelled_columns {β : Type*} (w : Nat) (names : List String) (hnodup : names.Nodup)
    (hdigits : ∀ name ∈ names, digitFree name = true) (n : Nat)
    (data : Nat → Nat → β) :
    Labelled (columnText w names) (fun l => data l.1 l.2) (columnLabels w names n)
      ((List.range n).flatMap fun i => (List.range names.length).map fun k => data k i) := by
  have hlabels : columnLabels w names n = ((List.range n).flatMap fun i =>
      (List.finRange names.length).map fun k => (k, i)).map (columnText w names) := by
    rw [columnLabels, List.map_flatMap]
    refine List.flatMap_congr fun i _ => ?_
    rw [List.map_map]
    exact (List.ext_getElem (by simp) (by simp [columnText]))
  rw [hlabels, labelled_iff (columnText_injective hnodup hdigits), List.map_flatMap]
  refine List.flatMap_congr fun i _ => ?_
  rw [List.map_map]
  exact List.ext_getElem (by simp) (by simp)

end Listing
