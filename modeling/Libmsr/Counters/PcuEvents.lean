/-
  Libmsr.Counters.PcuEvents

  The word that `set_pcu_ctrl_flags` stores, bit by bit.

  Bits 23 and 29 of the register have to be 0.  The function clears them in the flags,
  before these are shifted to bit 18, where they are bits of no field.
-/
import Libmsr.Counters.PcuLoading
import Libmsr.Lib.Words

namespace Libmsr

/-- The arguments that fit their fields. -/
structure PcuArgsFit (flags reset occ eventsel : Word) : Prop where
  flags : flags.toNat < 2 ^ 14
  reset : reset.toNat < 2 ^ 1
  occ : occ.toNat < 2 ^ 2
  eventsel : eventsel.toNat < 2 ^ 8

/-- `flags << 18 | reset << 17 | occ << 14 | eventsel`. -/
def pcuFields (flags reset occ eventsel : Word) : Word :=
  (flags <<< 18) ||| (reset <<< 17) ||| (occ <<< 14) ||| eventsel

/-- What the stored word has to be: 0 in bits 23 and 29, the fields elsewhere. -/
structure PcuWordRight (flags reset occ eventsel x : Word) : Prop where
  bit23 : x.getLsbD 23 = false
  bit29 : x.getLsbD 29 = false
  others : ∀ i, i < 64 → i ≠ 23 → i ≠ 29 →
    x.getLsbD i = (pcuFields flags reset occ eventsel).getLsbD i

section Word

variable {flags reset occ eventsel : Word} (h : PcuArgsFit flags reset occ eventsel)
include h

/-- The mask touches no bit of flags that fit. -/
theorem PcuArgsFit.pcuCtrlWord_eq :
    pcuCtrlWord flags reset occ eventsel = pcuFields flags reset occ eventsel := by
  have hlow : flags &&& 0x3FFF = flags := by
    apply BitVec.eq_of_toNat_eq
    rw [BitVec.toNat_and]
    show flags.toNat &&& 2 ^ 14 - 1 = flags.toNat
    rw [Nat.and_two_pow_sub_one_eq_mod, Nat.mod_eq_of_lt h.flags]
  have hmask : flags &&& 0xDF7FFFFF = flags := by
    calc flags &&& 0xDF7FFFFF = (flags &&& 0x3FFF) &&& 0xDF7FFFFF := by rw [hlow]
      _ = flags &&& (0x3FFF &&& 0xDF7FFFFF) := BitVec.and_assoc ..
      _ = flags &&& 0x3FFF := rfl
      _ = flags := hlow
  have hzero : (0 : Word) ||| (flags <<< 18) = flags <<< 18 := BitVec.zero_or
  rw [pcuCtrlWord, pcuFields, hmask, hzero]

/-- From bit 18 on there are only the flags. -/
theorem PcuArgsFit.getLsbD_pcuFields {i : Nat} (hi : 18 ≤ i) (hlt : i < 64) :
    (pcuFields flags reset occ eventsel).getLsbD i = flags.getLsbD (i - 18) := by
  have hreset := Words.getLsbD_of_toNat_lt h.reset (i := i - 17) (by omega)
  have hocc := Words.getLsbD_of_toNat_lt h.occ (i := i - 14) (by omega)
  have heventsel := Words.getLsbD_of_toNat_lt h.eventsel (i := i) (by omega)
  simp only [pcuFields, BitVec.getLsbD_or, BitVec.getLsbD_shiftLeft, hreset, hocc, heventsel,
    Bool.and_false, Bool.or_false, hlt, Nat.not_lt.mpr hi, decide_true, decide_false,
    Bool.not_false, Bool.true_and]

/-- The word is right exactly when the flags leave both bits 0. -/
theorem PcuArgsFit.wordRight_iff :
    PcuWordRight flags reset occ eventsel (pcuCtrlWord flags reset occ eventsel) ↔
      flags.getLsbD 5 = false ∧ flags.getLsbD 11 = false := by
  have h23 := h.getLsbD_pcuFields (i := 23) (by decide) (by decide)
  have h29 := h.getLsbD_pcuFields (i := 29) (by decide) (by decide)
  rw [h.pcuCtrlWord_eq]
  constructor
  · rintro ⟨hbit23, hbit29, -⟩
    exact ⟨h23.symm.trans hbit23, h29.symm.trans hbit29⟩
  · rintro ⟨h5, h11⟩
    exact ⟨h23.trans h5, h29.trans h11, fun _ _ _ _ => rfl⟩

end Word

/-! ## Calls -/

/-- The event-select slot of counter `k` and a socket. -/
def PcuState.uevtSlot (s : PcuState) (k socket : Nat) : Option Word :=
  s.world.loadAt uncoreEvtselBatch s.uevt k socket

/-- `set_pcu_ctrl_flags` stores a word that is right for its arguments. -/
def StoresPcuWord (P : Platform) (m : PcuMsrs) (s : PcuState) (flags reset occ eventsel : Word)
    (pcunum : Int) (socket : Nat) : Prop :=
  ∃ s' x, setPcuCtrlFlags P m flags reset occ eventsel pcunum s socket = some s' ∧
    s'.uevtSlot (pcunum.toNat - 1) socket = some x ∧ PcuWordRight flags reset occ eventsel x

section Calls

variable {P : Platform} {m : PcuMsrs} {pick : Nat → Nat} {s : PcuState}
  {flags reset occ eventsel : Word} {pcunum : Int} {socket : Nat}

variable (flags reset occ eventsel) in
/-- A call stores its word. -/
theorem setPcuCtrlFlags_spec (hfound : SocketsFound P pick)
    (hready : UncReady P m.evntsel0 uncoreEvtselBatch pick s.uevtInit s.uevt s.world.st)
    (hpcunum : 1 ≤ pcunum ∧ pcunum ≤ 4) (hsocket : socket < P.cfg.sockets) :
    ∃ s', setPcuCtrlFlags P m flags reset occ eventsel pcunum s socket = some s' ∧
      s'.uevtSlot (pcunum.toNat - 1) socket = some (pcuCtrlWord flags reset occ eventsel) := by
  obtain ⟨s₁, id, data, hs₁, -, htable⟩ := uncPerfevtselStorage_spec hfound hready
  have hk : pcunum.toNat - 1 < 4 := by omega
  obtain ⟨w', hw', htable', -⟩ := htable.storeAt hk hsocket (pcuCtrlWord flags reset occ eventsel)
  refine ⟨{ s₁ with world := w' }, ?_, ?_⟩
  · rw [setPcuCtrlFlags, hs₁, Option.bind_eq_bind, Option.bind_some, if_pos hpcunum, hw']
    rfl
  · show w'.loadAt uncoreEvtselBatch s₁.uevt _ socket = _
    rw [htable'.loadAt hk hsocket, setCell, if_pos rfl]

/-- **PCU event selection.**  For every counter and every socket the stored word is right
    exactly when bits 5 and 11 of the flags are 0. -/
theorem storesPcuWord_iff (hfound : SocketsFound P pick)
    (hready : UncReady P m.evntsel0 uncoreEvtselBatch pick s.uevtInit s.uevt s.world.st)
    (hfit : PcuArgsFit flags reset occ eventsel) (hpcunum : 1 ≤ pcunum ∧ pcunum ≤ 4)
    (hsocket : socket < P.cfg.sockets) :
    StoresPcuWord P m s flags reset occ eventsel pcunum socket ↔
      flags.getLsbD 5 = false ∧ flags.getLsbD 11 = false := by
  obtain ⟨s', hs', hslot⟩ := setPcuCtrlFlags_spec flags reset occ eventsel hfound hready hpcunum
    hsocket
  rw [← hfit.wordRight_iff]
  constructor
  · rintro ⟨t', x, ht', hx, hright⟩
    obtain rfl := Option.some.inj (hs'.symm.trans ht')
    obtain rfl := Option.some.inj (hslot.symm.trans hx)
    exact hright
  · intro hright
    exact ⟨s', _, hs', hslot, hright⟩

end Calls

theorem twoSockets_found : SocketsFound twoSockets id := ⟨twoSockets_picks.1.first, by decide⟩

/-- A threshold and the edge detect bit for the third counter of socket 1. -/
theorem pcuWord_threshold :
    StoresPcuWord twoSockets pcuMsrsOld (pcuStart (.opened 2)) 0x141 1 2 0x80 3 1 :=
  (storesPcuWord_iff twoSockets_found (pcuStart_uevt ..)
    ⟨by decide, by decide, by decide, by decide⟩ (by decide) (by decide)).mpr (by decide)

/-- Flags whose bit 5 is set: bit 23 of the word is 1. -/
theorem pcuWord_reserved_bit :
    PcuArgsFit 0x20 0 0 0 ∧
      ¬ StoresPcuWord twoSockets pcuMsrsOld (pcuStart (.opened 2)) 0x20 0 0 0 1 0 := by
  refine ⟨⟨by decide, by decide, by decide, by decide⟩, ?_⟩
  rintro ⟨s', x, hs', hx, hright⟩
  have hin : (1 : Int) ≤ 1 ∧ (1 : Int) ≤ 4 := by decide
  have hsocket : 0 < twoSockets.cfg.sockets := by decide
  obtain ⟨t', ht', hslot⟩ := setPcuCtrlFlags_spec 0x20 0 0 0 twoSockets_found
    (pcuStart_uevt twoSockets pcuMsrsOld.evntsel0 id (.opened 2)) hin hsocket
  obtain rfl := Option.some.inj (ht'.symm.trans hs')
  obtain rfl := Option.some.inj (hslot.symm.trans hx)
  exact absurd hright.bit23 (by decide)

end Libmsr
