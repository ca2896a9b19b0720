import Mathlib.Data.List.FinRange
import Mathlib.Data.List.Forall2
import PacketSteering.Loader
import PacketSteering.Proofs.Card.RoundTrip
import PacketSteering.Proofs.Loader.Load

/-!
# Reading back a card

A dump is put together slot by slot from what the card answers.  Every write on the way latches an
address and does no more, so that what is read is what was on the card at the start and is on it in
the end (`Loader.run_dump`).  A dump thus shows every slot as it is, the enable bit, the value and
the mask byte for byte, and the termination if it fits a byte (`SlotDump.Shows`).
-/

namespace PacketSteering

open Program Channel

/-! ## What a dump shows -/

namespace CardSlot

/-- The bytes of the words of a slot. -/
def bytes (words : Vector UInt32 Register.filterWords) : List UInt8 :=
  List.ofFn fun i : Fin matchDepth => byteAt words i i.isLt

@[simp] lemma length_bytes (words : Vector UInt32 Register.filterWords) :
    (bytes words).length = matchDepth :=
  List.length_ofFn

lemma getElem_bytes (words : Vector UInt32 Register.filterWords) {i : ℕ}
    (h : i < (bytes words).length) : (bytes words)[i] = byteAt words i (by simpa using h) :=
  List.getElem_ofFn h

lemma toList_bytesOf (words : Vector UInt32 Register.filterWords) :
    (bytesOf words.toArray).toList = bytes words := by
  apply List.ext_getElem
  · simp
  · intro i hi hbytes
    have hdepth : i < matchDepth := by simpa using hi
    have hword : i / 4 < Register.filterWords := (Nat.div_lt_iff_lt_mul (by decide)).2 hdepth
    rw [getElem_bytes words hbytes, Vector.getElem_toList, getElem_bytesOf _ hdepth, byteAt]
    simp [Array.getD, hword]

lemma bytes_wordOf (pattern : Vector UInt8 matchDepth) :
    bytes (Vector.ofFn fun word => wordOf pattern word) = pattern.toList := by
  apply List.ext_getElem
  · simp
  · intro i hi _
    rw [getElem_bytes _ hi, byteAt_ofPattern, Vector.getElem_toList]

lemma bytes_value_ofPattern (pattern : Pattern) :
    bytes (ofPattern pattern).value = pattern.value.toList :=
  bytes_wordOf pattern.value

lemma bytes_mask_ofPattern (pattern : Pattern) :
    bytes (ofPattern pattern).mask = pattern.mask.toList :=
  bytes_wordOf pattern.mask

end CardSlot

/-- A dump of a slot shows what is on the card: its number, its enable bit, its termination, and
every byte of its value and its mask. -/
structure SlotDump.Shows (shown : SlotDump) (state : CardState) (slot : Fin filterCount) :
    Prop where
  slot_eq : shown.slot.toNat = slot
  enabled_eq : shown.enabled = state.isEnabled slot
  termination_eq : shown.termination.toNat = (state.slots.get slot).termination.toNat
  value_eq : shown.value = CardSlot.bytes (state.slots.get slot).value
  mask_eq : shown.mask = CardSlot.bytes (state.slots.get slot).mask

/-- A dump shows what is on a card: the active bank, and every slot in order. -/
structure CardDump.Shows (shown : CardDump) (state : CardState) : Prop where
  activeBank_eq : shown.activeBank = state.activeBank
  slots : List.Forall₂ (fun entry slot => SlotDump.Shows entry state slot) shown.slots
    (List.finRange filterCount)

/-- Nothing that is on a card is changed, and nothing is added to its journal. -/
structure Card.Keeps (card after : Card) : Prop where
  slots_eq : after.state.slots = card.state.slots
  control_eq : after.state.control = card.state.control
  bankA_eq : after.state.bankA = card.state.bankA
  bankB_eq : after.state.bankB = card.state.bankB
  journal_eq : after.journal = card.journal

namespace CardState

/-- What is read back of a slot. -/
def slotDump (state : CardState) (slot : Fin filterCount) : SlotDump where
  slot := UInt8.ofNat slot
  enabled := state.isEnabled slot
  termination := (state.slots.get slot).termination.toUInt8
  value := CardSlot.bytes (state.slots.get slot).value
  mask := CardSlot.bytes (state.slots.get slot).mask

/-- Where terminations fit a byte, what is read back shows the slot. -/
lemma shows_slotDump {state : CardState} (hfit : state.TerminationsFit) (slot : Fin filterCount) :
    (state.slotDump slot).Shows state slot where
  slot_eq := UInt8.toNat_ofNat_of_lt' (Nat.lt_trans slot.isLt (by decide))
  enabled_eq := rfl
  termination_eq := (UInt32.toNat_toUInt8 _).trans (Nat.mod_eq_of_lt (hfit slot slot.isLt))
  value_eq := rfl
  mask_eq := rfl

end CardState

/-! ## Reading slot by slot -/

namespace Loader

open CardState

variable {state now : CardState}

lemma run_dumpSlot (hnow : state.Addressing now) (soFar : Array SlotDump)
    (slot : Fin filterCount) :
    let program := dumpSlot soFar slot
    (program.run device now).result = soFar.push (state.slotDump slot) ∧
      state.Addressing (program.run device now).state ∧
        ∀ step ∈ program.writeSteps device now, step.Latches := by
  obtain ⟨hread, ⟨address, hafter⟩, -⟩ := now.run_readFilter slot.isLt
  obtain ⟨start, rfl⟩ := hnow
  simp only [dumpSlot, run_bind_result, run_bind_state, run_isEnabled_result, run_isEnabled_state,
    hread, hafter, run_pure, writeSteps_bind, writeSteps_isEnabled, List.nil_append,
    writeSteps_pure, List.append_nil, CardSlot.toPattern, CardSlot.toList_bytesOf]
  refine ⟨rfl, ⟨address, rfl⟩, fun step hstep => Or.inl ?_⟩
  exact offset_readFilter _ slot step hstep

lemma run_dumpSlots (slots : List (Fin filterCount)) (hnow : state.Addressing now)
    (soFar : Array SlotDump) :
    let program := fold dumpSlot soFar (slots.map Fin.val)
    (program.run device now).result.toList = soFar.toList ++ slots.map state.slotDump ∧
      state.Addressing (program.run device now).state ∧
        ∀ step ∈ program.writeSteps device now, step.Latches := by
  induction slots generalizing now soFar with
  | nil => exact ⟨(List.append_nil _).symm, hnow, nofun⟩
  | cons slot rest ih =>
    have hfold : fold dumpSlot soFar ((slot :: rest).map Fin.val) =
      dumpSlot soFar slot >>= fun soFar => fold dumpSlot soFar (rest.map Fin.val) := rfl
    obtain ⟨hslot, hafter, hlatches⟩ := run_dumpSlot hnow soFar slot
    obtain ⟨hrest, hfinal, hlater⟩ := ih hafter (soFar.push (state.slotDump slot))
    simp only [hfold, run_bind_result, run_bind_state, writeSteps_bind, hslot]
    refine ⟨by simp [hrest], hfinal, fun step hstep => ?_⟩
    rcases List.mem_append.mp hstep with hstep | hstep
    · exact hlatches step hstep
    · exact hlater step hstep

/-- A dump is what can be read back of every slot in order, and only latches addresses. -/
theorem run_dump (state : CardState) :
    (dump.run device state).result =
        ⟨state.activeBank, (List.finRange filterCount).map state.slotDump⟩ ∧
      ∀ step ∈ dump.writeSteps device state, step.Latches := by
  have hrange : (List.finRange filterCount).map Fin.val = List.range filterCount :=
    List.map_coe_finRange_eq_range
  have hstart : state.Addressing state := ⟨state.filterAddress, rfl⟩
  obtain ⟨hslots, -, hlatches⟩ := run_dumpSlots (List.finRange filterCount) hstart #[]
  rw [hrange] at hslots hlatches
  simp only [dump, run_bind_result, run_activeBank_result, run_activeBank_state, run_pure,
    writeSteps_bind, writeSteps_activeBank, writeSteps_pure, List.nil_append, List.append_nil]
  exact ⟨congrArg (CardDump.mk state.activeBank) hslots, hlatches⟩

lemma run_dump_result (card : Card) : (dump.run Card.device card).result =
    ⟨card.state.activeBank, (List.finRange filterCount).map card.state.slotDump⟩ := by
  rw [← Card.projects.run_result, (run_dump card.state).1]

lemma shows_dump {card : Card} (hfit : card.state.TerminationsFit) :
    (dump.run Card.device card).result.Shows card.state := by
  rw [run_dump_result]
  refine ⟨rfl, ?_⟩
  rw [List.forall₂_map_left_iff, List.forall₂_same]
  exact fun slot _ => shows_slotDump hfit slot

/-- A dump leaves a card as it is, but for the latched addresses. -/
lemma keeps_dump (card : Card) : card.Keeps (dump.run Card.device card).state := by
  obtain ⟨⟨_, _, _, hstate⟩, hjournal⟩ := Card.run_of_latches dump card (run_dump card.state).2
  constructor
  case journal_eq => exact hjournal
  all_goals rw [hstate]

end Loader

/-! ## A card with a rule to try things on -/

namespace Card

/-- A blank card with one slot on, which holds a rule. -/
def carrying (slot : Fin filterCount) (rule : Rule) : Card :=
  { Card.blank with
    state := (Card.blank.state.putSlot slot (.ofPattern rule.pattern)).on slot }

variable (slot : Fin filterCount) (rule : Rule)

lemma slots_carrying {i : ℕ} (hi : i < filterCount) :
    (carrying slot rule).state.slots[i] =
      if slot.val = i then .ofPattern rule.pattern else .zero := by
  refine (CardState.getElem_putSlot _ _ _ hi).trans ?_
  simp [blank, CardState.initial]

lemma get_carrying : (carrying slot rule).state.slots.get slot = .ofPattern rule.pattern :=
  (slots_carrying slot rule slot.isLt).trans (if_pos rfl)

lemma isEnabled_carrying : (carrying slot rule).state.isEnabled slot = true :=
  CardState.isEnabled_on_self _ slot.isLt

lemma terminationsFit_carrying : (carrying slot rule).state.TerminationsFit := by
  intro i hi
  rw [slots_carrying slot rule hi]
  split
  case isTrue => exact CardSlot.termination_ofPattern_lt _
  case isFalse => decide

end Card

end PacketSteering
