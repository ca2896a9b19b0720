import Mathlib.Tactic.Common
import PacketSteering.Loader
import PacketSteering.Proofs.Card.Channel
import PacketSteering.Proofs.Card.Steering

/-!
# Publishing a table

A table goes to the bank that is not active, and is made active by the last write, the flip.  All
writes before the flip leave the active bank, the slots and their enable bits as they were; the
flip changes the active bank and nothing else.
-/

namespace PacketSteering

open Program Channel

namespace CardState

/-- The state after a table is published. -/
def published (state : CardState) (table : ColourTable) : CardState :=
  (state.putBank state.activeBank.other table).select state.activeBank.other

section

variable (state : CardState) (table : ColourTable)

@[simp] lemma layout_published : (state.published table).layout = state.layout := by
  rw [published, layout_select, layout_putBank]

@[simp] lemma slots_published : (state.published table).slots = state.slots := by
  rw [published, slots_select, slots_putBank]

@[simp] lemma activeBank_published :
    (state.published table).activeBank = state.activeBank.other :=
  activeBank_select _ _

lemma isEnabled_published {i : ℕ} (hi : i < filterCount) :
    (state.published table).isEnabled i = state.isEnabled i := by
  rw [published, isEnabled_select _ _ hi, isEnabled_putBank]

lemma bank_published (bank : Bank) :
    (state.published table).bank bank =
      if bank = state.activeBank.other then table else state.bank bank := by
  rw [published, bank_select, bank_putBank]

/-- The table is live once it is published. -/
lemma bank_activeBank_published :
    (state.published table).bank (state.published table).activeBank = table := by
  rw [activeBank_published, bank_published, if_pos rfl]

lemma hit_published (slot : ℕ) (frame : Array UInt8) :
    (state.published table).hit slot frame = state.hit slot frame := by
  unfold hit
  split
  case isTrue hslot => rw [isEnabled_published state table hslot, slots_published]
  case isFalse => rfl

end

variable {state now : CardState}

/-! ## While the table is written -/

lemma Refilling.layout_eq {bank : Bank} (h : state.Refilling bank now) :
    now.layout = state.layout := by
  obtain ⟨shown, -, rfl⟩ := h
  exact layout_putBank _ _ _

lemma Refilling.slots_eq {bank : Bank} (h : state.Refilling bank now) :
    now.slots = state.slots := by
  obtain ⟨shown, -, rfl⟩ := h
  exact slots_putBank _ _ _

lemma Refilling.isEnabled_eq {bank : Bank} (h : state.Refilling bank now) :
    now.isEnabled = state.isEnabled := by
  obtain ⟨shown, -, rfl⟩ := h
  exact isEnabled_putBank _ _ _

lemma Refilling.activeBank_eq {bank : Bank} (h : state.Refilling bank now) :
    now.activeBank = state.activeBank := by
  obtain ⟨shown, -, rfl⟩ := h
  exact activeBank_putBank _ _ _

/-- What the card steers by stays as it is. -/
lemma Refilling.live_eq (h : state.Refilling state.activeBank.other now) :
    now.bank now.activeBank = state.bank state.activeBank := by
  rw [h.activeBank_eq]
  obtain ⟨shown, -, rfl⟩ := h
  exact bank_putBank_other _ _ _

/-- Nobody sees a write to the bank that is not active. -/
lemma Refilling.classify_eq (h : state.Refilling state.activeBank.other now) (frame : Array UInt8)
    (interface : UInt8) (hlb : HlbOutcome) :
    now.classify frame interface hlb = state.classify frame interface hlb := by
  rw [classify, classify, colourAt, colourAt, filterHits, filterHits, h.layout_eq, h.live_eq,
    h.isEnabled_eq, h.slots_eq]

/-! ## The whole of it -/

lemma Shaped.published {config : Configuration} (h : state.Shaped config) {table : ColourTable}
    (htable : ∀ bank, table.SameShape (state.bank bank)) :
    (state.published table).Shaped config := by
  refine h.of_sameShape (state.layout_published table) fun bank => ?_
  rw [bank_published]
  split
  · exact htable bank
  · exact .refl _

lemma InStep.published {filter : Filter} (h : state.InStep filter)
    (hslot : filter.physicalSlot < filterCount) (table : ColourTable) :
    (state.published table).InStep filter where
  isEnabled_eq := by rw [isEnabled_published _ _ hslot, h.isEnabled_eq]
  holds := by
    rw [slots_published]
    exact h.holds

lemma run_publish_result (state : CardState) (table : ColourTable) :
    ((Loader.publish table).run device state).result = state.activeBank.other := by
  simp only [Loader.publish, run_bind_result, run_activeBank_result, run_pure]

/-- Publishing writes the rows of the bank that is not active, and then flips. -/
theorem run_publish (state : CardState) {table : ColourTable}
    (hshape : ∀ bank, table.SameShape (state.bank bank)) (hsize : table.rows.size ≤ 2 ^ 14) :
    ((Loader.publish table).run device state).state = state.published table ∧
      ∃ fills flip, (Loader.publish table).writeSteps device state = fills ++ [flip] ∧
        (∀ step ∈ fills, step.Leaves (state.Refilling state.activeBank.other)) ∧
          flip.Leaves (· = state.published table) := by
  obtain ⟨hstate, hsteps⟩ := state.run_writeTable (hshape state.activeBank.other) hsize
  simp only [Loader.publish, run_bind_state, run_activeBank_result, run_activeBank_state, hstate,
    run_setActiveBank, run_log_state, run_pure, writeSteps_bind, writeSteps_activeBank,
    writeSteps_setActiveBank, writeSteps_log, writeSteps_pure, List.append_nil, List.nil_append]
  exact ⟨rfl, _, _, rfl, fun step hstep => (hsteps step hstep).leaves (Bank.other_ne _), rfl,
    quiet_control _ _⟩

end CardState

end PacketSteering
