import Mathlib.Tactic.Common
import PacketSteering.Proofs.Loader.Swap

/-!
# Replacing is editing and loading

A replacement leaves the new rule in another physical slot, under another slot map and another
table, than editing the configuration in place and loading it would
(`Configuration.editedInPlace`).  Both cards are nevertheless hit in the virtual slots that the
edited configuration asks for, and steer alike (`swapFilter_eq_load`), whether or not the streams
mention the swap slot.
-/

namespace PacketSteering

open Program CardState

namespace Configuration

/-- The configuration in which a rule has been replaced by the staged one with every filter left on
its physical slot: the target has the staged rule and is on, and the swap slot has the old rule and
is off. -/
def editedInPlace (config : Configuration) (target : Fin filterCount) : Configuration :=
  config.withFilters target swapFin
    { config.filters.get target with rule := (config.filters.get swapFin).rule, enabled := true }
    { config.filters.get swapFin with rule := (config.filters.get target).rule, enabled := false }

variable {config : Configuration} {target : Fin filterCount}

lemma editedInPlace_filters (config : Configuration) (target v : Fin filterCount) :
    (config.editedInPlace target).filters.get v =
      if v = swapFin then
        ⟨(config.filters.get swapFin).virtualSlot, config.physical swapFin, false,
          (config.filters.get target).rule⟩
      else if v = target then
        ⟨(config.filters.get target).virtualSlot, config.physical target, true,
          (config.filters.get swapFin).rule⟩
      else config.filters.get v := by
  rw [editedInPlace, withFilters_filters]
  rfl

lemma Slotted.editedInPlace (h : config.Slotted) (target : Fin filterCount) :
    (config.editedInPlace target).Slotted := by
  refine h.of_same_slots (fun v => ?_) (fun v => ?_) rfl
  · rw [editedInPlace_filters]
    split
    case isTrue hswap => rw [hswap]
    case isFalse =>
      split
      case isTrue hv => rw [hv]
      case isFalse => rfl
  · rw [physical, editedInPlace_filters]
    split
    case isTrue hswap => rw [hswap]
    case isFalse =>
      split
      case isTrue hv => rw [hv]
      case isFalse => rfl

/-- Editing in place and replacing ask for the same, in other physical slots. -/
lemma virtualHits_editedInPlace (htarget : target ≠ swapFin) (frame : Array UInt8) :
    (config.editedInPlace target).virtualHits frame =
      (config.replaced target).virtualHits frame := by
  apply BitField.eq_of_testBit
  intro i hi
  rw [testBit_virtualHits _ frame ⟨i, hi⟩, testBit_virtualHits _ frame ⟨i, hi⟩, wants, wants,
    editedInPlace_filters, replaced_filters config htarget]
  split
  case isTrue => rfl
  case isFalse =>
    split
    case isTrue => rfl
    case isFalse => rfl

end Configuration

namespace Loader

variable {config : Configuration}

/-- **Replacing a rule is editing it in place and loading.** A card on which every slot but the
target and the swap slot is in step steers after a replacement as any card of the shape does after
a load of the edited configuration. -/
theorem swapFilter_eq_load (hreachable : config.Reachable) {card other : Card}
    (hshape : card.state.Shaped config) {target : ℕ} (htarget : target < swapSlot)
    (hstep : ∀ v : Fin filterCount, v.val ≠ target → v ≠ swapFin →
      card.state.InStep (config.filters.get v))
    {swapMemory : Memory} {swapSummary : LoadSummary}
    (hswap : ((swapFilter swapMemory config target).run Card.device card).result.1 =
      .ok swapSummary)
    (hotherShape : other.state.Shaped config) (hfit : other.state.TerminationsFit)
    {loadMemory : Memory} {loadSummary : LoadSummary}
    (hload : ((load loadMemory (config.editedInPlace ⟨target, Nat.lt_succ_of_lt htarget⟩)).run
      Card.device other).result = .ok loadSummary)
    (frame : Array UInt8) (interface : UInt8) (hlb : HlbOutcome) :
    let edited := config.editedInPlace ⟨target, Nat.lt_succ_of_lt htarget⟩
    ((swapFilter swapMemory config target).run Card.device card).state.state.classify frame
        interface hlb =
      ((load loadMemory edited).run Card.device other).state.state.classify frame interface
        hlb := by
  intro edited
  have h := hreachable.slotted
  have hedited : edited.Slotted := h.editedInPlace _
  have heditedShape : other.state.Shaped edited :=
    ⟨hotherShape.layout_eq, hotherShape.entries_eq, hotherShape.bits_eq⟩
  have hne : (⟨target, Nat.lt_succ_of_lt htarget⟩ : Fin filterCount) ≠ swapFin := fun heq =>
    Nat.ne_of_lt htarget (congrArg Fin.val heq)
  rw [load_classify hedited heditedShape hfit hload,
    swapFilter_classify h hshape htarget hstep hswap, Configuration.virtualHits_editedInPlace hne]
  rfl

/-- The staged rule for IPv4 takes the place of the rule for all frames, on a loaded card by a
replacement and on a fresh one by a load.  A frame for IPv6, which the loaded card has steered to
the stream, is dropped by both. -/
theorem swapFilter_eq_load_firstFilter :
    ∃ (fresh : Card) (swapSummary loadSummary : LoadSummary),
      Card.forConfiguration .addressSpace .firstStaged = .ok fresh ∧
      let edited := Configuration.firstStaged.editedInPlace ⟨0, by decide⟩
      let loaded := ((load .addressSpace .firstStaged).run Card.device fresh).state
      let swap := (swapFilter .addressSpace .firstStaged 0).run Card.device loaded
      let reload := (load .addressSpace edited).run Card.device fresh
      swap.result.1 = .ok swapSummary ∧ reload.result = .ok loadSummary ∧
        loaded.state.classify (frameOfType 0x86 0xDD) 0 (.bits 0) = .stream 0 ∧
        swap.state.state.classify (frameOfType 0x86 0xDD) 0 (.bits 0) = .drop ∧
        swap.state.state.classify (frameOfType 0x08 0x00) 0 (.bits 0) = .stream 0 ∧
        ∀ frame, swap.state.state.classify frame 0 (.bits 0) =
          reload.state.state.classify frame 0 (.bits 0) := by
  have hreachable := Configuration.reachable_firstStaged
  obtain ⟨fresh, _, hfresh, hshape, hfit, hok⟩ := exists_loaded_firstStaged
  have hloaded := (load_live hreachable.slotted hshape hok).1
  have hstep := inStep_loaded hreachable.slotted hshape hfit hok
  obtain ⟨⟨swapSummary, hswap⟩, hdropped, hkept⟩ := swapFilter_firstStaged hloaded hstep
  obtain ⟨table, htable⟩ := ColourTable.exists_forConfiguration_firstFilter
  have htable' : ColourTable.forConfiguration .addressSpace
      (Configuration.firstStaged.editedInPlace ⟨0, by decide⟩) = .ok table := htable
  have hshape' : fresh.state.Shaped (Configuration.firstStaged.editedInPlace ⟨0, by decide⟩) :=
    ⟨hshape.layout_eq, hshape.entries_eq, hshape.bits_eq⟩
  obtain ⟨⟨loadSummary, hreload⟩, -⟩ :=
    run_load (hreachable.slotted.editedInPlace ⟨0, by decide⟩) hshape' htable'
  rw [Card.projects.run_result] at hreload
  exact ⟨fresh, swapSummary, loadSummary, hfresh, hswap, hreload,
    classify_firstStaged hshape hfit hok _, hdropped, hkept, fun frame =>
      swapFilter_eq_load hreachable hloaded (by decide : 0 < swapSlot) (fun v _ _ => hstep v) hswap
        hshape hfit hreload frame 0 (.bits 0)⟩

end Loader

end PacketSteering
