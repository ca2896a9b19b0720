import Mathlib.Tactic.Common
import PacketSteering.Proofs.Configuration.Steering

/-!
# The slot map of a configuration

Which filter sits in which slot of the card is kept twice: every filter knows its physical slot,
and the slot map lists the virtual slot of each physical one.  As long as the slots are in order
both say the same permutation of the slots.  The map gives the filter of a physical slot
(`Slotted.virtual?_eq_iff`) and finds the slot of a filter (`Slotted.physical?_slotMap`), hits are
renumbered bit by bit and none of them is merged with another or lost
(`Slotted.toVirtual_injective`, `Slotted.toVirtual_surjective`), and an exchange of two physical
slots can be made on the filters or on the map (`Slotted.slotMap_swapPhysical`).

Since the slots stay in order along every history, so does all of this (`slots_permuted`).
-/

namespace PacketSteering.Configuration

variable {config : Configuration}

/-! ## Filters in order -/

lemma Slotted.map_virtualSlot (h : config.Slotted) :
    config.filters.toList.map Filter.virtualSlot = List.range filterCount := by
  apply List.ext_getElem
  · simp
  · intro v hv _
    have hslot : v < filterCount := by simpa using hv
    rw [List.getElem_map, List.getElem_range]
    exact h.virtual_eq ⟨v, hslot⟩

/-- The filters share the physical slots of the card out among them. -/
lemma Slotted.map_physicalSlot_perm (h : config.Slotted) :
    (config.filters.toList.map Filter.physicalSlot).Perm (List.range filterCount) := by
  rw [List.perm_ext_iff_of_nodup h.nodup_physical List.nodup_range]
  intro slot
  rw [List.mem_map, List.mem_range]
  constructor
  · rintro ⟨filter, hmem, rfl⟩
    obtain ⟨v, rfl⟩ := mem_filters.mp hmem
    exact h.physical_lt v
  · intro hslot
    obtain ⟨v, hv⟩ := h.exists_physical hslot
    exact ⟨config.filters.get v, mem_filters.mpr ⟨v, rfl⟩, hv⟩

/-! ## The two directions of the map -/

/-- The map gives, for a physical slot of the card, the one filter that it carries. -/
lemma Slotted.virtual?_eq_iff (h : config.Slotted) {slot : ℕ} (v : Fin filterCount) :
    config.slotMap.virtual? slot = some v.val ↔ config.physical v = slot := by
  constructor
  · intro hmap
    obtain ⟨hslot, -⟩ := Vector.getElem?_eq_some_iff.mp hmap
    obtain ⟨w, rfl⟩ := h.exists_physical hslot
    rw [h.virtual?_physical w, Option.some.injEq] at hmap
    rw [Fin.ext hmap]
  · rintro rfl
    exact h.virtual?_physical v

lemma Slotted.physical?_slotMap (h : config.Slotted) (v : Fin filterCount) :
    config.slotMap.physical? v = some ⟨config.physical v, h.physical_lt v⟩ := by
  rw [SlotMap.physical?, Vector.finIdxOf?, Option.map_eq_some_iff]
  refine ⟨⟨config.physical v, by simpa using h.physical_lt v⟩,
    Array.finIdxOf?_eq_some_iff.mpr
      ⟨h.getElem_virt (h.physical_lt v) rfl, fun slot hlt hslot => ?_⟩, rfl⟩
  have hslotLt : slot.val < filterCount := by simpa using slot.isLt
  have hmap : config.slotMap.virtual? slot = some v.val := by
    rw [SlotMap.virtual?, Vector.getElem?_eq_getElem hslotLt]
    exact congrArg some hslot
  exact Nat.ne_of_lt hlt ((h.virtual?_eq_iff v).mp hmap).symm

/-! ## Renumbering hits -/

lemma Slotted.toVirtual_injective (h : config.Slotted) :
    Function.Injective config.slotMap.toVirtual := by
  intro hits hits' heq
  apply BitField.eq_of_testBit
  intro slot hslot
  obtain ⟨v, rfl⟩ := h.exists_physical hslot
  rw [← h.testBit_toVirtual, ← h.testBit_toVirtual, heq]

/-- Every set of virtual slots is hit by the physical slots that carry them. -/
lemma Slotted.toVirtual_surjective (h : config.Slotted) :
    Function.Surjective config.slotMap.toVirtual := by
  intro hits
  let carried (slot : ℕ) : Bool := (config.slotMap.virtual? slot).any hits.toNat.testBit
  refine ⟨BitField.byte carried, BitField.eq_of_testBit fun v hv => ?_⟩
  have hslot : config.physical ⟨v, hv⟩ < 8 := h.physical_lt ⟨v, hv⟩
  have hcarried : carried (config.physical ⟨v, hv⟩) = hits.toNat.testBit v := by
    simp only [carried, h.virtual?_physical, Option.any_some]
  rw [h.testBit_toVirtual _ ⟨v, hv⟩, BitField.testBit_byte, hcarried, decide_eq_true hslot,
    Bool.true_and]

/-! ## Exchanges -/

lemma Slotted.slotMap_swapPhysical (h : config.Slotted) (a b : Fin filterCount) :
    (config.swapPhysical a b).slotMap = config.slotMap.exchange a b := by
  have hexchanged := h.swapPhysical a b
  have hvirt : (config.swapPhysical a b).slotMap.virt =
      config.slotMap.virt.swap (config.physical a) (config.physical b) (h.physical_lt a)
        (h.physical_lt b) := by
    apply Vector.ext
    intro slot hslot
    -- The slot that carried `v` carries the filter that `v` has changed places with.
    obtain ⟨v, rfl⟩ := h.exists_physical hslot
    have hback : (config.swapPhysical a b).physical (Equiv.swap a b v) = config.physical v := by
      rw [swapPhysical_physical, Equiv.swap_apply_self]
    rw [hexchanged.getElem_virt hslot hback, Vector.getElem_swap, Equiv.swap_apply_def,
      h.getElem_virt (h.physical_lt a) rfl, h.getElem_virt (h.physical_lt b) rfl,
      h.getElem_virt hslot rfl]
    simp only [h.physical_injective.eq_iff]
    split
    case isTrue => rfl
    case isFalse => split <;> rfl
  rw [SlotMap.exchange, h.physical?_slotMap, h.physical?_slotMap]
  exact congrArg SlotMap.mk hvirt

/-! ## Reachable configurations -/

/-- **The slots stay a permutation.** For every configuration that edits and replacements lead to,
refused ones included, the filters are listed by virtual slot and share the physical slots out
among them, the slot map gives the one filter of each physical slot, hits are renumbered bit by bit
and without loss, and an exchange of physical slots is an exchange in the slot map. -/
theorem slots_permuted (h : config.Reachable) :
    config.filters.toList.map Filter.virtualSlot = List.range filterCount ∧
      (config.filters.toList.map Filter.physicalSlot).Perm (List.range filterCount) ∧
      (∀ slot < filterCount, ∃ v : Fin filterCount, config.slotMap.virtual? slot = some v.val ∧
        ∀ w : Fin filterCount, (config.filters.get w).physicalSlot = slot ↔ w = v) ∧
      (∀ (hits : UInt8) (v : Fin filterCount),
        (config.slotMap.toVirtual hits).toNat.testBit v =
          hits.toNat.testBit (config.filters.get v).physicalSlot) ∧
      Function.Bijective config.slotMap.toVirtual ∧
      ∀ a b : Fin filterCount,
        (config.swapPhysical a b).slotMap = config.slotMap.exchange a b := by
  have hslotted := h.slotted
  refine ⟨hslotted.map_virtualSlot, hslotted.map_physicalSlot_perm, fun slot hslot => ?_,
    hslotted.testBit_toVirtual, ⟨hslotted.toVirtual_injective, hslotted.toVirtual_surjective⟩,
    hslotted.slotMap_swapPhysical⟩
  obtain ⟨v, hv⟩ := hslotted.exists_physical hslot
  refine ⟨v, (hslotted.virtual?_eq_iff v).mpr hv, fun w => ?_⟩
  rw [← hv]
  exact hslotted.physical_injective.eq_iff

/-- A replacement that is granted its memory leads on to the replaced configuration. -/
lemma Reachable.replaced (h : config.Reachable) {memory : Memory} {table : ColourTable}
    (htable : ColourTable.forConfiguration memory config = .ok table) {target : Fin filterCount}
    (htarget : target ≠ swapFin) : (config.replaced target).Reachable := by
  have hne : target.val ≠ swapSlot := fun heq => htarget (Fin.ext heq)
  have hswap := h.swap .silent () memory target
  simpa only [Loader.swapFilter, if_neg hne, dif_pos target.isLt, htable,
    Program.run_bind_result, Program.run_pure] using hswap

/-- The third filter. -/
def thirdFin : Fin filterCount := ⟨2, by decide⟩

/-- After the rule of the third filter has been replaced, the last slot of the card carries it, and
it can still change places with the first. -/
theorem slots_permuted_replaced :
    ∃ (config : Configuration) (first third : Fin filterCount), first.val = 0 ∧ third.val = 2 ∧
      config.Reachable ∧ (config.filters.get third).physicalSlot = 7 ∧
        config.slotMap.virtual? 7 = some 2 ∧
          (config.swapPhysical first third).slotMap = config.slotMap.exchange 0 2 := by
  obtain ⟨table, htable⟩ := ColourTable.exists_forConfiguration_firstFilter
  have hreachable : (firstFilter.replaced thirdFin).Reachable :=
    reachable_firstFilter.replaced htable (by decide)
  have hslot : ((firstFilter.replaced thirdFin).filters.get thirdFin).physicalSlot = 7 := by decide
  obtain ⟨-, -, hmap, -, -, hexchange⟩ := slots_permuted hreachable
  obtain ⟨v, hv, hunique⟩ := hmap 7 (by decide)
  refine ⟨firstFilter.replaced thirdFin, ⟨0, by decide⟩, thirdFin, rfl, rfl, hreachable, hslot, ?_,
    hexchange ⟨0, by decide⟩ thirdFin⟩
  rw [hv, ← (hunique thirdFin).mp hslot]
  rfl

end PacketSteering.Configuration
