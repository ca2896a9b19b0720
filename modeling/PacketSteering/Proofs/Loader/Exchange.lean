import Mathlib.Tactic.Common
import PacketSteering.Proofs.Configuration.SlotMap
import PacketSteering.Proofs.Loader.Swap

/-!
# What a replacement makes of a configuration

A replacement exchanges the physical slots of the target and the swap slot in its middle, and their
rules at its end.  Each exchange alone would move rules about on the card; together they leave every
physical slot with the rule that it had (`Configuration.Slotted.ruleAt?_replaced`), and the two
filters with each other's rule.

This does not depend on what the device answers, so that along any history of replacements no
physical slot is ever assigned another rule (`Loader.swapFilter_exchanges`).
-/

namespace PacketSteering

namespace Configuration

variable {config : Configuration} {target : Fin filterCount}

/-! ## Rules by physical slot -/

/-- The rule that is assigned to a physical slot, if a filter has that slot. -/
def ruleAt? (config : Configuration) (slot : ℕ) : Option Rule :=
  (config.filters.toList.find? fun filter => filter.physicalSlot == slot).map Filter.rule

/-- The rule of a physical slot is that of the filter which has the slot. -/
lemma Slotted.ruleAt?_eq_some_iff (h : config.Slotted) {slot : ℕ} {rule : Rule} :
    config.ruleAt? slot = some rule ↔
      ∃ v, config.physical v = slot ∧ (config.filters.get v).rule = rule := by
  rw [ruleAt?, Option.map_eq_some_iff]
  constructor
  · rintro ⟨filter, hfind, hrule⟩
    obtain ⟨v, rfl⟩ := mem_filters.mp (List.mem_of_find?_eq_some hfind)
    have hslot : (config.filters.get v).physicalSlot = slot := by
      simpa using List.find?_some hfind
    exact ⟨v, hslot, hrule⟩
  · rintro ⟨v, hslot, hrule⟩
    have hsome : (config.filters.toList.find? fun filter => filter.physicalSlot == slot).isSome :=
      List.find?_isSome.mpr ⟨_, mem_filters.mpr ⟨v, rfl⟩, beq_iff_eq.mpr hslot⟩
    obtain ⟨found, hfind⟩ := Option.isSome_iff_exists.mp hsome
    obtain ⟨w, rfl⟩ := mem_filters.mp (List.mem_of_find?_eq_some hfind)
    have hsame : (config.filters.get w).physicalSlot = slot := by
      simpa using List.find?_some hfind
    rw [h.physical_injective (Eq.trans hsame hslot.symm)] at hfind
    exact ⟨_, hfind, hrule⟩

lemma Slotted.exists_ruleAt? (h : config.Slotted) {slot : ℕ} (hslot : slot < filterCount) :
    ∃ rule, config.ruleAt? slot = some rule := by
  obtain ⟨v, hv⟩ := h.exists_physical hslot
  exact ⟨_, h.ruleAt?_eq_some_iff.mpr ⟨v, hv, rfl⟩⟩

/-! ## One replacement -/

lemma replaced_rule (config : Configuration) (htarget : target ≠ swapFin) (v : Fin filterCount) :
    ((config.replaced target).filters.get v).rule =
      (config.filters.get (Equiv.swap swapFin target v)).rule := by
  rw [replaced_filters config htarget, Equiv.swap_apply_def]
  by_cases hswap : v = swapFin
  · simp [hswap]
  · by_cases hv : v = target
    · simp [hv, htarget]
    · simp [hswap, hv]

/-- A filter gets the slot and the rule of the same other filter, so each slot keeps its rule. -/
lemma Slotted.ruleAt?_replaced (h : config.Slotted) (htarget : target ≠ swapFin) (slot : ℕ) :
    (config.replaced target).ruleAt? slot = config.ruleAt? slot := by
  apply Option.ext
  intro rule
  rw [(h.replaced htarget).ruleAt?_eq_some_iff, h.ruleAt?_eq_some_iff]
  simp only [replaced_physical config htarget, replaced_rule config htarget]
  exact (Equiv.swap swapFin target).exists_congr_left.trans (by simp)

/-- Replacing twice gives every filter its physical slot and its rule back. -/
lemma replaced_replaced (config : Configuration) (htarget : target ≠ swapFin)
    (v : Fin filterCount) :
    (((config.replaced target).replaced target).filters.get v).rule = (config.filters.get v).rule ∧
      ((config.replaced target).replaced target).physical v = config.physical v := by
  constructor
  · rw [replaced_rule _ htarget, replaced_rule _ htarget, Equiv.swap_apply_self]
  · rw [replaced_physical _ htarget, replaced_physical _ htarget, Equiv.swap_apply_self]

end Configuration

namespace Loader

open Program

variable {σ : Type} {device : Device σ} {start : σ} {memory : Memory} {config : Configuration}

lemma swapFilter_replaced {target : ℕ} (htarget : target < swapSlot) {summary : LoadSummary}
    {after : Configuration}
    (hok : ((swapFilter memory config target).run device start).result = (.ok summary, after)) :
    (⟨target, Nat.lt_succ_of_lt htarget⟩ : Fin filterCount) ≠ swapFin ∧
      after = config.replaced ⟨target, Nat.lt_succ_of_lt htarget⟩ := by
  rcases Configuration.swapFilter_result device start memory config target with
    ⟨failure, hresult⟩ | ⟨_, hne, _, hresult⟩
  · rw [hresult] at hok
    cases hok
  · rw [hresult] at hok
    exact ⟨hne, (congrArg Prod.snd hok).symm⟩

lemma exists_swapFilter (h : config.Slotted) (memory : Memory)
    (hgrants : memory.grants (2 * rowCount config.layout.entries config.entryBits) = true)
    (device : Device σ) (start : σ) {target : ℕ} (htarget : target < swapSlot) :
    ∃ summary after,
      ((swapFilter memory config target).run device start).result = (.ok summary, after) := by
  obtain ⟨table, htable⟩ := ColourTable.exists_forConfiguration h hgrants
  obtain ⟨summary, hok⟩ := swapFilter_succeeds device start htable htarget
  exact ⟨summary, _, Prod.ext hok rfl⟩

/-! ## Many replacements -/

/-- Replacements of one slot after another, each with the memory that it may ask for.  One that is
refused is passed over. -/
def swapFilters (config : Configuration) (requests : List (Memory × ℕ)) : Program Configuration :=
  fold (fun config request => do
    let outcome ← swapFilter request.1 config request.2
    return outcome.2) config requests

/-- No replacement assigns another rule to a physical slot, refused or not. -/
lemma ruleAt?_swapFilter (h : config.Reachable) (device : Device σ) (start : σ) (memory : Memory)
    (target slot : ℕ) :
    ((swapFilter memory config target).run device start).result.2.ruleAt? slot =
      config.ruleAt? slot := by
  rcases Configuration.swapFilter_configuration device start memory config target with
    heq | ⟨_, hne, heq⟩
  · rw [heq]
  · rw [heq]
    exact h.slotted.ruleAt?_replaced hne slot

/-- No number of replacements assigns another rule to a physical slot. -/
lemma ruleAt?_swapFilters (h : config.Reachable) (device : Device σ) (start : σ)
    (requests : List (Memory × ℕ)) (slot : ℕ) :
    ((swapFilters config requests).run device start).result.ruleAt? slot =
      config.ruleAt? slot := by
  induction requests generalizing config start with
  | nil => rfl
  | cons request rest ih =>
    have hfold : swapFilters config (request :: rest) =
      (swapFilter request.1 config request.2 >>= fun outcome => pure outcome.2) >>=
        fun config => swapFilters config rest := rfl
    rw [hfold, run_bind_result, run_bind_result, run_pure]
    rw [ih (h.swap device start request.1 request.2)]
    exact ruleAt?_swapFilter h device start request.1 request.2 slot

/-- **A replacement exchanges two filters and moves no rule on the card.** Whatever the device
answers, a replacement that succeeds leaves the target on with the staged rule in the physical slot
of the swap slot, the swap slot off with the old rule in the physical slot of the target, and
everything else as it was; so every physical slot of the card is assigned the rule that it was
assigned before.  A second replacement of the same target gives every filter its rule and its
physical slot back, and no sequence of replacements assigns another rule to a physical slot. -/
theorem swapFilter_exchanges (h : config.Reachable) {σ : Type} (device : Device σ) (start : σ) :
    (∀ (memory : Memory) (target : ℕ) (htarget : target < swapSlot) (summary : LoadSummary)
        (after : Configuration),
      ((swapFilter memory config target).run device start).result = (.ok summary, after) →
        let slot : Fin filterCount := ⟨target, Nat.lt_succ_of_lt htarget⟩
        let atTarget := config.filters.get slot
        let atSwap := config.filters.get swapFin
        after.filters.get slot =
            ⟨atTarget.virtualSlot, atSwap.physicalSlot, true, atSwap.rule⟩ ∧
          after.filters.get swapFin =
            ⟨atSwap.virtualSlot, atTarget.physicalSlot, false, atTarget.rule⟩ ∧
          (∀ v, v ≠ slot → v ≠ swapFin → after.filters.get v = config.filters.get v) ∧
          after.partials = config.partials ∧ after.streams = config.streams ∧
          after.layout = config.layout ∧
          (∀ phys < filterCount, ∃ rule, config.ruleAt? phys = some rule ∧
            after.ruleAt? phys = some rule) ∧
          ∀ (τ : Type) (device' : Device τ) (start' : τ) (memory' : Memory)
            (summary' : LoadSummary) (again : Configuration),
            ((swapFilter memory' after target).run device' start').result =
                (.ok summary', again) →
              ∀ v, (again.filters.get v).rule = (config.filters.get v).rule ∧
                (again.filters.get v).physicalSlot = (config.filters.get v).physicalSlot) ∧
      ∀ (requests : List (Memory × ℕ)) (phys : ℕ),
        ((swapFilters config requests).run device start).result.ruleAt? phys =
          config.ruleAt? phys := by
  have hslotted := h.slotted
  refine ⟨?_, ruleAt?_swapFilters h device start⟩
  intro memory target htarget summary after hok slot atTarget atSwap
  obtain ⟨hne, rfl⟩ := swapFilter_replaced htarget hok
  have hfilters := config.replaced_filters hne
  refine ⟨?_, ?_, ?_, rfl, rfl, rfl, ?_, ?_⟩
  · rw [hfilters, if_neg hne, if_pos rfl]
    rfl
  · rw [hfilters, if_pos rfl]
    rfl
  · intro v hv hswap
    rw [hfilters, if_neg hswap, if_neg hv]
  · intro phys hphys
    obtain ⟨rule, hrule⟩ := hslotted.exists_ruleAt? hphys
    exact ⟨rule, hrule, (hslotted.ruleAt?_replaced hne phys).trans hrule⟩
  · intro τ device' start' memory' summary' again hagain v
    obtain ⟨-, rfl⟩ := swapFilter_replaced htarget hagain
    exact config.replaced_replaced hne v

/-- The staged rule takes the place of the first filter's, on a device that answers nothing but
zeros; then the first filter gets its rule back. -/
theorem swapFilter_exchanges_firstFilter :
    ∃ (after again : Configuration) (summary summary' : LoadSummary) (first : Fin filterCount),
      first.val = 0 ∧
      ((swapFilter .addressSpace .firstStaged 0).run Device.silent ()).result =
        (.ok summary, after) ∧
      ((swapFilter .addressSpace after 0).run Device.silent ()).result = (.ok summary', again) ∧
      (after.filters.get first).physicalSlot = 7 ∧
      (after.filters.get first).rule.termination = 3 ∧
      (after.filters.get swapFin).physicalSlot = 0 ∧
      (after.ruleAt? 7).map Rule.termination = some 3 ∧
      (again.filters.get first).physicalSlot = 0 ∧
      (again.filters.get first).rule = (Configuration.firstStaged.filters.get first).rule := by
  have hstaged := Configuration.reachable_firstStaged
  obtain ⟨summary, after, hafter⟩ :=
    exists_swapFilter hstaged.slotted .addressSpace (by decide +kernel) Device.silent ()
      (by decide : 0 < swapSlot)
  obtain ⟨hswap, -⟩ := swapFilter_exchanges hstaged Device.silent ()
  obtain ⟨hfirst, hlast, -, -, hstreams, hlayout, hrules, hback⟩ :=
    hswap .addressSpace 0 (by decide) summary after hafter
  have hreachable : after.Reachable := by
    have hreached := hstaged.swap Device.silent () .addressSpace 0
    rwa [hafter] at hreached
  obtain ⟨summary', again, hagain⟩ :=
    exists_swapFilter hreachable.slotted .addressSpace
      (by rw [Configuration.entryBits, hlayout, hstreams]; decide +kernel) Device.silent ()
      (by decide : 0 < swapSlot)
  obtain ⟨hrule, hslot⟩ :=
    hback Unit Device.silent () .addressSpace summary' again hagain ⟨0, by decide⟩
  obtain ⟨rule, hbefore, hnow⟩ := hrules 7 (by decide)
  have hheld : Configuration.firstStaged.ruleAt? 7 =
      some (Configuration.firstStaged.filters.get swapFin).rule :=
    hstaged.slotted.ruleAt?_eq_some_iff.mpr ⟨swapFin, by decide, rfl⟩
  refine ⟨after, again, summary, summary', ⟨0, by decide⟩, rfl, hafter, hagain, ?_, ?_, ?_, ?_, ?_,
    hrule⟩
  · rw [hfirst]
    decide
  · rw [hfirst]
    decide
  · rw [hlast]
    decide
  · rw [hnow, ← hbefore, hheld]
    decide
  · exact hslot.trans (by decide)

end Loader

end PacketSteering
