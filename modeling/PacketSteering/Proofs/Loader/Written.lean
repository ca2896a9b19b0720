import PacketSteering.Loader
import PacketSteering.Proofs.Card.Events
import PacketSteering.Proofs.Loader.Load

/-!
# What a loader writes to slots

A card can hold anything in a slot, and not only the pattern of a rule.  But whatever a load or a
replacement writes to a slot leaves the pattern of a rule there, and the slots that it does not
write to keep what they held (`Program.WritesRules`).  This is so on every card, also on one that
does not belong to the configuration.

Programs that write rules follow one after the other (`Program.WritesRules.bind`), so that a load is
judged step by step: writing a pattern writes a rule, and every other step of the channel writes no
filter data at all.
-/

namespace PacketSteering

open Register

/-- A slot that holds the pattern of a rule. -/
def CardSlot.Programmed (held : CardSlot) : Prop :=
  ∃ rule : Rule, held = .ofPattern rule.pattern

/-! ## Writes elsewhere -/

namespace CardState

variable {state : CardState}

/-- A slot is written to only by filter data. -/
lemma write_of_ne_filterData {offset : UInt32} (h : offset ≠ filterData) (value : UInt32) :
    (state.write offset value).1.slots = state.slots ∧
      ∀ slot live, Event.filterWrite slot live ∉ (state.write offset value).2 := by
  unfold write
  split_ifs
  · exact ⟨rfl, fun _ _ => List.not_mem_nil⟩
  · unfold writeColour
    dsimp only
    split_ifs
    · exact ⟨rfl, fun _ _ => List.not_mem_nil⟩
    · refine ⟨?_, by simp⟩
      rw [setRow_eq_putBank, slots_putBank]
    · exact ⟨rfl, fun _ _ => List.not_mem_nil⟩
  · refine ⟨rfl, fun slot live hevent => ?_⟩
    simp only [writeControl, List.mem_append, List.mem_filterMap] at hevent
    rcases hevent with ⟨other, -, hother⟩ | hflip
    · split_ifs at hother <;> cases hother
    · split_ifs at hflip
      · cases hflip
      · cases List.mem_singleton.mp hflip
  · exact ⟨rfl, fun _ _ => List.not_mem_nil⟩

end CardState

/-! ## Programs that write rules -/

namespace Program

open CardState

variable {α β γ : Type}

/-- A slot is written to in a run, as the events of its writes tell. -/
def WritesTo (program : Program α) (state : CardState) (slot : ℕ) : Prop :=
  ∃ live, Event.filterWrite slot live ∈
    (program.writeSteps device state).flatMap WriteStep.events

/-- A program leaves the pattern of a rule in every slot that it writes to, and leaves the other
slots as they are. -/
def WritesRules (program : Program α) : Prop :=
  ∀ (state : CardState) (slot : Fin filterCount),
    ((program.run device state).state.slots.get slot).Programmed ∨
      (program.run device state).state.slots.get slot = state.slots.get slot ∧
        ¬ program.WritesTo state slot

lemma WritesRules.bind {program : Program α} {following : α → Program β} (h : program.WritesRules)
    (hfollowing : ∀ result, (following result).WritesRules) :
    (program >>= following).WritesRules := by
  intro state slot
  rw [run_bind_state]
  rcases hfollowing _ _ slot with hheld | ⟨hlater, hspared⟩
  · exact Or.inl hheld
  rcases h state slot with hheld | ⟨hsame, hunwritten⟩
  · exact Or.inl (hlater ▸ hheld)
  · refine Or.inr ⟨hlater.trans hsame, fun ⟨live, hevent⟩ => ?_⟩
    rw [writeSteps_bind, List.flatMap_append] at hevent
    rcases List.mem_append.mp hevent with hevent | hevent
    · exact hunwritten ⟨live, hevent⟩
    · exact hspared ⟨live, hevent⟩

/-- The slots are left as they are where no filter data is written. -/
lemma slots_run_of_offset (program : Program α) (state : CardState)
    (h : ∀ step ∈ program.writeSteps device state, step.offset ≠ filterData) :
    (program.run device state).state.slots = state.slots := by
  induction program generalizing state with
  | done result => rfl
  | read offset next ih => exact ih _ _ h
  | write offset value next ih =>
    rw [run_write, ih _ fun step hstep => h step (List.mem_cons_of_mem _ hstep)]
    exact (write_of_ne_filterData (h ⟨state, offset, value⟩ List.mem_cons_self) value).1
  | note message next ih =>
    rw [run_note]
    exact ih state h

lemma writesRules_of_offset {program : Program α}
    (h : ∀ state, ∀ step ∈ program.writeSteps device state, step.offset ≠ filterData) :
    program.WritesRules := by
  intro state slot
  refine Or.inr ⟨by rw [slots_run_of_offset program state (h state)], fun ⟨live, hevent⟩ => ?_⟩
  obtain ⟨step, hstep, hevent⟩ := List.mem_flatMap.mp hevent
  exact (write_of_ne_filterData (h state step hstep) step.value).2 slot live hevent

lemma writesRules_pure (result : α) : (pure result : Program α).WritesRules :=
  writesRules_of_offset fun _ _ hstep => absurd hstep List.not_mem_nil

lemma writesRules_log (level : Log.Level) (text : String) : (log level text).WritesRules :=
  writesRules_of_offset fun _ _ hstep => absurd hstep List.not_mem_nil

lemma writesRules_fold {step : γ → β → Program γ} {xs : List β}
    (h : ∀ acc, ∀ x ∈ xs, (step acc x).WritesRules) (acc : γ) :
    (fold step acc xs).WritesRules := by
  induction xs generalizing acc with
  | nil => exact writesRules_pure acc
  | cons x rest ih =>
    exact (h acc x List.mem_cons_self).bind
      (ih fun acc y hy => h acc y (List.mem_cons_of_mem _ hy))

lemma writesRules_forEach {step : β → Program Unit} (h : ∀ x, (step x).WritesRules)
    (xs : List β) : (forEach step xs).WritesRules := by
  induction xs with
  | nil => exact writesRules_pure ()
  | cons x rest ih => exact (h x).bind fun _ => ih

end Program

/-! ## The channel -/

namespace Channel

open Program

lemma writesRules_readControl : readControl.WritesRules :=
  writesRules_of_offset fun _ _ hstep => absurd hstep List.not_mem_nil

lemma writesRules_writeSettled {offset : UInt32} (h : offset ≠ filterData) (value : UInt32) :
    (writeSettled offset value).WritesRules := by
  refine writesRules_of_offset fun state step hstep => ?_
  rw [CardState.writeSteps_writeSettled] at hstep
  rwa [List.mem_singleton.mp hstep]

lemma writesRules_activeBank : activeBank.WritesRules :=
  writesRules_readControl.bind fun _ => writesRules_pure _

lemma writesRules_enable (slot : ℕ) : (enable slot).WritesRules :=
  writesRules_readControl.bind fun _ => writesRules_writeSettled (by decide) _

lemma writesRules_disable (slot : ℕ) : (disable slot).WritesRules :=
  writesRules_readControl.bind fun _ => writesRules_writeSettled (by decide) _

lemma writesRules_setActiveBank (bank : Bank) : (setActiveBank bank).WritesRules :=
  writesRules_readControl.bind fun _ => writesRules_writeSettled (by decide) _

lemma writesRules_readFilter (slot : ℕ) : (readFilter slot).WritesRules := by
  refine writesRules_of_offset fun state step hstep => ?_
  rw [state.offset_readFilter slot step hstep]
  decide

lemma writesRules_writeTable (bank : Bank) (table : ColourTable) :
    (writeTable bank table).WritesRules :=
  writesRules_forEach (fun _ => writesRules_writeSettled (by decide) _) _

/-- Writing the pattern of a rule to a slot writes to no other. -/
lemma writesRules_writeFilter {slot : ℕ} (hslot : slot < filterCount) (rule : Rule) :
    (writeFilter slot rule.pattern).WritesRules := by
  intro state other
  obtain ⟨⟨address, hfinal⟩, hsteps, -⟩ := state.run_writeFilter hslot rule.pattern
  have hheld := state.getElem_putSlot slot (.ofPattern rule.pattern) other.isLt
  rw [hfinal]
  by_cases heq : slot = other
  · exact Or.inl ⟨rule, hheld.trans (if_pos heq)⟩
  · refine Or.inr ⟨hheld.trans (if_neg heq), fun ⟨live, hevent⟩ => heq ?_⟩
    obtain ⟨step, hstep, hevent⟩ := List.mem_flatMap.mp hevent
    have hwrite := (hsteps step hstep).2 _ hevent
    exact (Event.filterWrite.inj hwrite).1.symm

end Channel

/-! ## The loader -/

namespace Loader

open Program Channel

variable {config : Configuration}

/-- Switching a slot off, writing the pattern of a rule to it and switching it on writes a rule. -/
lemma writesRules_rewrite {slot : ℕ} (hslot : slot < filterCount) (rule : Rule) :
    (CardState.rewrite slot rule.pattern).WritesRules :=
  (writesRules_disable _).bind fun _ => (writesRules_writeFilter hslot rule).bind fun _ =>
    writesRules_enable _

lemma writesRules_syncFilter (summary : LoadSummary) {filter : Filter}
    (hslot : filter.physicalSlot < filterCount) : (syncFilter summary filter).WritesRules := by
  intro state slot
  obtain ⟨result, log, done, way, hrun, hsteps⟩ := state.syncFilter_way summary hslot
  have hdone : done.WritesRules := by
    cases way with
    | idle _ _ => exact writesRules_pure _
    | disabled _ _ => exact writesRules_disable _
    | untouched _ _ _ => exact (writesRules_readFilter _).bind fun _ => writesRules_pure _
    | enabled _ _ _ => exact (writesRules_readFilter _).bind fun _ => writesRules_enable _
    | rewritten _ _ =>
      exact (writesRules_readFilter _).bind fun _ => writesRules_rewrite hslot filter.rule
  rw [WritesTo, hrun, hsteps]
  exact hdone state slot

lemma writesRules_publish (table : ColourTable) : (publish table).WritesRules :=
  writesRules_activeBank.bind fun _ => (writesRules_writeTable _ _).bind fun _ =>
    (writesRules_setActiveBank _).bind fun _ => (writesRules_log _ _).bind fun _ =>
      writesRules_pure _

theorem writesRules_load (memory : Memory) (h : config.Slotted) :
    (load memory config).WritesRules := by
  have hslots : ∀ filter ∈ config.filters.toList, filter.physicalSlot < filterCount :=
    h.placed.slot_lt
  unfold load
  split
  case h_1 => exact writesRules_pure _
  case h_2 =>
    exact writesRules_activeBank.bind fun active =>
      (writesRules_fold (fun summary filter hfilter =>
        writesRules_syncFilter summary (hslots filter hfilter)) _).bind fun _ =>
          (writesRules_publish _).bind fun _ => writesRules_pure _

lemma writesRules_performSwap (table : ColourTable) (h : config.Slotted)
    (target : Fin filterCount) : (performSwap table config target).WritesRules :=
  writesRules_activeBank.bind fun _ => (writesRules_publish _).bind fun _ =>
    (writesRules_disable _).bind fun _ =>
      (writesRules_writeFilter (h.physical_lt swapFin) _).bind fun _ =>
        (writesRules_enable _).bind fun _ => (writesRules_log _ _).bind fun _ =>
          (writesRules_publish _).bind fun _ => (writesRules_disable _).bind fun _ =>
            (writesRules_log _ _).bind fun _ => writesRules_pure _

theorem writesRules_swapFilter (memory : Memory) (h : config.Slotted) (target : ℕ) :
    (swapFilter memory config target).WritesRules := by
  unfold swapFilter
  split
  case isTrue => exact writesRules_pure _
  case isFalse =>
    split
    case isFalse => exact writesRules_pure _
    case isTrue =>
      split
      case h_1 => exact writesRules_pure _
      case h_2 => exact (writesRules_performSwap _ h _).bind fun _ => writesRules_pure _

end Loader

end PacketSteering
