import Mathlib.Tactic.Common
import PacketSteering.Loader
import PacketSteering.Proofs.Configuration.Staging
import PacketSteering.Proofs.Loader.Load

/-!
# The phases of a replacement

A replacement makes its writes in six phases (`Loader.SwapPhases`): the table of the configuration
is written and made live, the staged rule is written to its slot, the table in which the two
physical slots have changed places is written and made live, and the slot with the old rule is
switched off.  Each phase keeps what the card has in use, which the properties of a replacement are
read off from.

At the end the replaced configuration has its table in the active bank, and its slots are in step,
that of the target and that of the swap slot whatever was in them (`SwapPhases.inStep_final`).
-/

namespace PacketSteering

/-- A slot in step does not see another one being switched off. -/
lemma CardState.InStep.off {state : CardState} {filter : Filter} (h : state.InStep filter)
    (hslot : filter.physicalSlot < filterCount) {other : ℕ} (hother : other < filterCount)
    (hne : filter.physicalSlot ≠ other) : (state.off other).InStep filter where
  isEnabled_eq := by rw [isEnabled_off_of_ne _ hother hslot hne, h.isEnabled_eq]
  holds := h.holds

namespace Loader

open Program CardState

variable {memory : Memory} {config : Configuration} {table : ColourTable} {state final : CardState}
  {target : Fin filterCount} {steps : List (WriteStep CardState)}

/-- The writes of a replacement, phase by phase, with the states that they leave. -/
structure SwapPhases (table : ColourTable) (config : Configuration) (target : Fin filterCount)
    (state final : CardState) (steps : List (WriteStep CardState)) where
  firstFills : List (WriteStep CardState)
  firstFlip : WriteStep CardState
  rewrites : List (WriteStep CardState)
  secondFills : List (WriteStep CardState)
  secondFlip : WriteStep CardState
  retirement : WriteStep CardState
  /-- The state once the staged rule is on the card. -/
  staged : CardState
  steps_eq : steps =
    firstFills ++ (firstFlip :: (rewrites ++ (secondFills ++ [secondFlip, retirement])))
  firstFills_leave : ∀ step ∈ firstFills, step.Leaves (state.Refilling state.activeBank.other)
  firstFlip_leaves : firstFlip.Leaves (· = state.published (table.fill config))
  rewrites_leave : ∀ step ∈ rewrites, step.Leaves ((state.published (table.fill config)).Updating
    (config.physical swapFin) (config.filters.get swapFin).rule.pattern)
  staged_updating : (state.published (table.fill config)).Updating
    (config.physical swapFin) (config.filters.get swapFin).rule.pattern staged
  staged_enabled : staged.isEnabled (config.physical swapFin) = true
  staged_holds : ∀ hslot : config.physical swapFin < filterCount,
    staged.slots[config.physical swapFin] = .ofPattern (config.filters.get swapFin).rule.pattern
  secondFills_leave : ∀ step ∈ secondFills, step.Leaves (staged.Refilling staged.activeBank.other)
  secondFlip_leaves :
    secondFlip.Leaves (· = staged.published (table.fill (config.swapPhysical swapFin target)))
  retirement_leaves : retirement.Leaves (· = final)
  final_eq : final = (staged.published (table.fill (config.swapPhysical swapFin target))).off
    (config.physical target)

/-- A replacement as two publications around the writing of the staged slot. -/
lemma performSwap_eq (table : ColourTable) (config : Configuration) (target : Fin filterCount) :
    let staging := config.physical swapFin
    let retired := config.physical target
    performSwap table config target = Channel.activeBank >>= fun _ =>
      publish (table.fill config) >>= fun _ =>
        rewrite staging (config.filters.get swapFin).rule.pattern >>= fun _ =>
          log .note s!"swap: staged {(config.filters.get swapFin).text}" >>= fun _ =>
            publish (table.fill (config.swapPhysical swapFin target)) >>= fun bank =>
              Channel.disable retired >>= fun _ =>
                log .note
                    s!"swap: filter {target.val} now on hw {staging}, hw {retired} retired" >>=
                  fun _ => pure ⟨1, 1, 0, filterCount - 2, bank⟩ := by
  have hretired : ((config.swapPhysical swapFin target).filters.get swapFin).physicalSlot =
      config.physical target := by
    rw [← Configuration.physical, Configuration.swapPhysical_physical, Equiv.swap_apply_left]
  simp only [performSwap, rewrite, LawfulMonad.bind_assoc, ColourTable.fill_fill, hretired]
  rfl

/-- The writes of a replacement fall into its phases. -/
theorem exists_swapPhases (h : config.Slotted) (hshape : state.Shaped config)
    (htable : ColourTable.forConfiguration memory config = .ok table) (target : Fin filterCount) :
    let program := performSwap table config target
    Nonempty (SwapPhases table config target state (program.run CardState.device state).state
      (program.writeSteps CardState.device state)) := by
  intro program
  obtain ⟨hfits, hsize⟩ := ColourTable.fill_fits hshape htable config
  obtain ⟨hfirst, fills, flip, hfirstSteps, hfills, hflip⟩ := state.run_publish hfits hsize
  obtain ⟨hupdating, hon, hheld, hrewrites⟩ := (state.published (table.fill config)).run_rewrite
    (h.physical_lt swapFin) (config.filters.get swapFin).rule.pattern
  generalize hstaged : ((rewrite (config.physical swapFin)
    (config.filters.get swapFin).rule.pattern).run CardState.device
      (state.published (table.fill config))).state = staged at hupdating hon hheld
  have hstagedShape : staged.Shaped config :=
    (hshape.published hfits).of_bank_eq hupdating.layout_eq hupdating.bank_eq
  obtain ⟨hfits', hsize'⟩ :=
    ColourTable.fill_fits hstagedShape htable (config.swapPhysical swapFin target)
  obtain ⟨hsecond, fills', flip', hsecondSteps, hfills', hflip'⟩ := staged.run_publish hfits' hsize'
  have hprogram : program = _ := performSwap_eq table config target
  rw [hprogram]
  simp only [run_bind_state, writeSteps_bind, run_activeBank_state, writeSteps_activeBank,
    hfirst, hfirstSteps, hstaged, run_log_state, writeSteps_log, hsecond, hsecondSteps, run_disable,
    writeSteps_disable, run_pure, writeSteps_pure, List.nil_append, List.append_nil]
  exact ⟨{
    firstFills := fills
    firstFlip := flip
    rewrites := _
    secondFills := fills'
    secondFlip := flip'
    retirement := _
    staged := staged
    steps_eq := by
      rw [List.append_assoc, List.append_assoc]
      rfl
    firstFills_leave := hfills
    firstFlip_leaves := hflip
    rewrites_leave := hrewrites
    staged_updating := hupdating
    staged_enabled := hon
    staged_holds := fun _ => hheld
    secondFills_leave := hfills'
    secondFlip_leaves := hflip'
    retirement_leaves := ⟨rfl, quiet_control _ _⟩
    final_eq := rfl }⟩

/-! ## At the end -/

lemma SwapPhases.shaped_final (phases : SwapPhases table config target state final steps)
    (hshape : state.Shaped config)
    (htable : ColourTable.forConfiguration memory config = .ok table) : final.Shaped config := by
  have hstaged : phases.staged.Shaped config :=
    (hshape.published_fill htable config).of_bank_eq phases.staged_updating.layout_eq
      phases.staged_updating.bank_eq
  have hfinal := (hstaged.published_fill htable (config.swapPhysical swapFin target)).of_bank_eq
    (layout_off _ (config.physical target)) (bank_off _ _)
  rwa [← phases.final_eq] at hfinal

lemma SwapPhases.live_final (phases : SwapPhases table config target state final steps)
    (h : config.Slotted) (htarget : target ≠ swapFin) :
    final.bank final.activeBank = table.fill (config.replaced target) := by
  rw [phases.final_eq, activeBank_off _ (h.physical_lt target), bank_off,
    bank_activeBank_published, ColourTable.fill_replaced h htarget]

/-- After a replacement a slot is in step with the replaced configuration.  Only a slot that the
replacement leaves alone has to have been in step before. -/
lemma SwapPhases.inStep_final (phases : SwapPhases table config target state final steps)
    (h : config.Slotted) (htarget : target ≠ swapFin) {v : Fin filterCount}
    (hstep : v ≠ target → v ≠ swapFin → state.InStep (config.filters.get v)) :
    final.InStep ((config.replaced target).filters.get v) := by
  have hretired := h.physical_lt target
  have hstaging := h.physical_lt swapFin
  rw [phases.final_eq, Configuration.replaced_filters config htarget]
  by_cases hswap : v = swapFin
  · -- The swap slot is now carried by the slot that was switched off.
    rw [if_pos hswap]
    exact inStep_of_disabled rfl (isEnabled_off_self _ hretired)
  rw [if_neg hswap]
  by_cases hv : v = target
  · -- The target is now carried by the slot with the staged rule.
    have hne : config.physical swapFin ≠ config.physical target := fun heq =>
      htarget (h.physical_injective heq).symm
    have hstaged : CardState.InStep
        (phases.staged.published (table.fill (config.swapPhysical swapFin target)))
        ⟨(config.filters.get target).virtualSlot, config.physical swapFin, true,
          (config.filters.get swapFin).rule⟩ := by
      refine inStep_of_enabled hstaging rfl ?_ ?_
      · exact (isEnabled_published _ _ hstaging).trans phases.staged_enabled
      · rw [slots_published]
        exact phases.staged_holds hstaging
    rw [if_pos hv]
    exact hstaged.off hstaging hretired hne
  · -- The other slots are as they were.
    have hneTarget : config.physical v ≠ config.physical target := fun heq =>
      hv (h.physical_injective heq)
    have hneSwap : config.physical v ≠ config.physical swapFin := fun heq =>
      hswap (h.physical_injective heq)
    rw [if_neg hv]
    have hslot := h.physical_lt v
    have hpublished := (hstep hv hswap).published hslot (table.fill config)
    have hstaged := hpublished.of_updating hslot hneSwap phases.staged_updating
    exact (hstaged.published hslot _).off hslot hretired hneTarget

/-- A card on which the other slots are in step steers after a replacement by the hits that the
replaced configuration asks for. -/
lemma SwapPhases.classify_final (phases : SwapPhases table config target state final steps)
    (h : config.Slotted) (hshape : state.Shaped config) (htarget : target ≠ swapFin)
    (htable : ColourTable.forConfiguration memory config = .ok table)
    (hstep : ∀ v, v ≠ target → v ≠ swapFin → state.InStep (config.filters.get v))
    (frame : Array UInt8) (interface : UInt8) (hlb : HlbOutcome) :
    final.classify frame interface hlb = (config.replaced target).colourFor interface hlb
      ((config.replaced target).virtualHits frame) := by
  have hreplaced := h.replaced htarget
  obtain ⟨hentries, hbits⟩ := ColourTable.forConfiguration_shape htable
  have hserves : final.Serves (config.replaced target) :=
    serves_of_fill hreplaced hentries hbits (phases.live_final h htarget)
  have hlayout := (phases.shaped_final hshape htable).layout_eq
  exact hserves.classify_of_inStep hreplaced hlayout
    (fun v => phases.inStep_final h htarget (hstep v)) frame interface hlb

/-! ## Calls -/

/-- A replacement of another slot than the swap slot succeeds on any device if its memory is
granted. -/
lemma swapFilter_succeeds {σ : Type} (device : Device σ) (start : σ)
    (htable : ColourTable.forConfiguration memory config = .ok table) {target : ℕ}
    (htarget : target < swapSlot) :
    ∃ summary, ((swapFilter memory config target).run device start).result.1 = .ok summary := by
  have hslot : target < filterCount := Nat.lt_succ_of_lt htarget
  simp only [swapFilter, if_neg (Nat.ne_of_lt htarget), dif_pos hslot, htable, run_bind_result,
    run_pure]
  exact ⟨_, rfl⟩

variable (memory) in
/-- A replacement is refused before the card is touched, or runs through all its phases. -/
theorem swapFilter_cases (h : config.Slotted) (hshape : state.Shaped config) (target : ℕ) :
    let program := swapFilter memory config target
    (∃ failure, (program.run CardState.device state).result.1 = .error failure ∧
        (program.run CardState.device state).state = state ∧
        program.writeSteps CardState.device state = []) ∨
      ∃ (htarget : target < filterCount) (table : ColourTable), target ≠ swapSlot ∧
        ColourTable.forConfiguration memory config = .ok table ∧
        (∃ summary, (program.run CardState.device state).result.1 = .ok summary) ∧
          Nonempty (SwapPhases table config ⟨target, htarget⟩ state
            (program.run CardState.device state).state
            (program.writeSteps CardState.device state)) := by
  intro program
  have hrefused (failure : Failure) (hprogram : program = pure (.error failure, config)) :
      ∃ failure, (program.run CardState.device state).result.1 = .error failure ∧
        (program.run CardState.device state).state = state ∧
          program.writeSteps CardState.device state = [] := by
    rw [hprogram]
    exact ⟨failure, rfl, rfl, rfl⟩
  by_cases hswap : target = swapSlot
  · exact Or.inl (hrefused _ (if_pos hswap))
  by_cases htarget : target < filterCount
  · cases htable : ColourTable.forConfiguration memory config with
    | error failure =>
      refine Or.inl (hrefused failure ?_)
      simp only [program, swapFilter, if_neg hswap, dif_pos htarget, htable]
    | ok table =>
      refine Or.inr ⟨htarget, table, hswap, rfl, ?_⟩
      simp only [program, swapFilter, if_neg hswap, dif_pos htarget, htable, run_bind_result,
        run_bind_state, writeSteps_bind, run_pure, writeSteps_pure, List.append_nil]
      exact ⟨⟨_, rfl⟩, exists_swapPhases h hshape htable ⟨target, htarget⟩⟩
  · refine Or.inl (hrefused (.fault (.filterSlot target)) ?_)
    simp only [program, swapFilter, if_neg hswap, dif_neg htarget]

/-- A card on which the other slots are in step steers after a replacement that succeeds by the hits
that the replaced configuration asks for. -/
lemma swapFilter_classify (h : config.Slotted) {card : Card} (hshape : card.state.Shaped config)
    {target : ℕ} (htarget : target < swapSlot)
    (hstep : ∀ v : Fin filterCount, v.val ≠ target → v ≠ swapFin →
      card.state.InStep (config.filters.get v))
    {summary : LoadSummary}
    (hok : ((swapFilter memory config target).run Card.device card).result.1 = .ok summary)
    (frame : Array UInt8) (interface : UInt8) (hlb : HlbOutcome) :
    let replaced := config.replaced ⟨target, Nat.lt_succ_of_lt htarget⟩
    ((swapFilter memory config target).run Card.device card).state.state.classify frame interface
      hlb = replaced.colourFor interface hlb (replaced.virtualHits frame) := by
  intro replaced
  have hne : (⟨target, Nat.lt_succ_of_lt htarget⟩ : Fin filterCount) ≠ swapFin := fun heq =>
    Nat.ne_of_lt htarget (congrArg Fin.val heq)
  rw [← Card.projects.run_result] at hok
  rw [← Card.projects.run_state]
  rcases swapFilter_cases memory h hshape target with
    ⟨failure, hresult, -, -⟩ | ⟨_, table, -, htable, -, ⟨phases⟩⟩
  · rw [hresult] at hok
    cases hok
  · refine phases.classify_final h hshape hne htable (fun v hv hw => ?_) frame interface hlb
    exact hstep v (fun heq => hv (Fin.ext heq)) hw

/-! ## A replacement to try things on -/

lemma exists_loaded_firstStaged :
    ∃ card summary, Card.forConfiguration .addressSpace .firstStaged = .ok card ∧
      card.state.Shaped .firstStaged ∧ card.state.TerminationsFit ∧
        ((load .addressSpace .firstStaged).run Card.device card).result = .ok summary := by
  obtain ⟨table, htable⟩ := ColourTable.exists_forConfiguration_firstFilter
  exact exists_loaded Configuration.reachable_firstStaged.slotted htable

/-- A card with the rule for all frames steers them to the stream. -/
lemma classify_firstStaged {card : Card} (hshape : card.state.Shaped .firstStaged)
    (hfit : card.state.TerminationsFit) {summary : LoadSummary}
    (hok : ((load .addressSpace .firstStaged).run Card.device card).result = .ok summary)
    (frame : Array UInt8) :
    ((load .addressSpace .firstStaged).run Card.device card).state.state.classify frame 0
      (.bits 0) = .stream 0 := by
  have hothers : ∀ v : Fin filterCount, v.val ≠ 0 →
      (Configuration.firstStaged.filters.get v).enabled = false := by
    decide
  have hfirst : Configuration.firstStaged.wants ⟨0, by decide⟩ frame = true :=
    Configuration.wants_of_any (by decide) (by decide) frame
  rw [load_classify Configuration.reachable_firstStaged.slotted hshape hfit hok,
    Configuration.virtualHits_of_first fun v hv =>
      Configuration.wants_of_disabled (hothers v hv) frame, if_pos hfirst]
  decide +kernel

/-- Once the staged rule has taken its place, frames of any other type than IPv4 are dropped. -/
lemma swapFilter_firstStaged {card : Card} (hshape : card.state.Shaped .firstStaged)
    (hstep : ∀ v : Fin filterCount,
      card.state.InStep (Configuration.firstStaged.filters.get v)) :
    let swap := (swapFilter .addressSpace .firstStaged 0).run Card.device card
    (∃ summary, swap.result.1 = .ok summary) ∧
      swap.state.state.classify (frameOfType 0x86 0xDD) 0 (.bits 0) = .drop ∧
        swap.state.state.classify (frameOfType 0x08 0x00) 0 (.bits 0) = .stream 0 := by
  obtain ⟨table, htable⟩ := ColourTable.exists_forConfiguration_firstFilter
  obtain ⟨summary, hswap⟩ := swapFilter_succeeds Card.device card
    (show ColourTable.forConfiguration .addressSpace .firstStaged = .ok table from htable)
    (by decide : 0 < swapSlot)
  have hothers : ∀ v : Fin filterCount, v.val ≠ 0 →
      ((Configuration.firstStaged.replaced ⟨0, by decide⟩).filters.get v).enabled = false := by
    decide
  have hsteers (frame : Array UInt8) := swapFilter_classify
    Configuration.reachable_firstStaged.slotted hshape (by decide : 0 < swapSlot)
    (fun v _ _ => hstep v) hswap frame 0 (.bits 0)
  refine ⟨⟨summary, hswap⟩, (hsteers _).trans ?_, (hsteers _).trans ?_⟩
  · rw [Configuration.virtualHits_of_first fun v hv =>
      Configuration.wants_of_disabled (hothers v hv) _, if_neg (by decide +kernel)]
    decide +kernel
  · rw [Configuration.virtualHits_of_first fun v hv =>
      Configuration.wants_of_disabled (hothers v hv) _, if_pos (by decide +kernel)]
    decide +kernel

end Loader

end PacketSteering
