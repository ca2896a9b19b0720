import PacketSteering.Proofs.Card.Events
import PacketSteering.Proofs.Loader.Load

/-!
# Loading a card that is in step

A slot that is in step with its filter is read back, if at all, and left as it is.  So a load of a
card whose slots are all in step writes nothing but addresses until it publishes the table: its
summary counts every slot as untouched (`Loader.run_load_of_inStep`), and its events are those of
the publication (`Loader.events_load_of_inStep`).
-/

namespace PacketSteering

open Program Channel

namespace CardState

/-- Which address is latched does not matter to a slot in step. -/
lemma InStep.addressing {state now : CardState} {filter : Filter} (h : state.InStep filter)
    (hnow : state.Addressing now) : now.InStep filter := by
  obtain ⟨address, rfl⟩ := hnow
  exact ⟨h.isEnabled_eq, h.holds⟩

lemma Addressing.trans {state now later : CardState} (h : state.Addressing now)
    (hlater : now.Addressing later) : state.Addressing later := by
  obtain ⟨address, rfl⟩ := h
  obtain ⟨address', rfl⟩ := hlater
  exact ⟨address', rfl⟩

/-! ## One filter -/

/-- A slot that is on in step holds the pattern of the filter. -/
lemma InStep.toPattern_eq {state : CardState} {filter : Filter} (h : state.InStep filter)
    (hslot : filter.physicalSlot < filterCount) (henabled : filter.enabled = true) :
    filter.rule.pattern = state.slots[filter.physicalSlot].toPattern := by
  have hheld := h.holds henabled
  rw [Vector.getElem?_eq_getElem hslot, Option.some.injEq] at hheld
  rw [hheld, CardSlot.toPattern_ofPattern]

/-- A filter that its slot is in step with is left as it is. -/
lemma SyncWay.of_inStep {state : CardState} {summary result : LoadSummary} {filter : Filter}
    {hslot : filter.physicalSlot < filterCount} {log : Array Log.Message} {done : Program Unit}
    (way : state.SyncWay summary filter hslot result log done) (h : state.InStep filter) :
    result = { summary with untouched := summary.untouched + 1 } ∧
      state.Addressing (done.run device state).state ∧
        (done.writeSteps device state).flatMap WriteStep.events = [] := by
  have hsame := h.isEnabled_eq
  cases way with
  | idle henabled hoff =>
    rw [run_pure, writeSteps_pure]
    exact ⟨rfl, ⟨state.filterAddress, rfl⟩, rfl⟩
  | untouched henabled _ hlive =>
    obtain ⟨-, haddressing, -⟩ := state.run_readFilter hslot
    simp only [run_bind_state, run_pure, writeSteps_bind, writeSteps_pure, List.append_nil]
    exact ⟨trivial, haddressing, state.events_readFilter filter.physicalSlot⟩
  | disabled henabled hlive | enabled henabled _ hlive =>
    rw [hlive, henabled] at hsame
    cases hsame
  | rewritten henabled hdiffers => exact absurd (h.toPattern_eq hslot henabled) hdiffers

lemma run_syncFilter_of_inStep (state : CardState) (summary : LoadSummary) {filter : Filter}
    (hslot : filter.physicalSlot < filterCount) (h : state.InStep filter) :
    let program := Loader.syncFilter summary filter
    (program.run device state).result = { summary with untouched := summary.untouched + 1 } ∧
      state.Addressing (program.run device state).state ∧
        (program.writeSteps device state).flatMap WriteStep.events = [] := by
  intro program
  obtain ⟨result, log, done, way, hrun, hsteps⟩ := state.syncFilter_way summary hslot
  rw [hrun, hsteps]
  exact way.of_inStep h

/-! ## All filters -/

lemma run_syncFilters_of_inStep {filters : List Filter} (state : CardState)
    (summary : LoadSummary) (hslots : ∀ filter ∈ filters, filter.physicalSlot < filterCount)
    (h : ∀ filter ∈ filters, state.InStep filter) :
    let program := fold Loader.syncFilter summary filters
    (program.run device state).result =
        { summary with untouched := summary.untouched + filters.length } ∧
      state.Addressing (program.run device state).state ∧
        (program.writeSteps device state).flatMap WriteStep.events = [] := by
  intro program
  induction filters generalizing state summary with
  | nil => exact ⟨rfl, ⟨state.filterAddress, rfl⟩, rfl⟩
  | cons filter rest ih =>
    have hfold : program =
      Loader.syncFilter summary filter >>= fun summary => fold Loader.syncFilter summary rest := rfl
    obtain ⟨hresult, haddressing, hevents⟩ := state.run_syncFilter_of_inStep summary
      (hslots filter List.mem_cons_self) (h filter List.mem_cons_self)
    obtain ⟨hresult', haddressing', hevents'⟩ :=
      ih _ { summary with untouched := summary.untouched + 1 }
        (fun other hother => hslots other (List.mem_cons_of_mem _ hother))
        (fun other hother => (h other (List.mem_cons_of_mem _ hother)).addressing haddressing)
    rw [hfold, run_bind_result, run_bind_state, writeSteps_bind, List.flatMap_append, hresult,
      hevents, hevents', hresult', List.length_cons]
    refine ⟨?_, haddressing.trans haddressing', rfl⟩
    rw [Nat.add_assoc, Nat.add_comm 1]

/-! ## The table -/

/-- Publishing a table is one event for each of its rows, and the flip. -/
lemma events_publish (state : CardState) {table : ColourTable}
    (hshape : ∀ bank, table.SameShape (state.bank bank)) (hsize : table.rows.size ≤ 2 ^ 14) :
    ((Loader.publish table).writeSteps device state).flatMap WriteStep.events =
      List.replicate table.rows.size (.colourWrite state.activeBank.other false) ++
        [.bankFlip state.activeBank.other] := by
  obtain ⟨hwritten, -⟩ := state.run_writeTable (hshape state.activeBank.other) hsize
  have hother : state.activeBank.other ≠
      (state.putBank state.activeBank.other table).activeBank := by
    rw [activeBank_putBank]
    exact Bank.other_ne _
  simp only [Loader.publish, writeSteps_bind, run_activeBank_result, run_activeBank_state,
    writeSteps_activeBank, hwritten, writeSteps_log, writeSteps_pure, List.append_nil,
    List.nil_append, List.flatMap_append,
    state.events_writeTable (Bank.other_ne _) (hshape _) hsize, events_setActiveBank _ hother]

end CardState

/-! ## The load -/

namespace Loader

variable {memory : Memory} {config : Configuration} {table : ColourTable} {state : CardState}

/-- A load of a card in step counts every slot as untouched, and only publishes the table. -/
theorem run_load_of_inStep (h : config.Slotted) (hshape : state.Shaped config)
    (hstep : ∀ v : Fin filterCount, state.InStep (config.filters.get v))
    (htable : ColourTable.forConfiguration memory config = .ok table) :
    let program := load memory config
    (program.run CardState.device state).result =
        .ok ⟨0, 0, 0, filterCount, state.activeBank.other⟩ ∧
      (∃ now, state.Addressing now ∧
        (program.run CardState.device state).state = now.published (table.fill config)) ∧
      (program.writeSteps CardState.device state).flatMap WriteStep.events =
        List.replicate (table.fill config).rows.size (.colourWrite state.activeBank.other false) ++
          [.bankFlip state.activeBank.other] := by
  intro program
  have hsteps : ∀ filter ∈ config.filters.toList, state.InStep filter := by
    intro filter hfilter
    obtain ⟨v, rfl⟩ := Configuration.mem_filters.mp hfilter
    exact hstep v
  obtain ⟨hsynced, haddressing, hquiet⟩ := state.run_syncFilters_of_inStep
    (.start state.activeBank) h.placed.slot_lt hsteps
  obtain ⟨hresult, hstate, hwrites, hfits, hsize⟩ := run_load_eq h hshape htable
  generalize hnow : ((fold syncFilter (.start state.activeBank) config.filters.toList).run
    CardState.device state).state = now at *
  have hactive : now.activeBank = state.activeBank := by
    obtain ⟨address, rfl⟩ := haddressing
    rfl
  have hpublish := now.events_publish hfits hsize
  rw [hactive] at hpublish
  refine ⟨?_, ⟨now, haddressing, hstate⟩, ?_⟩
  · rw [hresult, hsynced, hactive, Vector.length_toList]
    rfl
  · rw [hwrites, List.flatMap_append, hquiet, hpublish, List.nil_append]

/-- A table of a configuration has at least one row. -/
lemma size_rows_fill_pos (htable : ColourTable.forConfiguration memory config = .ok table) :
    0 < (table.fill config).rows.size := by
  obtain ⟨hentries, -⟩ := ColourTable.forConfiguration_shape htable
  have hshape : (table.fill config).SameShape table := table.sameShape_setAll _
  have hentry : 0 < (table.fill config).entries := by
    rw [hshape.2, hentries]
    cases config.layout <;> decide
  exact Nat.lt_of_le_of_lt (Nat.zero_le _) ((table.fill config).row_lt hentry)

/-- From an empty log, a load of a card in step records one burst of writes to the bank that was
not active, and the flip. -/
lemma events_load_of_inStep (h : config.Slotted) {card : Card} (hshape : card.state.Shaped config)
    (hstep : ∀ v : Fin filterCount, card.state.InStep (config.filters.get v))
    (htable : ColourTable.forConfiguration memory config = .ok table) :
    let bank := card.state.activeBank.other
    ((load memory config).run Card.device card.clearEvents).state.journal.events =
      #[.colourWrite bank false, .bankFlip bank] := by
  intro bank
  obtain ⟨-, -, hevents⟩ := run_load_of_inStep h hshape hstep htable
  have hcleared : card.clearEvents.journal.events = #[] := Journal.events_observe _ _ _
  have hrun := Card.events_run (load memory config) card.clearEvents
  rw [hcleared] at hrun
  have hrecords : Journal.Records (List.replicate _ (.colourWrite bank false) ++ [.bankFlip bank])
      [.colourWrite bank false, .bankFlip bank] := .burst rfl rfl (size_rows_fill_pos htable)
  rw [hrun]
  exact (congrArg (List.foldl Journal.pushEvent #[]) hevents).trans
    (hrecords #[] Journal.closed_empty).1

/-- A card that was in step serves the configuration after a load, and is still in step. -/
lemma load_inStep_of_inStep (h : config.Slotted) (hshape : state.Shaped config)
    (hstep : ∀ v : Fin filterCount, state.InStep (config.filters.get v))
    (htable : ColourTable.forConfiguration memory config = .ok table) :
    let loaded := ((load memory config).run CardState.device state).state
    loaded.layout = config.layout ∧ loaded.Serves config ∧
      ∀ v : Fin filterCount, loaded.InStep (config.filters.get v) := by
  intro loaded
  obtain ⟨hresult, ⟨now, haddressing, hloaded⟩, -⟩ := run_load_of_inStep h hshape hstep htable
  obtain ⟨hlayout, hserves⟩ := load_serves h hshape hresult
  have hstate : loaded = now.published (table.fill config) := hloaded
  refine ⟨hlayout, hserves, fun v => ?_⟩
  rw [hstate]
  exact ((hstep v).addressing haddressing).published (h.physical_lt v) _

end Loader

end PacketSteering
