import Mathlib.Tactic.Common
import PacketSteering.Proofs.Card.Journal
import PacketSteering.Proofs.Loader.Swap

/-!
# Nothing half-written is ever in use

After every single write of a load or of a replacement, a slot that is on holds a whole pattern and
the active bank a whole table (`CardState.Whole`): what was there when the call began, or what the
configuration assigned to it then.  This needs nothing of the card but its shape.  It holds for
cards that were left in the middle of something, and for replacements that are refused.
-/

namespace PacketSteering

open Program

namespace CardState

/-- Every slot that is on holds, in full, what it held at the start or the pattern of the filter
that a configuration carries there, and the active bank has the rows that were active at the start
or those of one of some tables. -/
structure Whole (config : Configuration) (tables : ColourTable → Prop) (start now : CardState) :
    Prop where
  slots : ∀ (slot : ℕ) (hslot : slot < filterCount), now.isEnabled slot = true →
    now.slots[slot] = start.slots[slot] ∨ ∃ v, config.physical v = slot ∧
      now.slots[slot] = .ofPattern (config.filters.get v).rule.pattern
  rows : (now.bank now.activeBank).rows = (start.bank start.activeBank).rows ∨
    ∃ built, tables built ∧ (now.bank now.activeBank).rows = built.rows

variable {config : Configuration} {tables : ColourTable → Prop} {start now later : CardState}

/-- A write to the bank that is not active touches nothing in use. -/
lemma Whole.refilling (h : start.Whole config tables now)
    (hlater : now.Refilling now.activeBank.other later) : start.Whole config tables later where
  slots slot hslot henabled := by
    rw [hlater.isEnabled_eq] at henabled
    rw [getElem_congr_coll hlater.slots_eq]
    exact h.slots slot hslot henabled
  rows := by
    rw [hlater.live_eq]
    exact h.rows

/-- One of the tables is made active as a whole. -/
lemma Whole.published (h : start.Whole config tables now) {table : ColourTable}
    (htable : tables table) : start.Whole config tables (now.published table) where
  slots slot hslot henabled := by
    rw [isEnabled_published _ _ hslot] at henabled
    rw [getElem_congr_coll (slots_published now table)]
    exact h.slots slot hslot henabled
  rows := Or.inr ⟨table, htable, by rw [bank_activeBank_published]⟩

lemma Whole.off (h : start.Whole config tables now) {slot : ℕ} (hslot : slot < filterCount) :
    start.Whole config tables (now.off slot) where
  slots i hi henabled := by
    rw [isEnabled_off _ hslot hi, Bool.and_eq_true] at henabled
    exact h.slots i hi henabled.1
  rows := by
    rw [activeBank_off _ hslot]
    exact h.rows

/-- While a slot is brought up to the pattern that the configuration carries there, it is off or
holds that pattern, or what it held. -/
lemma Whole.updating (hslots : now.slots = start.slots)
    (hrows : ∃ built, tables built ∧ (now.bank now.activeBank).rows = built.rows)
    {v : Fin filterCount}
    (hlater : now.Updating (config.physical v) (config.filters.get v).rule.pattern later) :
    start.Whole config tables later where
  slots slot hslot henabled := by
    by_cases heq : slot = config.physical v
    · subst heq
      rcases hlater.held hslot henabled with hheld | hheld
      · exact Or.inl (hheld.trans (getElem_congr_coll hslots))
      · exact Or.inr ⟨v, rfl, hheld⟩
    · rw [hlater.slots_eq slot hslot heq]
      exact Or.inl (getElem_congr_coll hslots)
  rows := by
    rw [hlater.bank_eq, hlater.activeBank_eq]
    exact Or.inr hrows

lemma Syncing.whole (h : start.Syncing config.filters.toList now) :
    start.Whole config tables now where
  slots slot hslot henabled := by
    rcases h.held slot hslot henabled with hheld | ⟨filter, hmem, hfilter, hheld⟩
    · exact Or.inl hheld
    · obtain ⟨v, rfl⟩ := Configuration.mem_filters.mp hmem
      exact Or.inr ⟨v, hfilter, hheld⟩
  rows := by
    rw [h.bank_eq, h.activeBank_eq]
    exact Or.inl rfl

lemma Synced.whole {rest : List Filter} (h : start.Synced config.filters.toList rest now) :
    start.Whole config tables now :=
  Syncing.whole ⟨h.layout_eq, h.bank_eq, h.activeBank_eq, fun i hi _ => h.held i hi⟩

end CardState

namespace Loader

variable {memory : Memory} {config : Configuration} {state : CardState}

/-- A run never has anything half-written in use: every write leaves a whole card, and no event
that is recorded says that something in use was written. -/
structure KeepsWhole {α : Type} (program : Program α) (config : Configuration)
    (tables : ColourTable → Prop) (card : Card) : Prop where
  whole : ∀ now ∈ program.statesAfterWrites Card.device card,
    card.state.Whole config tables now.state
  quiet : card.journal.GrewBy (fun event => ¬ event.IsLive)
    (program.run Card.device card).state.journal

lemma KeepsWhole.of_steps {α : Type} {program : Program α} {tables : ColourTable → Prop}
    {card : Card} (h : ∀ step ∈ program.writeSteps CardState.device card.state,
      step.Leaves (card.state.Whole config tables)) : KeepsWhole program config tables card where
  whole now hnow := by
    have hmem : now.state ∈ program.statesAfterWrites CardState.device card.state := by
      rw [Card.projects.statesAfterWrites]
      exact List.mem_map_of_mem hnow
    obtain ⟨step, hstep, hafter⟩ := List.mem_map.mp hmem
    rw [← hafter]
    exact (h step hstep).1
  quiet := Card.grewBy_run program card fun step hstep => (h step hstep).2

/-- The tables that a load may make active. -/
def LoadTables (memory : Memory) (config : Configuration) (built : ColourTable) : Prop :=
  ColourTable.build memory config = .ok built

/-- The tables that a replacement may make active: the table of the configuration, and the one in
which the physical slots of the target and the swap slot have changed places. -/
def SwapTables (memory : Memory) (config : Configuration) (target : ℕ) (built : ColourTable) :
    Prop :=
  ColourTable.build memory config = .ok built ∨ ∃ htarget : target < filterCount,
    ColourTable.build memory (config.swapPhysical swapFin ⟨target, htarget⟩) = .ok built

theorem load_leaves_whole (h : config.Slotted) (hshape : state.Shaped config) :
    ∀ step ∈ (load memory config).writeSteps CardState.device state,
      step.Leaves (state.Whole config (LoadTables memory config)) := by
  intro step hstep
  cases htable : ColourTable.forConfiguration memory config with
  | error failure =>
    obtain ⟨-, hsteps⟩ := run_load_of_refused state htable
    rw [hsteps] at hstep
    cases hstep
  | ok table =>
    obtain ⟨-, synced, hsynced, -, syncs, fills, flip, hsteps, hsyncs, hfills, hflip⟩ :=
      run_load h hshape htable
    have hbuilt : LoadTables memory config (table.fill config) :=
      ColourTable.build_eq_ok_iff.mpr ⟨table, htable, rfl⟩
    have hwhole : state.Whole config (LoadTables memory config) synced := hsynced.whole
    rw [hsteps] at hstep
    rcases List.mem_append.mp hstep with hstep | hstep
    · exact (hsyncs step hstep).mono fun _ => CardState.Syncing.whole
    rcases List.mem_append.mp hstep with hstep | hstep
    · exact (hfills step hstep).mono fun _ => hwhole.refilling
    · rw [List.mem_singleton.mp hstep]
      refine hflip.mono fun now hnow => ?_
      rw [hnow]
      exact hwhole.published hbuilt

theorem swap_leaves_whole (h : config.Slotted) (hshape : state.Shaped config) (target : ℕ) :
    ∀ step ∈ (swapFilter memory config target).writeSteps CardState.device state,
      step.Leaves (state.Whole config (SwapTables memory config target)) := by
  intro step hstep
  rcases swapFilter_cases memory h hshape target with
    ⟨failure, -, -, hsteps⟩ | ⟨htarget, table, -, htable, -, ⟨phases⟩⟩
  · rw [hsteps] at hstep
    cases hstep
  · have hfirst : SwapTables memory config target (table.fill config) :=
      Or.inl (ColourTable.build_eq_ok_iff.mpr ⟨table, htable, rfl⟩)
    have hsecond : SwapTables memory config target
        (table.fill (config.swapPhysical swapFin ⟨target, htarget⟩)) :=
      Or.inr ⟨htarget, ColourTable.build_eq_ok_iff.mpr ⟨table, htable, rfl⟩⟩
    have hstart : state.Whole config (SwapTables memory config target) state :=
      ⟨fun _ _ _ => Or.inl rfl, Or.inl rfl⟩
    have hupdating {now : CardState} (hnow : (state.published (table.fill config)).Updating
        (config.physical swapFin) (config.filters.get swapFin).rule.pattern now) :
        state.Whole config (SwapTables memory config target) now :=
      CardState.Whole.updating (state.slots_published _)
        ⟨_, hfirst, by rw [CardState.bank_activeBank_published]⟩ hnow
    have hstaged := hupdating phases.staged_updating
    have hpublished := hstaged.published hsecond
    rw [phases.steps_eq] at hstep
    simp only [List.mem_append, List.mem_cons, List.not_mem_nil, or_false] at hstep
    rcases hstep with hfill | rfl | hrewrite | hfill | rfl | rfl
    · exact (phases.firstFills_leave step hfill).mono fun _ => hstart.refilling
    · exact phases.firstFlip_leaves.mono fun now hnow => by
        rw [hnow]
        exact hstart.published hfirst
    · exact (phases.rewrites_leave step hrewrite).mono fun _ => hupdating
    · exact (phases.secondFills_leave step hfill).mono fun _ => hstaged.refilling
    · exact phases.secondFlip_leaves.mono fun now hnow => by
        rw [hnow]
        exact hpublished
    · exact phases.retirement_leaves.mono fun now hnow => by
        rw [hnow, phases.final_eq]
        exact hpublished.off (h.physical_lt _)

/-- **Nothing half-written is ever in use**, during a load and during a replacement of any rule, on
a card in whatever state. -/
theorem load_and_swap_keep_whole (hreachable : config.Reachable) {card : Card}
    (hshape : card.state.Shaped config) (memory : Memory) :
    KeepsWhole (load memory config) config (LoadTables memory config) card ∧
      ∀ target, KeepsWhole (swapFilter memory config target) config
        (SwapTables memory config target) card :=
  ⟨.of_steps (load_leaves_whole hreachable.slotted hshape),
    fun target => .of_steps (swap_leaves_whole hreachable.slotted hshape target)⟩

/-- A load of a fresh card, and a replacement on it, keep it whole. -/
theorem load_and_swap_keep_whole_firstFilter :
    ∃ card, Card.forConfiguration .addressSpace .firstFilter = .ok card ∧
      KeepsWhole (load .addressSpace .firstFilter) .firstFilter
        (LoadTables .addressSpace .firstFilter) card ∧
      KeepsWhole (swapFilter .addressSpace .firstFilter 0) .firstFilter
        (SwapTables .addressSpace .firstFilter 0) card := by
  obtain ⟨table, htable⟩ := ColourTable.exists_forConfiguration_firstFilter
  obtain ⟨card, hcard⟩ := Card.exists_forConfiguration htable
  obtain ⟨hload, hswap⟩ := load_and_swap_keep_whole Configuration.reachable_firstFilter
    (Card.shaped_forConfiguration hcard) .addressSpace
  exact ⟨card, hcard, hload, hswap 0⟩

end Loader

end PacketSteering
