import Mathlib.Tactic.Common
import PacketSteering.Proofs.Loader.Publish
import PacketSteering.Proofs.Loader.Slot

/-!
# Loading a configuration

Filters are brought in line one after the other.  Between two filters every slot holds what it
held at the start or the pattern of a filter that it carries, and the slots of the filters already
passed are in step (`CardState.Synced`); at any time in between, that much holds of the slots that
are on (`CardState.Syncing`).  Then the table is published.

So a card is in step with a configuration once it is loaded, whatever was on it before, and steers
every frame to the first stream whose expression holds (`load_steers`).
-/

namespace PacketSteering

open Program

/-- Filters with slots of the card, no two of them the same. -/
structure Filter.Placed (filters : List Filter) : Prop where
  slot_lt : ∀ filter ∈ filters, filter.physicalSlot < filterCount
  slot_injective : ∀ a ∈ filters, ∀ b ∈ filters, a.physicalSlot = b.physicalSlot → a = b

lemma Configuration.Slotted.placed {config : Configuration} (h : config.Slotted) :
    Filter.Placed config.filters.toList where
  slot_lt filter hmem := by
    obtain ⟨v, rfl⟩ := mem_filters.mp hmem
    exact h.physical_lt v
  slot_injective a ha b hb hab := by
    obtain ⟨v, rfl⟩ := mem_filters.mp ha
    obtain ⟨w, rfl⟩ := mem_filters.mp hb
    rw [h.physical_injective hab]

namespace CardState

/-! ## All filters -/

/-- What a card keeps to while filters are brought in line: its banks stay as they are, and a slot
that is on holds, in full, what it held at the start or the pattern of a filter that it carries. -/
structure Syncing (start : CardState) (filters : List Filter) (now : CardState) : Prop where
  layout_eq : now.layout = start.layout
  bank_eq : now.bank = start.bank
  activeBank_eq : now.activeBank = start.activeBank
  held : ∀ (i : ℕ) (hi : i < filterCount), now.isEnabled i = true →
    now.slots[i] = start.slots[i] ∨
      ∃ filter ∈ filters, filter.physicalSlot = i ∧ now.slots[i] = .ofPattern filter.rule.pattern

/-- The terminations of all slots fit a byte, as they do once written through the channel. -/
def TerminationsFit (state : CardState) : Prop :=
  ∀ (i : ℕ) (hi : i < filterCount), state.slots[i].termination.toNat < 256

/-- What holds of a card between two filters, with the filters still to be brought in line. -/
structure Synced (start : CardState) (filters rest : List Filter) (now : CardState) : Prop where
  rest_mem : ∀ filter ∈ rest, filter ∈ filters
  layout_eq : now.layout = start.layout
  bank_eq : now.bank = start.bank
  activeBank_eq : now.activeBank = start.activeBank
  held : ∀ (i : ℕ) (hi : i < filterCount), now.slots[i] = start.slots[i] ∨
    ∃ filter ∈ filters, filter.physicalSlot = i ∧ now.slots[i] = .ofPattern filter.rule.pattern
  inStep : start.TerminationsFit → now.TerminationsFit ∧
    ∀ filter ∈ filters, filter ∉ rest → now.InStep filter

variable {start now : CardState} {filters : List Filter}

lemma Synced.refl (start : CardState) (filters : List Filter) :
    start.Synced filters filters start where
  rest_mem _ h := h
  layout_eq := rfl
  bank_eq := rfl
  activeBank_eq := rfl
  held _ _ := Or.inl rfl
  inStep hfit := ⟨hfit, fun _ hmem hrest => absurd hmem hrest⟩

/-- Whatever a slot passes through on the way to the next filter is allowed. -/
lemma Synced.syncing {rest : List Filter} {filter : Filter} (h : start.Synced filters rest now)
    (hfilter : filter ∈ filters) {later : CardState}
    (hlater : now.Updating filter.physicalSlot filter.rule.pattern later) :
    start.Syncing filters later where
  layout_eq := hlater.layout_eq.trans h.layout_eq
  bank_eq := hlater.bank_eq.trans h.bank_eq
  activeBank_eq := hlater.activeBank_eq.trans h.activeBank_eq
  held i hi henabled := by
    by_cases hslot : i = filter.physicalSlot
    · subst hslot
      rcases hlater.held hi henabled with hheld | hheld
      · rw [hheld]
        exact h.held _ hi
      · exact Or.inr ⟨filter, hfilter, rfl, hheld⟩
    · rw [hlater.slots_eq i hi hslot]
      exact h.held i hi

/-- A slot that is not touched stays in step. -/
lemma InStep.of_updating {slot : ℕ} {pattern : Pattern} {filter : Filter}
    (h : now.InStep filter) (hslot : filter.physicalSlot < filterCount)
    (hne : filter.physicalSlot ≠ slot) {later : CardState}
    (hlater : now.Updating slot pattern later) : later.InStep filter where
  isEnabled_eq := by rw [hlater.isEnabled_eq _ hslot hne, h.isEnabled_eq]
  holds henabled := by
    have hheld := h.holds henabled
    rw [Vector.getElem?_eq_getElem hslot] at hheld ⊢
    rw [hlater.slots_eq _ hslot hne, hheld]

/-- Terminations go on to fit: a slot keeps its own or has that of a pattern. -/
lemma BroughtInLine.terminationsFit {filter : Filter} {later : CardState}
    {steps : List (WriteStep CardState)} (h : now.BroughtInLine filter later steps)
    (hfit : now.TerminationsFit) : later.TerminationsFit := by
  intro i hi
  by_cases heq : i = filter.physicalSlot
  · subst heq
    rcases h.held hi with hheld | hheld
    · rw [hheld]
      exact hfit _ hi
    · rw [hheld]
      exact CardSlot.termination_ofPattern_lt _
  · rw [h.updating.slots_eq i hi heq]
    exact hfit i hi

/-- One more filter is brought in line. -/
lemma Synced.broughtInLine (hplaced : Filter.Placed filters) {filter : Filter}
    {rest : List Filter} (h : start.Synced filters (filter :: rest) now) {later : CardState}
    {steps : List (WriteStep CardState)} (hline : now.BroughtInLine filter later steps) :
    start.Synced filters rest later := by
  have hmem := h.rest_mem filter List.mem_cons_self
  refine ⟨?_, ?_, ?_, ?_, ?_, fun hfit => ?_⟩
  · exact fun other hother => h.rest_mem other (List.mem_cons_of_mem _ hother)
  · exact hline.updating.layout_eq.trans h.layout_eq
  · exact hline.updating.bank_eq.trans h.bank_eq
  · exact hline.updating.activeBank_eq.trans h.activeBank_eq
  · intro i hi
    by_cases heq : i = filter.physicalSlot
    · subst heq
      rcases hline.held hi with hheld | hheld
      · rw [hheld]
        exact h.held _ hi
      · exact Or.inr ⟨filter, hmem, rfl, hheld⟩
    · rw [hline.updating.slots_eq i hi heq]
      exact h.held i hi
  · obtain ⟨hnowFit, hpassed⟩ := h.inStep hfit
    refine ⟨hline.terminationsFit hnowFit, fun other hother hrest => ?_⟩
    by_cases heq : other = filter
    · have hslot := hplaced.slot_lt filter hmem
      rw [heq]
      exact hline.inStep hslot (hnowFit _ hslot)
    · have hne : other.physicalSlot ≠ filter.physicalSlot := fun hsame =>
        heq (hplaced.slot_injective other hother filter hmem hsame)
      refine (hpassed other hother fun hcons => ?_).of_updating
        (hplaced.slot_lt other hother) hne hline.updating
      rcases List.mem_cons.mp hcons with hsame | hlater
      · exact heq hsame
      · exact hrest hlater

/-- One step of bringing all filters in line. -/
lemma Synced.next (hplaced : Filter.Placed filters) {filter : Filter} {rest : List Filter}
    (h : start.Synced filters (filter :: rest) now) (summary : LoadSummary) :
    start.Synced filters rest ((Loader.syncFilter summary filter).run device now).state ∧
      ∀ step ∈ (Loader.syncFilter summary filter).writeSteps device now,
        step.Leaves (start.Syncing filters) := by
  have hmem := h.rest_mem filter List.mem_cons_self
  have hline := now.run_syncFilter summary (hplaced.slot_lt filter hmem)
  refine ⟨h.broughtInLine hplaced hline, fun step hstep => ?_⟩
  exact (hline.leaves step hstep).mono fun later hlater => h.syncing hmem hlater

theorem run_syncFilters (hplaced : Filter.Placed filters) (start : CardState)
    (summary : LoadSummary) :
    start.Synced filters [] ((fold Loader.syncFilter summary filters).run device start).state ∧
      ∀ step ∈ (fold Loader.syncFilter summary filters).writeSteps device start,
        step.Leaves (start.Syncing filters) :=
  fold_induction device Loader.syncFilter (fun rest _ now => start.Synced filters rest now)
    (fun _ _ summary _ h => h.next hplaced summary) filters summary start (.refl start filters)

end CardState

lemma Card.terminationsFit_forConfiguration {memory : Memory} {config : Configuration}
    {card : Card} (h : Card.forConfiguration memory config = .ok card) :
    card.state.TerminationsFit := by
  obtain ⟨table, -, rfl⟩ := Card.new_eq_ok_iff.mp h
  intro i hi
  simp [CardState.initial, CardSlot.zero]

/-! ## The load -/

namespace ColourTable

/-- A table filled for a configuration has the shape of the banks, and rows that can be
addressed. -/
lemma fill_fits {state : CardState} {config : Configuration} (hshape : state.Shaped config)
    {memory : Memory} {table : ColourTable} (htable : forConfiguration memory config = .ok table)
    (filler : Configuration) :
    (∀ bank, (table.fill filler).SameShape (state.bank bank)) ∧
      (table.fill filler).rows.size ≤ 2 ^ 14 := by
  have hfill : (table.fill filler).SameShape table := table.sameShape_setAll _
  obtain ⟨hentries, -⟩ := forConfiguration_shape htable
  constructor
  · intro bank
    exact hfill.trans (hshape.sameShape htable bank)
  · calc (table.fill filler).rows.size
        ≤ (table.fill filler).entries := size_rows_le _
      _ = config.layout.entries := hfill.2.trans hentries
      _ ≤ 2 ^ 14 := config.layout.entries_le

end ColourTable

lemma CardState.Shaped.published_fill {state : CardState} {config : Configuration}
    (h : state.Shaped config) {memory : Memory} {table : ColourTable}
    (htable : ColourTable.forConfiguration memory config = .ok table) (filler : Configuration) :
    (state.published (table.fill filler)).Shaped config :=
  h.published (ColourTable.fill_fits h htable filler).1

namespace Loader

variable {memory : Memory} {config : Configuration} {table : ColourTable} {state : CardState}

/-- A load whose memory is granted is a run over the filters, followed by the publication of the
table. -/
lemma run_load_eq (h : config.Slotted) (hshape : state.Shaped config)
    (htable : ColourTable.forConfiguration memory config = .ok table) :
    let filters := config.filters.toList
    let program := load memory config
    let sync := fold syncFilter (.start state.activeBank) filters
    let synced := (sync.run CardState.device state).state
    (program.run CardState.device state).result =
        .ok { (sync.run CardState.device state).result with bank := synced.activeBank.other } ∧
      (program.run CardState.device state).state = synced.published (table.fill config) ∧
      program.writeSteps CardState.device state = sync.writeSteps CardState.device state ++
        (publish (table.fill config)).writeSteps CardState.device synced ∧
      (∀ bank, (table.fill config).SameShape (synced.bank bank)) ∧
        (table.fill config).rows.size ≤ 2 ^ 14 := by
  intro filters program sync synced
  have hload : program = Channel.activeBank >>= fun active =>
      fold syncFilter (.start active) filters >>= fun summary =>
        publish (table.fill config) >>= fun bank => pure (.ok { summary with bank }) := by
    simp only [program, load, htable]
    rfl
  obtain ⟨hsynced, -⟩ := CardState.run_syncFilters h.placed state (.start state.activeBank)
  obtain ⟨hfits, hsize⟩ :=
    ColourTable.fill_fits (hshape.of_bank_eq hsynced.layout_eq hsynced.bank_eq) htable config
  obtain ⟨hpublished, -⟩ := CardState.run_publish synced hfits hsize
  rw [hload]
  simp only [run_bind_result, run_bind_state, CardState.run_activeBank_result,
    CardState.run_activeBank_state, run_pure, writeSteps_bind, CardState.writeSteps_activeBank,
    writeSteps_pure, List.nil_append, List.append_nil, CardState.run_publish_result]
  exact ⟨rfl, hpublished, rfl, hfits, hsize⟩

/-- A load whose memory is granted brings the filters in line and then publishes the table. -/
theorem run_load (h : config.Slotted) (hshape : state.Shaped config)
    (htable : ColourTable.forConfiguration memory config = .ok table) :
    let filters := config.filters.toList
    let program := load memory config
    (∃ summary, (program.run CardState.device state).result = .ok summary) ∧
      ∃ synced, state.Synced filters [] synced ∧
        (program.run CardState.device state).state = synced.published (table.fill config) ∧
        ∃ syncs fills flip, program.writeSteps CardState.device state = syncs ++ (fills ++ [flip]) ∧
          (∀ step ∈ syncs, step.Leaves (state.Syncing filters)) ∧
          (∀ step ∈ fills, step.Leaves (synced.Refilling synced.activeBank.other)) ∧
            flip.Leaves (· = synced.published (table.fill config)) := by
  intro filters program
  obtain ⟨hresult, hstate, hsteps, hfits, hsize⟩ := run_load_eq h hshape htable
  obtain ⟨hsynced, hsyncs⟩ :=
    CardState.run_syncFilters h.placed state (.start state.activeBank)
  obtain ⟨-, fills, flip, hpublish, hfills, hflip⟩ := CardState.run_publish _ hfits hsize
  rw [hpublish] at hsteps
  exact ⟨⟨_, hresult⟩, _, hsynced, hstate, _, fills, flip, hsteps, hsyncs, hfills, hflip⟩

variable (state) in
/-- A load that is refused its memory does not touch the card. -/
lemma run_load_of_refused {failure : Failure}
    (hrefused : ColourTable.forConfiguration memory config = .error failure) :
    ((load memory config).run CardState.device state).result = .error failure ∧
      (load memory config).writeSteps CardState.device state = [] := by
  simp only [load, hrefused, run_pure, writeSteps_pure, and_self]

/-- A load that succeeds was granted the memory for its table. -/
lemma exists_forConfiguration_of_load {summary : LoadSummary}
    (hok : ((load memory config).run CardState.device state).result = .ok summary) :
    ∃ table, ColourTable.forConfiguration memory config = .ok table := by
  cases htable : ColourTable.forConfiguration memory config with
  | error failure =>
    obtain ⟨hresult, -⟩ := run_load_of_refused state htable
    rw [hresult] at hok
    cases hok
  | ok table => exact ⟨table, rfl⟩

/-- A load leaves a card of its shape that has a table filled from the configuration in its active
bank. -/
lemma load_publishes (h : config.Slotted) (hshape : state.Shaped config) {summary : LoadSummary}
    (hok : ((load memory config).run CardState.device state).result = .ok summary) :
    let loaded := ((load memory config).run CardState.device state).state
    loaded.Shaped config ∧ ∃ table, ColourTable.forConfiguration memory config = .ok table ∧
      loaded.bank loaded.activeBank = table.fill config := by
  intro loaded
  obtain ⟨table, htable⟩ := exists_forConfiguration_of_load hok
  obtain ⟨-, synced, hsynced, hloaded, -⟩ := run_load h hshape htable
  have hstate : loaded = synced.published (table.fill config) := hloaded
  have hsyncedShape := hshape.of_bank_eq hsynced.layout_eq hsynced.bank_eq
  rw [hstate]
  exact ⟨hsyncedShape.published_fill htable config, table, htable,
    CardState.bank_activeBank_published _ _⟩

/-- A loaded card serves the configuration, with or without the slots in step. -/
lemma load_serves (h : config.Slotted) (hshape : state.Shaped config) {summary : LoadSummary}
    (hok : ((load memory config).run CardState.device state).result = .ok summary) :
    let loaded := ((load memory config).run CardState.device state).state
    loaded.layout = config.layout ∧ loaded.Serves config := by
  obtain ⟨hloadedShape, table, htable, hlive⟩ := load_publishes h hshape hok
  obtain ⟨hentries, hbits⟩ := ColourTable.forConfiguration_shape htable
  exact ⟨hloadedShape.layout_eq, CardState.serves_of_fill h hentries hbits hlive⟩

/-- A loaded card serves the configuration with every slot in step. -/
theorem load_inStep (h : config.Slotted) (hshape : state.Shaped config)
    (hfit : state.TerminationsFit) {summary : LoadSummary}
    (hok : ((load memory config).run CardState.device state).result = .ok summary) :
    let loaded := ((load memory config).run CardState.device state).state
    loaded.layout = config.layout ∧ loaded.Serves config ∧
      ∀ v : Fin filterCount, loaded.InStep (config.filters.get v) := by
  intro loaded
  obtain ⟨hlayout, hserves⟩ := load_serves h hshape hok
  refine ⟨hlayout, hserves, fun v => ?_⟩
  obtain ⟨table, htable⟩ := exists_forConfiguration_of_load hok
  obtain ⟨-, synced, hsynced, hloaded, -⟩ := run_load h hshape htable
  have hstate : loaded = synced.published (table.fill config) := hloaded
  obtain ⟨-, hstep⟩ := hsynced.inStep hfit
  have hmem : config.filters.get v ∈ config.filters.toList :=
    Configuration.mem_filters.mpr ⟨v, rfl⟩
  rw [hstate]
  exact (hstep (config.filters.get v) hmem List.not_mem_nil).published (h.physical_lt v) _

/-- A loaded card has the built table in its active bank. -/
theorem load_live (h : config.Slotted) {card : Card} (hshape : card.state.Shaped config)
    {summary : LoadSummary}
    (hok : ((load memory config).run Card.device card).result = .ok summary) :
    let loaded := ((load memory config).run Card.device card).state.state
    loaded.Shaped config ∧ ∃ built, ColourTable.build memory config = .ok built ∧
      (loaded.bank loaded.activeBank).rows = built.rows := by
  intro loaded
  rw [← Card.projects.run_result] at hok
  obtain ⟨hloadedShape, table, htable, hbank⟩ := load_publishes h hshape hok
  rw [Card.projects.run_state] at hloadedShape hbank
  exact ⟨hloadedShape, table.fill config,
    ColourTable.build_eq_ok_iff.mpr ⟨table, htable, rfl⟩, by rw [hbank]⟩

lemma terminationsFit_loaded (h : config.Slotted) {card : Card}
    (hshape : card.state.Shaped config) (hfit : card.state.TerminationsFit) {summary : LoadSummary}
    (hok : ((load memory config).run Card.device card).result = .ok summary) :
    ((load memory config).run Card.device card).state.state.TerminationsFit := by
  rw [← Card.projects.run_result] at hok
  obtain ⟨table, htable⟩ := exists_forConfiguration_of_load hok
  obtain ⟨-, synced, hsynced, hloaded, -⟩ := run_load h hshape htable
  rw [← Card.projects.run_state, hloaded, CardState.TerminationsFit, CardState.slots_published]
  exact (hsynced.inStep hfit).1

lemma inStep_loaded (h : config.Slotted) {card : Card} (hshape : card.state.Shaped config)
    (hfit : card.state.TerminationsFit) {summary : LoadSummary}
    (hok : ((load memory config).run Card.device card).result = .ok summary)
    (v : Fin filterCount) :
    ((load memory config).run Card.device card).state.state.InStep (config.filters.get v) := by
  rw [← Card.projects.run_result] at hok
  obtain ⟨-, -, hstep⟩ := load_inStep h hshape hfit hok
  rw [← Card.projects.run_state]
  exact hstep v

/-- A loaded card steers by the hits that the configuration asks for. -/
lemma load_classify (h : config.Slotted) {card : Card} (hshape : card.state.Shaped config)
    (hfit : card.state.TerminationsFit) {summary : LoadSummary}
    (hok : ((load memory config).run Card.device card).result = .ok summary)
    (frame : Array UInt8) (interface : UInt8) (hlb : HlbOutcome) :
    ((load memory config).run Card.device card).state.state.classify frame interface hlb =
      config.colourFor interface hlb (config.virtualHits frame) := by
  rw [← Card.projects.run_result] at hok
  obtain ⟨hlayout, hserves, hstep⟩ := load_inStep h hshape hfit hok
  rw [← Card.projects.run_state, hserves.classify_of_inStep h hlayout hstep]

/-- A frame that is told by its type alone. -/
def frameOfType (high low : UInt8) : Array UInt8 :=
  Array.replicate 14 0 ++ #[high, low]

lemma exists_loaded (h : config.Slotted)
    (htable : ColourTable.forConfiguration memory config = .ok table) :
    ∃ card summary, Card.forConfiguration memory config = .ok card ∧
      card.state.Shaped config ∧ card.state.TerminationsFit ∧
        ((load memory config).run Card.device card).result = .ok summary := by
  obtain ⟨card, hcard⟩ := Card.exists_forConfiguration htable
  have hshape := Card.shaped_forConfiguration hcard
  have hfit := Card.terminationsFit_forConfiguration hcard
  obtain ⟨⟨summary, hok⟩, -⟩ := run_load h hshape htable
  rw [Card.projects.run_result] at hok
  exact ⟨card, summary, hcard, hshape, hfit, hok⟩

lemma exists_loaded_firstFilter :
    ∃ card summary, Card.forConfiguration .addressSpace .firstFilter = .ok card ∧
      card.state.Shaped .firstFilter ∧ card.state.TerminationsFit ∧
        ((load .addressSpace .firstFilter).run Card.device card).result = .ok summary := by
  obtain ⟨table, htable⟩ := ColourTable.exists_forConfiguration_firstFilter
  exact exists_loaded Configuration.reachable_firstFilter.slotted htable

/-- **Loading is correct.** A card of the shape of a configuration, in whatever state, steers after
a load every frame to the first stream whose expression holds for the filters that are enabled and
match, and drops it if there is none. -/
theorem load_steers (hreachable : config.Reachable) {card : Card}
    (hshape : card.state.Shaped config) (hfit : card.state.TerminationsFit) {summary : LoadSummary}
    (hok : ((load memory config).run Card.device card).result = .ok summary)
    (frame : Array UInt8) {interface : UInt8} (hinterface : interface.toNat < interfaceCount)
    {hlb : HlbOutcome} (hhlb : config.layout.Reports hlb) :
    let loaded := ((load memory config).run Card.device card).state.state
    let key : TableKey := ⟨config.virtualHits frame, interface, hlb⟩
    (∀ stream, loaded.classify frame interface hlb = .stream stream ↔
        config.FirstStream key stream.toNat) ∧
      (loaded.classify frame interface hlb = .drop ↔
        ∀ expression ∈ config.streams, ¬ expression.holdsVirtual config.partials key) := by
  intro loaded key
  have h := hreachable.slotted
  have hclassify : loaded.classify frame interface hlb =
      Colour.ofStream? (config.steerVirtual key) := by
    rw [load_classify h hshape hfit hok, Configuration.colourFor, config.seen_eq hinterface hhlb]
  rw [hclassify]
  exact ⟨fun _ => h.ofStream?_eq_stream_iff, Configuration.ofStream?_eq_drop_iff⟩

/-- A fresh card steers an empty frame to the stream of the first filter. -/
theorem load_steers_firstFilter :
    ∃ card summary, Card.forConfiguration .addressSpace .firstFilter = .ok card ∧
      ((load .addressSpace .firstFilter).run Card.device card).result = .ok summary ∧
        ((load .addressSpace .firstFilter).run Card.device card).state.state.classify #[] 0
          (.bits 0) = .stream 0 := by
  obtain ⟨card, summary, hcard, hshape, hfit, hok⟩ := exists_loaded_firstFilter
  have hreports : Configuration.firstFilter.layout.Reports (.bits 0) := ⟨rfl, by decide⟩
  have hsteers := load_steers Configuration.reachable_firstFilter hshape hfit hok #[]
    (by decide : (0 : UInt8).toNat < interfaceCount) hreports
  rw [Configuration.virtualHits_firstFilter] at hsteers
  refine ⟨card, summary, hcard, hok, (hsteers.1 0).mpr ⟨by decide, by decide, ?_⟩⟩
  intro j hj
  cases hj

end Loader

end PacketSteering
