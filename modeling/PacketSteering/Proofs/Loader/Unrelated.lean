import PacketSteering.Proofs.Loader.Unchanged

/-!
# Traffic that a load has nothing to do with

While a load brings the slots in line, each of them is as at the start, as at the end, or off; and
it is off only if start and end differ (`CardState.Between`).  A frame that hits no slot in which
they differ, neither at the start nor at the end, therefore hits the same slots throughout.

Meanwhile the active bank stays as it is, so such a frame is steered as before up to the last
write, which makes the new table active, and as at the end from there on
(`CardState.SteadyUntilFlip`, `Loader.load_spares_unrelated`).
-/

namespace PacketSteering

open Program Channel

namespace CardState

/-! ## A slot between two states -/

/-- Whether a slot is on, and what it holds. -/
def programmed (state : CardState) (slot : ℕ) : Bool × Option CardSlot :=
  (state.isEnabled slot, state.slots[slot]?)

lemma hit_eq_of_programmed_eq {state now : CardState} {slot : ℕ}
    (h : now.programmed slot = state.programmed slot) (frame : Array UInt8) :
    now.hit slot frame = state.hit slot frame := by
  obtain ⟨henabled, hslots⟩ := Prod.mk.inj h
  refine hit_congr henabled (fun hslot => ?_) frame
  rwa [Vector.getElem?_eq_getElem hslot, Vector.getElem?_eq_getElem hslot,
    Option.some.injEq] at hslots

lemma Addressing.programmed_eq {state now : CardState} (h : state.Addressing now) (slot : ℕ) :
    now.programmed slot = state.programmed slot := by
  obtain ⟨address, rfl⟩ := h
  rfl

lemma Updating.programmed_eq {start now : CardState} {slot : ℕ} {pattern : Pattern}
    (h : start.Updating slot pattern now) {other : ℕ} (hother : other < filterCount)
    (hne : other ≠ slot) : now.programmed other = start.programmed other := by
  rw [programmed, programmed, h.isEnabled_eq other hother hne,
    Vector.getElem?_eq_getElem hother, Vector.getElem?_eq_getElem hother,
    h.slots_eq other hother hne]

/-- Between two states a slot is as in one of them, or it is off and they differ in it. -/
def Between (start final : CardState) (slot : ℕ) (now : CardState) : Prop :=
  now.programmed slot = start.programmed slot ∨ now.programmed slot = final.programmed slot ∨
    now.isEnabled slot = false ∧ final.programmed slot ≠ start.programmed slot

/-- A frame has nothing to do with the slots in which two states differ: it hits none of them in
either state. -/
def Unrelated (start final : CardState) (frame : Array UInt8) : Prop :=
  ∀ slot < filterCount, final.programmed slot ≠ start.programmed slot →
    start.hit slot frame = false ∧ final.hit slot frame = false

/-- A frame that has nothing to do with what changes hits a slot in between as at the start. -/
lemma Between.hit_eq {start final now : CardState} {slot : ℕ} (h : start.Between final slot now)
    (hslot : slot < filterCount) {frame : Array UInt8} (hunrelated : start.Unrelated final frame) :
    now.hit slot frame = start.hit slot frame := by
  rcases h with hstart | hfinal | ⟨hoff, hdiffers⟩
  · exact hit_eq_of_programmed_eq hstart frame
  · rw [hit_eq_of_programmed_eq hfinal frame]
    by_cases hsame : final.programmed slot = start.programmed slot
    · exact hit_eq_of_programmed_eq hsame frame
    · obtain ⟨hmissStart, hmissFinal⟩ := hunrelated slot hslot hsame
      rw [hmissStart, hmissFinal]
  · rw [hit_of_off hoff frame, (hunrelated slot hslot hdiffers).1]

lemma Between.of_start_eq {start start' final now : CardState} {slot : ℕ}
    (h : start'.Between final slot now) (hstart : start'.programmed slot = start.programmed slot) :
    start.Between final slot now := by
  rw [Between, ← hstart]
  exact h

lemma Between.eq_of_settled {start final now : CardState} {slot : ℕ}
    (h : start.Between final slot now) (hsettled : final.programmed slot = start.programmed slot) :
    now.programmed slot = final.programmed slot := by
  rcases h with hstart | hfinal | ⟨-, hdiffers⟩
  · rw [hstart, hsettled]
  · exact hfinal
  · exact absurd hsettled hdiffers

/-! ## One filter -/

/-- While a slot is written anew, it is off until the last write. -/
lemma isEnabled_rewrite (state : CardState) {slot : ℕ} (hslot : slot < filterCount)
    (pattern : Pattern) :
    ∀ step ∈ (rewrite slot pattern).writeSteps device state,
      (step.after device).isEnabled slot = false ∨
        step.after device = ((rewrite slot pattern).run device state).state := by
  have hoff := state.isEnabled_off_self hslot
  obtain ⟨⟨address, hwritten⟩, hsteps, -⟩ := (state.off slot).run_writeFilter hslot pattern
  rw [rewrite]
  simp only [run_bind_state, run_disable, run_enable, hwritten, writeSteps_bind, writeSteps_disable,
    writeSteps_enable]
  intro step hstep
  rcases List.mem_append.mp hstep with hstep | hstep
  · rw [List.mem_singleton.mp hstep]
    exact Or.inl hoff
  rcases List.mem_append.mp hstep with hstep | hstep
  · obtain ⟨held, latched, hafter⟩ := (hsteps step hstep).1
    rw [hafter]
    exact Or.inl hoff
  · rw [List.mem_singleton.mp hstep]
    exact Or.inr rfl

/-- A slot that is written anew has other content than at the start, if it held another pattern. -/
lemma slots_rewrite_ne (start state : CardState) {slot : ℕ} (hslot : slot < filterCount)
    {pattern : Pattern} (hdiffers : pattern ≠ start.slots[slot].toPattern) :
    ((rewrite slot pattern).run device state).state.slots[slot]? ≠ start.slots[slot]? := by
  obtain ⟨-, -, hheld, -⟩ := state.run_rewrite hslot pattern
  intro heq
  rw [Vector.getElem?_eq_getElem hslot, Vector.getElem?_eq_getElem hslot, hheld,
    Option.some.injEq] at heq
  exact hdiffers (by rw [← heq, CardSlot.toPattern_ofPattern])

/-- Writing a slot anew, when it held another pattern at the start, leaves nothing in between but
off. -/
lemma between_rewrite (start state : CardState) {slot : ℕ} (hslot : slot < filterCount)
    {pattern : Pattern} (hdiffers : pattern ≠ start.slots[slot].toPattern) :
    ∀ step ∈ (rewrite slot pattern).writeSteps device state,
      start.Between ((rewrite slot pattern).run device state).state slot (step.after device) := by
  have hprogrammed : ((rewrite slot pattern).run device state).state.programmed slot ≠
      start.programmed slot := fun heq =>
    start.slots_rewrite_ne state hslot hdiffers (congrArg Prod.snd heq)
  intro step hstep
  rcases state.isEnabled_rewrite hslot pattern step hstep with hoff | hlast
  · exact Or.inr (Or.inr ⟨hoff, hprogrammed⟩)
  · exact Or.inr (Or.inl (by rw [hlast]))

/-- Whichever way is taken, nothing lies between the states before and after it but off. -/
lemma SyncWay.between {state : CardState} {summary result : LoadSummary} {filter : Filter}
    {hslot : filter.physicalSlot < filterCount} {log : Array Log.Message} {done : Program Unit}
    (way : state.SyncWay summary filter hslot result log done) :
    ∀ step ∈ done.writeSteps device state,
      state.Between (done.run device state).state filter.physicalSlot (step.after device) := by
  obtain ⟨-, -, hreads⟩ := state.run_readFilter hslot
  have hreading (final : CardState) : ∀ step ∈ (readFilter filter.physicalSlot).writeSteps device
      state, state.Between final filter.physicalSlot (step.after device) := fun step hstep =>
    Or.inl ((hreads step hstep).1.programmed_eq _)
  cases way with
  | idle _ _ => exact fun step hstep => absurd hstep List.not_mem_nil
  | disabled _ _ =>
    rw [run_disable, writeSteps_disable]
    intro step hstep
    rw [List.mem_singleton.mp hstep]
    exact Or.inr (Or.inl rfl)
  | untouched _ _ _ =>
    rw [writeSteps_bind, writeSteps_pure, List.append_nil]
    exact hreading _
  | enabled _ _ _ =>
    rw [run_bind_state, run_enable, writeSteps_bind, writeSteps_enable]
    generalize ((readFilter filter.physicalSlot).run device state).state = read
    refine List.forall_mem_append.mpr ⟨hreading _, fun step hstep => ?_⟩
    rw [List.mem_singleton.mp hstep]
    exact Or.inr (Or.inl rfl)
  | rewritten _ hdiffers =>
    rw [run_bind_state, writeSteps_bind]
    exact List.forall_mem_append.mpr ⟨hreading _, state.between_rewrite _ hslot hdiffers⟩

/-- Bringing a filter in line takes its slot from the state before to the one after, with nothing
in between but off. -/
lemma between_syncFilter (state : CardState) (summary : LoadSummary) {filter : Filter}
    (hslot : filter.physicalSlot < filterCount) :
    let program := Loader.syncFilter summary filter
    ∀ step ∈ program.writeSteps device state,
      state.Between (program.run device state).state filter.physicalSlot (step.after device) := by
  intro program
  obtain ⟨result, log, done, way, hrun, hsteps⟩ := state.syncFilter_way summary hslot
  rw [hrun, hsteps]
  exact way.between

/-! ## All filters -/

/-- Bringing filters in line takes every slot from the state before to the one after, with nothing
in between but off, and leaves the slots of no filter alone. -/
theorem between_syncFilters {filters : List Filter}
    (hslots : ∀ filter ∈ filters, filter.physicalSlot < filterCount)
    (hdistinct : (filters.map Filter.physicalSlot).Nodup) (start : CardState)
    (summary : LoadSummary) :
    let program := fold Loader.syncFilter summary filters
    let final := (program.run device start).state
    (∀ slot < filterCount, slot ∉ filters.map Filter.physicalSlot →
        final.programmed slot = start.programmed slot) ∧
      ∀ step ∈ program.writeSteps device start, ∀ slot < filterCount,
        start.Between final slot (step.after device) := by
  intro program final
  induction filters generalizing start summary with
  | nil => exact ⟨fun _ _ _ => rfl, fun step hstep => absurd hstep List.not_mem_nil⟩
  | cons filter rest ih =>
    have hfold : program =
      Loader.syncFilter summary filter >>= fun summary => fold Loader.syncFilter summary rest := rfl
    rw [List.map_cons, List.nodup_cons] at hdistinct
    obtain ⟨hfirst, hrest⟩ := hdistinct
    have hslot := hslots filter List.mem_cons_self
    have hline := start.run_syncFilter summary hslot
    have hbetween := start.between_syncFilter summary hslot
    set middle := (Loader.syncFilter summary filter).run device start
    obtain ⟨hkept, hlater⟩ := ih (fun other hother => hslots other (List.mem_cons_of_mem _ hother))
      hrest middle.state middle.result
    have hfinal : final =
        ((fold Loader.syncFilter middle.result rest).run device middle.state).state := by
      simp only [final, hfold, run_bind_state, middle]
    rw [← hfinal] at hkept hlater
    -- The slot of the first filter is settled in the middle, and the others have not changed.
    have hsettled := hkept filter.physicalSlot hslot hfirst
    have hunchanged {slot : ℕ} (hlt : slot < filterCount) (hne : slot ≠ filter.physicalSlot) :=
      hline.updating.programmed_eq hlt hne
    refine ⟨fun slot hlt hother => ?_, fun step hstep slot hlt => ?_⟩
    · rw [List.map_cons, List.mem_cons, not_or] at hother
      rw [hkept slot hlt hother.2, hunchanged hlt hother.1]
    · rw [hfold, writeSteps_bind] at hstep
      rcases List.mem_append.mp hstep with hstep | hstep
      · by_cases hsame : slot = filter.physicalSlot
        · rw [Between, hsame, hsettled]
          exact hbetween step hstep
        · exact Or.inl ((hline.leaves step hstep).1.programmed_eq hlt hsame)
      · have hstepBetween := hlater step hstep slot hlt
        by_cases hsame : slot = filter.physicalSlot
        · rw [hsame] at hstepBetween ⊢
          exact Or.inr (Or.inl (hstepBetween.eq_of_settled hsettled))
        · exact hstepBetween.of_start_eq (hunchanged hlt hsame)

/-! ## Steering in between -/

variable {start now final : CardState} {frame : Array UInt8}

lemma programmed_published (state : CardState) (table : ColourTable) {slot : ℕ}
    (hslot : slot < filterCount) :
    (state.published table).programmed slot = state.programmed slot := by
  rw [programmed, programmed, isEnabled_published _ _ hslot, slots_published]

/-- What a table steers by does not matter to what changes in the slots. -/
lemma Unrelated.of_published {table : ColourTable}
    (h : start.Unrelated (final.published table) frame) : start.Unrelated final frame := by
  intro slot hslot hdiffers
  rw [← final.programmed_published table hslot] at hdiffers
  obtain ⟨hstart, hend⟩ := h slot hslot hdiffers
  rw [hit_published] at hend
  exact ⟨hstart, hend⟩

/-- A state in which a frame hits the same slots and is steered the same, by the same bank. -/
structure SteersAlike (start : CardState) (frame : Array UInt8) (now : CardState) : Prop where
  filterHits_eq : now.filterHits frame = start.filterHits frame
  activeBank_eq : now.activeBank = start.activeBank
  classify_eq : ∀ interface hlb, now.classify frame interface hlb =
    start.classify frame interface hlb

lemma SteersAlike.trans {later : CardState} (h : start.SteersAlike frame now)
    (hlater : now.SteersAlike frame later) : start.SteersAlike frame later where
  filterHits_eq := hlater.filterHits_eq.trans h.filterHits_eq
  activeBank_eq := hlater.activeBank_eq.trans h.activeBank_eq
  classify_eq interface hlb :=
    (hlater.classify_eq interface hlb).trans (h.classify_eq interface hlb)

/-- A frame that has nothing to do with what changes is steered as at the start while no slot is
anything but as at the start, as at the end or off. -/
lemma Unrelated.steersAlike (h : start.Unrelated final frame) (hlayout : now.layout = start.layout)
    (hbank : now.bank = start.bank) (hactive : now.activeBank = start.activeBank)
    (hbetween : ∀ slot < filterCount, start.Between final slot now) :
    start.SteersAlike frame now := by
  have hhits : now.filterHits frame = start.filterHits frame :=
    filterHits_congr fun slot hslot => (hbetween slot hslot).hit_eq hslot h
  exact ⟨hhits, hactive, classify_congr hlayout (by rw [hbank, hactive]) hhits⟩

lemma Refilling.steersAlike (h : start.Refilling start.activeBank.other now)
    (frame : Array UInt8) : start.SteersAlike frame now where
  filterHits_eq := by rw [filterHits, filterHits, h.isEnabled_eq, h.slots_eq]
  activeBank_eq := h.activeBank_eq
  classify_eq := h.classify_eq frame

/-- The states of a run in which a frame hits the same slots throughout, and is steered as at the
start until the last of them, which has the other bank active. -/
structure SteadyUntilFlip (start : CardState) (states : List CardState) (final : CardState)
    (frame : Array UInt8) : Prop where
  filterHits_eq : ∀ now ∈ states, now.filterHits frame = start.filterHits frame
  steady : ∀ now ∈ states.dropLast, now.activeBank = start.activeBank ∧
    ∀ interface hlb, now.classify frame interface hlb = start.classify frame interface hlb
  last_eq : states.getLast? = some final
  flips : final.activeBank = start.activeBank.other

end CardState

/-! ## The load -/

namespace Loader

open CardState

variable {memory : Memory} {config : Configuration} {table : ColourTable} {state : CardState}

/-- A load whose memory is granted is steady until the flip for every frame that has nothing to do
with what it changes. -/
lemma load_steadyUntilFlip (h : config.Slotted) (hshape : state.Shaped config)
    (htable : ColourTable.forConfiguration memory config = .ok table) {frame : Array UInt8}
    (hunrelated : state.Unrelated ((load memory config).run CardState.device state).state frame) :
    state.SteadyUntilFlip ((load memory config).statesAfterWrites CardState.device state)
      ((load memory config).run CardState.device state).state frame := by
  obtain ⟨-, hfinal, hsteps, hfits, hsize⟩ := run_load_eq h hshape htable
  obtain ⟨hsynced, hsyncs⟩ := run_syncFilters h.placed state (.start state.activeBank)
  obtain ⟨-, hbetween⟩ :=
    between_syncFilters h.placed.slot_lt h.nodup_physical state (.start state.activeBank)
  obtain ⟨-, fills, flip, hpublish, hfills, hflip⟩ := run_publish _ hfits hsize
  generalize (fold syncFilter (.start state.activeBank) config.filters.toList).writeSteps
    CardState.device state = syncs at *
  generalize ((fold syncFilter (.start state.activeBank) config.filters.toList).run
    CardState.device state).state = synced at *
  have hunrelated' : state.Unrelated synced frame := by
    rw [hfinal] at hunrelated
    exact hunrelated.of_published
  have hsyncedAlike : state.SteersAlike frame synced :=
    hunrelated'.steersAlike hsynced.layout_eq hsynced.bank_eq hsynced.activeBank_eq
      fun _ _ => Or.inr (Or.inl rfl)
  have hearlier : ∀ step ∈ syncs ++ fills, state.SteersAlike frame (step.after device) := by
    intro step hstep
    rcases List.mem_append.mp hstep with hstep | hstep
    · have hsync := (hsyncs step hstep).1
      exact hunrelated'.steersAlike hsync.layout_eq hsync.bank_eq hsync.activeBank_eq
        (hbetween step hstep)
    · exact hsyncedAlike.trans ((hfills step hstep).1.steersAlike frame)
  have hstates : (load memory config).statesAfterWrites device state =
      (syncs ++ fills).map (WriteStep.after device) ++ [synced.published (table.fill config)] := by
    rw [statesAfterWrites, hsteps, hpublish, ← List.append_assoc, List.map_append,
      List.map_singleton, hflip.1]
  rw [hstates, hfinal]
  refine ⟨fun now hnow => ?_, fun now hnow => ?_, List.getLast?_concat, ?_⟩
  · rcases List.mem_append.mp hnow with hnow | hnow
    · obtain ⟨step, hstep, rfl⟩ := List.mem_map.mp hnow
      exact (hearlier step hstep).filterHits_eq
    · rw [List.mem_singleton.mp hnow, ← hsyncedAlike.filterHits_eq]
      exact filterHits_congr fun slot _ => hit_published synced _ slot frame
  · rw [List.dropLast_concat] at hnow
    obtain ⟨step, hstep, rfl⟩ := List.mem_map.mp hnow
    exact ⟨(hearlier step hstep).activeBank_eq, (hearlier step hstep).classify_eq⟩
  · rw [activeBank_published, hsynced.activeBank_eq]

/-- Of two cards in step with configurations that carry their filters alike, a frame has nothing to
do with what changes if it is wanted by no filter that does, neither before nor after. -/
lemma unrelated_of_wants (h : config.Slotted) {config' : Configuration} {final : CardState}
    (hphysical : ∀ v, config'.physical v = config.physical v)
    (hstep : ∀ v : Fin filterCount, state.InStep (config.filters.get v))
    (hstep' : ∀ v : Fin filterCount, final.InStep (config'.filters.get v)) {frame : Array UInt8}
    (hwants : ∀ v, config'.filters.get v ≠ config.filters.get v →
      config.wants v frame = false ∧ config'.wants v frame = false) :
    state.Unrelated final frame := by
  intro slot hslot hdiffers
  obtain ⟨v, rfl⟩ := h.exists_physical hslot
  have hstart := (hstep v).hit_eq hslot frame
  have hfinal := (hstep' v).hit_eq ((hphysical v).symm ▸ hslot) frame
  rw [hphysical v] at hfinal
  rw [hstart, hfinal]
  by_cases hsame : config'.filters.get v = config.filters.get v
  · have hnow := hstep' v
    rw [hsame] at hnow
    cases henabled : (config.filters.get v).enabled with
    | false =>
      exact ⟨Configuration.wants_of_disabled henabled frame,
        Configuration.wants_of_disabled (by rw [hsame, henabled]) frame⟩
    | true =>
      -- The slot is on with the same pattern on both cards.
      refine absurd (Prod.ext ?_ ?_) hdiffers
      · exact hnow.isEnabled_eq.trans (hstep v).isEnabled_eq.symm
      · exact (hnow.holds henabled).trans ((hstep v).holds henabled).symm
  · exact hwants v hsame

/-- A load of a card in step changes no slot, so that no frame has to do with what it changes. -/
lemma unrelated_of_inStep (h : config.Slotted) (hshape : state.Shaped config)
    (hstep : ∀ v : Fin filterCount, state.InStep (config.filters.get v))
    (htable : ColourTable.forConfiguration memory config = .ok table) (frame : Array UInt8) :
    state.Unrelated ((load memory config).run CardState.device state).state frame := by
  obtain ⟨-, ⟨now, haddressing, hfinal⟩, -⟩ := run_load_of_inStep h hshape hstep htable
  intro slot hslot hdiffers
  refine absurd ?_ hdiffers
  rw [hfinal, programmed_published _ _ hslot, haddressing.programmed_eq]

/-- **A load never disturbs unrelated traffic.** A frame that hits no slot whose enable bit or
content differs between the start and the end of a load, neither in its state at the start nor in
that at the end, hits the same slots after every write of the load; it is steered as at the start
after every write but the last, whatever the interface and the HLB outcome, and the last write
makes the other bank active and leaves the final state.  This holds for every frame when the slots
of the card are already in step with the filters, so that only streams or partial expressions can
have changed. -/
theorem load_spares_unrelated (hreachable : config.Reachable) {card : Card}
    (hshape : card.state.Shaped config) (memory : Memory) :
    let program := load memory config
    let final := (program.run Card.device card).state.state
    let states := (program.statesAfterWrites Card.device card).map Card.state
    (∀ failure, (program.run Card.device card).result = .error failure → states = []) ∧
      ∀ summary, (program.run Card.device card).result = .ok summary →
        (∀ frame, card.state.Unrelated final frame →
          card.state.SteadyUntilFlip states final frame) ∧
        ((∀ v : Fin filterCount, card.state.InStep (config.filters.get v)) →
          ∀ frame, card.state.SteadyUntilFlip states final frame) := by
  intro program final states
  have h := hreachable.slotted
  have hstates : states = program.statesAfterWrites CardState.device card.state :=
    (Card.projects.statesAfterWrites _ _).symm
  have hfinal : final = (program.run CardState.device card.state).state :=
    (Card.projects.run_state _ _).symm
  rw [hstates, hfinal, ← Card.projects.run_result]
  cases htable : ColourTable.forConfiguration memory config with
  | error failure =>
    obtain ⟨hresult, hsteps⟩ := run_load_of_refused card.state htable
    refine ⟨fun _ _ => ?_, fun summary hok => ?_⟩
    · rw [statesAfterWrites, hsteps, List.map_nil]
    · rw [hresult] at hok
      cases hok
  | ok table =>
    refine ⟨fun failure herror => ?_, fun summary _ => ⟨fun frame hunrelated => ?_,
      fun hstep frame => ?_⟩⟩
    · obtain ⟨hresult, -⟩ := run_load_eq h hshape htable
      rw [hresult] at herror
      cases herror
    · exact load_steadyUntilFlip h hshape htable hunrelated
    · exact load_steadyUntilFlip h hshape htable (unrelated_of_inStep h hshape hstep htable frame)

/-- On a loaded card the second filter is rewritten and the stream is cleared.  A frame for ARP has
nothing to do with the second filter: it goes to the stream up to the flip, and is dropped from
there on.  If only the stream is cleared, no frame has to do with any slot. -/
theorem load_spares_unrelated_firstFilter :
    ∃ (card : Card) (summary clearedSummary : LoadSummary),
      let run := (load .addressSpace .secondChanged).run Card.device card
      let states := ((load .addressSpace .secondChanged).statesAfterWrites Card.device card).map
        Card.state
      let clearing := load .addressSpace (Configuration.secondFilter.attempt (.clearStream 0))
      (clearing.run Card.device card).result = .ok clearedSummary ∧
        (∀ frame, card.state.SteadyUntilFlip
          ((clearing.statesAfterWrites Card.device card).map Card.state)
          (clearing.run Card.device card).state.state frame) ∧
        run.result = .ok summary ∧
        run.state.state.programmed 1 ≠ card.state.programmed 1 ∧
        card.state.Unrelated run.state.state (frameOfType 0x08 0x06) ∧
        card.state.SteadyUntilFlip states run.state.state (frameOfType 0x08 0x06) ∧
        card.state.classify (frameOfType 0x08 0x06) 0 (.bits 0) = .stream 0 ∧
        run.state.state.classify (frameOfType 0x08 0x06) 0 (.bits 0) = .drop := by
  have h := Configuration.reachable_secondFilter.slotted
  have h' := Configuration.reachable_secondChanged.slotted
  obtain ⟨table, htable⟩ := ColourTable.exists_forConfiguration_firstFilter
  obtain ⟨fresh, _, -, hfresh, hfit, hok⟩ := exists_loaded h
    (show ColourTable.forConfiguration .addressSpace .secondFilter = .ok table from htable)
  have hloaded := (load_live h hfresh hok).1
  have hstep := inStep_loaded h hfresh hfit hok
  have hsteered := load_classify h hfresh hfit hok (frameOfType 0x08 0x06) 0 (.bits 0)
  have hfit' := terminationsFit_loaded h hfresh hfit hok
  generalize ((load .addressSpace .secondFilter).run Card.device fresh).state = card at *
  have hshape : card.state.Shaped .secondChanged :=
    ⟨hloaded.layout_eq, hloaded.entries_eq, hloaded.bits_eq⟩
  obtain ⟨⟨summary, hreload⟩, -⟩ := run_load h' hshape
    (show ColourTable.forConfiguration .addressSpace .secondChanged = .ok table from htable)
  rw [Card.projects.run_result] at hreload
  have hstep' := inStep_loaded h' hshape hfit' hreload
  -- Only the first filter wants the frame, and it stays as it is.
  have hmisses : ∀ v : Fin filterCount, v.val ≠ 0 →
      Configuration.secondFilter.wants v (frameOfType 0x08 0x06) = false ∧
        Configuration.secondChanged.wants v (frameOfType 0x08 0x06) = false := by
    decide +kernel
  have hchanged : ∀ v, Configuration.secondChanged.filters.get v ≠
      Configuration.secondFilter.filters.get v → v.val ≠ 0 := by
    decide
  have hunrelated := unrelated_of_wants h (by decide) hstep hstep' fun v hv =>
    hmisses v (hchanged v hv)
  obtain ⟨-, hspares⟩ :=
    load_spares_unrelated Configuration.reachable_secondChanged hshape .addressSpace
  -- Clearing the stream leaves every slot in step.
  have hcleared := Configuration.reachable_secondFilter.edit (.clearStream 0)
  have hclearedShape :
      card.state.Shaped (Configuration.secondFilter.attempt (.clearStream 0)) :=
    ⟨hloaded.layout_eq, hloaded.entries_eq, hloaded.bits_eq⟩
  obtain ⟨⟨clearedSummary, hclearing⟩, -⟩ := run_load hcleared.slotted hclearedShape
    (show ColourTable.forConfiguration .addressSpace
      (Configuration.secondFilter.attempt (.clearStream 0)) = .ok table from htable)
  rw [Card.projects.run_result] at hclearing
  obtain ⟨-, hsparesAll⟩ := load_spares_unrelated hcleared hclearedShape .addressSpace
  refine ⟨card, summary, clearedSummary, hclearing, (hsparesAll _ hclearing).2 hstep, hreload,
    fun hsame => ?_, hunrelated, (hspares _ hreload).1 _ hunrelated, hsteered.trans ?_,
    (load_classify h' hshape hfit' hreload _ 0 (.bits 0)).trans ?_⟩
  · -- A frame for IPv4 hits the slot before, and not after.
    have hbefore := (hstep ⟨1, by decide⟩).hit_eq (by decide) (frameOfType 0x08 0x00)
    have hafter := (hstep' ⟨1, by decide⟩).hit_eq (by decide) (frameOfType 0x08 0x00)
    have hhit := hafter.symm.trans ((hit_eq_of_programmed_eq hsame _).trans hbefore)
    exact absurd hhit (by decide +kernel)
  · rw [Configuration.virtualHits_of_first fun v hv => (hmisses v hv).1,
      if_pos (Configuration.wants_of_any (by decide) (by decide) _)]
    decide +kernel
  · rw [Configuration.virtualHits_of_first fun v hv => (hmisses v hv).2,
      if_pos (Configuration.wants_of_any (by decide) (by decide) _)]
    decide +kernel

end Loader

end PacketSteering
