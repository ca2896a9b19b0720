import PacketSteering.Proofs.ColourTable.Packing
import PacketSteering.Proofs.Loader.Swap
import PacketSteering.Proofs.Loader.Unrelated

/-!
# Sessions

A session starts with a load that succeeds, and goes on with replacements and, between them, with
edits that stage the next one (`Loader.Session`).  At every moment all slots but the swap slot are
in step with the configuration (`Configuration.Tracks`); right after a call that succeeded, the swap
slot is too, and the active bank is the table of the configuration (`Configuration.Describes`).

So the configuration keeps describing the card, however the slots have wandered meanwhile, and
loading it once more finds nothing to do but to publish the same table again
(`Loader.session_describes_card`).
-/

namespace PacketSteering

open Program CardState

namespace Configuration

/-- What a session keeps up at every moment. -/
structure Tracks (config : Configuration) (state : CardState) : Prop where
  reachable : config.Reachable
  shaped : state.Shaped config
  inStep : ∀ v : Fin filterCount, v ≠ swapFin → state.InStep (config.filters.get v)

/-- A configuration tells what is on a card: every slot is in step, and the active bank is the
table of the configuration. -/
structure Describes (config : Configuration) (state : CardState) : Prop where
  reachable : config.Reachable
  shaped : state.Shaped config
  inStep : ∀ v : Fin filterCount, state.InStep (config.filters.get v)
  live : ∃ memory table, ColourTable.forConfiguration memory config = .ok table ∧
    state.bank state.activeBank = table.fill config

lemma Describes.tracks {config : Configuration} {state : CardState} (h : config.Describes state) :
    config.Tracks state :=
  ⟨h.reachable, h.shaped, fun v _ => h.inStep v⟩

/-- Staging edits leave the slots that are in step in step. -/
lemma Tracks.attempt {config : Configuration} {state : CardState} (h : config.Tracks state)
    {edit : Edit} (hedit : edit.Stages) : (config.attempt edit).Tracks state := by
  obtain ⟨hlayout, hstreams, hfilters⟩ := hedit.attempt config
  refine ⟨h.reachable.edit edit, ⟨?_, fun bank => ?_, fun bank => ?_⟩, fun v hv => ?_⟩
  · rw [h.shaped.layout_eq, hlayout]
  · rw [h.shaped.entries_eq, hlayout]
  · rw [h.shaped.bits_eq, entryBits, entryBits, hlayout, hstreams]
  · rw [hfilters v hv]
    exact h.inStep v hv

end Configuration

namespace Loader

variable {memory : Memory} {config : Configuration} {table : ColourTable} {state final : CardState}
  {target : Fin filterCount} {steps : List (WriteStep CardState)}

/-! ## After a load -/

lemma load_describes (hreachable : config.Reachable) (hshape : state.Shaped config)
    (hfit : state.TerminationsFit) {summary : LoadSummary}
    (hok : ((load memory config).run CardState.device state).result = .ok summary) :
    config.Describes ((load memory config).run CardState.device state).state := by
  have h := hreachable.slotted
  obtain ⟨hloaded, table, htable, hlive⟩ := load_publishes h hshape hok
  obtain ⟨-, -, hstep⟩ := load_inStep h hshape hfit hok
  exact ⟨hreachable, hloaded, hstep, memory, table, htable, hlive⟩

/-! ## After a replacement -/

lemma SwapPhases.describes_final (phases : SwapPhases table config target state final steps)
    (h : config.Tracks state) (hreachable : (config.replaced target).Reachable)
    (htarget : target ≠ swapFin)
    (htable : ColourTable.forConfiguration memory config = .ok table) :
    (config.replaced target).Describes final := by
  have hslotted := h.reachable.slotted
  have hshaped := phases.shaped_final h.shaped htable
  exact ⟨hreachable, ⟨hshaped.layout_eq, hshaped.entries_eq, hshaped.bits_eq⟩,
    fun v => phases.inStep_final hslotted htarget fun _ hswap => h.inStep v hswap,
    memory, table, htable, phases.live_final hslotted htarget⟩

/-! ## Sessions -/

/-- The configuration and the card of a session, and whether its last step was a call that
succeeded.  A session starts with a load of a card of the right shape, whatever else is on it. -/
inductive Session : Bool → Configuration → Card → Prop
  | load {config : Configuration} {card : Card} (hreachable : config.Reachable)
      (hshape : card.state.Shaped config) (hfit : card.state.TerminationsFit) {memory : Memory}
      {summary : LoadSummary}
      (hok : ((load memory config).run Card.device card).result = .ok summary) :
      Session true config ((load memory config).run Card.device card).state
  | edit {settled : Bool} {config : Configuration} {card : Card} (h : Session settled config card)
      {edit : Configuration.Edit} (hedit : edit.Stages) : Session false (config.attempt edit) card
  | swap {settled : Bool} {config : Configuration} {card : Card} (h : Session settled config card)
      (memory : Memory) {target : ℕ} (htarget : target < swapSlot) :
      Session ((swapFilter memory config target).run Card.device card).result.1.isOk
        ((swapFilter memory config target).run Card.device card).result.2
        ((swapFilter memory config target).run Card.device card).state

/-- Any number of edits may stage a replacement. -/
lemma Session.foldl_attempt {settled : Bool} {card : Card} (h : Session settled config card)
    {edit : Configuration.Edit} {edits : List Configuration.Edit}
    (hstages : ∀ other ∈ edit :: edits, other.Stages) :
    Session false ((edit :: edits).foldl Configuration.attempt config) card := by
  induction edits generalizing settled config edit with
  | nil => exact h.edit (hstages edit List.mem_cons_self)
  | cons next rest ih =>
    obtain ⟨hedit, hrest⟩ := List.forall_mem_cons.mp hstages
    exact ih (h.edit hedit) hrest

/-- A replacement of a session keeps what the session does. -/
lemma swapFilter_tracks (h : config.Tracks state) (memory : Memory) (target : ℕ) :
    let run := (swapFilter memory config target).run CardState.device state
    run.result.2.Tracks run.state ∧
      (run.result.1.isOk = true → run.result.2.Describes run.state) := by
  intro run
  have hreachable : run.result.2.Reachable := h.reachable.swap CardState.device state memory target
  rcases Configuration.swapFilter_result CardState.device state memory config target with
    ⟨failure, hresult⟩ | ⟨htarget, hne, summary, hresult⟩
  · rcases swapFilter_cases memory h.reachable.slotted h.shaped target with
      ⟨-, -, hstate, -⟩ | ⟨-, -, -, -, ⟨_, hok⟩, -⟩
    · simp only [run, hresult, hstate]
      exact ⟨h, fun hok => absurd hok Bool.false_ne_true⟩
    · rw [hresult] at hok
      cases hok
  · rcases swapFilter_cases memory h.reachable.slotted h.shaped target with
      ⟨_, herror, -, -⟩ | ⟨_, table, -, htable, -, ⟨phases⟩⟩
    · rw [hresult] at herror
      cases herror
    · have hconfig : run.result.2 = config.replaced ⟨target, htarget⟩ :=
        congrArg Prod.snd hresult
      rw [hconfig] at hreachable ⊢
      have hdescribes := phases.describes_final h hreachable hne htable
      exact ⟨hdescribes.tracks, fun _ => hdescribes⟩

/-- A session keeps the slots in step, and a call that succeeds leaves a card that the
configuration describes. -/
theorem Session.tracks {settled : Bool} {card : Card} (h : Session settled config card) :
    config.Tracks card.state ∧ (settled = true → config.Describes card.state) := by
  induction h with
  | load hreachable hshape hfit hok =>
    rw [← Card.projects.run_result] at hok
    have hdescribes := load_describes hreachable hshape hfit hok
    rw [Card.projects.run_state] at hdescribes
    exact ⟨hdescribes.tracks, fun _ => hdescribes⟩
  | edit _ hedit ih =>
    exact ⟨ih.1.attempt hedit, fun hsettled => absurd hsettled Bool.false_ne_true⟩
  | @swap _ config card _ memory target _ ih =>
    have hswap := swapFilter_tracks ih.1 memory target
    simp only [Card.projects.run_result, Card.projects.run_state] at hswap
    exact hswap

/-! ## Loading once more -/

/-- The active bank of a card that a configuration describes is the built table. -/
lemma describes_build_eq (h : config.Describes state)
    (hgrants : memory.grants (2 * rowCount config.layout.entries config.entryBits) = true) :
    ColourTable.build memory config = .ok (state.bank state.activeBank) := by
  obtain ⟨earlier, table, htable, hlive⟩ := h.live
  have hfilled : ColourTable.Filled config.layout.entries config.entryBits table :=
    .alloc htable
  rw [hlive]
  exact hfilled.build_eq hgrants

/-- Loading a configuration that describes the card changes no frame's steering at any time. -/
lemma reload_classify_eq (h : config.Describes state)
    (htable : ColourTable.forConfiguration memory config = .ok table) (frame : Array UInt8)
    (interface : UInt8) (hlb : HlbOutcome) :
    ∀ now ∈ (load memory config).statesAfterWrites CardState.device state,
      now.classify frame interface hlb = state.classify frame interface hlb := by
  have hslotted := h.reachable.slotted
  obtain ⟨earlier, live, hlive, hbank⟩ := h.live
  obtain ⟨hentries, hbits⟩ := ColourTable.forConfiguration_shape hlive
  have hserves : state.Serves config := serves_of_fill hslotted hentries hbits hbank
  obtain ⟨hlayout, hserves', hstep'⟩ := load_inStep_of_inStep hslotted h.shaped h.inStep htable
  have hsteady := load_steadyUntilFlip hslotted h.shaped htable
    (unrelated_of_inStep hslotted h.shaped h.inStep htable frame)
  intro now hnow
  rw [← List.dropLast_append_getLast? _ hsteady.last_eq] at hnow
  rcases List.mem_append.mp hnow with hnow | hnow
  · exact (hsteady.steady now hnow).2 interface hlb
  · rw [List.mem_singleton.mp hnow, hserves'.classify_of_inStep hslotted hlayout hstep',
      hserves.classify_of_inStep hslotted h.shaped.layout_eq h.inStep]

/-- **The configuration keeps describing the card.** In every session a replacement succeeds once
its memory is granted.  Right after every call that succeeded, each slot is on exactly if its filter
is and then holds the pattern of its rule, and the active bank is the built table.  A further load
of the configuration then finds every slot untouched, records from an empty log one burst of writes
to the bank that was not active and the flip, and steers every frame as before after each of its
writes. -/
theorem session_describes_card {settled : Bool} {card : Card} (h : Session settled config card) :
    (∀ (memory : Memory) (target : ℕ), target < swapSlot →
        memory.grants (2 * rowCount config.layout.entries config.entryBits) = true →
          ((swapFilter memory config target).run Card.device card).result.1.isOk = true) ∧
      (settled = true →
        (∀ v : Fin filterCount,
          card.state.isEnabled (config.physical v) = (config.filters.get v).enabled ∧
            ((config.filters.get v).enabled = true →
              card.state.slots[config.physical v]? =
                some (.ofPattern (config.filters.get v).rule.pattern))) ∧
          ∀ memory : Memory,
            memory.grants (2 * rowCount config.layout.entries config.entryBits) = true →
              let bank := card.state.activeBank.other
              let program := load memory config
              let run := program.run Card.device card.clearEvents
              ColourTable.build memory config = .ok (card.state.bank card.state.activeBank) ∧
                run.result = .ok ⟨0, 0, 0, filterCount, bank⟩ ∧
                run.state.journal.events = #[.colourWrite bank false, .bankFlip bank] ∧
                ∀ now ∈ (program.statesAfterWrites Card.device card.clearEvents).map Card.state,
                  ∀ frame interface hlb, now.classify frame interface hlb =
                    card.state.classify frame interface hlb) := by
  obtain ⟨htracks, hsettled⟩ := h.tracks
  have hslotted := htracks.reachable.slotted
  refine ⟨fun memory target htarget hgrants => ?_, fun hok => ?_⟩
  · obtain ⟨table, htable⟩ := ColourTable.exists_forConfiguration hslotted hgrants
    obtain ⟨summary, hsummary⟩ := swapFilter_succeeds Card.device card htable htarget
    rw [hsummary]
    rfl
  have hdescribes := hsettled hok
  refine ⟨fun v => ⟨(hdescribes.inStep v).isEnabled_eq, (hdescribes.inStep v).holds⟩,
    fun memory hgrants => ?_⟩
  intro bank program run
  have hbuilt := describes_build_eq hdescribes hgrants
  obtain ⟨table, htable, -⟩ := ColourTable.build_eq_ok_iff.mp hbuilt
  obtain ⟨hresult, -⟩ := run_load_of_inStep hslotted hdescribes.shaped hdescribes.inStep htable
  refine ⟨hbuilt, ?_, ?_, ?_⟩
  · exact (Card.projects.run_result program card.clearEvents).symm.trans hresult
  · exact events_load_of_inStep hslotted hdescribes.shaped hdescribes.inStep htable
  · rw [← Card.projects.statesAfterWrites]
    exact fun now hnow frame interface hlb =>
      reload_classify_eq hdescribes htable frame interface hlb now hnow

/-- A fresh card is loaded, a rule that asks for IPv4 is staged, and it takes the place of the first
filter's: a further load leaves every slot untouched. -/
theorem session_describes_card_firstFilter :
    ∃ (config : Configuration) (card : Card), Session true config card ∧
      (∃ fields, (config.filters.get ⟨0, by decide⟩).rule.layer3 = .ipv4 fields) ∧
        card.state.isEnabled (config.physical ⟨0, by decide⟩) = true ∧
          ((load .addressSpace config).run Card.device card.clearEvents).result =
            .ok ⟨0, 0, 0, filterCount, card.state.activeBank.other⟩ := by
  obtain ⟨fresh, summary, -, hshape, hfit, hok⟩ := exists_loaded_firstFilter
  set loaded := ((load .addressSpace .firstFilter).run Card.device fresh).state
  have hloaded : Session true .firstFilter loaded :=
    .load Configuration.reachable_firstFilter hshape hfit hok
  have hstages : ∀ edit ∈ Configuration.Edit.firstStaged, edit.Stages := by
    simp [Configuration.Edit.firstStaged, Configuration.Edit.Stages]
  have hstaged : Session false .firstStaged loaded := hloaded.foldl_attempt hstages
  have hswap := (session_describes_card hstaged).1 .addressSpace 0 (by decide) (by decide +kernel)
  have hrun := hstaged.swap .addressSpace (by decide : 0 < swapSlot)
  set swapped := ((swapFilter .addressSpace .firstStaged 0).run Card.device loaded).state
  have hswapped :
      Session true (Configuration.firstStaged.replaced ⟨0, by decide⟩) swapped := by
    rcases Configuration.swapFilter_result Card.device loaded .addressSpace .firstStaged 0 with
      ⟨failure, hresult⟩ | ⟨h0, hne, summary, hresult⟩
    · rw [hresult] at hswap
      cases hswap
    · rw [hresult] at hrun
      exact hrun
  obtain ⟨hslots, hreload⟩ := (session_describes_card hswapped).2 rfl
  refine ⟨Configuration.firstStaged.replaced ⟨0, by decide⟩, swapped, hswapped, ⟨_, rfl⟩, ?_, ?_⟩
  · rw [(hslots ⟨0, by decide⟩).1]
    decide +kernel
  · exact (hreload .addressSpace (by decide +kernel)).2.1

end Loader

end PacketSteering
