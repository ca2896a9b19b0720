import Mathlib.Data.List.Chain
import Mathlib.Tactic.Common
import PacketSteering.Proofs.Card.Channel
import PacketSteering.Proofs.Card.Steering

/-!
# Cards under any traffic

A card takes any access to any register, and frames may be watched at any time.  What a write can
come to is told by `CardState.Effect`: it keeps the shape of the banks, and if it gives no event
then no frame is steered differently (`Effect.classify_eq`).  A journal is therefore complete when
it is brought up to date after every event: its last observation is how the watched frames are
steered now (`Journal.Current`), and none of the others could have been left out
(`Journal.Orderly`).

Both hold of a card at all times (`Card.InUse.complete`), so that nothing that a driver does can
disturb live steering without leaving a trace (`Card.traffic_observed`).
-/

namespace PacketSteering

namespace CardState

/-! ## What a write can do -/

/-- What a write can come to, with its events: the control word, the slots or a row are replaced,
or nothing but latches. -/
inductive Effect (state : CardState) : CardState × List Event → Prop
  | control (word : UInt32) : Effect state (state.writeControl word)
  | slots (slots : Vector CardSlot filterCount) (event : Event) :
      Effect state ({ state with slots }, [event])
  | row (bank : Bank) (row : ℕ) (data : UInt16) (event : Event) :
      Effect state (state.setRow bank row data, [event])
  | latches (filterAddress : UInt32) (latchedBank : Bank) (latchedRow : ℕ) :
      Effect state ({ state with filterAddress, latchedBank, latchedRow }, [])

variable (state : CardState)

lemma effect_unchanged : state.Effect (state, []) :=
  .latches state.filterAddress state.latchedBank state.latchedRow

/-- Filter data for a slot, a part or a word that the card does not have is ignored. -/
lemma effect_writeFilterData (data : UInt32) : state.Effect (state.writeFilterData data) := by
  unfold writeFilterData
  dsimp only
  split
  case isFalse => exact state.effect_unchanged
  case isTrue =>
    split
    case h_2 => exact state.effect_unchanged
    case h_1 =>
      split
      case h_1 => exact .slots _ _
      case h_2 => exact state.effect_unchanged

/-- A row past the end of a bank is ignored. -/
lemma effect_writeColour (word : UInt32) : state.Effect (state.writeColour word) := by
  unfold writeColour
  dsimp only
  split
  case isTrue => exact .latches state.filterAddress _ _
  case isFalse =>
    split
    case isTrue => exact .row _ _ _ _
    case isFalse => exact state.effect_unchanged

lemma effect_write (offset value : UInt32) : state.Effect (state.write offset value) := by
  unfold write
  split_ifs
  · exact .latches value state.latchedBank state.latchedRow
  · exact state.effect_writeFilterData value
  · exact state.effect_writeColour value
  · exact .control value
  · exact state.effect_unchanged

/-- A control word that gives no event switches no slot and makes no other bank active. -/
lemma writeControl_quiet {word : UInt32} (h : (state.writeControl word).2 = []) :
    (∀ slot < filterCount,
        (state.writeControl word).1.isEnabled slot = state.isEnabled slot) ∧
      (state.writeControl word).1.activeBank = state.activeBank := by
  obtain ⟨hslots, hflip⟩ := List.append_eq_nil_iff.mp h
  constructor
  · intro slot hslot
    have hnone := List.filterMap_eq_nil_iff.mp hslots slot (List.mem_range.mpr hslot)
    split at hnone
    case isTrue heq => exact heq.symm
    case isFalse => split at hnone <;> cases hnone
  · split at hflip
    case isTrue heq => exact heq.symm
    case isFalse => cases hflip

variable {state} {after : CardState × List Event}

lemma Effect.layout_eq (h : state.Effect after) : after.1.layout = state.layout := by
  cases h with
  | control => rfl
  | slots => rfl
  | row bank =>
    show (state.setRow bank _ _).layout = state.layout
    rw [setRow_eq_putBank, layout_putBank]
  | latches => rfl

lemma Effect.sameShape (h : state.Effect after) (bank : Bank) :
    (after.1.bank bank).SameShape (state.bank bank) := by
  cases h with
  | control => exact .refl (state.bank bank)
  | slots => exact .refl (state.bank bank)
  | row written row data =>
    show ((state.setRow written row data).bank bank).SameShape (state.bank bank)
    rw [setRow_eq_putBank, bank_putBank]
    split
    case isTrue heq =>
      rw [heq]
      exact (state.bank written).sameShape_setRow row data
    case isFalse => exact .refl _
  | latches => exact .refl (state.bank bank)

/-- A write without an event steers every frame as before. -/
lemma Effect.classify_eq (h : state.Effect after) (hquiet : after.2 = []) (frame : Array UInt8)
    (interface : UInt8) (hlb : HlbOutcome) :
    after.1.classify frame interface hlb = state.classify frame interface hlb := by
  cases h with
  | control word =>
    obtain ⟨henabled, hactive⟩ := state.writeControl_quiet hquiet
    have hlayout : (state.writeControl word).1.layout = state.layout := rfl
    have hlive : (state.writeControl word).1.bank (state.writeControl word).1.activeBank =
        state.bank state.activeBank := by
      rw [hactive]
      rfl
    have hhits : (state.writeControl word).1.filterHits frame = state.filterHits frame :=
      filterHits_congr fun slot hslot => hit_congr (henabled slot hslot) (fun _ => rfl) frame
    exact classify_congr hlayout hlive hhits interface hlb
  | slots => cases hquiet
  | row => cases hquiet
  | latches => rfl

end CardState

namespace Journal

/-! ## Neighbours -/

lemma isChain_push {α : Type} {related : α → α → Prop} {entries : Array α}
    (h : entries.toList.IsChain related) {entry : α}
    (hlast : ∀ last, entries.back? = some last → related last entry) :
    (entries.push entry).toList.IsChain related := by
  rw [Array.toList_push]
  refine h.append (List.isChain_singleton entry) fun last hmem first hfirst => ?_
  obtain rfl : entry = first := by simpa using hfirst
  exact hlast last (by simpa [← Array.getLast?_toList] using hmem)

/-- No event of a burst stands right behind the same one. -/
def BurstsOnce (events : Array Event) : Prop :=
  events.toList.IsChain fun earlier later => earlier.isBurst = true → earlier ≠ later

/-- A journal in which nothing is out of place: neighbouring observations differ, every observation
is of an event that is in the journal, and no burst is recorded twice. -/
structure Orderly (journal : Journal) : Prop where
  distinct : journal.observations.toList.IsChain fun earlier later =>
    earlier.colours ≠ later.colours
  numbered : ∀ observation ∈ journal.observations, ∀ number,
    observation.event = some number → number < journal.events.size
  bursts : BurstsOnce journal.events

/-- The last observation of a journal, if it has any, is how a state steers the watched frames. -/
def Current (journal : Journal) (state : CardState) : Prop :=
  ∀ last, journal.observations.back? = some last → last.colours = journal.colours state

variable {journal : Journal} {state : CardState}

/-! ## Observing -/

/-- An observation is added exactly if it tells something new. -/
lemma observe_cases (journal : Journal) (state : CardState) (event : Option ℕ) :
    (journal.Current state ∧ journal.observe state event = journal) ∨
      ((∀ last, journal.observations.back? = some last → last.colours ≠ journal.colours state) ∧
        journal.observe state event = { journal with
          observations := journal.observations.push ⟨event, journal.colours state⟩ }) := by
  unfold observe Current
  dsimp only
  split
  case h_1 last hlast =>
    split
    case isTrue heq =>
      refine .inl ⟨fun other hother => ?_, rfl⟩
      obtain rfl : last = other := Option.some.inj (hlast.symm.trans hother)
      exact heq
    case isFalse hne =>
      refine .inr ⟨fun other hother => ?_, rfl⟩
      obtain rfl : last = other := Option.some.inj (hlast.symm.trans hother)
      exact hne
  case h_2 hnone => exact .inr ⟨fun other hother => by simp [hnone] at hother, rfl⟩

lemma current_observe (journal : Journal) (state : CardState) (event : Option ℕ) :
    (journal.observe state event).Current state := by
  rcases journal.observe_cases state event with ⟨hcurrent, heq⟩ | ⟨-, heq⟩
  · rwa [heq]
  · rw [heq]
    intro last hlast
    rw [Array.back?_push, Option.some.injEq] at hlast
    rw [← hlast]
    rfl

lemma Orderly.observe (h : journal.Orderly) (state : CardState) {event : Option ℕ}
    (hevent : ∀ number, event = some number → number < journal.events.size) :
    (journal.observe state event).Orderly := by
  rcases journal.observe_cases state event with ⟨-, heq⟩ | ⟨hnew, heq⟩
  · rwa [heq]
  · rw [heq]
    refine ⟨isChain_push h.distinct hnew, fun observation hmem => ?_, h.bursts⟩
    rcases Array.mem_push.mp hmem with hmem | rfl
    · exact h.numbered observation hmem
    · exact hevent

lemma Orderly.restart {events : Array Event} (h : BurstsOnce events) {probes : Array Probe} :
    Orderly ⟨events, probes, #[]⟩ :=
  ⟨List.isChain_nil, by simp, h⟩

/-! ## Recording -/

/-- An event that is recorded, or continues the last one, has a number. -/
lemma size_pushEvent_pos (events : Array Event) (event : Event) :
    0 < (pushEvent events event).size := by
  unfold pushEvent
  split
  case isTrue hburst =>
    rw [Array.size_pos_iff]
    rintro rfl
    cases hburst.2
  case isFalse => simp

lemma size_le_size_pushEvent (events : Array Event) (event : Event) :
    events.size ≤ (pushEvent events event).size := by
  unfold pushEvent
  split <;> simp

lemma BurstsOnce.pushEvent {events : Array Event} (h : BurstsOnce events) (event : Event) :
    BurstsOnce (Journal.pushEvent events event) := by
  unfold Journal.pushEvent
  split
  case isTrue => exact h
  case isFalse hnew =>
    refine isChain_push h fun last hlast hburst heq => hnew ⟨?_, ?_⟩
    · rwa [← heq]
    · rw [hlast, heq]

lemma Orderly.record (h : journal.Orderly) (state : CardState) (event : Event) :
    (Journal.record state journal event).Orderly := by
  have hsize := size_le_size_pushEvent journal.events event
  have hpos := size_pushEvent_pos journal.events event
  have hpushed : Orderly { journal with events := pushEvent journal.events event } :=
    ⟨h.distinct, fun observation hmem number hnumber =>
      Nat.lt_of_lt_of_le (h.numbered observation hmem number hnumber) hsize,
      h.bursts.pushEvent event⟩
  refine hpushed.observe state fun number hnumber => ?_
  obtain rfl := Option.some.inj hnumber
  exact Nat.sub_lt hpos (by decide)

lemma Orderly.recordAll (h : journal.Orderly) (state : CardState) (events : List Event) :
    (journal.recordAll state events).Orderly := by
  unfold Journal.recordAll
  induction events generalizing journal with
  | nil => exact h
  | cons event rest ih => exact ih (h.record state event)

/-- A journal in which an event was recorded is up to date. -/
lemma current_recordAll (journal : Journal) (state : CardState) {events : List Event}
    (hevents : events ≠ []) : (journal.recordAll state events).Current state := by
  rcases List.eq_nil_or_concat events with hnil | ⟨earlier, event, rfl⟩
  · exact absurd hnil hevents
  · rw [recordAll, List.concat_eq_append, List.foldl_append]
    exact current_observe _ _ _

/-- A journal stays up to date when no watched frame is steered differently. -/
lemma Current.of_classify_eq {now : CardState} (h : journal.Current state)
    (hclassify : ∀ frame interface hlb,
      now.classify frame interface hlb = state.classify frame interface hlb) :
    journal.Current now := by
  intro last hlast
  rw [h last hlast, colours, colours]
  simp only [hclassify]

end Journal

/-! ## Cards in use -/

namespace Card

/-- The cards that a fresh one turns into: registers are read and written at any offset and with any
value, frames are watched, and events are forgotten. -/
inductive InUse (memory : Memory) (layout : TableLayout) (bits : ℕ) : Card → Prop
  | fresh {card : Card} (h : Card.new memory layout bits = .ok card) :
      InUse memory layout bits card
  | read (offset : UInt32) {card : Card} (h : InUse memory layout bits card) :
      InUse memory layout bits (Card.read offset card).2
  | write (offset value : UInt32) {card : Card} (h : InUse memory layout bits card) :
      InUse memory layout bits (Card.write offset value card)
  | watch (probe : Probe) {card : Card} (h : InUse memory layout bits card) :
      InUse memory layout bits (card.watch probe)
  | clearEvents {card : Card} (h : InUse memory layout bits card) :
      InUse memory layout bits card.clearEvents

/-- What is kept up on a card: its banks keep their shape, and its journal is complete. -/
structure Complete (layout : TableLayout) (bits : ℕ) (card : Card) : Prop where
  layout_eq : card.state.layout = layout
  shape : ∀ bank,
    (card.state.bank bank).entries = layout.entries ∧ (card.state.bank bank).bits = bits
  orderly : card.journal.Orderly
  current : card.journal.Current card.state

variable {memory : Memory} {layout : TableLayout} {bits : ℕ} {card : Card}

lemma complete_new (h : Card.new memory layout bits = .ok card) :
    card.Complete layout bits := by
  have hshape := shape_new h
  obtain ⟨table, -, rfl⟩ := new_eq_ok_iff.mp h
  exact ⟨rfl, hshape, .restart List.isChain_nil, nofun⟩

lemma Complete.write (h : card.Complete layout bits) (offset value : UInt32) :
    (Card.write offset value card).Complete layout bits := by
  have heffect := card.state.effect_write offset value
  refine ⟨heffect.layout_eq.trans h.layout_eq, fun bank => ?_, h.orderly.recordAll _ _, ?_⟩
  · obtain ⟨hbits, hentries⟩ := heffect.sameShape bank
    exact ⟨hentries.trans (h.shape bank).1, hbits.trans (h.shape bank).2⟩
  · show (card.journal.recordAll (card.state.write offset value).1
      (card.state.write offset value).2).Current (card.state.write offset value).1
    by_cases hquiet : (card.state.write offset value).2 = []
    · rw [hquiet]
      exact h.current.of_classify_eq (heffect.classify_eq hquiet)
    · exact Journal.current_recordAll _ _ hquiet

lemma Complete.watch (h : card.Complete layout bits) (probe : Probe) :
    (card.watch probe).Complete layout bits :=
  ⟨h.layout_eq, h.shape, (Journal.Orderly.restart h.orderly.bursts).observe _ nofun,
    Journal.current_observe _ _ _⟩

lemma Complete.clearEvents (h : card.Complete layout bits) :
    card.clearEvents.Complete layout bits :=
  ⟨h.layout_eq, h.shape, (Journal.Orderly.restart List.isChain_nil).observe _ nofun,
    Journal.current_observe _ _ _⟩

lemma InUse.complete (h : InUse memory layout bits card) : card.Complete layout bits := by
  induction h with
  | fresh h => exact complete_new h
  | read offset h ih => exact ⟨ih.layout_eq, ih.shape, ih.orderly, ih.current⟩
  | write offset value h ih => exact ih.write offset value
  | watch probe h ih => exact ih.watch probe
  | clearEvents h ih => exact ih.clearEvents

/-- **A card takes any traffic, and its journal is complete.** However a card has been used, every
look-up of a frame finds its entry, and every event has a number, also the later ones of one write,
so that no step can break off; the banks keep their shape; the last observation is how the watched
frames are steered now, neighbouring observations differ, and each is of an event in the journal;
and no burst is recorded twice. -/
theorem traffic_observed (h : InUse memory layout bits card) :
    (∀ (frame : Array UInt8) (interface : UInt8) (hlb : HlbOutcome),
        (card.state.bank card.state.activeBank).get?
            (card.state.layout.encode ⟨card.state.filterHits frame, interface, hlb⟩) =
          some (card.state.classify frame interface hlb)) ∧
      (∀ (earlier : List Event) (event : Event), 0 < (Journal.pushEvent
        (earlier.foldl Journal.pushEvent card.journal.events) event).size) ∧
      (∀ bank, (card.state.bank bank).entries = layout.entries ∧
        (card.state.bank bank).bits = bits ∧
          (card.state.bank bank).rows.size = rowCount layout.entries bits) ∧
      (∀ last, card.journal.observations.back? = some last →
        last.colours = card.journal.probes.toList.map fun probe =>
          card.state.classify probe.frame probe.interface probe.hlb) ∧
      (card.journal.observations.toList.IsChain fun earlier later =>
        earlier.colours ≠ later.colours) ∧
      (∀ observation ∈ card.journal.observations, ∀ number,
        observation.event = some number → number < card.journal.events.size) ∧
      card.journal.events.toList.IsChain fun earlier later =>
        earlier.isBurst = true → earlier ≠ later := by
  have hcomplete := h.complete
  refine ⟨fun frame interface hlb => ?_, fun _ => Journal.size_pushEvent_pos _, fun bank => ?_,
    hcomplete.current, hcomplete.orderly.distinct, hcomplete.orderly.numbered,
    hcomplete.orderly.bursts⟩
  · have hlt := card.state.layout.encode_lt_entries ⟨card.state.filterHits frame, interface, hlb⟩
    obtain ⟨hentries, -⟩ := hcomplete.shape card.state.activeBank
    rw [hcomplete.layout_eq] at hlt ⊢
    rw [CardState.classify, CardState.colourAt, hcomplete.layout_eq, ColourTable.get?,
      dif_pos (hentries ▸ hlt), Option.getD_some]
  · obtain ⟨hentries, hbits⟩ := hcomplete.shape bank
    refine ⟨hentries, hbits, ?_⟩
    rw [(card.state.bank bank).size_rows, hentries, hbits]

/-- A frame is watched with the outcome of another layout, and the card is written to in a slot that
it does not have. -/
theorem traffic_observed_malformed :
    ∃ card, InUse .addressSpace .classic 2 card ∧ card.state.addressedSlot = 15 ∧
      card.journal.probes = #[⟨#[0x45], 7, .hash 3 4⟩] ∧
        ∀ last, card.journal.observations.back? = some last →
          last.colours = [card.state.classify #[0x45] 7 (.hash 3 4)] := by
  have halloc : ColourTable.alloc .addressSpace TableLayout.classic.entries 2 = .ok _ :=
    ColourTable.alloc_eq_ok (by decide) (by decide) (by decide)
  have hnew := new_eq_ok_iff.mpr ⟨_, halloc, rfl⟩
  have hused : InUse .addressSpace .classic 2 _ :=
    (((InUse.fresh hnew).watch ⟨#[0x45], 7, .hash 3 4⟩).write
      Register.filterCommand 0xffffffff).write Register.filterData 1
  exact ⟨_, hused, rfl, rfl, (traffic_observed hused).2.2.2.1⟩

end Card

end PacketSteering
