import Mathlib.Tactic.Common
import PacketSteering.Proofs.Card.Events

/-!
# Patterns there and back

A pattern that is written to a slot is read back as it was written, whatever the card was before and
whether or not the slot is enabled, and no other slot, the control word or a bank is touched by it.
This stays so while the card goes on being read and other slots being written: every slot holds what
was last written to it (`Card.ServedBy`).

A read is not free of writes, for the address of what is to be read has to be latched first, in the
very register that the next access to a slot is addressed by.  But latching is all that such a write
does (`Card.run_of_latches`), and every access to a slot latches its own address.
-/

namespace PacketSteering

open Program Register Channel

/-! ## Latching -/

/-- A write that latches an address and does no more. -/
def WriteStep.Latches (step : WriteStep CardState) : Prop :=
  step.offset = filterCommand ∨ step.offset = colour ∧ step.value &&& colourReadBit ≠ 0

namespace CardState

/-- The states that differ in latched addresses only. -/
def Latching (state now : CardState) : Prop :=
  ∃ address bank row, now =
    { state with filterAddress := address, latchedBank := bank, latchedRow := row }

lemma Latching.refl (state : CardState) : state.Latching state :=
  ⟨state.filterAddress, state.latchedBank, state.latchedRow, rfl⟩

lemma Latching.trans {first second third : CardState} (h : first.Latching second)
    (h' : second.Latching third) : first.Latching third := by
  obtain ⟨_, _, _, rfl⟩ := h
  obtain ⟨address, bank, row, rfl⟩ := h'
  exact ⟨address, bank, row, rfl⟩

lemma write_of_latches {state : CardState} {offset value : UInt32}
    (h : WriteStep.Latches ⟨state, offset, value⟩) :
    state.Latching (state.write offset value).1 ∧ (state.write offset value).2 = [] := by
  rcases h with rfl | ⟨rfl, hread⟩
  · exact ⟨⟨value, state.latchedBank, state.latchedRow, rfl⟩, rfl⟩
  · have hbit : (value &&& colourReadBit != 0) = true := bne_iff_ne.mpr hread
    rw [write_colour, writeColour]
    simp only [hbit, if_true, and_true]
    exact ⟨state.filterAddress, _, _, rfl⟩

lemma latches_readRow (state : CardState) (bank : Bank) (row : ℕ) :
    ∀ step ∈ (readRow bank row).writeSteps device state, step.Latches := by
  have hbit : (colourReadBit ||| rowAddress bank row) &&& colourReadBit ≠ 0 :=
    bne_iff_ne.mp (get_readWord bank row).2.1
  intro step hstep
  rw [readRow, writeSteps_bind, writeSteps_writeSettled, List.mem_append] at hstep
  rcases hstep with hstep | hstep
  · rw [List.mem_singleton.mp hstep]
    exact Or.inr ⟨rfl, hbit⟩
  · cases hstep

end CardState

/-- A run that only latches addresses leaves the rest of the card and its journal alone. -/
theorem Card.run_of_latches {α : Type} (program : Program α) (card : Card)
    (h : ∀ step ∈ program.writeSteps CardState.device card.state, step.Latches) :
    card.state.Latching (program.run Card.device card).state.state ∧
      (program.run Card.device card).state.journal = card.journal := by
  induction program generalizing card with
  | done result => exact ⟨.refl _, rfl⟩
  | read offset next ih => exact ih _ (Card.read offset card).2 h
  | write offset value next ih =>
    obtain ⟨hlatching, hevents⟩ := CardState.write_of_latches (h _ List.mem_cons_self)
    have hjournal : (card.write offset value).journal = card.journal := by
      show card.journal.recordAll _ (card.state.write offset value).2 = card.journal
      rw [hevents]
      rfl
    obtain ⟨hrest, hlater⟩ := ih (card.write offset value) fun step hstep =>
      h step (List.mem_cons_of_mem _ hstep)
    exact ⟨hlatching.trans hrest, hlater.trans hjournal⟩
  | note message next ih =>
    rw [Program.run_note]
    exact ih card h

/-! ## Requests -/

/-- What the channel can be asked for besides switching: to read something, or to write a pattern to
a slot. -/
inductive Request
  | readFilter (slot : ℕ)
  | readRow (bank : Bank) (row : ℕ)
  | isEnabled (slot : ℕ)
  | activeBank
  | writeFilter (slot : Fin filterCount) (pattern : Pattern)

namespace Request

/-- The steps of a request, with its answer dropped. -/
def program : Request → Program Unit
  | readFilter slot => Channel.readFilter slot >>= fun _ => pure ()
  | readRow bank row => Channel.readRow bank row >>= fun _ => pure ()
  | isEnabled slot => Channel.isEnabled slot >>= fun _ => pure ()
  | activeBank => Channel.activeBank >>= fun _ => pure ()
  | writeFilter slot pattern => Channel.writeFilter slot pattern

/-- The slot that a request writes, if it writes one. -/
def target? : Request → Option ℕ
  | writeFilter slot _ => some slot
  | _ => none

/-- What a slot holds after a request. -/
def holds (slot : ℕ) (held : CardSlot) : Request → CardSlot
  | writeFilter other pattern => if other = slot then .ofPattern pattern else held
  | _ => held

lemma holds_of_ne {request : Request} {slot : ℕ} (h : request.target? ≠ some slot)
    (held : CardSlot) : holds slot held request = held := by
  cases request with
  | writeFilter other pattern => exact if_neg fun heq => h (congrArg some heq)
  | _ => rfl

lemma latches_of_read {request : Request} (h : request.target? = none) (state : CardState) :
    ∀ step ∈ request.program.writeSteps CardState.device state, step.Latches := by
  cases request with
  | readFilter slot =>
    intro step hstep
    rw [program, writeSteps_bind, writeSteps_pure, List.append_nil] at hstep
    exact Or.inl (state.offset_readFilter slot step hstep)
  | readRow bank row =>
    intro step hstep
    rw [program, writeSteps_bind, writeSteps_pure, List.append_nil] at hstep
    exact state.latches_readRow bank row step hstep
  | isEnabled slot => exact fun step hstep => absurd hstep List.not_mem_nil
  | activeBank => exact fun step hstep => absurd hstep List.not_mem_nil
  | writeFilter slot pattern => cases h

end Request

/-! ## Many requests -/

/-- What requests make of a card: every slot holds what was last written to it, and neither the
control word nor a bank has changed. -/
structure CardState.ServedBy (start : CardState) (requests : List Request) (now : CardState) :
    Prop where
  control_eq : now.control = start.control
  bank_eq : now.bank = start.bank
  slots_eq : ∀ slot (hslot : slot < filterCount),
    now.slots[slot] = requests.foldl (Request.holds slot) start.slots[slot]

namespace Card

lemma servedBy_writeFilter {slot : ℕ} (hslot : slot < filterCount) (pattern : Pattern)
    (card : Card) : card.state.ServedBy [.writeFilter ⟨slot, hslot⟩ pattern]
      ((writeFilter slot pattern).run Card.device card).state.state := by
  obtain ⟨⟨_, hnow⟩, -⟩ := card.state.run_writeFilter hslot pattern
  rw [← Card.projects.run_state, hnow]
  refine ⟨rfl, rfl, fun other hother => ?_⟩
  rw [CardState.slots_latch, CardState.getElem_putSlot _ _ _ hother]
  rfl

lemma servedBy_request (request : Request) (card : Card) :
    card.state.ServedBy [request] (request.program.run Card.device card).state.state := by
  cases hread : request.target? with
  | none =>
    obtain ⟨⟨_, _, _, hnow⟩, -⟩ :=
      Card.run_of_latches request.program card (Request.latches_of_read hread card.state)
    rw [hnow]
    refine ⟨rfl, rfl, fun slot hslot => ?_⟩
    exact (Request.holds_of_ne (by rw [hread]; exact nofun) _).symm
  | some slot =>
    cases request with
    | writeFilter slot pattern =>
      rw [Request.program]
      exact servedBy_writeFilter slot.isLt pattern card
    | _ => cases hread

lemma servedBy_requests (requests : List Request) (card : Card) :
    card.state.ServedBy requests
      ((forEach Request.program requests).run Card.device card).state.state := by
  induction requests generalizing card with
  | nil => exact ⟨rfl, rfl, fun _ _ => rfl⟩
  | cons request rest ih =>
    have hforEach : forEach Request.program (request :: rest) =
      request.program >>= fun _ => forEach Request.program rest := rfl
    have hfirst := servedBy_request request card
    have hrest := ih (request.program.run Card.device card).state
    rw [hforEach, run_bind_state]
    refine ⟨hrest.control_eq.trans hfirst.control_eq, hrest.bank_eq.trans hfirst.bank_eq,
      fun slot hslot => ?_⟩
    rw [hrest.slots_eq slot hslot, hfirst.slots_eq slot hslot]
    rfl

end Card

/-- A slot that no request writes holds what it held. -/
lemma Request.foldl_holds {requests : List Request} {slot : ℕ}
    (h : ∀ request ∈ requests, request.target? ≠ some slot) (held : CardSlot) :
    requests.foldl (Request.holds slot) held = held := by
  induction requests with
  | nil => rfl
  | cons request rest ih =>
    rw [List.foldl_cons, Request.holds_of_ne (h request List.mem_cons_self)]
    exact ih fun other hother => h other (List.mem_cons_of_mem _ hother)

/-- **A pattern that is written is read back, and stays.** Whatever the card and the pattern, once
the pattern is written to a slot and any number of requests that do not write this slot have been
made after that, the slot reads back as the pattern, the control word and both banks are as they
were before, and every other slot holds what the requests last wrote to it, or what it held before
if they did not.  A request that writes no slot changes no slot, control bit or bank of any card,
and adds neither an event nor an observation. -/
theorem writeFilter_kept (card : Card) {slot : ℕ} (hslot : slot < filterCount)
    (pattern : Pattern) :
    (∀ requests : List Request, (∀ request ∈ requests, request.target? ≠ some slot) →
      let written := ((writeFilter slot pattern).run Card.device card).state
      let later := ((forEach Request.program requests).run Card.device written).state
      ((readFilter slot).run Card.device later).result = pattern ∧
        later.state.control = card.state.control ∧
        later.state.bankA = card.state.bankA ∧ later.state.bankB = card.state.bankB ∧
          ∀ other (hother : other < filterCount), other ≠ slot →
            later.state.slots[other] =
              requests.foldl (Request.holds other) card.state.slots[other]) ∧
      ∀ request : Request, request.target? = none → ∀ card : Card,
        let after := (request.program.run Card.device card).state
        after.state.slots = card.state.slots ∧ after.state.control = card.state.control ∧
          after.state.bankA = card.state.bankA ∧ after.state.bankB = card.state.bankB ∧
            after.journal = card.journal := by
  constructor
  · intro requests hothers written later
    have hwritten : card.state.ServedBy [.writeFilter ⟨slot, hslot⟩ pattern] written.state :=
      Card.servedBy_writeFilter hslot pattern card
    have hlater : written.state.ServedBy requests later.state :=
      Card.servedBy_requests requests written
    have hbank := hlater.bank_eq.trans hwritten.bank_eq
    refine ⟨?_, hlater.control_eq.trans hwritten.control_eq, congrFun hbank .a, congrFun hbank .b,
      fun other hother hne => ?_⟩
    · obtain ⟨hread, -⟩ := later.state.run_readFilter hslot
      rw [Card.projects.run_result] at hread
      rw [hread, hlater.slots_eq slot hslot, Request.foldl_holds hothers,
        hwritten.slots_eq slot hslot]
      simp [Request.holds]
    · rw [hlater.slots_eq other hother, hwritten.slots_eq other hother]
      simp [Request.holds, Ne.symm hne]
  · intro request hread card after
    obtain ⟨⟨_, _, _, hstate⟩, hjournal⟩ :=
      Card.run_of_latches request.program card (Request.latches_of_read hread card.state)
    have hafter : after.state = _ := hstate
    rw [hafter]
    exact ⟨rfl, rfl, rfl, rfl, hjournal⟩

/-- A blank card with slot 3 enabled. -/
def Card.slotThreeOn : Card :=
  { Card.blank with state := Card.blank.state.on 3 }

/-- A pattern that compares all bits of its first four elements. -/
def Pattern.wholeBytes : Pattern :=
  ⟨Vector.replicate _ 0xA5, Vector.replicate _ 0xFF, 3⟩

/-- A pattern that compares half of each byte, however far. -/
def Pattern.halfBytes : Pattern :=
  ⟨Vector.replicate _ 0x5A, Vector.replicate _ 0xF0, 0xFF⟩

/-- Slot 3 is written while it is enabled, then its neighbour is written and both, a row of a bank
and an enable bit are read. -/
theorem writeFilter_kept_neighbour :
    ∃ (card : Card) (pattern neighbour : Pattern), card.state.isEnabled 3 = true ∧
      pattern ≠ neighbour ∧
      let requests : List Request := [.writeFilter ⟨4, by decide⟩ neighbour, .readFilter 3,
        .readRow .b 5, .isEnabled 3, .readFilter 4]
      let written := ((writeFilter 3 pattern).run Card.device card).state
      let later := ((forEach Request.program requests).run Card.device written).state
      ((readFilter 3).run Card.device later).result = pattern ∧
        later.state.slots.get ⟨4, by decide⟩ = .ofPattern neighbour ∧
        later.state.slots.get ⟨2, by decide⟩ = card.state.slots.get ⟨2, by decide⟩ := by
  obtain ⟨hkept, -⟩ := writeFilter_kept .slotThreeOn (by decide : 3 < filterCount) .wholeBytes
  obtain ⟨hread, -, -, -, hslots⟩ := hkept [.writeFilter ⟨4, by decide⟩ .halfBytes, .readFilter 3,
    .readRow .b 5, .isEnabled 3, .readFilter 4] (by simp [Request.target?])
  refine ⟨.slotThreeOn, .wholeBytes, .halfBytes, by decide, ?_, hread,
    hslots 4 (by decide) (by decide), hslots 2 (by decide) (by decide)⟩
  intro heq
  exact absurd (congrArg Pattern.termination heq) (by decide)

end PacketSteering
