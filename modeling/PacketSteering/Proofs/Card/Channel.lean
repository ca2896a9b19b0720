import Mathlib.Tactic.Common
import PacketSteering.Proofs.Card.Effects
import PacketSteering.Proofs.Card.Slot
import PacketSteering.Proofs.ColourTable.Entries
import PacketSteering.Register.Channel

/-!
# The channel on a card

What each step of the register protocol does to a card: its result, the state it leaves, and the
writes it makes on the way.  Enabling, disabling and selecting are one write each.  Reading a slot
only latches addresses.  Writing a slot changes what that slot holds, word by word, and writing a
table changes the bank it is written to, row by row; nothing else of the card is touched meanwhile.
-/

namespace PacketSteering

/-- Whether an event says that something in use was written. -/
def Event.IsLive : Event → Prop
  | filterWrite _ live => live = true
  | colourWrite _ live => live = true
  | _ => False

/-- Nothing in use is written. -/
def WriteStep.Quiet (step : WriteStep CardState) : Prop :=
  ∀ event ∈ step.events, ¬ event.IsLive

/-- A quiet write that leaves a state of some kind. -/
def WriteStep.Leaves (kind : CardState → Prop) (step : WriteStep CardState) : Prop :=
  kind (step.after CardState.device) ∧ step.Quiet

lemma WriteStep.Leaves.mono {kind kind' : CardState → Prop} {step : WriteStep CardState}
    (h : step.Leaves kind) (hkind : ∀ now, kind now → kind' now) : step.Leaves kind' :=
  ⟨hkind _ h.1, h.2⟩

open Program Register Channel

namespace CardState

variable (state : CardState)

/-! ## Settled writes -/

@[simp] lemma run_settle : (settle.run device state).state = state :=
  run_readTimes_state device _ _ _ fun _ => rfl

@[simp] lemma writeSteps_settle : settle.writeSteps device state = [] :=
  writeSteps_readTimes device _ _ _

@[simp] lemma run_writeSettled (offset value : UInt32) :
    ((writeSettled offset value).run device state).state = (state.write offset value).1 := by
  rw [writeSettled, run_write, run_settle]
  rfl

@[simp] lemma writeSteps_writeSettled (offset value : UInt32) :
    (writeSettled offset value).writeSteps device state = [⟨state, offset, value⟩] := by
  simp only [writeSettled, writeSteps, writeSteps_settle]

lemma write_filterCommand (word : UInt32) :
    (state.write filterCommand word).1 = state.latch word := rfl

lemma write_filterData (word : UInt32) :
    state.write filterData word = state.writeFilterData word := rfl

lemma write_colour (word : UInt32) : state.write colour word = state.writeColour word := rfl

/-- A write of the control word writes neither a slot nor a bank. -/
lemma quiet_control (word : UInt32) :
    WriteStep.Quiet ⟨state, Register.control, word⟩ := by
  intro event hevent
  have hmem : event ∈ (state.writeControl word).2 := hevent
  simp only [writeControl, List.mem_append, List.mem_filterMap] at hmem
  rcases hmem with ⟨slot, -, hslot⟩ | hflip
  · split at hslot
    · cases hslot
    · split at hslot <;> cases hslot <;> exact id
  · split at hflip
    · cases hflip
    · cases List.mem_singleton.mp hflip
      exact id

lemma quiet_filterCommand (word : UInt32) :
    WriteStep.Quiet ⟨state, filterCommand, word⟩ := by
  intro event hevent
  have hmem : event ∈ ([] : List Event) := hevent
  cases hmem

/-! ## The control word -/

@[simp] lemma run_isEnabled_result (slot : ℕ) :
    ((Channel.isEnabled slot).run device state).result = state.isEnabled slot := rfl

@[simp] lemma run_isEnabled_state (slot : ℕ) :
    ((Channel.isEnabled slot).run device state).state = state := rfl

@[simp] lemma writeSteps_isEnabled (slot : ℕ) :
    (Channel.isEnabled slot).writeSteps device state = [] := rfl

@[simp] lemma run_activeBank_result :
    (Channel.activeBank.run device state).result = state.activeBank := rfl

@[simp] lemma run_activeBank_state :
    (Channel.activeBank.run device state).state = state := rfl

@[simp] lemma writeSteps_activeBank : Channel.activeBank.writeSteps device state = [] := rfl

@[simp] lemma run_enable (slot : ℕ) : ((enable slot).run device state).state = state.on slot := by
  rw [enable, run_bind_state, run_writeSettled]
  rfl

@[simp] lemma writeSteps_enable (slot : ℕ) :
    (enable slot).writeSteps device state =
      [⟨state, Register.control, state.control ||| bitOn slot⟩] := by
  rw [enable, writeSteps_bind, writeSteps_writeSettled]
  rfl

@[simp] lemma run_disable (slot : ℕ) :
    ((disable slot).run device state).state = state.off slot := by
  rw [disable, run_bind_state, run_writeSettled]
  rfl

@[simp] lemma writeSteps_disable (slot : ℕ) :
    (disable slot).writeSteps device state =
      [⟨state, Register.control, state.control &&& ~~~bitOn slot⟩] := by
  rw [disable, writeSteps_bind, writeSteps_writeSettled]
  rfl

@[simp] lemma run_setActiveBank (bank : Bank) :
    ((setActiveBank bank).run device state).state = state.select bank := by
  rw [setActiveBank, run_bind_state, run_writeSettled]
  rfl

@[simp] lemma writeSteps_setActiveBank (bank : Bank) :
    (setActiveBank bank).writeSteps device state =
      [⟨state, Register.control,
        (state.control &&& ~~~controlBankBit) ||| if bank.bit then controlBankBit else 0⟩] := by
  rw [setActiveBank, writeSteps_bind, writeSteps_writeSettled]
  rfl

/-! ## Reading a slot -/

/-- The states that differ in the latched filter address only. -/
def Addressing (now : CardState) : Prop :=
  ∃ address, now = state.latch address

variable {slot : ℕ} (hslot : slot < filterCount)

include hslot

lemma readFilterData_latch (target : Target) {word : ℕ} (hword : word < filterWords) :
    (state.latch (readBit ||| command slot target word)).readFilterData =
      state.slots[slot].read target word := by
  have hcount : filterCount = 8 := rfl
  have hwords : filterWords = 24 := rfl
  obtain ⟨hgetWord, hgetSlot, hgetTarget⟩ :=
    get_readBit_or_command (by omega : slot < 16) (by omega : word < 256) target
  simp only [readFilterData, addressedSlot, addressedTarget?, addressedWord, latch, hgetWord,
    hgetSlot, hgetTarget, Target.ofCode?_code, Vector.getElem?_eq_getElem hslot]

lemma run_readWord_result (target : Target) {word : ℕ} (hword : word < filterWords) :
    ((readWord slot target word).run device state).result = state.slots[slot].read target word := by
  rw [readWord, run_bind_result, run_writeSettled, write_filterCommand]
  exact state.readFilterData_latch hslot target hword

omit hslot in
@[simp] lemma run_readWord_state (target : Target) (word : ℕ) :
    ((readWord slot target word).run device state).state =
      state.latch (readBit ||| command slot target word) := by
  rw [readWord, run_bind_state, run_writeSettled, write_filterCommand]
  rfl

omit hslot in
@[simp] lemma writeSteps_readWord (target : Target) (word : ℕ) :
    (readWord slot target word).writeSteps device state =
      [⟨state, filterCommand, readBit ||| command slot target word⟩] := by
  rw [readWord, writeSteps_bind, writeSteps_writeSettled]
  rfl

omit hslot in
lemma leaves_filterCommand {start : CardState} (h : start.Addressing state) (word : UInt32) :
    WriteStep.Leaves start.Addressing ⟨state, filterCommand, word⟩ := by
  obtain ⟨address, rfl⟩ := h
  exact ⟨⟨word, rfl⟩, quiet_filterCommand _ word⟩

end CardState

/-- How far a slot has been read: the words read so far, followed by those still to be read, are
always the words of the slot. -/
structure CardSlot.ReadSoFar (held : CardSlot) (rest : List ℕ)
    (words : Array UInt32 × Array UInt32) : Prop where
  rest_lt : ∀ word ∈ rest, word < filterWords
  value : words.1.toList ++ rest.map (held.read .value) =
    (List.range filterWords).map (held.read .value)
  mask : words.2.toList ++ rest.map (held.read .mask) =
    (List.range filterWords).map (held.read .mask)

namespace CardSlot

variable {held : CardSlot}

lemma ReadSoFar.start : held.ReadSoFar (List.range filterWords) (#[], #[]) where
  rest_lt _ hword := List.mem_range.mp hword
  value := rfl
  mask := rfl

lemma ReadSoFar.push {word : ℕ} {rest : List ℕ} {words : Array UInt32 × Array UInt32}
    (h : held.ReadSoFar (word :: rest) words) :
    held.ReadSoFar rest
      (words.1.push (held.read .value word), words.2.push (held.read .mask word)) where
  rest_lt k hk := h.rest_lt k (List.mem_cons_of_mem _ hk)
  value := by simpa using h.value
  mask := by simpa using h.mask

lemma map_read_value (held : CardSlot) :
    (List.range filterWords).map (held.read .value) = held.value.toArray.toList := by
  apply List.ext_getElem
  · simp
  · intro k hk _
    have hword : k < filterWords := by simpa using hk
    simp [CardSlot.read, hword]

lemma map_read_mask (held : CardSlot) :
    (List.range filterWords).map (held.read .mask) = held.mask.toArray.toList := by
  apply List.ext_getElem
  · simp
  · intro k hk _
    have hword : k < filterWords := by simpa using hk
    simp [CardSlot.read, hword]

/-- Once all is read, the words are those of the slot. -/
lemma ReadSoFar.toPattern_eq {words : Array UInt32 × Array UInt32} (h : held.ReadSoFar [] words) :
    (⟨bytesOf words.1, bytesOf words.2, held.termination.toUInt8⟩ : Pattern) = held.toPattern := by
  have hvalue : words.1 = held.value.toArray := by
    apply Array.ext'
    rw [← map_read_value, ← h.value, List.map_nil, List.append_nil]
  have hmask : words.2 = held.mask.toArray := by
    apply Array.ext'
    rw [← map_read_mask, ← h.mask, List.map_nil, List.append_nil]
  rw [hvalue, hmask, toPattern]

end CardSlot

namespace CardState

variable (state : CardState) {slot : ℕ} (hslot : slot < filterCount)

include hslot

/-- Reading one word of each kind reads on, and only latches addresses. -/
lemma run_readWords {now : CardState} (hnow : state.Addressing now) {word : ℕ} {rest : List ℕ}
    {words : Array UInt32 × Array UInt32}
    (hread : state.slots[slot].ReadSoFar (word :: rest) words) :
    (state.Addressing ((readWords slot words word).run device now).state ∧
      state.slots[slot].ReadSoFar rest ((readWords slot words word).run device now).result) ∧
        ∀ step ∈ (readWords slot words word).writeSteps device now,
          step.Leaves state.Addressing := by
  obtain ⟨address, rfl⟩ := hnow
  have hword : word < filterWords := hread.rest_lt word List.mem_cons_self
  rw [readWords]
  simp only [run_bind_result, run_bind_state, run_readWord_state, run_pure, latch_latch,
    run_readWord_result _ hslot _ hword, slots_latch, writeSteps_bind, writeSteps_readWord,
    writeSteps_pure, List.append_nil, List.cons_append, List.nil_append]
  refine ⟨⟨⟨_, rfl⟩, hread.push⟩, ?_⟩
  intro step hstep
  simp only [List.mem_cons, List.not_mem_nil, or_false] at hstep
  rcases hstep with rfl | rfl
  · exact leaves_filterCommand _ ⟨_, rfl⟩ _
  · exact leaves_filterCommand _ ⟨_, rfl⟩ _

/-- Reading a slot gives what it holds, and only latches addresses. -/
theorem run_readFilter :
    ((readFilter slot).run device state).result = state.slots[slot].toPattern ∧
      state.Addressing ((readFilter slot).run device state).state ∧
        ∀ step ∈ (readFilter slot).writeSteps device state, step.Leaves state.Addressing := by
  obtain ⟨⟨⟨address, haddress⟩, hread⟩, hsteps⟩ :=
    fold_induction device (readWords slot)
      (fun rest words now => state.Addressing now ∧ state.slots[slot].ReadSoFar rest words)
      (fun _ _ _ _ hinv => state.run_readWords hslot hinv.1 hinv.2)
      (List.range filterWords) (#[], #[]) state ⟨⟨state.filterAddress, rfl⟩, .start⟩
  rw [readFilter]
  simp only [run_bind_result, run_bind_state, writeSteps_bind, run_readWord_state, run_pure,
    writeSteps_pure, writeSteps_readWord, List.append_nil]
  rw [haddress, run_readWord_result _ hslot _ (by decide)]
  refine ⟨hread.toPattern_eq, ⟨_, rfl⟩, ?_⟩
  intro step hstep
  rcases List.mem_append.mp hstep with hstep | hstep
  · exact hsteps step hstep
  · rw [List.mem_singleton.mp hstep]
    exact leaves_filterCommand _ ⟨_, rfl⟩ _

/-! ## Writing a slot -/

omit hslot in
/-- The states that differ in what one slot holds, and in the latched filter address. -/
def Rewriting (slot : ℕ) (now : CardState) : Prop :=
  ∃ held address, now = (state.putSlot slot held).latch address

omit hslot in
/-- A write on the way to another pattern of a slot, of which nothing is told but that the slot was
written. -/
def Rewrites (slot : ℕ) (step : WriteStep CardState) : Prop :=
  state.Rewriting slot (step.after device) ∧
    ∀ event ∈ step.events, event = .filterWrite slot (state.isEnabled slot)

omit hslot in
/-- Nothing in use is written while the slot is off. -/
lemma Rewrites.leaves {state : CardState} {step : WriteStep CardState}
    (h : state.Rewrites slot step) (hoff : state.isEnabled slot = false) :
    step.Leaves (state.Rewriting slot) := by
  refine ⟨h.1, fun event hevent => ?_⟩
  rw [h.2 event hevent, hoff]
  exact Bool.false_ne_true

lemma putSlot_latch_self :
    (state.putSlot slot state.slots[slot]).latch state.filterAddress = state := by
  rw [state.putSlot_self hslot]
  rfl

/-- A write of filter data at a latched command writes the word that the command names. -/
lemma writeFilterData_latch (target : Target) {word : ℕ} (hword : word < filterWords)
    (data : UInt32) {written : CardSlot}
    (hwritten : state.slots[slot].write? target word data = some written) :
    (state.latch (command slot target word)).writeFilterData data =
      ((state.putSlot slot written).latch (command slot target word),
        [.filterWrite slot (state.isEnabled slot)]) := by
  have hcount : filterCount = 8 := rfl
  have hwords : filterWords = 24 := rfl
  obtain ⟨hgetWord, hgetSlot, hgetTarget⟩ :=
    get_command (by omega : slot < 16) (by omega : word < 256) target
  have hset : state.slots.set slot written hslot = state.slots.setIfInBounds slot written := by
    apply Vector.ext
    intro i hi
    rw [Vector.getElem_set, Vector.getElem_setIfInBounds]
  simp only [writeFilterData, addressedSlot, addressedTarget?, addressedWord, latch, hgetWord,
    hgetSlot, hgetTarget, Target.ofCode?_code, dif_pos hslot, hwritten, hset]
  rfl

lemma run_writeWord (held : CardSlot) (address : UInt32) (target : Target) {word : ℕ}
    (hword : word < filterWords) (data : UInt32) {written : CardSlot}
    (hwritten : held.write? target word data = some written) :
    let now := (state.putSlot slot held).latch address
    let steps := (writeWord slot target word data).writeSteps device now
    ((writeWord slot target word data).run device now).state =
        (state.putSlot slot written).latch (command slot target word) ∧
      (∀ step ∈ steps, state.Rewrites slot step) ∧
        steps.flatMap WriteStep.events = [.filterWrite slot (state.isEnabled slot)] := by
  have hheld : (state.putSlot slot held).slots[slot] = held := by
    rw [getElem_putSlot _ _ _ hslot, if_pos rfl]
  have hwrite : ((state.putSlot slot held).latch (command slot target word)).writeFilterData data =
      ((state.putSlot slot written).latch (command slot target word),
        [.filterWrite slot (state.isEnabled slot)]) := by
    rw [← hheld] at hwritten
    rw [writeFilterData_latch _ hslot target hword data hwritten, putSlot_putSlot,
      isEnabled_putSlot]
  have hlatched : WriteStep.events
      ⟨(state.putSlot slot held).latch address, filterCommand, command slot target word⟩ = [] := rfl
  have hdata : WriteStep.events
      ⟨(state.putSlot slot held).latch (command slot target word), filterData, data⟩ =
        [.filterWrite slot (state.isEnabled slot)] := congrArg Prod.snd hwrite
  rw [writeWord]
  simp only [run_bind_state, run_writeSettled, write_filterCommand, write_filterData, latch_latch,
    hwrite, writeSteps_bind, writeSteps_writeSettled, List.cons_append, List.nil_append, true_and,
    List.flatMap_cons, List.flatMap_nil, hlatched, hdata, and_true]
  intro step hstep
  simp only [List.mem_cons, List.not_mem_nil, or_false] at hstep
  rcases hstep with rfl | rfl
  · refine ⟨⟨held, _, rfl⟩, ?_⟩
    rw [hlatched]
    exact fun event hevent => absurd hevent List.not_mem_nil
  · refine ⟨⟨written, command slot target word, congrArg Prod.fst hwrite⟩, ?_⟩
    rw [hdata]
    exact fun event hevent => List.mem_singleton.mp hevent

end CardState

/-- How far a part of a slot has been written: the words that are no longer to come are those
wanted, and the other parts are as they were. -/
structure CardSlot.WrittenSoFar (start : CardSlot) (target : Target) (words : ℕ → UInt32)
    (rest : List ℕ) (held : CardSlot) : Prop where
  rest_lt : ∀ word ∈ rest, word < filterWords
  written : ∀ word < filterWords, word ∉ rest → held.read target word = words word
  others : ∀ other, other ≠ target → ∀ word, held.read other word = start.read other word

namespace CardSlot

lemma WrittenSoFar.start (held : CardSlot) (target : Target) (words : ℕ → UInt32) :
    held.WrittenSoFar target words (List.range filterWords) held where
  rest_lt _ hword := List.mem_range.mp hword
  written _ hword hrest := absurd (List.mem_range.mpr hword) hrest
  others _ _ _ := rfl

/-- One more word can be written. -/
lemma WrittenSoFar.write? {start held : CardSlot} {target : Target}
    (htarget : target ≠ .termination) {words : ℕ → UInt32} {word : ℕ} {rest : List ℕ}
    (h : start.WrittenSoFar target words (word :: rest) held) :
    ∃ next, held.write? target word (words word) = some next ∧
      start.WrittenSoFar target words rest next := by
  obtain ⟨next, hnext, hself, hothers, hkept⟩ :=
    held.exists_write? target (h.rest_lt word List.mem_cons_self) (words word)
  refine ⟨next, hnext, ?_, ?_, ?_⟩
  · intro k hk
    exact h.rest_lt k (List.mem_cons_of_mem _ hk)
  · intro k hk hrest
    by_cases heq : k = word
    · rw [heq, hself]
    · rw [hkept htarget k heq]
      refine h.written k hk fun hmem => ?_
      rcases List.mem_cons.mp hmem with hword | hmem
      · exact heq hword
      · exact hrest hmem
  · intro other hother k
    rw [hothers other hother, h.others other hother]

/-- A slot holds a pattern once its three parts are written one after the other. -/
lemma eq_ofPattern {pattern : Pattern} {start first second third : CardSlot}
    (hvalue : start.WrittenSoFar .value (wordOf pattern.value) [] first)
    (hmask : first.WrittenSoFar .mask (wordOf pattern.mask) [] second)
    (hothers : ∀ other, other ≠ .termination → ∀ k, third.read other k = second.read other k)
    (htermination : third.read .termination 0 = pattern.termination.toUInt32) :
    third = .ofPattern pattern := by
  apply eq_of_read
  intro target word hword
  cases target with
  | value =>
    rw [hothers .value (by decide), hmask.others .value (by decide),
      hvalue.written word hword List.not_mem_nil]
    simp [read, ofPattern, hword]
  | mask =>
    rw [hothers .mask (by decide), hmask.written word hword List.not_mem_nil]
    simp [read, ofPattern, hword]
  | termination => exact htermination

end CardSlot

namespace CardState

variable (state : CardState) {slot : ℕ} (hslot : slot < filterCount)

include hslot

/-- Writing the value or the mask of a slot leaves that part as wanted and the others as they
were. -/
lemma run_writeWords (start : CardSlot) (address : UInt32) {target : Target}
    (htarget : target ≠ .termination) (words : ℕ → UInt32) :
    let program :=
      forEach (fun word => writeWord slot target word (words word)) (List.range filterWords)
    let now := (state.putSlot slot start).latch address
    (∃ held address, (program.run device now).state = (state.putSlot slot held).latch address ∧
        start.WrittenSoFar target words [] held) ∧
      ∀ step ∈ program.writeSteps device now, state.Rewrites slot step := by
  refine forEach_induction device _
    (fun rest now => ∃ held address, now = (state.putSlot slot held).latch address ∧
      start.WrittenSoFar target words rest held) ?_ _ _ ⟨start, address, rfl, .start _ _ _⟩
  rintro word rest now ⟨held, address, rfl, hheld⟩
  obtain ⟨next, hnext, hwritten⟩ := hheld.write? htarget
  have hword : word < filterWords := hheld.rest_lt word List.mem_cons_self
  obtain ⟨hstate, hsteps, -⟩ :=
    state.run_writeWord hslot held address target hword (words word) hnext
  exact ⟨⟨next, command slot target word, hstate, hwritten⟩, hsteps⟩

/-- Writing a pattern to a slot leaves the pattern in the slot, and only ever changes what that slot
holds.  All that is told is that the slot was written. -/
theorem run_writeFilter (pattern : Pattern) :
    let steps := (writeFilter slot pattern).writeSteps device state
    (∃ address, ((writeFilter slot pattern).run device state).state =
        (state.putSlot slot (.ofPattern pattern)).latch address) ∧
      (∀ step ∈ steps, state.Rewrites slot step) ∧
        Event.filterWrite slot (state.isEnabled slot) ∈ steps.flatMap WriteStep.events := by
  obtain ⟨⟨first, address, hfirst, hvalue⟩, hfirstSteps⟩ :=
    state.run_writeWords hslot state.slots[slot] state.filterAddress
      (by decide : Target.value ≠ .termination) (wordOf pattern.value)
  obtain ⟨⟨second, address', hsecond, hmask⟩, hsecondSteps⟩ :=
    state.run_writeWords hslot first address
      (by decide : Target.mask ≠ .termination) (wordOf pattern.mask)
  obtain ⟨third, hthird, htermination, hothers, -⟩ :=
    second.exists_write? .termination (by decide : 0 < filterWords) pattern.termination.toUInt32
  obtain ⟨hlast, hlastSteps, hlastEvents⟩ :=
    state.run_writeWord hslot second address' .termination (by decide) _ hthird
  rw [state.putSlot_latch_self hslot] at hfirst hfirstSteps
  have hthirdEq : third = .ofPattern pattern :=
    CardSlot.eq_ofPattern hvalue hmask hothers htermination
  rw [writeFilter]
  simp only [run_bind_state, writeSteps_bind, hfirst, hsecond, List.flatMap_append, hlastEvents]
  rw [hlast, hthirdEq]
  refine ⟨⟨_, rfl⟩, ?_, ?_⟩
  · intro step hstep
    rcases List.mem_append.mp hstep with hstep | hstep
    · exact hfirstSteps step hstep
    rcases List.mem_append.mp hstep with hstep | hstep
    · exact hsecondSteps step hstep
    · exact hlastSteps step hstep
  · exact List.mem_append_right _ (List.mem_append_right _ List.mem_cons_self)

omit hslot

/-! ## Writing a bank -/

/-- The states that differ in the rows of one bank. -/
def Refilling (bank : Bank) (now : CardState) : Prop :=
  ∃ table, table.SameShape (state.bank bank) ∧ now = state.putBank bank table

lemma setRow_eq_putBank (bank : Bank) (row : ℕ) (data : UInt16) :
    state.setRow bank row data = state.putBank bank ((state.bank bank).setRow row data) := by
  cases bank <;> rfl

/-- A write on the way to another table in a bank, of which nothing is told but that the bank was
written. -/
def Refills (bank : Bank) (step : WriteStep CardState) : Prop :=
  state.Refilling bank (step.after device) ∧
    ∀ event ∈ step.events, event = .colourWrite bank (bank == state.activeBank)

/-- Nothing in use is written while the other bank is active. -/
lemma Refills.leaves {state : CardState} {bank : Bank} {step : WriteStep CardState}
    (h : state.Refills bank step) (hbank : bank ≠ state.activeBank) :
    step.Leaves (state.Refilling bank) := by
  refine ⟨h.1, fun event hevent => ?_⟩
  rw [h.2 event hevent, beq_false_of_ne hbank]
  exact Bool.false_ne_true

/-- A row written to a bank. -/
lemma writeColour_rowWord {bank : Bank} {row : ℕ} (hrow : row < (state.bank bank).rows.size)
    (hsize : (state.bank bank).rows.size ≤ 2 ^ 14) (data : UInt16) :
    state.writeColour (rowAddress bank row ||| data.toUInt32) =
      (state.putBank bank ((state.bank bank).setRow row data),
        [.colourWrite bank (bank == state.activeBank)]) := by
  obtain ⟨hgetBank, hgetRead, hgetRow, hgetData⟩ :=
    get_rowWord bank (by omega : row < 2 ^ 14) data
  simp only [writeColour, hgetBank, hgetRead, hgetRow, hgetData, Bank.ofBit_bit, if_pos hrow,
    setRow_eq_putBank]
  rfl

end CardState

/-- How far a table has been written: the rows that are no longer to come are those wanted. -/
structure ColourTable.WrittenSoFar (table : ColourTable) (rest : List ℕ) (shown : ColourTable) :
    Prop where
  sameShape : shown.SameShape table
  rest_lt : ∀ row ∈ rest, row < table.rows.size
  written : ∀ row < table.rows.size, row ∉ rest → shown.rows[row]? = table.rows[row]?

namespace ColourTable

lemma WrittenSoFar.start {table shown : ColourTable} (h : shown.SameShape table) :
    table.WrittenSoFar (List.range table.rows.size) shown where
  sameShape := h
  rest_lt _ hrow := List.mem_range.mp hrow
  written _ hrow hrest := absurd (List.mem_range.mpr hrow) hrest

lemma WrittenSoFar.setRow {table shown : ColourTable} {row : ℕ} {rest : List ℕ}
    (h : table.WrittenSoFar (row :: rest) shown) :
    table.WrittenSoFar rest (shown.setRow row (table.rows.getD row 0)) where
  sameShape := (shown.sameShape_setRow row _).trans h.sameShape
  rest_lt k hk := h.rest_lt k (List.mem_cons_of_mem _ hk)
  written k hk hrest := by
    have hsize := h.sameShape.size_rows
    have hrow := h.rest_lt row List.mem_cons_self
    simp only [ColourTable.setRow, Array.getElem?_setIfInBounds]
    by_cases heq : row = k
    · subst heq
      rw [if_pos rfl, if_pos (by omega)]
      simp [hrow]
    · rw [if_neg heq]
      refine h.written k hk fun hmem => ?_
      rcases List.mem_cons.mp hmem with hword | hmem
      · exact heq hword.symm
      · exact hrest hmem

/-- Once all is written, the bank holds the table. -/
lemma WrittenSoFar.eq {table shown : ColourTable} (h : table.WrittenSoFar [] shown) :
    shown = table := by
  refine h.sameShape.eq_of_rows (Array.ext_getElem? fun row => ?_)
  rcases Nat.lt_or_ge row table.rows.size with hrow | hrow
  · exact h.written row hrow List.not_mem_nil
  · have hshown : shown.rows.size ≤ row := by
      rw [h.sameShape.size_rows]
      exact hrow
    rw [Array.getElem?_eq_none hrow, Array.getElem?_eq_none hshown]

end ColourTable

namespace CardState

variable (state : CardState)

lemma run_writeRow {bank : Bank} {table shown : ColourTable}
    (hshape : table.SameShape (state.bank bank)) (hsize : table.rows.size ≤ 2 ^ 14) {row : ℕ}
    {rest : List ℕ} (hshown : table.WrittenSoFar (row :: rest) shown) :
    let data := table.rows.getD row 0
    let now := state.putBank bank shown
    ((writeRow bank row data).run device now).state = state.putBank bank (shown.setRow row data) ∧
      ∀ step ∈ (writeRow bank row data).writeSteps device now, state.Refills bank step := by
  intro data now
  have hnow : now.bank bank = shown := state.bank_putBank_self bank shown
  have hactive : now.activeBank = state.activeBank := state.activeBank_putBank bank shown
  have hrows : (now.bank bank).rows.size = table.rows.size := by
    rw [hnow, hshown.sameShape.size_rows]
  have hrow := hshown.rest_lt row List.mem_cons_self
  have hwrite : now.writeColour (rowAddress bank row ||| data.toUInt32) =
      (state.putBank bank (shown.setRow row data),
        [.colourWrite bank (bank == state.activeBank)]) := by
    rw [now.writeColour_rowWord (by omega) (by omega), hnow, state.putBank_putBank, hactive]
  rw [writeRow]
  simp only [run_writeSettled, writeSteps_writeSettled, write_colour, hwrite, true_and]
  intro step hstep
  rw [List.mem_singleton.mp hstep]
  constructor
  · refine ⟨shown.setRow row data, ?_, congrArg Prod.fst hwrite⟩
    exact (hshown.setRow.sameShape).trans hshape
  · intro event hevent
    rw [WriteStep.events, write_colour, hwrite] at hevent
    exact List.mem_singleton.mp hevent

/-- Writing a table to a bank leaves the table in the bank, and only ever changes the rows of that
bank.  All that is told is that the bank was written. -/
theorem run_writeTable {bank : Bank} {table : ColourTable}
    (hshape : table.SameShape (state.bank bank)) (hsize : table.rows.size ≤ 2 ^ 14) :
    ((writeTable bank table).run device state).state = state.putBank bank table ∧
      ∀ step ∈ (writeTable bank table).writeSteps device state, state.Refills bank step := by
  obtain ⟨⟨shown, hstate, hshown⟩, hsteps⟩ :=
    forEach_induction device (fun row => writeRow bank row (table.rows.getD row 0))
      (fun rest now => ∃ shown, now = state.putBank bank shown ∧ table.WrittenSoFar rest shown)
      (by
        rintro row rest now ⟨shown, rfl, hshown⟩
        obtain ⟨hstate, hsteps⟩ := state.run_writeRow hshape hsize hshown
        exact ⟨⟨_, hstate, hshown.setRow⟩, hsteps⟩)
      (List.range table.rows.size) state
      ⟨state.bank bank, (state.putBank_self bank).symm, .start hshape.symm⟩
  rw [hshown.eq] at hstate
  exact ⟨hstate, hsteps⟩

end CardState

end PacketSteering
