import PacketSteering.Proofs.Card.Channel
import PacketSteering.Proofs.Card.Journal

/-!
# The events of the channel

Which events the steps of the register protocol bring about, in order: reading a slot is no event,
writing a table to a bank that is not active is one event for each row, and writing a pattern to a
slot one for each word.  A write of the control word is an event for each enable bit that it changes
and one for the flip (`CardState.events_control`), so switching a slot on or off is at most one
event, and making another bank active is the flip alone.
-/

namespace PacketSteering

open Program Register Channel

namespace CardState

lemma events_filterCommand {step : WriteStep CardState} (h : step.offset = filterCommand) :
    step.events = [] := by
  rw [WriteStep.events, h]
  rfl

lemma offset_readFilter (state : CardState) (slot : ℕ) :
    ∀ step ∈ (readFilter slot).writeSteps device state, step.offset = filterCommand := by
  have hwords : ∀ (words : Array UInt32 × Array UInt32) (word : ℕ) (now : CardState),
      ∀ step ∈ (readWords slot words word).writeSteps device now, step.offset = filterCommand := by
    intro words word now step hstep
    rw [readWords] at hstep
    simp only [writeSteps_bind, writeSteps_readWord, writeSteps_pure, List.append_nil,
      List.cons_append, List.nil_append, List.mem_cons, List.not_mem_nil, or_false] at hstep
    rcases hstep with rfl | rfl <;> rfl
  obtain ⟨-, hfold⟩ := fold_induction device (readWords slot) (fun _ _ _ => True)
    (fun word _ words now _ => ⟨trivial, hwords words word now⟩) (List.range filterWords)
    (#[], #[]) state trivial
  intro step hstep
  rw [readFilter] at hstep
  simp only [writeSteps_bind, writeSteps_readWord, writeSteps_pure, List.append_nil,
    List.mem_append, List.mem_singleton] at hstep
  rcases hstep with hstep | rfl
  · exact hfold step hstep
  · rfl

lemma events_readFilter (state : CardState) (slot : ℕ) :
    ((readFilter slot).writeSteps device state).flatMap WriteStep.events = [] :=
  List.flatMap_eq_nil_iff.mpr fun step hstep =>
    events_filterCommand (state.offset_readFilter slot step hstep)

lemma events_writeRows (state : CardState) {bank : Bank} (hbank : bank ≠ state.activeBank)
    (data : ℕ → UInt16) {rows : List ℕ}
    (hrows : ∀ row ∈ rows, row < (state.bank bank).rows.size)
    (hsize : (state.bank bank).rows.size ≤ 2 ^ 14) :
    ((forEach (fun row => writeRow bank row (data row)) rows).writeSteps device state).flatMap
      WriteStep.events = List.replicate rows.length (.colourWrite bank false) := by
  induction rows generalizing state with
  | nil => rfl
  | cons row rest ih =>
    have hforEach : forEach (fun row => writeRow bank row (data row)) (row :: rest) =
      writeRow bank row (data row) >>=
        fun _ => forEach (fun row => writeRow bank row (data row)) rest := rfl
    have hlive : (bank == state.activeBank) = false := beq_false_of_ne hbank
    have hwrite := state.writeColour_rowWord (hrows row List.mem_cons_self) hsize (data row)
    rw [hlive] at hwrite
    have hevents : WriteStep.events
        ⟨state, colour, rowAddress bank row ||| (data row).toUInt32⟩ =
          [.colourWrite bank false] := by
      rw [WriteStep.events, write_colour, hwrite]
    have hsame := (state.bank bank).sameShape_setRow row (data row)
    have hnow : (state.putBank bank ((state.bank bank).setRow row (data row))).bank bank =
        (state.bank bank).setRow row (data row) := bank_putBank_self _ _ _
    rw [hforEach, writeSteps_bind, List.flatMap_append, writeRow, writeSteps_writeSettled,
      run_writeSettled, write_colour, hwrite, List.flatMap_singleton, hevents, ih]
    · rfl
    · rwa [activeBank_putBank]
    · intro other hother
      rw [hnow, hsame.size_rows]
      exact hrows other (List.mem_cons_of_mem _ hother)
    · rwa [hnow, hsame.size_rows]

/-- Writing a table to a bank that is not active is one event for each row. -/
lemma events_writeTable (state : CardState) {bank : Bank} (hbank : bank ≠ state.activeBank)
    {table : ColourTable} (hshape : table.SameShape (state.bank bank))
    (hsize : table.rows.size ≤ 2 ^ 14) :
    ((writeTable bank table).writeSteps device state).flatMap WriteStep.events =
      List.replicate table.rows.size (.colourWrite bank false) := by
  have hrows := hshape.size_rows
  rw [writeTable, state.events_writeRows hbank _ (fun row hrow => ?_) (by omega),
    List.length_range]
  have := List.mem_range.mp hrow
  omega

/-! ## The control word -/

/-- The event of the enable bit of a slot, if two states differ in it. -/
def enableEvent? (state after : CardState) (slot : ℕ) : Option Event :=
  if state.isEnabled slot = after.isEnabled slot then none
  else if after.isEnabled slot then some (.filterEnable slot)
  else some (.filterDisable slot)

/-- The events of the enable bits in which two states differ. -/
def enableEvents (state after : CardState) : List Event :=
  (List.range filterCount).filterMap (state.enableEvent? after)

/-- The event of a change of the active bank. -/
def flipEvents (state after : CardState) : List Event :=
  if state.activeBank = after.activeBank then [] else [.bankFlip after.activeBank]

lemma events_control (state : CardState) (word : UInt32) :
    WriteStep.events ⟨state, Register.control, word⟩ =
      state.enableEvents { state with control := word } ++
        state.flipEvents { state with control := word } := rfl

section

variable {state after : CardState}

lemma enableEvents_eq_nil (h : ∀ slot < filterCount, after.isEnabled slot = state.isEnabled slot) :
    state.enableEvents after = [] := by
  rw [enableEvents, List.filterMap_eq_nil_iff]
  intro slot hslot
  rw [enableEvent?, h slot (List.mem_range.mp hslot), if_pos rfl]

lemma flipEvents_eq_nil (h : after.activeBank = state.activeBank) :
    state.flipEvents after = [] :=
  if_pos h.symm

/-- Where only one enable bit may change, its event is the only one. -/
lemma enableEvents_of_others {slot : ℕ} (hslot : slot < filterCount)
    (hothers : ∀ other < filterCount, other ≠ slot →
      after.isEnabled other = state.isEnabled other) :
    state.enableEvents after = (state.enableEvent? after slot).toList := by
  obtain ⟨before, behind, hrange⟩ := List.append_of_mem (List.mem_range.mpr hslot)
  have hnodup := List.nodup_range (n := filterCount)
  rw [hrange, List.perm_middle.nodup_iff, List.nodup_cons] at hnodup
  have hquiet (others : List ℕ) (hsub : ∀ other ∈ others, other ∈ before ++ behind) :
      others.filterMap (state.enableEvent? after) = [] := by
    rw [List.filterMap_eq_nil_iff]
    intro other hother
    have hne : other ≠ slot := fun heq => hnodup.1 (heq ▸ hsub other hother)
    have hmem : other ∈ List.range filterCount := by
      rw [hrange]
      exact List.perm_middle.mem_iff.mpr (List.mem_cons_of_mem _ (hsub other hother))
    rw [enableEvent?, hothers other (List.mem_range.mp hmem) hne, if_pos rfl]
  rw [enableEvents, hrange, List.filterMap_append, List.filterMap_cons,
    hquiet before fun _ => List.mem_append_left _, hquiet behind fun _ => List.mem_append_right _]
  cases state.enableEvent? after slot <;> rfl

end

/-- A write that leaves the active bank and all enable bits but one. -/
lemma events_control_of_others {state : CardState} {word : UInt32} {slot : ℕ}
    (hslot : slot < filterCount)
    (hbank : CardState.activeBank { state with control := word } = state.activeBank)
    (hothers : ∀ other < filterCount, other ≠ slot →
      CardState.isEnabled { state with control := word } other = state.isEnabled other) :
    WriteStep.events ⟨state, Register.control, word⟩ =
      (state.enableEvent? { state with control := word } slot).toList := by
  rw [events_control, flipEvents_eq_nil hbank, List.append_nil,
    enableEvents_of_others hslot hothers]

lemma events_disable (state : CardState) {slot : ℕ} (hslot : slot < filterCount) :
    ((disable slot).writeSteps device state).flatMap WriteStep.events =
      if state.isEnabled slot then [.filterDisable slot] else [] := by
  have hothers : ∀ other < filterCount, other ≠ slot →
      (state.off slot).isEnabled other = state.isEnabled other :=
    fun _ hother hne => state.isEnabled_off_of_ne hslot hother hne
  have hself : state.enableEvent? (state.off slot) slot =
      if state.isEnabled slot then some (.filterDisable slot) else none := by
    rw [enableEvent?, state.isEnabled_off_self hslot]
    cases state.isEnabled slot <;> rfl
  rw [writeSteps_disable, List.flatMap_singleton]
  refine (events_control_of_others hslot (state.activeBank_off hslot) hothers).trans ?_
  refine (congrArg Option.toList hself).trans ?_
  cases state.isEnabled slot <;> rfl

lemma events_enable (state : CardState) {slot : ℕ} (hslot : slot < filterCount)
    (hoff : state.isEnabled slot = false) :
    ((enable slot).writeSteps device state).flatMap WriteStep.events = [.filterEnable slot] := by
  have hothers : ∀ other < filterCount, other ≠ slot →
      (state.on slot).isEnabled other = state.isEnabled other :=
    fun _ hother hne => state.isEnabled_on_of_ne hslot hother hne
  have hself : state.enableEvent? (state.on slot) slot = some (.filterEnable slot) := by
    rw [enableEvent?, state.isEnabled_on_self hslot, hoff]
    rfl
  rw [writeSteps_enable, List.flatMap_singleton]
  refine (events_control_of_others hslot (state.activeBank_on hslot) hothers).trans ?_
  exact congrArg Option.toList hself

lemma events_setActiveBank (state : CardState) {bank : Bank} (hbank : bank ≠ state.activeBank) :
    ((setActiveBank bank).writeSteps device state).flatMap WriteStep.events =
      [.bankFlip bank] := by
  have hflip : state.flipEvents (state.select bank) = [.bankFlip bank] := by
    rw [flipEvents, activeBank_select, if_neg (Ne.symm hbank)]
  have henable : state.enableEvents (state.select bank) = [] :=
    enableEvents_eq_nil fun slot hslot => isEnabled_select state bank hslot
  rw [writeSteps_setActiveBank, List.flatMap_singleton, events_control]
  exact congrArg₂ (· ++ ·) henable hflip

/-! ## Writing a slot -/

/-- Writing a pattern to a slot is one event for each word, all of them the same. -/
lemma events_writeFilter (state : CardState) {slot : ℕ} (hslot : slot < filterCount)
    (pattern : Pattern) :
    ∃ n, 0 < n ∧ ((writeFilter slot pattern).writeSteps device state).flatMap WriteStep.events =
      List.replicate n (.filterWrite slot (state.isEnabled slot)) := by
  obtain ⟨-, hsteps, hmem⟩ := state.run_writeFilter hslot pattern
  refine ⟨_, List.length_pos_of_mem hmem, List.eq_replicate_iff.mpr ⟨rfl, ?_⟩⟩
  intro event hevent
  obtain ⟨step, hstep, hevent⟩ := List.mem_flatMap.mp hevent
  exact (hsteps step hstep).2 event hevent

end CardState

end PacketSteering
