import Mathlib.Tactic.Common
import PacketSteering.Loader
import PacketSteering.Proofs.Card.Channel
import PacketSteering.Proofs.Card.Steering
import PacketSteering.Proofs.Register.Messages

/-!
# Bringing a slot in line

While a slot is brought up to a pattern, the rest of the card stays as it is, and the slot is
either off or holds, in full, what it held before or the pattern (`CardState.Updating`).  The slot
is off from before the first word is written until after the last.

`Loader.syncFilter` does no more than that to the slot of its filter (`CardState.BroughtInLine`),
whichever of its five ways it takes.  Afterwards the slot is in step with the filter, provided that
its termination fit a byte before: a larger one is not told from its low byte when it is read back.
-/

namespace PacketSteering

open Program Channel

namespace CardState

/-! ## A slot under way -/

/-- The states that a slot passes through while it is brought up to a pattern. -/
structure Updating (start : CardState) (slot : ℕ) (pattern : Pattern) (now : CardState) : Prop where
  layout_eq : now.layout = start.layout
  bank_eq : now.bank = start.bank
  activeBank_eq : now.activeBank = start.activeBank
  isEnabled_eq : ∀ i < filterCount, i ≠ slot → now.isEnabled i = start.isEnabled i
  slots_eq : ∀ (i : ℕ) (hi : i < filterCount), i ≠ slot → now.slots[i] = start.slots[i]
  held : ∀ hslot : slot < filterCount, now.isEnabled slot →
    now.slots[slot] = start.slots[slot] ∨ now.slots[slot] = .ofPattern pattern

variable {start now : CardState} {slot : ℕ} {pattern : Pattern}

lemma Updating.refl (start : CardState) (slot : ℕ) (pattern : Pattern) :
    start.Updating slot pattern start where
  layout_eq := rfl
  bank_eq := rfl
  activeBank_eq := rfl
  isEnabled_eq _ _ _ := rfl
  slots_eq _ _ _ := rfl
  held _ _ := Or.inl rfl

lemma Updating.addressing (h : start.Updating slot pattern now) {later : CardState}
    (hlater : now.Addressing later) : start.Updating slot pattern later := by
  obtain ⟨address, rfl⟩ := hlater
  exact ⟨h.layout_eq, h.bank_eq, h.activeBank_eq, h.isEnabled_eq, h.slots_eq, h.held⟩

/-- It does not matter which address is latched at the start. -/
lemma Updating.of_addressing (h : start.Addressing now) {later : CardState}
    (hlater : now.Updating slot pattern later) : start.Updating slot pattern later := by
  obtain ⟨address, rfl⟩ := h
  exact ⟨hlater.layout_eq, hlater.bank_eq, hlater.activeBank_eq, hlater.isEnabled_eq,
    hlater.slots_eq, hlater.held⟩

lemma Updating.off (h : start.Updating slot pattern now) (hslot : slot < filterCount) :
    start.Updating slot pattern (now.off slot) where
  layout_eq := h.layout_eq
  bank_eq := h.bank_eq
  activeBank_eq := by rw [activeBank_off _ hslot, h.activeBank_eq]
  isEnabled_eq i hi hne := by rw [isEnabled_off_of_ne _ hslot hi hne, h.isEnabled_eq i hi hne]
  slots_eq := h.slots_eq
  held _ henabled := by simp [isEnabled_off_self _ hslot] at henabled

/-- A slot is enabled once it holds what it should. -/
lemma Updating.on (h : start.Updating slot pattern now) (hslot : slot < filterCount)
    (hheld : now.slots[slot] = start.slots[slot] ∨ now.slots[slot] = .ofPattern pattern) :
    start.Updating slot pattern (now.on slot) where
  layout_eq := h.layout_eq
  bank_eq := h.bank_eq
  activeBank_eq := by rw [activeBank_on _ hslot, h.activeBank_eq]
  isEnabled_eq i hi hne := by rw [isEnabled_on_of_ne _ hslot hi hne, h.isEnabled_eq i hi hne]
  slots_eq := h.slots_eq
  held _ _ := hheld

/-- A slot is written while it is off. -/
lemma Updating.rewriting (h : start.Updating slot pattern now) (hoff : now.isEnabled slot = false)
    {later : CardState} (hlater : now.Rewriting slot later) :
    start.Updating slot pattern later := by
  obtain ⟨held, address, rfl⟩ := hlater
  refine ⟨h.layout_eq, h.bank_eq, h.activeBank_eq, h.isEnabled_eq, ?_, ?_⟩
  · intro i hi hne
    rw [slots_latch, getElem_putSlot _ _ _ hi, if_neg (Ne.symm hne), h.slots_eq i hi hne]
  · intro _ henabled
    rw [isEnabled_latch, isEnabled_putSlot, hoff] at henabled
    cases henabled

/-- A slot that is not brought up to anything is hit as before. -/
lemma Updating.hit_eq (h : start.Updating slot pattern now) {other : ℕ}
    (hother : other < filterCount) (hne : other ≠ slot) (frame : Array UInt8) :
    now.hit other frame = start.hit other frame :=
  hit_congr (h.isEnabled_eq other hother hne) (fun hslot => h.slots_eq other hslot hne) frame

lemma Serves.updating {config : Configuration} (h : start.Serves config)
    (hnow : start.Updating slot pattern now) : now.Serves config :=
  h.of_live_eq (by rw [hnow.bank_eq, hnow.activeBank_eq])

/-! ## Writing a slot anew -/

/-- Switches a slot off, writes a pattern to it and switches it on. -/
def rewrite (slot : ℕ) (pattern : Pattern) : Program Unit := do
  disable slot
  writeFilter slot pattern
  enable slot

/-- Writing a slot anew leaves it on with the pattern. -/
theorem run_rewrite (state : CardState) (hslot : slot < filterCount) (pattern : Pattern) :
    let final := ((rewrite slot pattern).run device state).state
    state.Updating slot pattern final ∧ final.isEnabled slot = true ∧
      final.slots[slot] = .ofPattern pattern ∧
        ∀ step ∈ (rewrite slot pattern).writeSteps device state,
          step.Leaves (state.Updating slot pattern) := by
  have hoff := state.isEnabled_off_self hslot
  have hfirst : state.Updating slot pattern (state.off slot) :=
    (Updating.refl state slot pattern).off hslot
  obtain ⟨⟨address, hwritten⟩, hsteps, -⟩ := (state.off slot).run_writeFilter hslot pattern
  have hsecond : state.Updating slot pattern
      (((state.off slot).putSlot slot (.ofPattern pattern)).latch address) :=
    hfirst.rewriting hoff ⟨_, address, rfl⟩
  have hheld : (((state.off slot).putSlot slot (.ofPattern pattern)).latch address).slots[slot] =
      .ofPattern pattern := by
    rw [slots_latch, getElem_putSlot _ _ _ hslot, if_pos rfl]
  have hthird := hsecond.on hslot (Or.inr hheld)
  rw [rewrite]
  simp only [run_bind_state, run_disable, run_enable, hwritten, writeSteps_bind, writeSteps_disable,
    writeSteps_enable]
  refine ⟨hthird, ?_, hheld, ?_⟩
  · exact isEnabled_on_self _ hslot
  · intro step hstep
    rcases List.mem_append.mp hstep with hstep | hstep
    · rw [List.mem_singleton.mp hstep]
      exact ⟨hfirst, quiet_control _ _⟩
    rcases List.mem_append.mp hstep with hstep | hstep
    · exact ((hsteps step hstep).leaves hoff).mono fun later hlater => hfirst.rewriting hoff hlater
    · rw [List.mem_singleton.mp hstep]
      exact ⟨hthird, quiet_control _ _⟩

/-! ## One filter -/

/-- The five ways of bringing a filter in line: what is counted, what is told, and what is done to
the card.  A filter that should be on is read back first, whatever is done to its slot then. -/
inductive SyncWay (state : CardState) (summary : LoadSummary) (filter : Filter)
    (hslot : filter.physicalSlot < filterCount) :
    LoadSummary → Array Log.Message → Program Unit → Prop
  | idle (henabled : filter.enabled = false) (hoff : state.isEnabled filter.physicalSlot = false) :
      SyncWay state summary filter hslot
        { summary with untouched := summary.untouched + 1 } #[] (pure ())
  | disabled (henabled : filter.enabled = false)
      (hlive : state.isEnabled filter.physicalSlot = true) :
      SyncWay state summary filter hslot { summary with disabled := summary.disabled + 1 }
        #[⟨.warn, s!"disabled {filter.text}"⟩] (disable filter.physicalSlot)
  | untouched (henabled : filter.enabled = true)
      (hsame : filter.rule.pattern = state.slots[filter.physicalSlot].toPattern)
      (hlive : state.isEnabled filter.physicalSlot = true) :
      SyncWay state summary filter hslot { summary with untouched := summary.untouched + 1 } #[]
        (readFilter filter.physicalSlot >>= fun _ => pure ())
  | enabled (henabled : filter.enabled = true)
      (hsame : filter.rule.pattern = state.slots[filter.physicalSlot].toPattern)
      (hoff : state.isEnabled filter.physicalSlot = false) :
      SyncWay state summary filter hslot { summary with enabled := summary.enabled + 1 }
        #[⟨.note, s!"enabled {filter.text}"⟩]
        (readFilter filter.physicalSlot >>= fun _ => enable filter.physicalSlot)
  | rewritten (henabled : filter.enabled = true)
      (hdiffers : filter.rule.pattern ≠ state.slots[filter.physicalSlot].toPattern) :
      SyncWay state summary filter hslot { summary with rewritten := summary.rewritten + 1 }
        #[⟨.note, s!"rewrote {filter.text}"⟩]
        (readFilter filter.physicalSlot >>= fun _ =>
          rewrite filter.physicalSlot filter.rule.pattern)

/-- A filter is brought in line in one of the five ways. -/
theorem syncFilter_way (state : CardState) (summary : LoadSummary) {filter : Filter}
    (hslot : filter.physicalSlot < filterCount) :
    let program := Loader.syncFilter summary filter
    ∃ result log done, state.SyncWay summary filter hslot result log done ∧
      program.run device state = ⟨result, (done.run device state).state, log⟩ ∧
        program.writeSteps device state = done.writeSteps device state := by
  intro program
  have hrun : program.run device state = _ := (silent_isEnabled _).run_bind _ _ _
  have hsteps : program.writeSteps device state = _ := writeSteps_bind _ _ _ _
  rw [run_isEnabled_result, run_isEnabled_state] at hrun
  rw [writeSteps_isEnabled, List.nil_append, run_isEnabled_result, run_isEnabled_state] at hsteps
  cases henabled : filter.enabled with
  | false =>
    simp only [henabled, Bool.false_eq_true, if_false] at hrun hsteps
    cases hlive : state.isEnabled filter.physicalSlot with
    | false =>
      simp only [hlive, Bool.false_eq_true, if_false, run_pure, writeSteps_pure] at hrun hsteps
      exact ⟨_, _, _, .idle henabled hlive, hrun, hsteps⟩
    | true =>
      simp only [hlive, if_true, (silent_disable _).run_bind, run_log_bind_pure, writeSteps_bind,
        writeSteps_log, writeSteps_pure, List.append_nil] at hrun hsteps
      exact ⟨_, _, _, .disabled henabled hlive, hrun, hsteps⟩
  | true =>
    obtain ⟨hread, -, -⟩ := state.run_readFilter hslot
    simp only [henabled, if_true, (silent_readFilter _).run_bind, writeSteps_bind,
      hread] at hrun hsteps
    by_cases hsame : filter.rule.pattern = state.slots[filter.physicalSlot].toPattern
    · simp only [hsame, ne_eq, not_true_eq_false, if_false] at hrun hsteps
      cases hlive : state.isEnabled filter.physicalSlot with
      | false =>
        simp only [hlive, Bool.false_eq_true, if_false, (silent_enable _).run_bind,
          run_log_bind_pure, writeSteps_bind, writeSteps_log, writeSteps_pure,
          List.append_nil] at hrun hsteps
        refine ⟨_, _, _, .enabled henabled hsame hlive, ?_, ?_⟩
        · rw [hrun, run_bind_state]
        · rw [hsteps, writeSteps_bind]
      | true =>
        simp only [hlive, if_true, run_pure, writeSteps_pure] at hrun hsteps
        refine ⟨_, _, _, .untouched henabled hsame hlive, ?_, ?_⟩
        · rw [hrun, run_bind_state, run_pure]
        · rw [hsteps, writeSteps_bind, writeSteps_pure]
    · simp only [ne_eq, hsame, not_false_eq_true, if_true, (silent_disable _).run_bind,
        (silent_writeFilter _ _).run_bind, (silent_enable _).run_bind, run_log_bind_pure,
        writeSteps_bind, writeSteps_log, writeSteps_pure, List.append_nil] at hrun hsteps
      refine ⟨_, _, _, .rewritten henabled hsame, ?_, ?_⟩
      · simp only [hrun, rewrite, run_bind_state]
      · simp only [hsteps, rewrite, writeSteps_bind]

/-- What bringing a filter in line makes of a card, with the writes it takes: only the slot of the
filter is touched, which afterwards holds what it held before or the pattern of the filter, and is
in step if its termination fit a byte. -/
structure BroughtInLine (start : CardState) (filter : Filter) (final : CardState)
    (steps : List (WriteStep CardState)) : Prop where
  updating : start.Updating filter.physicalSlot filter.rule.pattern final
  held : ∀ hslot : filter.physicalSlot < filterCount,
    final.slots[filter.physicalSlot] = start.slots[filter.physicalSlot] ∨
      final.slots[filter.physicalSlot] = .ofPattern filter.rule.pattern
  inStep : ∀ hslot : filter.physicalSlot < filterCount,
    start.slots[filter.physicalSlot].termination.toNat < 256 → final.InStep filter
  leaves : ∀ step ∈ steps, step.Leaves (start.Updating filter.physicalSlot filter.rule.pattern)

section

variable {state : CardState} {filter : Filter} (hslot : filter.physicalSlot < filterCount)

lemma inStep_of_disabled (henabled : filter.enabled = false)
    (hoff : state.isEnabled filter.physicalSlot = false) : state.InStep filter where
  isEnabled_eq := hoff.trans henabled.symm
  holds hon := by
    rw [henabled] at hon
    cases hon

/-- A filter that should be off, and is. -/
lemma BroughtInLine.idle (henabled : filter.enabled = false)
    (hoff : state.isEnabled filter.physicalSlot = false) : state.BroughtInLine filter state [] where
  updating := .refl _ _ _
  held _ := Or.inl rfl
  inStep _ _ := inStep_of_disabled henabled hoff
  leaves _ hstep := by cases hstep

include hslot

lemma inStep_of_enabled (henabled : filter.enabled = true)
    (hon : state.isEnabled filter.physicalSlot = true)
    (hheld : state.slots[filter.physicalSlot] = .ofPattern filter.rule.pattern) :
    state.InStep filter where
  isEnabled_eq := hon.trans henabled.symm
  holds _ := by rw [Vector.getElem?_eq_getElem hslot, hheld]

/-- A filter that should be off is switched off. -/
lemma BroughtInLine.disabled (henabled : filter.enabled = false) :
    state.BroughtInLine filter (state.off filter.physicalSlot)
      ((disable filter.physicalSlot).writeSteps device state) where
  updating := (Updating.refl _ _ _).off hslot
  held _ := Or.inl rfl
  inStep _ _ := inStep_of_disabled henabled (isEnabled_off_self _ hslot)
  leaves step hstep := by
    rw [writeSteps_disable] at hstep
    rw [List.mem_singleton.mp hstep]
    exact ⟨(Updating.refl _ _ _).off hslot, quiet_control _ _⟩

variable {read : CardState} (hread : state.Addressing read) {reads : List (WriteStep CardState)}
  (hreads : ∀ step ∈ reads, step.Leaves state.Addressing)

include hread hreads

omit hslot hread in
/-- While a slot is read back, nothing happens to it. -/
lemma leaves_of_reads (slot : ℕ) (pattern : Pattern) :
    ∀ step ∈ reads, step.Leaves (state.Updating slot pattern) := fun step hstep =>
  (hreads step hstep).mono fun _ => (Updating.refl _ _ _).addressing

/-- A filter that should be on, and is, is only read back. -/
lemma BroughtInLine.untouched (henabled : filter.enabled = true)
    (hon : state.isEnabled filter.physicalSlot = true)
    (hsame : filter.rule.pattern = state.slots[filter.physicalSlot].toPattern) :
    state.BroughtInLine filter read reads := by
  obtain ⟨address, rfl⟩ := hread
  refine ⟨(Updating.refl _ _ _).addressing ⟨address, rfl⟩, fun _ => Or.inl rfl, ?_,
    leaves_of_reads hreads _ _⟩
  intro _ hfits
  refine inStep_of_enabled hslot henabled hon ?_
  rw [slots_latch, hsame, CardSlot.ofPattern_toPattern hfits]

/-- A filter that should be on, and is off with its pattern in the slot, is switched on. -/
lemma BroughtInLine.enabled (henabled : filter.enabled = true)
    (hsame : filter.rule.pattern = state.slots[filter.physicalSlot].toPattern) :
    state.BroughtInLine filter (read.on filter.physicalSlot)
      (reads ++ (enable filter.physicalSlot).writeSteps device read) := by
  obtain ⟨address, rfl⟩ := hread
  have hon : state.Updating filter.physicalSlot filter.rule.pattern
      ((state.latch address).on filter.physicalSlot) :=
    ((Updating.refl _ _ _).addressing ⟨address, rfl⟩).on hslot (Or.inl rfl)
  refine ⟨hon, fun _ => Or.inl rfl, ?_, ?_⟩
  · intro _ hfits
    refine inStep_of_enabled hslot henabled (isEnabled_on_self _ hslot) ?_
    rw [slots_on, slots_latch, hsame, CardSlot.ofPattern_toPattern hfits]
  · intro step hstep
    rw [writeSteps_enable] at hstep
    rcases List.mem_append.mp hstep with hstep | hstep
    · exact leaves_of_reads hreads _ _ step hstep
    · rw [List.mem_singleton.mp hstep]
      exact ⟨hon, quiet_control _ _⟩

/-- A filter that should be on with another pattern is written anew. -/
lemma BroughtInLine.rewritten (henabled : filter.enabled = true) :
    state.BroughtInLine filter
      ((rewrite filter.physicalSlot filter.rule.pattern).run device read).state
      (reads ++ (rewrite filter.physicalSlot filter.rule.pattern).writeSteps device read) := by
  obtain ⟨hrewriting, hon, hheld, hrewrites⟩ := read.run_rewrite hslot filter.rule.pattern
  refine ⟨hrewriting.of_addressing hread, fun _ => Or.inr hheld, ?_, ?_⟩
  · intro _ _
    exact inStep_of_enabled hslot henabled hon hheld
  · intro step hstep
    rcases List.mem_append.mp hstep with hstep | hstep
    · exact leaves_of_reads hreads _ _ step hstep
    · exact (hrewrites step hstep).mono fun _ h => h.of_addressing hread

end

/-- Whichever way is taken, a filter is brought in line by it. -/
lemma SyncWay.broughtInLine {state : CardState} {summary result : LoadSummary} {filter : Filter}
    {hslot : filter.physicalSlot < filterCount} {log : Array Log.Message} {done : Program Unit}
    (way : state.SyncWay summary filter hslot result log done) :
    state.BroughtInLine filter (done.run device state).state (done.writeSteps device state) := by
  obtain ⟨-, hread, hreads⟩ := state.run_readFilter hslot
  cases way with
  | idle henabled hoff =>
    rw [run_pure, writeSteps_pure]
    exact .idle henabled hoff
  | disabled henabled hlive =>
    rw [run_disable]
    exact .disabled hslot henabled
  | untouched henabled hsame hlive =>
    simp only [run_bind_state, run_pure, writeSteps_bind, writeSteps_pure, List.append_nil]
    exact .untouched hslot hread hreads henabled hlive hsame
  | enabled henabled hsame hoff =>
    rw [run_bind_state, run_enable, writeSteps_bind]
    exact .enabled hslot hread hreads henabled hsame
  | rewritten henabled hdiffers =>
    rw [run_bind_state, writeSteps_bind]
    exact .rewritten hslot hread hreads henabled

/-- Bringing a filter in line only touches its slot. -/
theorem run_syncFilter (state : CardState) (summary : LoadSummary) {filter : Filter}
    (hslot : filter.physicalSlot < filterCount) :
    state.BroughtInLine filter ((Loader.syncFilter summary filter).run device state).state
      ((Loader.syncFilter summary filter).writeSteps device state) := by
  obtain ⟨result, log, done, way, hrun, hsteps⟩ := state.syncFilter_way summary hslot
  rw [hrun, hsteps]
  exact way.broughtInLine

end CardState

end PacketSteering
