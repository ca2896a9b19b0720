import Mathlib.Tactic.Common
import PacketSteering.Register.Program

/-!
# What a run does to a device

A run is followed in two ways.  `Program.run` gives its result and the state it leaves;
`Program.writeSteps` gives its writes in order, each with the state it was made in.  Both follow
`bind` (`run_bind_result`, `run_bind_state`, `writeSteps_bind`), so that a program put together
from parts is judged part by part, and both follow a repeated step by one induction on the
elements still to come (`forEach_induction`, `fold_induction`).

The states right after the writes, `Program.statesAfterWrites`, are all that traffic can meet
while a program runs: a read changes nothing that steers.

A device may be seen through a coarser one, of which it keeps every answer and every write
(`Device.Projects`).  What is proved of the coarser device then holds of the view of the finer.
-/

namespace PacketSteering

attribute [ext] Run

/-- A write of a run: what was written where, and the state it was made in. -/
structure WriteStep (σ : Type) where
  before : σ
  offset : UInt32
  value : UInt32

/-- The state right after a write. -/
def WriteStep.after {σ : Type} (device : Device σ) (step : WriteStep σ) : σ :=
  device.write step.offset step.value step.before

namespace Program

variable {σ τ α β γ : Type} (device : Device σ)

/-- The writes of a run in order. -/
def writeSteps : Program α → σ → List (WriteStep σ)
  | done _, _ => []
  | read offset next, state =>
    match device.read offset state with
    | (value, state) => writeSteps (next value) state
  | write offset value next, state =>
    ⟨state, offset, value⟩ :: writeSteps next (device.write offset value state)
  | note _ next, state => writeSteps next state

/-- The states of a device right after each write of a run. -/
def statesAfterWrites (program : Program α) (state : σ) : List σ :=
  (program.writeSteps device state).map (WriteStep.after device)

/-! ## Sequences -/

/-- The messages left before a run only stand in front of its own. -/
lemma runFrom_eq_run (program : Program α) (state : σ) (log : Array Log.Message) :
    program.runFrom device state log =
      ⟨(program.run device state).result, (program.run device state).state,
        log ++ (program.run device state).log⟩ := by
  unfold run
  induction program generalizing state log with
  | done result => simp [runFrom]
  | read offset next ih => exact ih _ _ _
  | write offset value next ih => exact ih _ _
  | note message next ih =>
    simp only [runFrom]
    rw [ih state (log.push message), ih state (#[].push message)]
    simp

@[simp] lemma run_pure (result : α) (state : σ) :
    (pure result : Program α).run device state = ⟨result, state, #[]⟩ := by
  rw [run]
  rfl

lemma runFrom_read (offset : UInt32) (next : UInt32 → Program α) (state : σ)
    (log : Array Log.Message) :
    (read offset next).runFrom device state log =
      (next (device.read offset state).1).runFrom device (device.read offset state).2 log := rfl

lemma writeSteps_read (offset : UInt32) (next : UInt32 → Program α) (state : σ) :
    (read offset next).writeSteps device state =
      (next (device.read offset state).1).writeSteps device (device.read offset state).2 := rfl

lemma run_read (offset : UInt32) (next : UInt32 → Program α) (state : σ) :
    (read offset next).run device state =
      (next (device.read offset state).1).run device (device.read offset state).2 := rfl

lemma run_write (offset value : UInt32) (next : Program α) (state : σ) :
    (write offset value next).run device state =
      next.run device (device.write offset value state) := rfl

lemma run_note (message : Log.Message) (next : Program α) (state : σ) :
    (note message next).run device state =
      ⟨(next.run device state).result, (next.run device state).state,
        #[message] ++ (next.run device state).log⟩ := by
  show next.runFrom device state (#[].push message) = _
  rw [runFrom_eq_run, List.push_toArray, List.nil_append]

@[simp] lemma run_bind_result (program : Program α) (following : α → Program β) (state : σ) :
    ((program >>= following).run device state).result =
      ((following (program.run device state).result).run device
        (program.run device state).state).result := by
  change (runFrom device (program.bind following) state #[]).result = _
  rw [runFrom_bind]
  dsimp only
  rw [runFrom_eq_run]
  rfl

@[simp] lemma run_bind_state (program : Program α) (following : α → Program β) (state : σ) :
    ((program >>= following).run device state).state =
      ((following (program.run device state).result).run device
        (program.run device state).state).state := by
  change (runFrom device (program.bind following) state #[]).state = _
  rw [runFrom_bind]
  dsimp only
  rw [runFrom_eq_run]
  rfl

@[simp] lemma run_bind_log (program : Program α) (following : α → Program β) (state : σ) :
    ((program >>= following).run device state).log =
      (program.run device state).log ++
        ((following (program.run device state).result).run device
          (program.run device state).state).log := by
  change (runFrom device (program.bind following) state #[]).log = _
  rw [runFrom_bind]
  dsimp only
  rw [runFrom_eq_run]
  rfl

-- Proved by a rewrite, as `run_pure` is: as definitional equations these two would have the kernel
-- unfold the runs that led to `state`.
@[simp] lemma run_log_state (level : Log.Level) (text : String) (state : σ) :
    ((log level text).run device state).state = state := by
  rw [run, log]
  rfl

@[simp] lemma run_log_log (level : Log.Level) (text : String) (state : σ) :
    ((log level text).run device state).log = #[⟨level, text⟩] := by
  rw [run, log]
  rfl

lemma run_log_bind_pure (level : Log.Level) (text : String) (result : α) (state : σ) :
    (log level text >>= fun _ => pure result).run device state =
      ⟨result, state, #[⟨level, text⟩]⟩ :=
  run_note device ⟨level, text⟩ (pure result) state

@[simp] lemma run_readTimes_state (offset : UInt32) (n : ℕ) (state : σ)
    (hread : ∀ state, (device.read offset state).2 = state) :
    ((readTimes offset n).run device state).state = state := by
  induction n with
  | zero => rfl
  | succ n ih => rw [readTimes, run_read, hread, ih]

@[simp] lemma writeSteps_pure (result : α) (state : σ) :
    (pure result : Program α).writeSteps device state = [] := rfl

@[simp] lemma writeSteps_log (level : Log.Level) (text : String) (state : σ) :
    (log level text).writeSteps device state = [] := rfl

@[simp] lemma writeSteps_readTimes (offset : UInt32) (n : ℕ) (state : σ) :
    (readTimes offset n).writeSteps device state = [] := by
  induction n generalizing state with
  | zero => rfl
  | succ n ih => exact ih _

/-- The writes of two programs in sequence are those of the first, and then those of the second
from where the first has led. -/
@[simp] lemma writeSteps_bind (program : Program α) (following : α → Program β) (state : σ) :
    (program >>= following).writeSteps device state =
      program.writeSteps device state ++
        (following (program.run device state).result).writeSteps device
          (program.run device state).state := by
  change (program.bind following).writeSteps device state = _
  induction program generalizing state with
  | done result => rfl
  | read offset next ih => exact ih _ _
  | write offset value next ih =>
    simp only [bind, writeSteps, List.cons_append]
    rw [ih]
    rfl
  | note message next ih =>
    rw [run_note]
    exact ih state

/-! ## Repetition -/

/-- An invariant that speaks of the elements still to come holds, with none to come, after a step
for each of them, and what every write of a step satisfies is satisfied by every write. -/
theorem fold_induction (step : γ → β → Program γ) (Inv : List β → γ → σ → Prop)
    {Allowed : WriteStep σ → Prop}
    (hstep : ∀ x rest acc state, Inv (x :: rest) acc state →
      Inv rest ((step acc x).run device state).result ((step acc x).run device state).state ∧
        ∀ written ∈ (step acc x).writeSteps device state, Allowed written)
    (xs : List β) (acc : γ) (state : σ) (hinv : Inv xs acc state) :
    Inv [] ((fold step acc xs).run device state).result
        ((fold step acc xs).run device state).state ∧
      ∀ written ∈ (fold step acc xs).writeSteps device state, Allowed written := by
  induction xs generalizing acc state with
  | nil => exact ⟨hinv, by simp [fold, writeSteps]⟩
  | cons x rest ih =>
    have hfold : fold step acc (x :: rest) = step acc x >>= fun acc => fold step acc rest := rfl
    obtain ⟨hnext, hallowed⟩ := hstep x rest acc state hinv
    obtain ⟨hend, hrest⟩ := ih _ _ hnext
    rw [hfold, run_bind_result, run_bind_state, writeSteps_bind]
    refine ⟨hend, fun written hmem => ?_⟩
    rcases List.mem_append.mp hmem with hmem | hmem
    · exact hallowed written hmem
    · exact hrest written hmem

/-- `fold_induction` for a step without a result. -/
theorem forEach_induction (step : β → Program Unit) (Inv : List β → σ → Prop)
    {Allowed : WriteStep σ → Prop}
    (hstep : ∀ x rest state, Inv (x :: rest) state →
      Inv rest ((step x).run device state).state ∧
        ∀ written ∈ (step x).writeSteps device state, Allowed written)
    (xs : List β) (state : σ) (hinv : Inv xs state) :
    Inv [] ((forEach step xs).run device state).state ∧
      ∀ written ∈ (forEach step xs).writeSteps device state, Allowed written := by
  induction xs generalizing state with
  | nil => exact ⟨hinv, by simp [forEach, writeSteps]⟩
  | cons x rest ih =>
    have hforEach : forEach step (x :: rest) = step x >>= fun _ => forEach step rest := rfl
    obtain ⟨hnext, hallowed⟩ := hstep x rest state hinv
    obtain ⟨hend, hrest⟩ := ih _ hnext
    rw [hforEach, run_bind_state, writeSteps_bind]
    refine ⟨hend, fun written hmem => ?_⟩
    rcases List.mem_append.mp hmem with hmem | hmem
    · exact hallowed written hmem
    · exact hrest written hmem

end Program

/-- The device that has no state and answers every read with zero. -/
def Device.silent : Device Unit :=
  ⟨fun _ state => (0, state), fun _ _ state => state⟩

/-! ## Views of a device -/

/-- A device is seen through a view as another one: every read is answered alike, and every access
leaves states that the view relates. -/
structure Device.Projects {σ τ : Type} (device : Device σ) (image : Device τ) (view : σ → τ) :
    Prop where
  read : ∀ offset state, image.read offset (view state) =
    ((device.read offset state).1, view (device.read offset state).2)
  write : ∀ offset value state, image.write offset value (view state) =
    view (device.write offset value state)

/-- A write seen through a view. -/
def WriteStep.map {σ τ : Type} (view : σ → τ) (step : WriteStep σ) : WriteStep τ :=
  ⟨view step.before, step.offset, step.value⟩

namespace Device.Projects

variable {σ τ α : Type} {device : Device σ} {image : Device τ} {view : σ → τ}

lemma runFrom (h : device.Projects image view) (program : Program α) (state : σ)
    (log : Array Log.Message) :
    program.runFrom image (view state) log =
      ⟨(program.runFrom device state log).result, view (program.runFrom device state log).state,
        (program.runFrom device state log).log⟩ := by
  induction program generalizing state log with
  | done result => rfl
  | read offset next ih =>
    rw [Program.runFrom_read, Program.runFrom_read, h.read]
    exact ih _ _ _
  | write offset value next ih =>
    simp only [Program.runFrom]
    rw [h.write]
    exact ih _ _
  | note message next ih => exact ih _ _

lemma run_result (h : device.Projects image view) (program : Program α) (state : σ) :
    (program.run image (view state)).result = (program.run device state).result := by
  rw [Program.run, h.runFrom]
  rfl

lemma run_state (h : device.Projects image view) (program : Program α) (state : σ) :
    (program.run image (view state)).state = view (program.run device state).state := by
  rw [Program.run, h.runFrom]
  rfl

lemma run_log (h : device.Projects image view) (program : Program α) (state : σ) :
    (program.run image (view state)).log = (program.run device state).log := by
  rw [Program.run, h.runFrom]
  rfl

lemma writeSteps (h : device.Projects image view) (program : Program α) (state : σ) :
    program.writeSteps image (view state) =
      (program.writeSteps device state).map (WriteStep.map view) := by
  induction program generalizing state with
  | done result => rfl
  | read offset next ih =>
    rw [Program.writeSteps_read, Program.writeSteps_read, h.read]
    exact ih _ _
  | write offset value next ih =>
    simp only [Program.writeSteps, List.map_cons]
    rw [h.write, ih]
    rfl
  | note message next ih => exact ih _

lemma statesAfterWrites (h : device.Projects image view) (program : Program α) (state : σ) :
    program.statesAfterWrites image (view state) =
      (program.statesAfterWrites device state).map view := by
  simp only [Program.statesAfterWrites, h.writeSteps, List.map_map]
  congr 1
  funext step
  exact h.write step.offset step.value step.before

end Device.Projects

end PacketSteering
