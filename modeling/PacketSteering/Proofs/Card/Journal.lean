import Mathlib.Tactic.Common
import PacketSteering.Proofs.Card.Effects

/-!
# The journal of a run

A journal records the events of the writes that are made, in order and each burst once: its events
after a run are told by those before it and by the writes (`Card.events_run`).  Nothing is recorded
that did not happen, so what is true of the events of every write of a run is true of everything
that the run records (`Card.grewBy_run`).
-/

namespace PacketSteering

namespace Journal

/-! ## One write -/

@[simp] lemma events_observe (journal : Journal) (state : CardState) (event : Option ℕ) :
    (journal.observe state event).events = journal.events := by
  unfold observe
  dsimp only
  split
  · split <;> rfl
  · rfl

lemma events_recordAll (state : CardState) (journal : Journal) (events : List Event) :
    (journal.recordAll state events).events = events.foldl pushEvent journal.events := by
  unfold recordAll
  induction events generalizing journal with
  | nil => rfl
  | cons event rest ih =>
    rw [List.foldl_cons, ih, List.foldl_cons]
    congr 1
    exact events_observe _ _ _

/-! ## Bursts -/

/-- Nothing is recorded but what happens. -/
lemma exists_foldl_pushEvent {kind : Event → Prop} {events : List Event}
    (h : ∀ event ∈ events, kind event) (before : Array Event) :
    ∃ recorded : Array Event, events.foldl pushEvent before = before ++ recorded ∧
      ∀ event ∈ recorded, kind event := by
  induction events generalizing before with
  | nil => exact ⟨#[], by simp⟩
  | cons event rest ih =>
    obtain ⟨recorded, heq, hkind⟩ :=
      ih (fun other hother => h other (List.mem_cons_of_mem _ hother)) (pushEvent before event)
    rw [List.foldl_cons, heq, pushEvent]
    split
    case isTrue => exact ⟨recorded, rfl, hkind⟩
    case isFalse =>
      refine ⟨#[event] ++ recorded, by simp, fun other hother => ?_⟩
      rcases Array.mem_append.mp hother with hother | hother
      · rw [Array.mem_singleton.mp hother]
        exact h event List.mem_cons_self
      · exact hkind other hother

/-- A burst that goes on is not recorded again. -/
lemma foldl_pushEvent_replicate (before : Array Event) {event : Event} (h : event.isBurst = true)
    (n : ℕ) : (List.replicate n event).foldl pushEvent (before.push event) = before.push event := by
  induction n with
  | zero => rfl
  | succ n ih =>
    have hgoesOn : pushEvent (before.push event) event = before.push event :=
      if_pos ⟨h, Array.back?_push⟩
    rw [List.replicate_succ, List.foldl_cons, hgoesOn, ih]

/-- A log that does not end in a burst, which the next event might continue. -/
def Closed (log : Array Event) : Prop :=
  ∀ event, log.back? = some event → event.isBurst = false

/-- What is recorded of events: they add this to every log that does not end in a burst, and the
log does not end in one afterwards. -/
def Records (events recorded : List Event) : Prop :=
  ∀ log, Closed log → events.foldl pushEvent log = log ++ recorded.toArray ∧
    Closed (log ++ recorded.toArray)

lemma closed_empty : Closed #[] := nofun

lemma closed_push (log : Array Event) {event : Event} (h : event.isBurst = false) :
    Closed (log.push event) := by
  intro last hlast
  rw [Array.back?_push, Option.some.injEq] at hlast
  rwa [← hlast]

lemma pushEvent_of_not_isBurst (log : Array Event) {event : Event} (h : event.isBurst = false) :
    pushEvent log event = log.push event :=
  if_neg fun hburst => Bool.false_ne_true (h.symm.trans hburst.1)

lemma Records.nil : Records [] [] := fun log h => by
  rw [Array.append_empty]
  exact ⟨rfl, h⟩

lemma Records.append {events events' recorded recorded' : List Event} (h : Records events recorded)
    (h' : Records events' recorded') : Records (events ++ events') (recorded ++ recorded') := by
  intro log hlog
  obtain ⟨hfirst, hclosed⟩ := h log hlog
  rw [List.foldl_append, hfirst, ← List.append_toArray, ← Array.append_assoc]
  exact h' _ hclosed

/-- An event that is not one of a burst is recorded. -/
lemma Records.single {event : Event} (h : event.isBurst = false) : Records [event] [event] := by
  intro log _
  rw [List.foldl_cons, List.foldl_nil, pushEvent_of_not_isBurst log h, Array.append_singleton]
  exact ⟨rfl, closed_push log h⟩

/-- A burst is recorded once, and so is the event that ends it. -/
lemma Records.burst {event last : Event} (h : event.isBurst = true) (hlast : last.isBurst = false)
    {n : ℕ} (hn : 0 < n) : Records (List.replicate n event ++ [last]) [event, last] := by
  intro log hlog
  obtain ⟨n, rfl⟩ := Nat.exists_eq_succ_of_ne_zero (Nat.ne_of_gt hn)
  have hfirst : pushEvent log event = log.push event := by
    refine if_neg fun hgoesOn => ?_
    rw [hlog event hgoesOn.2] at h
    cases h
  have hrecorded : log ++ [event, last].toArray = (log.push event).push last :=
    Array.ext' (by simp)
  have hburst : (List.replicate (n + 1) event).foldl pushEvent log = log.push event := by
    rw [List.replicate_succ, List.foldl_cons, hfirst, foldl_pushEvent_replicate log h n]
  rw [List.foldl_append, hburst, List.foldl_cons, List.foldl_nil,
    pushEvent_of_not_isBurst _ hlast, hrecorded]
  exact ⟨rfl, closed_push _ hlast⟩

/-- A journal has grown by events of some kind. -/
def GrewBy (kind : Event → Prop) (before after : Journal) : Prop :=
  ∃ recorded : Array Event, after.events = before.events ++ recorded ∧
    ∀ event ∈ recorded, kind event

end Journal

/-! ## Runs -/

/-- The events after a run are those before it and those of its writes, each burst recorded once. -/
theorem Card.events_run {α : Type} (program : Program α) (card : Card) :
    (program.run Card.device card).state.journal.events =
      ((program.writeSteps CardState.device card.state).flatMap WriteStep.events).foldl
        Journal.pushEvent card.journal.events := by
  induction program generalizing card with
  | done result => rfl
  | read offset next ih => exact ih _ (Card.read offset card).2
  | write offset value next ih =>
    have hfirst : (card.write offset value).journal.events =
        (card.state.write offset value).2.foldl Journal.pushEvent card.journal.events :=
      Journal.events_recordAll _ _ _
    have hrest := ih (card.write offset value)
    rw [hfirst, ← List.foldl_append] at hrest
    exact hrest
  | note message next ih =>
    rw [Program.run_note]
    exact ih card

/-- A run records nothing but events of its writes. -/
theorem Card.grewBy_run {α : Type} {kind : Event → Prop} (program : Program α) (card : Card)
    (h : ∀ step ∈ program.writeSteps CardState.device card.state, ∀ event ∈ step.events,
      kind event) :
    card.journal.GrewBy kind (program.run Card.device card).state.journal := by
  rw [Journal.GrewBy, Card.events_run]
  refine Journal.exists_foldl_pushEvent (fun event hevent => ?_) _
  obtain ⟨step, hstep, hevent⟩ := List.mem_flatMap.mp hevent
  exact h step hstep event hevent

end PacketSteering
