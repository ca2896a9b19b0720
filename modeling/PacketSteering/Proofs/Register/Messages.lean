import PacketSteering.Proofs.Register.Run
import PacketSteering.Register.Channel

/-!
# The messages of a run

The steps of the channel leave no message (`Program.Silent`), whatever they are answered, so that
the messages of a call are those that the call itself writes down, in the order in which it does.
-/

namespace PacketSteering

namespace Program

variable {σ α β γ : Type}

/-- A program that leaves no message. -/
def Silent : Program α → Prop
  | done _ => True
  | read _ next => ∀ value, (next value).Silent
  | write _ _ next => next.Silent
  | note _ _ => False

lemma Silent.run_log {program : Program α} (h : program.Silent) (device : Device σ) (state : σ) :
    (program.run device state).log = #[] := by
  induction program generalizing state with
  | done result => rfl
  | read offset next ih => exact ih _ (h _) _
  | write offset value next ih => exact ih h _
  | note message next => exact h.elim

/-- What comes after a program without messages is run as if it came first. -/
lemma Silent.run_bind {program : Program α} (h : program.Silent) (following : α → Program β)
    (device : Device σ) (state : σ) :
    (program >>= following).run device state =
      (following (program.run device state).result).run device (program.run device state).state :=
  Run.ext (run_bind_result device _ _ _) (run_bind_state device _ _ _)
    (by rw [run_bind_log, h.run_log, Array.empty_append])

lemma silent_pure (result : α) : (pure result : Program α).Silent := trivial

lemma Silent.bind {program : Program α} {following : α → Program β} (h : program.Silent)
    (hfollowing : ∀ result, (following result).Silent) : (program >>= following).Silent := by
  show (Program.bind program following).Silent
  induction program with
  | done result => exact hfollowing result
  | read offset next ih => exact fun value => ih value (h value)
  | write offset value next ih => exact ih h
  | note message next => exact h.elim

lemma silent_readTimes (offset : UInt32) (n : ℕ) : (readTimes offset n).Silent := by
  induction n with
  | zero => trivial
  | succ n ih => exact fun _ => ih

lemma silent_fold {step : γ → β → Program γ} (h : ∀ acc x, (step acc x).Silent) (acc : γ)
    (xs : List β) : (fold step acc xs).Silent := by
  induction xs generalizing acc with
  | nil => trivial
  | cons x rest ih => exact (h acc x).bind ih

lemma silent_forEach {step : β → Program Unit} (h : ∀ x, (step x).Silent) (xs : List β) :
    (forEach step xs).Silent := by
  induction xs with
  | nil => trivial
  | cons x rest ih => exact (h x).bind fun _ => ih

end Program

/-! ## The channel -/

namespace Channel

open Program Register

lemma silent_writeSettled (offset value : UInt32) : (writeSettled offset value).Silent :=
  silent_readTimes _ _

lemma silent_isEnabled (slot : ℕ) : (isEnabled slot).Silent := fun _ => trivial

lemma silent_activeBank : activeBank.Silent := fun _ => trivial

lemma silent_enable (slot : ℕ) : (enable slot).Silent := fun _ => silent_writeSettled _ _

lemma silent_disable (slot : ℕ) : (disable slot).Silent := fun _ => silent_writeSettled _ _

lemma silent_setActiveBank (bank : Bank) : (setActiveBank bank).Silent :=
  fun _ => silent_writeSettled _ _

lemma silent_writeWord (slot : ℕ) (target : Target) (word : ℕ) (data : UInt32) :
    (writeWord slot target word data).Silent :=
  (silent_writeSettled _ _).bind fun _ => silent_writeSettled _ _

lemma silent_writeFilter (slot : ℕ) (pattern : Pattern) : (writeFilter slot pattern).Silent :=
  (silent_forEach (fun _ => silent_writeWord _ _ _ _) _).bind fun _ =>
    (silent_forEach (fun _ => silent_writeWord _ _ _ _) _).bind fun _ => silent_writeWord _ _ _ _

lemma silent_readWord (slot : ℕ) (target : Target) (word : ℕ) :
    (readWord slot target word).Silent :=
  (silent_writeSettled _ _).bind fun _ _ => trivial

lemma silent_readWords (slot : ℕ) (words : Array UInt32 × Array UInt32) (word : ℕ) :
    (readWords slot words word).Silent :=
  (silent_readWord _ _ _).bind fun _ => (silent_readWord _ _ _).bind fun _ => silent_pure _

lemma silent_readFilter (slot : ℕ) : (readFilter slot).Silent :=
  (silent_fold (silent_readWords slot) _ _).bind fun _ =>
    (silent_readWord _ _ _).bind fun _ => silent_pure _

lemma silent_writeTable (bank : Bank) (table : ColourTable) : (writeTable bank table).Silent :=
  silent_forEach (fun _ => silent_writeSettled _ _) _

end Channel

end PacketSteering
