import Mathlib.Tactic.Common
import PacketSteering.Card.Basic
import PacketSteering.Register.Channel

/-!
# Settling

A card needs time to absorb a write.  Whoever writes gives it that time by reading the control
register, and until then neither writes again nor reads what the write may still be on its way to
(`Trace.Settled`).

What a program owes the card is followed through the tree of its accesses (`Program.Pays`): a write
runs up a debt of reads, a read of the control register pays one back, and as long as there is a
debt nothing waits for the card.  This says nothing of what is answered, so that it holds against
any device: it is kept by `bind` and by repetition, every step of the channel keeps it, and the
accesses that such a program makes on a device are settled (`Program.Pays.settled`).  A card counts
no violation meanwhile (`Program.Pays.run_card`).
-/

namespace PacketSteering

open Register

/-! ## Settled traces -/

namespace Access

/-- Whether an access is a read of the control register. -/
def readsControl : Access → Bool
  | read offset _ => offset == control
  | write _ _ => false

/-- Whether an access has to wait until the last write is absorbed: another write, and a read of
filter data or of a row of a bank. -/
def waits : Access → Bool
  | read offset _ => offset == filterData || offset == colour
  | write _ _ => true

/-- The reads of the control register that are owed after an access. -/
def debt (access : Access) (owed : ℕ) : ℕ :=
  if access.isWrite then settleReads else if access.readsControl then owed - 1 else owed

end Access

/-- Every write is followed by the reads that let the card absorb it, and nothing that has to wait
for that comes in between. -/
def Trace.Settled (trace : Trace) : Prop :=
  ∀ before offset value after, trace.toList = before ++ .write offset value :: after →
    ∃ absorbing rest, after = absorbing ++ rest ∧ (∀ access ∈ absorbing, access.waits = false) ∧
      settleReads ≤ absorbing.countP Access.readsControl

/-- Accesses that pay what is owed before anything has to wait for it, and all of it in the
end. -/
def PaysBack : ℕ → List Access → Prop
  | owed, [] => owed = 0
  | owed, access :: rest => (access.waits = true → owed = 0) ∧ PaysBack (access.debt owed) rest

/-- What is owed is paid before anything has to wait. -/
lemma PaysBack.exists_absorbing {owed : ℕ} {accesses : List Access} (h : PaysBack owed accesses) :
    ∃ absorbing rest, accesses = absorbing ++ rest ∧
      (∀ access ∈ absorbing, access.waits = false) ∧
        owed ≤ absorbing.countP Access.readsControl := by
  induction accesses generalizing owed with
  | nil => exact ⟨[], [], rfl, by simp, Nat.le_of_eq h⟩
  | cons access rest ih =>
    obtain ⟨hwaits, hrest⟩ := h
    by_cases hpaid : owed = 0
    · exact ⟨[], access :: rest, rfl, by simp, Nat.le_of_eq hpaid⟩
    · have hquiet : access.waits = false := by simpa using mt hwaits hpaid
      obtain ⟨absorbing, later, rfl, habsorbing, hcount⟩ := ih hrest
      refine ⟨access :: absorbing, later, rfl, List.forall_mem_cons.mpr ⟨hquiet, habsorbing⟩, ?_⟩
      have hread : access.isWrite = false := by
        cases access with
        | read offset value => rfl
        | write offset value => cases hquiet
      rw [Access.debt, hread, if_neg Bool.false_ne_true] at hcount
      rw [List.countP_cons]
      split at hcount
      case isTrue hcontrol =>
        rw [if_pos hcontrol]
        omega
      case isFalse => omega

/-- A trace in which every debt is paid is settled. -/
lemma PaysBack.settled {owed : ℕ} {trace : Trace} (h : PaysBack owed trace.toList) :
    trace.Settled := by
  intro before offset value after htrace
  rw [htrace] at h
  clear htrace
  induction before generalizing owed with
  | nil => exact h.2.exists_absorbing
  | cons access before ih => exact ih h.2

/-! ## Programs that pay -/

namespace Program

variable {σ α β γ : Type}

/-- A program that owes some reads pays them, whatever it is answered, before anything has to wait
for them, and is done only when it owes nothing. -/
def Pays : ℕ → Program α → Prop
  | owed, done _ => owed = 0
  | owed, read offset next =>
    ∀ value, ((Access.read offset value).waits = true → owed = 0) ∧
      (next value).Pays ((Access.read offset value).debt owed)
  | owed, write offset value next => owed = 0 ∧ next.Pays ((Access.write offset value).debt owed)
  | owed, note _ next => next.Pays owed

lemma pays_pure (result : α) : (pure result : Program α).Pays 0 := rfl

lemma pays_log (level : Log.Level) (text : String) : (log level text).Pays 0 := rfl

/-- Who owes nothing may read anything. -/
lemma pays_read {offset : UInt32} {next : UInt32 → Program α} (h : ∀ value, (next value).Pays 0) :
    (read offset next).Pays 0 := by
  intro value
  refine ⟨fun _ => rfl, ?_⟩
  have hdebt : (Access.read offset value).debt 0 = 0 := by
    simp [Access.debt, Access.isWrite]
  rw [hdebt]
  exact h value

lemma Pays.bind {owed : ℕ} {program : Program α} {following : α → Program β}
    (h : program.Pays owed) (hfollowing : ∀ result, (following result).Pays 0) :
    (program >>= following).Pays owed := by
  change (program.bind following).Pays owed
  induction program generalizing owed with
  | done result =>
    rw [show owed = 0 from h]
    exact hfollowing result
  | read offset next ih => exact fun value => ⟨(h value).1, ih value (h value).2⟩
  | write offset value next ih => exact ⟨h.1, ih h.2⟩
  | note message next ih => exact ih h

lemma pays_fold {step : γ → β → Program γ} (hstep : ∀ acc x, (step acc x).Pays 0) (acc : γ)
    (xs : List β) : (fold step acc xs).Pays 0 := by
  induction xs generalizing acc with
  | nil => exact pays_pure acc
  | cons x rest ih => exact (hstep acc x).bind ih

lemma pays_forEach {step : β → Program Unit} (hstep : ∀ x, (step x).Pays 0) (xs : List β) :
    (forEach step xs).Pays 0 := by
  induction xs with
  | nil => exact pays_pure ()
  | cons x rest ih => exact (hstep x).bind fun _ => ih

/-- As many reads of the control register as are owed pay the debt. -/
lemma pays_readTimes (n : ℕ) : (readTimes control n).Pays n := by
  induction n with
  | zero => rfl
  | succ n ih => exact fun value => ⟨fun hwaits => (by cases hwaits), ih⟩

/-! ## Runs -/

/-- The accesses that a program makes, on any device, pay what it owes. -/
lemma Pays.exists_accesses {owed : ℕ} {program : Program α} (h : program.Pays owed)
    (device : Device σ) (state : σ) (trace : Trace) (log : Array Log.Message) :
    ∃ made, (program.runFrom device.watched (state, trace) log).state.2.toList =
      trace.toList ++ made ∧ PaysBack owed made := by
  induction program generalizing owed state trace log with
  | done result => exact ⟨[], (List.append_nil _).symm, h⟩
  | read offset next ih =>
    obtain ⟨hwaits, hnext⟩ := h (device.read offset state).1
    obtain ⟨made, hmade, hpays⟩ := ih _ hnext (device.read offset state).2
      (trace.push (.read offset (device.read offset state).1)) log
    refine ⟨.read offset (device.read offset state).1 :: made, ?_, hwaits, hpays⟩
    rw [Array.toList_push, List.append_assoc] at hmade
    exact hmade
  | write offset value next ih =>
    obtain ⟨made, hmade, hpays⟩ :=
      ih h.2 (device.write offset value state) (trace.push (.write offset value)) log
    refine ⟨.write offset value :: made, ?_, fun _ => h.1, hpays⟩
    rw [Array.toList_push, List.append_assoc] at hmade
    exact hmade
  | note message next ih => exact ih h state trace (log.push message)

/-- What a program that owes nothing does to a device, whatever it answers, is settled. -/
theorem Pays.settled {program : Program α} (h : program.Pays 0) (device : Device σ) (state : σ) :
    Trace.Settled (program.run device.watched (state, #[])).state.2 := by
  obtain ⟨made, hmade, hpays⟩ := h.exists_accesses device state #[] #[]
  have hpaid : PaysBack 0 (program.run device.watched (state, #[])).state.2.toList := by
    rw [Program.run, hmade]
    exact hpays
  exact hpaid.settled

/-- A card on which as much has been read since the last write as is not owed any more counts no
violation, and its last write has settled in the end. -/
lemma Pays.runFrom_card {owed : ℕ} {program : Program α} (h : program.Pays owed) (card : Card)
    (log : Array Log.Message) (hread : settleReads ≤ card.readsSinceWrite + owed) :
    (program.runFrom Card.device card log).state.settleViolations = card.settleViolations ∧
      settleReads ≤ (program.runFrom Card.device card log).state.readsSinceWrite := by
  induction program generalizing owed card log with
  | done result =>
    have howed : owed = 0 := h
    rw [howed] at hread
    exact ⟨rfl, hread⟩
  | read offset next ih =>
    obtain ⟨-, hnext⟩ := h (card.read offset).1
    refine ih _ hnext (card.read offset).2 log ?_
    show settleReads ≤ card.readsSinceWrite + 1 + (Access.read offset _).debt owed
    simp only [Access.debt, Access.isWrite, Bool.false_eq_true, if_false]
    split <;> omega
  | write offset value next ih =>
    obtain ⟨howed, hnext⟩ := h
    have hsettled : ¬ card.readsSinceWrite < settleReads := by omega
    obtain ⟨hviolations, hafter⟩ := ih hnext (card.write offset value) log (Nat.le_add_left _ _)
    refine ⟨hviolations.trans ?_, hafter⟩
    show (if card.readsSinceWrite < settleReads then _ else _) = _
    rw [if_neg hsettled]
  | note message next ih => exact ih h card (log.push message) hread

/-- A card whose last write has settled counts no violation while such a program runs. -/
lemma Pays.run_card {program : Program α} (h : program.Pays 0) (card : Card)
    (hsettled : settleReads ≤ card.readsSinceWrite) :
    (program.run Card.device card).state.settleViolations = card.settleViolations ∧
      settleReads ≤ (program.run Card.device card).state.readsSinceWrite :=
  h.runFrom_card card #[] hsettled

end Program

/-! ## The channel pays -/

namespace Channel

open Program

/-- A write that is settled leaves no debt. -/
lemma pays_writeSettled (offset value : UInt32) : (writeSettled offset value).Pays 0 :=
  ⟨rfl, pays_readTimes settleReads⟩

lemma pays_readControl : readControl.Pays 0 :=
  pays_read fun _ => rfl

lemma pays_enabledMask : enabledMask.Pays 0 :=
  pays_readControl.bind fun _ => pays_pure _

lemma pays_isEnabled (slot : ℕ) : (isEnabled slot).Pays 0 :=
  pays_readControl.bind fun _ => pays_pure _

lemma pays_enable (slot : ℕ) : (enable slot).Pays 0 :=
  pays_readControl.bind fun _ => pays_writeSettled _ _

lemma pays_disable (slot : ℕ) : (disable slot).Pays 0 :=
  pays_readControl.bind fun _ => pays_writeSettled _ _

lemma pays_writeWord (slot : ℕ) (target : Target) (word : ℕ) (data : UInt32) :
    (writeWord slot target word data).Pays 0 :=
  (pays_writeSettled _ _).bind fun _ => pays_writeSettled _ _

lemma pays_readWord (slot : ℕ) (target : Target) (word : ℕ) : (readWord slot target word).Pays 0 :=
  (pays_writeSettled _ _).bind fun _ => pays_read fun _ => rfl

lemma pays_writeFilter (slot : ℕ) (pattern : Pattern) : (writeFilter slot pattern).Pays 0 :=
  (pays_forEach (fun _ => pays_writeWord _ _ _ _) _).bind fun _ =>
    (pays_forEach (fun _ => pays_writeWord _ _ _ _) _).bind fun _ => pays_writeWord _ _ _ _

lemma pays_readWords (slot : ℕ) (soFar : Array UInt32 × Array UInt32) (word : ℕ) :
    (readWords slot soFar word).Pays 0 :=
  (pays_readWord _ _ _).bind fun _ => (pays_readWord _ _ _).bind fun _ => pays_pure _

lemma pays_readFilter (slot : ℕ) : (readFilter slot).Pays 0 :=
  (pays_fold (pays_readWords slot) _ _).bind fun _ =>
    (pays_readWord _ _ _).bind fun _ => pays_pure _

lemma pays_activeBank : activeBank.Pays 0 :=
  pays_readControl.bind fun _ => pays_pure _

lemma pays_setActiveBank (bank : Bank) : (setActiveBank bank).Pays 0 :=
  pays_readControl.bind fun _ => pays_writeSettled _ _

lemma pays_writeTable (bank : Bank) (table : ColourTable) : (writeTable bank table).Pays 0 :=
  pays_forEach (fun _ => pays_writeSettled _ _) _

lemma pays_readRow (bank : Bank) (row : ℕ) : (readRow bank row).Pays 0 := by
  have hread : (Program.read colour .done).Pays 0 := pays_read fun _ => rfl
  exact (pays_writeSettled _ _).bind fun _ => hread.bind fun _ => pays_pure _

lemma pays_readTable (memory : Memory) (bank : Bank) (entries bits : ℕ) :
    (readTable memory bank entries bits).Pays 0 := by
  unfold readTable
  split
  case h_1 => exact pays_pure _
  case h_2 table _ =>
    refine (pays_fold (fun _ _ => ?_) table _).bind fun _ => pays_pure _
    exact (pays_readRow _ _).bind fun _ => pays_pure _

end Channel

end PacketSteering
