import PacketSteering.Loader
import PacketSteering.Proofs.Card.Steering
import PacketSteering.Proofs.Register.Settling

/-!
# Drivers settle their writes

A driver reaches a card only through the steps of the channel and the calls of the loader
(`Loader.Operation`).  Each of them pays the reads that it owes after every write, so that any
sequence of them does, on any device and whatever that answers: the trace of such a sequence is
settled, and a card counts no violation while it runs (`Loader.operations_settle`).
-/

namespace PacketSteering.Loader

open Program Register Channel

/-! ## The loader pays -/

lemma pays_syncFilter (summary : LoadSummary) (filter : Filter) :
    (syncFilter summary filter).Pays 0 := by
  refine (pays_isEnabled _).bind fun live => ?_
  by_cases henabled : filter.enabled = true
  · rw [if_pos henabled]
    refine (pays_readFilter _).bind fun held => ?_
    by_cases hheld : filter.rule.pattern = held
    · rw [if_neg (not_not.mpr hheld)]
      split
      case isTrue => exact pays_pure _
      case isFalse =>
        exact (pays_enable _).bind fun _ => (pays_log _ _).bind fun _ => pays_pure _
    · rw [if_pos hheld]
      exact (pays_disable _).bind fun _ => (pays_writeFilter _ _).bind fun _ =>
        (pays_enable _).bind fun _ => (pays_log _ _).bind fun _ => pays_pure _
  · rw [if_neg henabled]
    split
    case isTrue =>
      exact (pays_disable _).bind fun _ => (pays_log _ _).bind fun _ => pays_pure _
    case isFalse => exact pays_pure _

lemma pays_publish (table : ColourTable) : (publish table).Pays 0 :=
  pays_activeBank.bind fun _ => (pays_writeTable _ _).bind fun _ =>
    (pays_setActiveBank _).bind fun _ => (pays_log _ _).bind fun _ => pays_pure _

lemma pays_load (memory : Memory) (config : Configuration) : (load memory config).Pays 0 := by
  unfold load
  split
  case h_1 => exact pays_pure _
  case h_2 =>
    exact pays_activeBank.bind fun _ => (pays_fold pays_syncFilter _ _).bind fun _ =>
      (pays_publish _).bind fun _ => pays_pure _

lemma pays_performSwap (table : ColourTable) (config : Configuration) (target : Fin filterCount) :
    (performSwap table config target).Pays 0 :=
  pays_activeBank.bind fun _ => (pays_publish _).bind fun _ => (pays_disable _).bind fun _ =>
    (pays_writeFilter _ _).bind fun _ => (pays_enable _).bind fun _ => (pays_log _ _).bind fun _ =>
      (pays_publish _).bind fun _ => (pays_disable _).bind fun _ => (pays_log _ _).bind fun _ =>
        pays_pure _

lemma pays_swapFilter (memory : Memory) (config : Configuration) (target : ℕ) :
    (swapFilter memory config target).Pays 0 := by
  unfold swapFilter
  split
  case isTrue => exact pays_pure _
  case isFalse =>
    split
    case isFalse => exact pays_pure _
    case isTrue =>
      split
      case h_1 => exact pays_pure _
      case h_2 => exact (pays_performSwap _ _ _).bind fun _ => pays_pure _

lemma pays_dump : dump.Pays 0 := by
  refine pays_activeBank.bind fun _ => (pays_fold (fun _ _ => ?_) _ _).bind fun _ => pays_pure _
  exact (pays_isEnabled _).bind fun _ => (pays_readFilter _).bind fun _ => pays_pure _

/-! ## Drivers -/

/-- What a driver can ask for: the steps of the channel, on slots of the card, and the calls of the
loader. -/
inductive Operation
  | enable (slot : Fin filterCount)
  | disable (slot : Fin filterCount)
  | isEnabled (slot : Fin filterCount)
  | enabledMask
  | writeFilter (slot : Fin filterCount) (pattern : Pattern)
  | readFilter (slot : Fin filterCount)
  | activeBank
  | setActiveBank (bank : Bank)
  | writeTable (bank : Bank) (table : ColourTable)
  | readRow (bank : Bank) (row : ℕ)
  | readTable (memory : Memory) (bank : Bank) (entries bits : ℕ)
  | load (memory : Memory) (config : Configuration)
  | swapFilter (memory : Memory) (config : Configuration) (target : ℕ)
  | dump

namespace Operation

/-- What is done for an operation; its result goes back to whoever asked. -/
def program : Operation → Program Unit
  | enable slot => Channel.enable slot
  | disable slot => Channel.disable slot
  | isEnabled slot => Channel.isEnabled slot >>= fun _ => pure ()
  | enabledMask => Channel.enabledMask >>= fun _ => pure ()
  | writeFilter slot pattern => Channel.writeFilter slot pattern
  | readFilter slot => Channel.readFilter slot >>= fun _ => pure ()
  | activeBank => Channel.activeBank >>= fun _ => pure ()
  | setActiveBank bank => Channel.setActiveBank bank
  | writeTable bank table => Channel.writeTable bank table
  | readRow bank row => Channel.readRow bank row >>= fun _ => pure ()
  | readTable memory bank entries bits =>
    Channel.readTable memory bank entries bits >>= fun _ => pure ()
  | load memory config => Loader.load memory config >>= fun _ => pure ()
  | swapFilter memory config target => Loader.swapFilter memory config target >>= fun _ => pure ()
  | dump => Loader.dump >>= fun _ => pure ()

lemma pays_program (operation : Operation) : operation.program.Pays 0 := by
  cases operation with
  | enable slot => exact pays_enable slot
  | disable slot => exact pays_disable slot
  | isEnabled slot => exact (pays_isEnabled slot).bind fun _ => pays_pure ()
  | enabledMask => exact pays_enabledMask.bind fun _ => pays_pure ()
  | writeFilter slot pattern => exact pays_writeFilter slot pattern
  | readFilter slot => exact (pays_readFilter slot).bind fun _ => pays_pure ()
  | activeBank => exact pays_activeBank.bind fun _ => pays_pure ()
  | setActiveBank bank => exact pays_setActiveBank bank
  | writeTable bank table => exact pays_writeTable bank table
  | readRow bank row => exact (pays_readRow bank row).bind fun _ => pays_pure ()
  | readTable memory bank entries bits =>
    exact (pays_readTable memory bank entries bits).bind fun _ => pays_pure ()
  | load memory config => exact (pays_load memory config).bind fun _ => pays_pure ()
  | swapFilter memory config target =>
    exact (pays_swapFilter memory config target).bind fun _ => pays_pure ()
  | dump => exact pays_dump.bind fun _ => pays_pure ()

end Operation

/-- **A driver settles every write**, whatever the device answers. In the trace of any sequence of
operations each write is followed by the reads of the control register that let the card absorb it,
before the next write and before any read of filter data or of a row; and a card whose last write
has settled counts no violation. -/
theorem operations_settle (operations : List Operation) :
    (∀ (σ : Type) (device : Device σ) (state : σ),
        Trace.Settled
          ((forEach Operation.program operations).run device.watched (state, #[])).state.2) ∧
      ∀ card : Card, settleReads ≤ card.readsSinceWrite →
        ((forEach Operation.program operations).run Card.device card).state.settleViolations =
          card.settleViolations := by
  have hpays : (forEach Operation.program operations).Pays 0 :=
    pays_forEach Operation.pays_program operations
  exact ⟨fun _ device state => hpays.settled device state,
    fun card hsettled => (hpays.run_card card hsettled).1⟩

/-- A fresh card is loaded, a rule of it is replaced, a slot is switched by hand and the card is
read back: not one write comes too early. -/
theorem operations_settle_firstFilter :
    ∃ card, Card.forConfiguration .addressSpace .firstFilter = .ok card ∧
      settleReads ≤ card.readsSinceWrite ∧
        ((forEach Operation.program [.load .addressSpace .firstFilter,
          .swapFilter .addressSpace .firstFilter 0, .disable swapFin, .dump]).run
            Card.device card).state.settleViolations = 0 := by
  obtain ⟨table, htable⟩ := ColourTable.exists_forConfiguration_firstFilter
  have hcard := Card.new_eq_ok_iff.mpr ⟨table, htable, rfl⟩
  exact ⟨_, hcard, Nat.le_refl _, (operations_settle _).2 _ (Nat.le_refl _)⟩

end PacketSteering.Loader
