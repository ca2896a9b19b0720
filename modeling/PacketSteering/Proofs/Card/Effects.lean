import Mathlib.Tactic.Common
import PacketSteering.Card.Basic
import PacketSteering.Proofs.Register.Run
import PacketSteering.Proofs.Register.Words

/-!
# What register writes do to a card

The changes that a driver makes to a card, each as one function of the state: a slot is switched
`off` or `on`, a bank is `select`ed, a filter address is `latch`ed, a slot or a bank is replaced
(`putSlot`, `putBank`).  Beside each stands what it does to the enable bits, the active bank, the
slots and the banks, which together decide where a card steers.

`CardState.device` is the card without its journal.  A card keeps every answer and every state of
it (`Card.projects`), so that what is proved of states holds of cards.
-/

namespace PacketSteering

lemma Bank.other_ne (bank : Bank) : bank.other ≠ bank := by
  cases bank <;> decide

namespace CardState

open Register

/-- The state of a card as a device, without the journal. -/
def device : Device CardState where
  read offset state := (state.read offset, state)
  write offset value state := (state.write offset value).1

end CardState

/-- A card is seen through its state as the device without the journal. -/
lemma Card.projects : Card.device.Projects CardState.device Card.state where
  read _ _ := rfl
  write _ _ _ := rfl

/-- The events of a write. -/
def WriteStep.events (step : WriteStep CardState) : List Event :=
  (step.before.write step.offset step.value).2

namespace CardState

open Register

/-! ## The control word -/

/-- The state with a slot disabled. -/
def off (state : CardState) (slot : ℕ) : CardState :=
  { state with control := state.control &&& ~~~bitOn slot }

/-- The state with a slot enabled. -/
def on (state : CardState) (slot : ℕ) : CardState :=
  { state with control := state.control ||| bitOn slot }

/-- The state with a bank made active. -/
def select (state : CardState) (bank : Bank) : CardState :=
  { state with
    control := (state.control &&& ~~~controlBankBit) ||| if bank.bit then controlBankBit else 0 }

lemma isEnabled_eq_testBit (state : CardState) {slot : ℕ} (hslot : slot < filterCount) :
    state.isEnabled slot = state.control.toNat.testBit slot := by
  have hcount : filterCount = 8 := rfl
  exact and_bitOn_ne_zero _ (by omega)

lemma activeBank_eq_testBit (state : CardState) :
    state.activeBank = Bank.ofBit (state.control.toNat.testBit 31) := by
  rw [activeBank, controlBankBit_eq, and_bitOn_ne_zero _ (by decide)]

lemma isEnabled_off (state : CardState) {slot i : ℕ} (hslot : slot < filterCount)
    (hi : i < filterCount) :
    (state.off slot).isEnabled i = (state.isEnabled i && !decide (slot = i)) := by
  have hcount : filterCount = 8 := rfl
  rw [isEnabled_eq_testBit _ hi, isEnabled_eq_testBit _ hi]
  exact testBit_and_not_bitOn _ (by omega) (by omega)

lemma isEnabled_on (state : CardState) {slot i : ℕ} (hslot : slot < filterCount)
    (hi : i < filterCount) :
    (state.on slot).isEnabled i = (state.isEnabled i || decide (slot = i)) := by
  have hcount : filterCount = 8 := rfl
  rw [isEnabled_eq_testBit _ hi, isEnabled_eq_testBit _ hi]
  exact testBit_or_bitOn _ (by omega) _

lemma isEnabled_off_self (state : CardState) {slot : ℕ} (hslot : slot < filterCount) :
    (state.off slot).isEnabled slot = false := by
  simp [isEnabled_off state hslot hslot]

lemma isEnabled_on_self (state : CardState) {slot : ℕ} (hslot : slot < filterCount) :
    (state.on slot).isEnabled slot = true := by
  simp [isEnabled_on state hslot hslot]

lemma isEnabled_off_of_ne (state : CardState) {slot other : ℕ} (hslot : slot < filterCount)
    (hother : other < filterCount) (hne : other ≠ slot) :
    (state.off slot).isEnabled other = state.isEnabled other := by
  simp [isEnabled_off state hslot hother, Ne.symm hne]

lemma isEnabled_on_of_ne (state : CardState) {slot other : ℕ} (hslot : slot < filterCount)
    (hother : other < filterCount) (hne : other ≠ slot) :
    (state.on slot).isEnabled other = state.isEnabled other := by
  simp [isEnabled_on state hslot hother, Ne.symm hne]

lemma testBit_select (state : CardState) (bank : Bank) {i : ℕ} (hi : i < 32) :
    (state.select bank).control.toNat.testBit i =
      if i = 31 then bank.bit else state.control.toNat.testBit i := by
  have hclear := testBit_and_not_bitOn state.control (by decide : 31 < 32) hi
  have hset := testBit_or_bitOn (state.control &&& ~~~bitOn 31) (by decide : 31 < 32) i
  rw [select, controlBankBit_eq]
  cases hbit : bank.bit with
  | false =>
    rw [if_neg (by decide), UInt32.or_zero, hclear]
    by_cases hlast : i = 31
    · simp [hlast]
    · simp [hlast, Ne.symm hlast]
  | true =>
    rw [if_pos rfl, hset, hclear]
    by_cases hlast : i = 31
    · simp [hlast]
    · simp [hlast, Ne.symm hlast]

@[simp] lemma isEnabled_select (state : CardState) (bank : Bank) {i : ℕ} (hi : i < filterCount) :
    (state.select bank).isEnabled i = state.isEnabled i := by
  have hcount : filterCount = 8 := rfl
  have hlast : i ≠ 31 := by omega
  rw [isEnabled_eq_testBit _ hi, isEnabled_eq_testBit _ hi, testBit_select _ _ (by omega),
    if_neg hlast]

@[simp] lemma activeBank_select (state : CardState) (bank : Bank) :
    (state.select bank).activeBank = bank := by
  rw [activeBank_eq_testBit, testBit_select _ _ (by decide), if_pos rfl, Bank.ofBit_bit]

lemma activeBank_off (state : CardState) {slot : ℕ} (hslot : slot < filterCount) :
    (state.off slot).activeBank = state.activeBank := by
  have hcount : filterCount = 8 := rfl
  have hlt : slot < 32 := by omega
  have hne : slot ≠ 31 := by omega
  have hbit := testBit_and_not_bitOn state.control hlt (by decide : 31 < 32)
  rw [activeBank_eq_testBit, activeBank_eq_testBit, off, hbit]
  simp [hne]

lemma activeBank_on (state : CardState) {slot : ℕ} (hslot : slot < filterCount) :
    (state.on slot).activeBank = state.activeBank := by
  have hcount : filterCount = 8 := rfl
  have hlt : slot < 32 := by omega
  have hne : slot ≠ 31 := by omega
  have hbit := testBit_or_bitOn state.control hlt 31
  rw [activeBank_eq_testBit, activeBank_eq_testBit, on, hbit]
  simp [hne]

@[simp] lemma layout_off (state : CardState) (slot : ℕ) : (state.off slot).layout = state.layout :=
  rfl

@[simp] lemma layout_select (state : CardState) (bank : Bank) :
    (state.select bank).layout = state.layout := rfl

@[simp] lemma slots_on (state : CardState) (slot : ℕ) : (state.on slot).slots = state.slots := rfl

@[simp] lemma slots_select (state : CardState) (bank : Bank) :
    (state.select bank).slots = state.slots := rfl

@[simp] lemma bank_off (state : CardState) (slot : ℕ) : (state.off slot).bank = state.bank := rfl

@[simp] lemma bank_select (state : CardState) (bank : Bank) :
    (state.select bank).bank = state.bank := rfl

/-! ## Slots, banks and latches -/

/-- The state with a filter address latched. -/
def latch (state : CardState) (address : UInt32) : CardState :=
  { state with filterAddress := address }

/-- The state with what a slot holds replaced. -/
def putSlot (state : CardState) (slot : ℕ) (held : CardSlot) : CardState :=
  { state with slots := state.slots.setIfInBounds slot held }

/-- The state with what a bank holds replaced. -/
def putBank (state : CardState) (bank : Bank) (table : ColourTable) : CardState :=
  match bank with
  | .a => { state with bankA := table }
  | .b => { state with bankB := table }

@[simp] lemma latch_latch (state : CardState) (first second : UInt32) :
    (state.latch first).latch second = state.latch second := rfl

@[simp] lemma isEnabled_latch (state : CardState) (address : UInt32) :
    (state.latch address).isEnabled = state.isEnabled := rfl

@[simp] lemma slots_latch (state : CardState) (address : UInt32) :
    (state.latch address).slots = state.slots := rfl

@[simp] lemma isEnabled_putSlot (state : CardState) (slot : ℕ) (held : CardSlot) :
    (state.putSlot slot held).isEnabled = state.isEnabled := rfl

lemma getElem_putSlot (state : CardState) (slot : ℕ) (held : CardSlot) {i : ℕ}
    (hi : i < filterCount) :
    (state.putSlot slot held).slots[i] = if slot = i then held else state.slots[i] :=
  Vector.getElem_setIfInBounds hi

@[simp] lemma layout_putBank (state : CardState) (bank : Bank) (table : ColourTable) :
    (state.putBank bank table).layout = state.layout := by
  cases bank <;> rfl

@[simp] lemma isEnabled_putBank (state : CardState) (bank : Bank) (table : ColourTable) :
    (state.putBank bank table).isEnabled = state.isEnabled := by
  cases bank <;> rfl

@[simp] lemma activeBank_putBank (state : CardState) (bank : Bank) (table : ColourTable) :
    (state.putBank bank table).activeBank = state.activeBank := by
  cases bank <;> rfl

@[simp] lemma slots_putBank (state : CardState) (bank : Bank) (table : ColourTable) :
    (state.putBank bank table).slots = state.slots := by
  cases bank <;> rfl

@[simp] lemma control_putBank (state : CardState) (bank : Bank) (table : ColourTable) :
    (state.putBank bank table).control = state.control := by
  cases bank <;> rfl

lemma bank_putBank (state : CardState) (bank other : Bank) (table : ColourTable) :
    (state.putBank bank table).bank other = if other = bank then table else state.bank other := by
  cases bank <;> cases other <;> rfl

@[simp] lemma bank_putBank_self (state : CardState) (bank : Bank) (table : ColourTable) :
    (state.putBank bank table).bank bank = table := by
  rw [bank_putBank, if_pos rfl]

@[simp] lemma bank_putBank_other (state : CardState) (bank : Bank) (table : ColourTable) :
    (state.putBank bank.other table).bank bank = state.bank bank := by
  cases bank <;> rfl

lemma putSlot_self (state : CardState) {slot : ℕ} (hslot : slot < filterCount) :
    state.putSlot slot state.slots[slot] = state := by
  have hslots : state.slots.setIfInBounds slot state.slots[slot] = state.slots := by
    apply Vector.ext
    intro i hi
    rw [Vector.getElem_setIfInBounds]
    split
    case isTrue heq => simp only [heq]
    case isFalse => rfl
  rw [putSlot, hslots]

lemma putBank_self (state : CardState) (bank : Bank) :
    state.putBank bank (state.bank bank) = state := by
  cases bank <;> rfl

lemma putSlot_putSlot (state : CardState) {slot : ℕ} (first second : CardSlot) :
    (state.putSlot slot first).putSlot slot second = state.putSlot slot second := by
  simp only [putSlot]
  congr 1
  apply Vector.ext
  intro i hi
  simp only [Vector.getElem_setIfInBounds]
  split <;> rfl

lemma putBank_putBank (state : CardState) (bank : Bank) (first second : ColourTable) :
    (state.putBank bank first).putBank bank second = state.putBank bank second := by
  cases bank <;> rfl

end CardState

/-! ## A card to try things on -/

/-- A classic card on which everything is zero, with entries of two bits. -/
def Card.blank : Card where
  state := .initial .classic (.zero TableLayout.classic.entries 2 (by decide) (by decide))
  readsSinceWrite := Register.settleReads
  settleViolations := 0
  journal := .empty

end PacketSteering
