import PacketSteering.ColourTable
import PacketSteering.Register.Protocol

/-!
# The state of a card

The filter slots, the control word, the two banks and the latches of a card, how a card answers and
takes register accesses, and what changes by them.
-/

namespace PacketSteering

/-!
## Events and observations

What changes on a card, and how the steering of watched frames changes with it.
-/

/-- A change to the state of a card. -/
inductive Event
  | filterEnable (slot : Nat)
  | filterDisable (slot : Nat)
  /-- Some part of the pattern of a slot was written, while the slot was enabled or was not. -/
  | filterWrite (slot : Nat) (live : Bool)
  /-- A row of a bank was written, while the bank was the active one or was not. -/
  | colourWrite (bank : Bank) (live : Bool)
  | bankFlip (bank : Bank)
  deriving DecidableEq

/-- Whether an event is one of a burst: such events are recorded once for the whole burst. -/
def Event.isBurst : Event → Bool
  | filterWrite _ _ => true
  | colourWrite _ _ => true
  | _ => false

/-- A frame to classify after every change. -/
structure Probe where
  frame : Array UInt8
  interface : UInt8
  hlb : HlbOutcome
  deriving DecidableEq

/-- How all watched frames are steered from some event on. -/
structure Observation where
  /-- The number of the event that brought this about, if one did. -/
  event : Option Nat
  colours : List Colour
  deriving DecidableEq

/-!
## The filter slots of a card

A slot holds its pattern as 32-bit words, and a termination that may exceed the last element.
-/

/-- What one filter slot of a card holds. -/
structure CardSlot where
  value : Vector UInt32 Register.filterWords
  mask : Vector UInt32 Register.filterWords
  termination : UInt32
  deriving DecidableEq

namespace CardSlot

open Register

/-- A slot with every bit clear. -/
def zero : CardSlot :=
  ⟨Vector.replicate _ 0, Vector.replicate _ 0, 0⟩

/-- The byte at a position of a sequence of words. -/
def byteAt (words : Vector UInt32 filterWords) (i : Nat) (h : i < matchDepth) : UInt8 :=
  have : i / 4 < filterWords := (Nat.div_lt_iff_lt_mul (by decide)).2 h
  Bytes.ofWord words[i / 4] (i % 4)

/-- Whether a frame matches what the slot holds up to its termination. Bytes past the end of the
frame count as zero. -/
def hits (slot : CardSlot) (frame : Array UInt8) : Bool :=
  Nat.all matchDepth fun i h =>
    !decide (i < Pattern.depth slot.termination.toNat) ||
      Bytes.padded frame i &&& byteAt slot.mask i h ==
        byteAt slot.value i h &&& byteAt slot.mask i h

/-- Writes a word of a part of the slot; a word that the part does not have is refused. -/
def write? (slot : CardSlot) (target : Target) (word : Nat) (data : UInt32) : Option CardSlot :=
  match target with
  | .value =>
    if h : word < filterWords then some { slot with value := slot.value.set word data } else none
  | .mask =>
    if h : word < filterWords then some { slot with mask := slot.mask.set word data } else none
  | .termination => some { slot with termination := data }

/-- Reads a word of a part of the slot; a word that the part does not have reads as zero. -/
def read (slot : CardSlot) (target : Target) (word : Nat) : UInt32 :=
  match target with
  | .value => slot.value[word]?.getD 0
  | .mask => slot.mask[word]?.getD 0
  | .termination => slot.termination

end CardSlot

/-!
## The state of a card

The filter slots, the control word, the two banks and the latches of a card, how a card answers
and takes register accesses, and where it steers a frame. Any offset and any value is accepted; an
address that the card does not have is ignored.
-/

/-- What the registers of a card lead to. -/
structure CardState where
  layout : TableLayout
  slots : Vector CardSlot filterCount
  control : UInt32
  /-- The address of the next access to filter data. -/
  filterAddress : UInt32
  /-- The bank of the row to read back. -/
  latchedBank : Bank
  /-- The row to read back. -/
  latchedRow : Nat
  bankA : ColourTable
  bankB : ColourTable

namespace CardState

open Register

/-- A card with every slot disabled and zero, bank A active, and the same table in both banks. -/
def initial (layout : TableLayout) (table : ColourTable) : CardState where
  layout
  slots := Vector.replicate _ .zero
  control := 0
  filterAddress := 0
  latchedBank := .a
  latchedRow := 0
  bankA := table
  bankB := table

/-- The bank that the card steers by. -/
def activeBank (state : CardState) : Bank :=
  .ofBit (state.control &&& controlBankBit != 0)

/-- What a bank holds. -/
def bank (state : CardState) : Bank → ColourTable
  | .a => state.bankA
  | .b => state.bankB

/-- Whether a slot is enabled. -/
def isEnabled (state : CardState) (slot : Nat) : Bool :=
  state.control &&& bitOn slot != 0

/-- The physical slots that a frame hits: those that are enabled and match it. -/
def filterHits (state : CardState) (frame : Array UInt8) : UInt8 :=
  BitField.byte fun slot =>
    if h : slot < filterCount then state.isEnabled slot && state.slots[slot].hits frame else false

/-- The destination that the active bank gives for an index; an index past its end is dropped. -/
def colourAt (state : CardState) (index : Nat) : Colour :=
  ((state.bank state.activeBank).get? index).getD .drop

/-- Where the card steers a frame. -/
def classify (state : CardState) (frame : Array UInt8) (interface : UInt8) (hlb : HlbOutcome) :
    Colour :=
  state.colourAt (state.layout.encode ⟨state.filterHits frame, interface, hlb⟩)

/-! ### The latched filter address -/

/-- The word that the latched address names. -/
def addressedWord (state : CardState) : Nat :=
  wordField.get state.filterAddress.toNat

/-- The slot that the latched address names. -/
def addressedSlot (state : CardState) : Nat :=
  slotField.get state.filterAddress.toNat

/-- The part that the latched address names, if it names one. -/
def addressedTarget? (state : CardState) : Option Target :=
  Target.ofCode? (targetField.get state.filterAddress.toNat)

/-! ### Reading -/

/-- The word of filter data at the latched address. -/
def readFilterData (state : CardState) : UInt32 :=
  match state.slots[state.addressedSlot]?, state.addressedTarget? with
  | some slot, some target => slot.read target state.addressedWord
  | _, _ => 0

/-- The latched row of the latched bank. -/
def readColour (state : CardState) : UInt32 :=
  ((state.bank state.latchedBank).rows.getD state.latchedRow 0).toUInt32

/-- What the card answers at an offset. -/
def read (state : CardState) (offset : UInt32) : UInt32 :=
  if offset = filterData then state.readFilterData
  else if offset = colour then state.readColour
  else if offset = Register.control then state.control
  else 0

/-! ### Writing -/

/-- Writes the control word. Every enable bit that changes is an event, and so is a change of the
active bank. -/
def writeControl (state : CardState) (word : UInt32) : CardState × List Event :=
  let after := { state with control := word }
  let slotEvents := (List.range filterCount).filterMap fun slot =>
    if state.isEnabled slot = after.isEnabled slot then none
    else if after.isEnabled slot then some (.filterEnable slot)
    else some (.filterDisable slot)
  let flip := if state.activeBank = after.activeBank then [] else [.bankFlip after.activeBank]
  (after, slotEvents ++ flip)

/-- Writes filter data at the latched address. -/
def writeFilterData (state : CardState) (data : UInt32) : CardState × List Event :=
  let slot := state.addressedSlot
  let word := state.addressedWord
  let target? := state.addressedTarget?
  let live := state.isEnabled slot
  if h : slot < filterCount then
    match target? with
    | some target =>
      match state.slots[slot].write? target word data with
      | some written =>
        ({ state with slots := state.slots.set slot written }, [.filterWrite slot live])
      | none => (state, [])
    | none => (state, [])
  else (state, [])

/-- Replaces a row of a bank. -/
def setRow (state : CardState) (bank : Bank) (row : Nat) (data : UInt16) : CardState :=
  match bank with
  | .a => { state with bankA := state.bankA.setRow row data }
  | .b => { state with bankB := state.bankB.setRow row data }

/-- Writes a row of a bank, or latches the address of a row to read back. -/
def writeColour (state : CardState) (word : UInt32) : CardState × List Event :=
  let bank := Bank.ofBit (word &&& colourBankBit != 0)
  let row := rowField.get word.toNat
  let live := bank == state.activeBank
  if word &&& colourReadBit != 0 then
    ({ state with latchedBank := bank, latchedRow := row }, [])
  else if row < (state.bank bank).rows.size then
    (state.setRow bank row (rowData word), [.colourWrite bank live])
  else (state, [])

/-- Writes a register, and gives the events of the write in order. -/
def write (state : CardState) (offset value : UInt32) : CardState × List Event :=
  if offset = filterCommand then ({ state with filterAddress := value }, [])
  else if offset = filterData then state.writeFilterData value
  else if offset = colour then state.writeColour value
  else if offset = Register.control then state.writeControl value
  else (state, [])

end CardState

end PacketSteering
