import PacketSteering.ColourTable
import PacketSteering.Register.Program
import PacketSteering.Register.Protocol

/-!
# The register channel

The steps of the register protocol as programs: enabling filter slots, writing and reading back
their patterns, choosing the active bank, and writing and reading back whole tables. Every write
is followed by the reads that let the card absorb it.
-/

namespace PacketSteering.Channel

open Program Register

/-- Lets the card absorb the last write. -/
def settle : Program Unit :=
  readTimes control settleReads

/-- Writes a register and lets the card absorb it. -/
def writeSettled (offset value : UInt32) : Program Unit :=
  .write offset value settle

/-- Reads the control register. -/
def readControl : Program UInt32 :=
  .read control .done

/-! ## Enable bits -/

/-- The enable bits of all slots. -/
def enabledMask : Program UInt8 := do
  let word ← readControl
  return word.toUInt8

/-- Whether a slot is enabled. -/
def isEnabled (slot : Nat) : Program Bool := do
  let word ← readControl
  return word &&& bitOn slot != 0

/-- Enables a slot. -/
def enable (slot : Nat) : Program Unit := do
  let word ← readControl
  writeSettled control (word ||| bitOn slot)

/-- Disables a slot. -/
def disable (slot : Nat) : Program Unit := do
  let word ← readControl
  writeSettled control (word &&& ~~~bitOn slot)

/-! ## Filter slots -/

/-- Writes one word of a part of a slot. -/
def writeWord (slot : Nat) (target : Target) (word : Nat) (data : UInt32) : Program Unit := do
  writeSettled filterCommand (command slot target word)
  writeSettled filterData data

/-- Reads back one word of a part of a slot. -/
def readWord (slot : Nat) (target : Target) (word : Nat) : Program UInt32 := do
  writeSettled filterCommand (readBit ||| command slot target word)
  .read filterData .done

/-- The word of four bytes of a pattern's value or mask. -/
def wordOf (bytes : Vector UInt8 matchDepth) (word : Nat) : UInt32 :=
  let byte (i : Nat) : UInt8 := bytes.toArray.getD (4 * word + i) 0
  Bytes.word (byte 0) (byte 1) (byte 2) (byte 3)

/-- Programs a pattern into a slot: the value, the mask, and the termination. The slot should be
disabled meanwhile, or the card compares traffic with a pattern that is partly written. -/
def writeFilter (slot : Nat) (pattern : Pattern) : Program Unit := do
  forEach (fun word => writeWord slot .value word (wordOf pattern.value word))
    (List.range filterWords)
  forEach (fun word => writeWord slot .mask word (wordOf pattern.mask word))
    (List.range filterWords)
  writeWord slot .termination 0 pattern.termination.toUInt32

/-- The byte at a position of a sequence of words. -/
def byteOf (words : Array UInt32) (i : Nat) : UInt8 :=
  Bytes.ofWord (words.getD (i / 4) 0) (i % 4)

/-- The bytes of a sequence of words. -/
def bytesOf (words : Array UInt32) : Vector UInt8 matchDepth :=
  Vector.ofFn fun i => byteOf words i

/-- Reads one word of the value and one of the mask of a slot, adding them to the words read
before. -/
def readWords (slot : Nat) (soFar : Array UInt32 × Array UInt32) (word : Nat) :
    Program (Array UInt32 × Array UInt32) := do
  let value ← readWord slot .value word
  let mask ← readWord slot .mask word
  return (soFar.1.push value, soFar.2.push mask)

/-- Reads back the pattern of a slot. -/
def readFilter (slot : Nat) : Program Pattern := do
  let words ← fold (readWords slot) (#[], #[]) (List.range filterWords)
  let termination ← readWord slot .termination 0
  return ⟨bytesOf words.1, bytesOf words.2, termination.toUInt8⟩

/-! ## Banks -/

/-- The bank that the card steers by. -/
def activeBank : Program Bank := do
  let word ← readControl
  return .ofBit (word &&& controlBankBit != 0)

/-- Makes a bank the one that the card steers by. -/
def setActiveBank (bank : Bank) : Program Unit := do
  let word ← readControl
  writeSettled control ((word &&& ~~~controlBankBit) ||| if bank.bit then controlBankBit else 0)

/-- Writes one row of a bank. -/
def writeRow (bank : Bank) (row : Nat) (data : UInt16) : Program Unit :=
  writeSettled colour (rowAddress bank row ||| data.toUInt32)

/-- Writes every row of a table into a bank, which should not be the active one. -/
def writeTable (bank : Bank) (table : ColourTable) : Program Unit :=
  forEach (fun row => writeRow bank row (table.rows.getD row 0)) (List.range table.rows.size)

/-- Reads back one row of a bank. -/
def readRow (bank : Bank) (row : Nat) : Program UInt16 := do
  writeSettled colour (colourReadBit ||| rowAddress bank row)
  let word ← .read colour .done
  return rowData word

/-- Reads one row of a bank into a table. -/
def readRowInto (bank : Bank) (table : ColourTable) (row : Nat) : Program ColourTable := do
  let data ← readRow bank row
  return table.setRow row data

/-- Reads back a bank as a table of a given shape. The memory for it is asked for first. -/
def readTable (memory : Memory) (bank : Bank) (entries bits : Nat) :
    Program (Except Failure ColourTable) :=
  match ColourTable.alloc memory entries bits with
  | .error failure => return .error failure
  | .ok table => do
    let table ← fold (readRowInto bank) table (List.range table.rows.size)
    return .ok table

/-! ## Raw accesses -/

/-- Makes one access without letting it settle, and adds to the answers what was read, or nothing
for a write. -/
def poke (answers : Array (Option UInt32)) (access : UInt32 × Option UInt32) :
    Program (Array (Option UInt32)) :=
  match access with
  | (offset, some value) => .write offset value (.done (answers.push none))
  | (offset, none) => .read offset fun value => .done (answers.push (some value))

end PacketSteering.Channel
