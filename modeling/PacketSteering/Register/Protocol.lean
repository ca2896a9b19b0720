import PacketSteering.TableLayout

/-!
# The register protocol

Four 32-bit registers give access to the filter slots and the colour-table banks. The command
register latches the address of the next access to filter data. The colour register takes one row
of a bank, or the address of a row to read back. The control register holds one enable bit per
slot and, in its top bit, the active bank.
-/

namespace PacketSteering.Register

/-- The offset of the register that latches a filter address. -/
def filterCommand : UInt32 := 0x00

/-- The offset of the register that carries a word of a filter. -/
def filterData : UInt32 := 0x04

/-- The offset of the register that carries a row of a bank. -/
def colour : UInt32 := 0x08

/-- The offset of the register with the enable bits and the bank selector. -/
def control : UInt32 := 0x0C

/-- The number of reads of the control register by which the card absorbs a write. -/
def settleReads : Nat := 16

/-- The number of 32-bit words of a compare value, or of a mask. -/
def filterWords : Nat := 24

/-- The word with one bit set. -/
def bitOn (bit : Nat) : UInt32 :=
  UInt32.ofNat (1 <<< bit)

/-! ## Fields of the command register -/

/-- The field of a command that names a word. -/
def wordField : BitField := ⟨0, 8⟩

/-- The field of a command that names a slot. -/
def slotField : BitField := ⟨8, 4⟩

/-- The field of a command that names a part of a filter. -/
def targetField : BitField := ⟨12, 2⟩

/-- The bit of a command that asks for a word to be read back. -/
def readBit : UInt32 := 0x80000000

/-! ## Fields of the colour register -/

/-- The field of the colour register that names a row. -/
def rowField : BitField := ⟨16, 14⟩

/-- The field of the colour register that holds a row. -/
def dataField : BitField := ⟨0, 16⟩

/-- The bit of the colour register that selects bank B. -/
def colourBankBit : UInt32 := 0x80000000

/-- The bit of the colour register that asks for a row to be read back. -/
def colourReadBit : UInt32 := 0x40000000

/-! ## Fields of the control register -/

/-- The bit of the control register that selects bank B. -/
def controlBankBit : UInt32 := 0x80000000

/-! ## Addresses -/

/-- The parts of a filter that a data access can touch. -/
inductive Target
  | value
  | mask
  | termination
  deriving DecidableEq, Inhabited

namespace Target

/-- The number of a part in a command. -/
def code : Target → Nat
  | value => 0
  | mask => 1
  | termination => 2

/-- The part that a number stands for. -/
def ofCode? : Nat → Option Target
  | 0 => some value
  | 1 => some mask
  | 2 => some termination
  | _ => none

/-- The name of a part. -/
def name : Target → String
  | value => "Value"
  | mask => "Mask"
  | termination => "Termination"

end Target

/-- The command that addresses a word of a part of a slot. A slot or word too large for its field
loses its high bits. -/
def command (slot : Nat) (target : Target) (word : Nat) : UInt32 :=
  UInt32.ofNat (wordField.place word + slotField.place slot + targetField.place target.code)

/-- The address of a row of a bank in the colour register. -/
def rowAddress (bank : Bank) (row : Nat) : UInt32 :=
  (if bank.bit then colourBankBit else 0) ||| UInt32.ofNat (rowField.place row)

/-- The row that a word of the colour register holds. -/
def rowData (word : UInt32) : UInt16 :=
  UInt16.ofNat (dataField.get word.toNat)

end PacketSteering.Register
