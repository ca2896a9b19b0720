/-!
# Table layouts

What a card looks up where to steer a packet by, and how a generation of cards packs it into an
index of its colour table.
-/

namespace PacketSteering

/-!
## Bit fields

A bit field is a run of bits of a number. It can be read and written, and a byte can be given by
its bits.
-/

/-- A run of bits, given by its lowest bit and its width. -/
structure BitField where
  low : Nat
  width : Nat
  deriving DecidableEq

namespace BitField

/-- The largest value of a field. -/
def mask (field : BitField) : Nat :=
  1 <<< field.width - 1

/-- The value of a field in a number. -/
def get (field : BitField) (word : Nat) : Nat :=
  word >>> field.low % 1 <<< field.width

/-- The number that has a value in a field and is zero elsewhere. A value too large for the field
loses its high bits. -/
def place (field : BitField) (value : Nat) : Nat :=
  (value % 1 <<< field.width) <<< field.low

/-- The number with the value of a field replaced. -/
def set (field : BitField) (word value : Nat) : Nat :=
  (word >>> (field.low + field.width)) <<< (field.low + field.width) + field.place value +
    word % 1 <<< field.low

/-- The number whose bits below a bound satisfy a condition, and that has no others. -/
def ofBits (bit : Nat → Bool) : (n : Nat) → Nat
  | 0 => 0
  | n + 1 => ofBits bit n + if bit n then 1 <<< n else 0

/-- The byte whose bits satisfy a condition. -/
def byte (bit : Nat → Bool) : UInt8 :=
  UInt8.ofNat (ofBits bit 8)

end BitField

/-!
## Card geometry

The fixed sizes of a capture card: how many comparison filters it has, and how many values each
steering dimension takes.
-/

/-- The number of comparison filters on a card, which is also the number of virtual filters of a
configuration. -/
def filterCount : Nat := 8

/-- The virtual slot kept free to stage the rule of the next live replacement. -/
def swapSlot : Nat := 7

/-- The number of capture interfaces. -/
def interfaceCount : Nat := 4

/-- The number of discrete HLB bits of a classic card. -/
def hlbBitCount : Nat := 2

/-- The largest number of HLB hash buckets of any hashed table layout. -/
def hashBucketLimit : Nat := 8

/-- The largest number of receive streams of a configuration. -/
def streamLimit : Nat := 64

/-!
## Colour-table banks

A card holds two copies of the colour table. It steers by the active one, so that the other can be
written at leisure.
-/

/-- One of the two copies of the colour table. -/
inductive Bank
  | a
  | b
  deriving DecidableEq, Inhabited

namespace Bank

/-- The bank that is not this one. -/
def other : Bank → Bank
  | a => b
  | b => a

/-- The value of the bank-select bit for this bank. -/
def bit : Bank → Bool
  | a => false
  | b => true

/-- The bank that a bank-select bit names. -/
def ofBit (bit : Bool) : Bank :=
  if bit then b else a

/-- The letter of a bank. -/
def text : Bank → String
  | a => "A"
  | b => "B"

@[simp] theorem ofBit_bit (bank : Bank) : ofBit bank.bit = bank := by
  cases bank <;> rfl

end Bank

/-!
## Colours

The colour of a packet says where it goes: to a receive stream, or nowhere.
-/

/-- Where a packet goes. -/
inductive Colour
  | stream (index : UInt8)
  | drop
  deriving DecidableEq, Inhabited

namespace Colour

/-- The text of a destination. -/
def text : Colour → String
  | stream index => "rx" ++ toString index.toNat
  | drop => "drop"

/-- The place of a destination in summaries: streams in increasing order and drop last. -/
def rank : Colour → Nat
  | stream index => index.toNat
  | drop => 256

/-- The destination of a place in summaries. -/
def ofRank (rank : Nat) : Colour :=
  if rank < 256 then stream (UInt8.ofNat rank) else drop

/-- The destination of a packet that a stream gets, or no stream does. -/
def ofStream? : Option Nat → Colour
  | some index => stream (UInt8.ofNat index)
  | none => drop

theorem rank_lt (colour : Colour) : colour.rank < 257 := by
  cases colour with
  | stream index => exact Nat.lt_succ_of_lt index.toNat_lt
  | drop => decide

@[simp] theorem ofRank_rank (colour : Colour) : ofRank colour.rank = colour := by
  cases colour with
  | stream index => simp [rank, ofRank, index.toNat_lt]
  | drop => rfl

end Colour

/-!
## Table keys

What the card knows about a packet when it looks up where to steer it: which filters hit, which
interface captured it, and the outcome of the HLB stage.
-/

/-- The outcome of the HLB stage. -/
inductive HlbOutcome
  /-- Two discrete bits: bit 0 is HLB0 and bit 1 is HLB1. -/
  | bits (value : UInt8)
  /-- The bucket that the packet hashed to, out of a number of buckets. -/
  | hash (bucket buckets : UInt8)
  deriving DecidableEq

/-- The named dimensions of one table index. The filter hits are numbered by physical slot when
they come from the card, and by virtual slot once they are renumbered. -/
structure TableKey where
  filters : UInt8
  interface : UInt8
  hlb : HlbOutcome
  deriving DecidableEq

namespace TableKey

/-- Whether the filter in a slot is hit. -/
def hit (key : TableKey) (slot : Nat) : Bool :=
  key.filters.toNat.testBit slot

end TableKey

/-!
## Table layouts

How a generation of cards packs a table key into an index of the colour table, and how wide the
entries of its table are. From the low end an index holds eight filter bits, two interface bits
and the outcome of the HLB stage; the high bit of an entry is its drop marker.
-/

/-- The generations of cards. -/
inductive TableLayout
  /-- Two discrete HLB bits above the interface. -/
  | classic
  /-- A hash bucket out of four above the interface. -/
  | hashedFour
  /-- A hash bucket out of eight above the interface. -/
  | hashedEight
  deriving DecidableEq, Inhabited

/-- The number of bits needed to write a number. -/
def bitLength (n : Nat) : Nat :=
  if n = 0 then 0 else n.log2 + 1

/-- The least power of two that is not less than a number. -/
def ceilPowerOfTwo (n : Nat) : Nat :=
  1 <<< bitLength (n - 1)

/-- The number of bits needed to name one of a number of streams, which is at least one. -/
def streamBits (streams : Nat) : Nat :=
  max 1 (bitLength (streams - 1))

namespace TableLayout

/-- The name of a layout. -/
def text : TableLayout → String
  | classic => "classic"
  | hashedFour => "hashed-v1.4"
  | hashedEight => "hashed-v1.8"

/-- The number of bits an index gives to the HLB outcome. -/
def hlbWidth : TableLayout → Nat
  | classic => 2
  | hashedFour => 2
  | hashedEight => 3

/-- The number of hash buckets, or zero for a layout with discrete HLB bits. -/
def hashBuckets : TableLayout → Nat
  | classic => 0
  | hashedFour => 4
  | hashedEight => 8

/-- The number of bits in a table index. -/
def indexBits (layout : TableLayout) : Nat :=
  10 + layout.hlbWidth

/-- The number of entries in the table. -/
def entries (layout : TableLayout) : Nat :=
  1 <<< layout.indexBits

/-- The width of a table entry that names one of a number of streams and has a drop marker. -/
def entryBits (layout : TableLayout) (streams : Nat) : Nat :=
  match layout with
  | classic => streamBits streams + 1
  | _ => max 4 (ceilPowerOfTwo (streamBits streams + 1))

/-- The HLB outcome that an index holds. -/
def decodeHlb (layout : TableLayout) (index : Nat) : HlbOutcome :=
  let outcome := UInt8.ofNat (index / 1024 % 1 <<< layout.hlbWidth)
  match layout with
  | classic => .bits outcome
  | _ => .hash outcome (UInt8.ofNat layout.hashBuckets)

/-- The key that an index stands for. Bits above the width of an index are ignored. -/
def decode (layout : TableLayout) (index : Nat) : TableKey where
  filters := UInt8.ofNat (index % 256)
  interface := UInt8.ofNat (index / 256 % 4)
  hlb := layout.decodeHlb index

/-- The number by which an index holds an HLB outcome. An outcome of the other kind counts as
zero, and one out of range loses its high bits. -/
def encodeHlb (layout : TableLayout) (outcome : HlbOutcome) : Nat :=
  match layout, outcome with
  | classic, .bits value => value.toNat % 4
  | classic, .hash _ _ => 0
  | _, .hash bucket _ => bucket.toNat % 1 <<< layout.hlbWidth
  | _, .bits _ => 0

/-- The index of a key. -/
def encode (layout : TableLayout) (key : TableKey) : Nat :=
  key.filters.toNat + key.interface.toNat % 4 * 256 + layout.encodeHlb key.hlb * 1024

end TableLayout

end PacketSteering
