import PacketSteering.Wire

/-!
# Masked values and compare patterns

A filter compares some of the bits of a capture record. In a rule they are claimed by the masks of
its fields, and on the card by one mask for every byte of the match depth.
-/

namespace PacketSteering

/-!
## Masked values

A value together with the mask of its bits that take part in a comparison. Construction clears
every bit of the value that the mask does not claim.
-/

/-- Types whose bits can be compared selectively. -/
class MaskBits (α : Type) extends AndOp α where
  /-- The mask that compares every bit. -/
  all : α
  /-- The mask that compares no bit. -/
  none : α

instance : MaskBits UInt8 where
  all := 0xFF
  none := 0

instance : MaskBits UInt16 where
  all := 0xFFFF
  none := 0

instance : MaskBits UInt32 where
  all := 0xFFFFFFFF
  none := 0

instance : MaskBits Mac where
  all := Mac.broadcast
  none := Mac.zero

instance : MaskBits Ipv4 where
  all := Ipv4.broadcast
  none := Ipv4.zero

instance : MaskBits TcpFlags where
  all := TcpFlags.all
  none := TcpFlags.none

/-- A value and the mask of its bits that are compared. -/
structure Masked (α : Type) where
  value : α
  mask : α
  deriving DecidableEq

namespace Masked

variable {α : Type} [MaskBits α]

/-- The value under a mask, with the bits outside the mask cleared. -/
def under (value mask : α) : Masked α :=
  ⟨value &&& mask, mask⟩

/-- Every bit of the value compared. -/
def exact (value : α) : Masked α :=
  under value MaskBits.all

/-- Nothing compared. -/
def ignored : Masked α :=
  ⟨MaskBits.none, MaskBits.none⟩

instance : Inhabited (Masked α) := ⟨ignored⟩

/-- Whether no bit at all is compared. -/
def isIgnored [DecidableEq α] (field : Masked α) : Bool :=
  field.mask = MaskBits.none

/-- The value alone if all of it is compared, and otherwise the value and the mask. -/
def text [DecidableEq α] (render : α → String) (field : Masked α) : String :=
  if field.mask = MaskBits.all then render field.value
  else render field.value ++ "/" ++ render field.mask

end Masked

/-!
## Compare patterns

The bytes loaded into one hardware filter: for every byte of the match depth a value and a mask,
and the last element of eight bytes that takes part. A pattern is put together from patches, each of
which lays one field over the bytes from its offset on.
-/

/-- The number of bytes one filter compares. -/
def matchDepth : Nat := 96

/-- The number of bytes in one filter element, the granularity of early termination. -/
def elementBytes : Nat := 8

/-- The index of the last element of a filter. -/
def lastElement : UInt8 := 11

/-- The value and mask bytes of one hardware filter. -/
structure Pattern where
  value : Vector UInt8 matchDepth
  mask : Vector UInt8 matchDepth
  /-- The last element taking part in the comparison. -/
  termination : UInt8
  deriving DecidableEq

/-- A field laid over the bytes from an offset on, each byte with its mask. -/
structure Patch where
  offset : Nat
  bytes : List (UInt8 × UInt8)

namespace Patch

/-- The patch of a masked value that starts at an offset. -/
def ofMasked {α : Type} [WireBytes α] (offset : Nat) (field : Masked α) : Patch :=
  ⟨offset, (WireBytes.bytes field.value).zip (WireBytes.bytes field.mask)⟩

/-- The byte that a patch lays at a position, if it reaches there. -/
def at? (patch : Patch) (i : Nat) : Option (UInt8 × UInt8) :=
  if patch.offset ≤ i then patch.bytes[i - patch.offset]? else none

end Patch

namespace Pattern

/-- The pattern that compares nothing. -/
def blank (termination : UInt8) : Pattern :=
  ⟨Vector.replicate matchDepth 0, Vector.replicate matchDepth 0, termination⟩

/-- Lays a patch over a pattern. Bits outside the mask of the patch stay as they were. -/
def merge (pattern : Pattern) (patch : Patch) : Pattern where
  value := Vector.ofFn fun i =>
    match patch.at? i with
    | some (v, m) => (pattern.value[i] &&& ~~~m) ||| (v &&& m)
    | none => pattern.value[i]
  mask := Vector.ofFn fun i =>
    match patch.at? i with
    | some (_, m) => pattern.mask[i] ||| m
    | none => pattern.mask[i]
  termination := pattern.termination

/-- Lays patches over the blank pattern, one after the other. -/
def ofPatches (termination : UInt8) (patches : List Patch) : Pattern :=
  patches.foldl merge (blank termination)

/-- The number of leading bytes that hold every byte compared on. -/
def extent (pattern : Pattern) : Nat :=
  Bytes.extent pattern.mask.toList

/-- The smallest termination that still covers every byte compared on. -/
def tightTermination (pattern : Pattern) : UInt8 :=
  UInt8.ofNat ((pattern.extent - 1) / elementBytes)

/-- The number of leading bytes that a termination lets take part. -/
def depth (termination : Nat) : Nat :=
  min ((termination + 1) * elementBytes) matchDepth

/-- Whether the first bytes of a frame agree with the pattern under its mask. Bytes past the end
of the frame count as zero. -/
def agrees (pattern : Pattern) (depth : Nat) (frame : Array UInt8) : Bool :=
  Nat.all matchDepth fun i _ =>
    !decide (i < depth) ||
      Bytes.padded frame i &&& pattern.mask[i] == pattern.value[i] &&& pattern.mask[i]

/-- Whether a frame matches the pattern up to its termination. -/
def hits (pattern : Pattern) (frame : Array UInt8) : Bool :=
  pattern.agrees (depth pattern.termination.toNat) frame

end Pattern

end PacketSteering
