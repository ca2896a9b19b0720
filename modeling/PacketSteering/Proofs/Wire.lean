import Mathlib.Tactic.Common
import PacketSteering.Proofs.Card.Slot
import PacketSteering.Proofs.Patch

/-!
# Values on the wire

The values that a filter compares have a fixed width on the wire, and masking a value masks each
of its bytes (`LawfulWire`).  `Frame` reads such values off a frame, most significant byte first,
with zeros past the end of the frame.

A field is compared byte by byte, but it says something about the value as a whole: a frame agrees
with the patch of a masked value exactly if the value that the frame shows there agrees with it on
the bits of its mask (`heldBy_ofMasked_iff`).
-/

namespace PacketSteering

/-! ## Values and their bytes -/

/-- Values that take up a fixed number of bytes, and are masked byte by byte. -/
class LawfulWire (α : Type) (width : outParam ℕ) [MaskBits α] [WireBytes α] : Prop where
  length_bytes : ∀ a : α, (WireBytes.bytes a).length = width
  bytes_none : WireBytes.bytes (MaskBits.none : α) = List.replicate width 0
  bytes_and : ∀ a b : α, WireBytes.bytes (a &&& b) =
    List.zipWith (· &&& ·) (WireBytes.bytes a) (WireBytes.bytes b)
  bytes_injective : Function.Injective (WireBytes.bytes : α → List UInt8)

namespace Bytes

/-- The number that two bytes make up. -/
lemma toNat_eq_of_half (w : UInt16) :
    w.toNat = 256 * (w >>> 8).toUInt8.toNat + w.toUInt8.toNat := by
  have hw := w.toNat_lt
  rw [UInt16.toNat_toUInt8, UInt16.toNat_toUInt8, UInt16.toNat_shiftRight,
    Nat.shiftRight_eq_div_pow]
  change w.toNat = 256 * (w.toNat / 2 ^ 8 % 2 ^ 8) + w.toNat % 2 ^ 8
  omega

end Bytes

instance : LawfulWire UInt8 1 where
  length_bytes _ := rfl
  bytes_none := rfl
  bytes_and _ _ := rfl
  bytes_injective _ _ h := (List.cons.inj h).1

instance : LawfulWire TcpFlags 1 where
  length_bytes _ := rfl
  bytes_none := rfl
  bytes_and _ _ := rfl
  bytes_injective := fun ⟨_⟩ ⟨_⟩ h => congrArg TcpFlags.mk (List.cons.inj h).1

instance : LawfulWire UInt16 2 where
  length_bytes _ := rfl
  bytes_none := rfl
  bytes_and a b := by
    simp only [WireBytes.bytes, List.zipWith_cons_cons, List.zipWith_nil_left, UInt16.toUInt8_and,
      UInt16.shiftRight_and]
  bytes_injective a b h := by
    obtain ⟨hhigh, hlow⟩ := List.cons.inj h
    apply UInt16.toNat_inj.mp
    rw [Bytes.toNat_eq_of_half a, Bytes.toNat_eq_of_half b, hhigh, (List.cons.inj hlow).1]

instance : LawfulWire UInt32 4 where
  length_bytes _ := rfl
  bytes_none := rfl
  bytes_and a b := by
    simp only [WireBytes.bytes, List.zipWith_cons_cons, List.zipWith_nil_left, UInt32.toUInt8_and,
      UInt32.shiftRight_and]
  bytes_injective a b h := by
    have hbytes : [Bytes.ofWord a 0, Bytes.ofWord a 1, Bytes.ofWord a 2, Bytes.ofWord a 3] =
        [Bytes.ofWord b 0, Bytes.ofWord b 1, Bytes.ofWord b 2, Bytes.ofWord b 3] := h
    simp only [List.cons.injEq, and_true] at hbytes
    obtain ⟨h0, h1, h2, h3⟩ := hbytes
    rw [← Bytes.word_ofWord a, ← Bytes.word_ofWord b, h0, h1, h2, h3]

instance : LawfulWire Mac 6 where
  length_bytes address := address.bytes.length_toList
  bytes_none := rfl
  bytes_and _ _ := Vector.toList_zipWith
  bytes_injective := fun ⟨_⟩ ⟨_⟩ h => congrArg Mac.mk (Vector.toList_inj.mp h)

instance : LawfulWire Ipv4 4 where
  length_bytes address := address.bytes.length_toList
  bytes_none := rfl
  bytes_and _ _ := Vector.toList_zipWith
  bytes_injective := fun ⟨_⟩ ⟨_⟩ h => congrArg Ipv4.mk (Vector.toList_inj.mp h)

/-! ## Masked values -/

namespace Masked

variable {α : Type} {width : ℕ} [MaskBits α]

/-- The value has no bit outside the mask. -/
def Sound (field : Masked α) : Prop :=
  field.value &&& field.mask = field.value

/-- A value agrees with a field on the bits that are compared. -/
def Admits (field : Masked α) (value : α) : Prop :=
  value &&& field.mask = field.value

section

variable [WireBytes α] [hwire : LawfulWire α width]

include hwire

/-- Two values under one mask are equal if they are, byte by byte. -/
lemma and_eq_and_iff {a b mask : α} :
    a &&& mask = b &&& mask ↔ ∀ (k : ℕ) (ha : k < (WireBytes.bytes a).length)
      (hb : k < (WireBytes.bytes b).length) (hmask : k < (WireBytes.bytes mask).length),
      (WireBytes.bytes a)[k] &&& (WireBytes.bytes mask)[k] =
        (WireBytes.bytes b)[k] &&& (WireBytes.bytes mask)[k] := by
  rw [← hwire.bytes_injective.eq_iff, hwire.bytes_and, hwire.bytes_and]
  constructor
  · intro heq k ha hb hmask
    have hk := congrArg (·[k]?) heq
    simp only [List.getElem?_zipWith, List.getElem?_eq_getElem, ha, hb, hmask] at hk
    exact Option.some.inj hk
  · intro h
    apply List.ext_getElem
    · simp [hwire.length_bytes]
    · intro k ha hb
      simp only [List.length_zipWith, Nat.lt_min] at ha hb
      rw [List.getElem_zipWith, List.getElem_zipWith]
      exact h k ha.1 hb.1 ha.2

lemma and_and_self (value mask : α) : value &&& mask &&& mask = value &&& mask := by
  rw [and_eq_and_iff]
  intro k hmasked hvalue hmask
  simp only [hwire.bytes_and, List.getElem_zipWith]
  rw [UInt8.and_assoc, UInt8.and_self]

lemma and_self (value : α) : value &&& value = value := by
  apply hwire.bytes_injective
  rw [hwire.bytes_and]
  apply List.ext_getElem
  · simp
  · intro k hmasked hvalue
    rw [List.getElem_zipWith, UInt8.and_self]

/-- Construction clears the bits outside the mask. -/
@[simp] lemma sound_under (value mask : α) : (under value mask).Sound :=
  and_and_self value mask

@[simp] lemma sound_exact (value : α) : (exact value).Sound :=
  sound_under value MaskBits.all

@[simp] lemma sound_ignored : (ignored : Masked α).Sound :=
  and_self MaskBits.none

end

end Masked

/-! ## Reading values off a frame -/

/-- A frame has the bytes of a value from a position on. -/
def Shows {α : Type} [WireBytes α] (frame : Array UInt8) (i : ℕ) (value : α) : Prop :=
  ∀ (k : ℕ) (h : k < (WireBytes.bytes value).length),
    (WireBytes.bytes value)[k] = Bytes.padded frame (i + k)

namespace Frame

variable (frame : Array UInt8) (i : ℕ)

/-- The byte of a frame at a position. -/
def byte : UInt8 :=
  Bytes.padded frame i

/-- The two bytes of a frame from a position on, as one number. -/
def half : UInt16 :=
  UInt16.ofNat (256 * (byte frame i).toNat + (byte frame (i + 1)).toNat)

/-- The four bytes of a frame from a position on, as one number. -/
def word : UInt32 :=
  Bytes.word (byte frame i) (byte frame (i + 1)) (byte frame (i + 2)) (byte frame (i + 3))

/-- The link-layer address that a frame has from a position on. -/
def mac : Mac :=
  ⟨Vector.ofFn fun k => byte frame (i + k)⟩

/-- The network address that a frame has from a position on. -/
def ipv4 : Ipv4 :=
  ⟨Vector.ofFn fun k => byte frame (i + k)⟩

/-- The TCP control bits that a frame has at a position. -/
def tcpFlags : TcpFlags :=
  ⟨byte frame i⟩

lemma shows_byte : Shows frame i (byte frame i) := by
  intro k h
  obtain rfl : k = 0 := Nat.lt_one_iff.mp h
  rfl

lemma shows_tcpFlags : Shows frame i (tcpFlags frame i) :=
  shows_byte frame i

lemma toNat_half :
    (half frame i).toNat = 256 * (byte frame i).toNat + (byte frame (i + 1)).toNat := by
  have hhigh := (byte frame i).toNat_lt
  have hlow := (byte frame (i + 1)).toNat_lt
  rw [half, UInt16.toNat_ofNat_of_lt']
  change _ < 2 ^ 16
  omega

lemma shows_half : Shows frame i (half frame i) := by
  have hhigh := (byte frame i).toNat_lt
  have hlow := (byte frame (i + 1)).toNat_lt
  have hnat := toNat_half frame i
  have hparts := Bytes.toNat_eq_of_half (half frame i)
  have hlow' := (half frame i).toUInt8.toNat_lt
  intro k h
  apply UInt8.toNat_inj.mp
  have hk : k < 2 := h
  rcases (by omega : k = 0 ∨ k = 1) with rfl | rfl
  · change (half frame i >>> 8).toUInt8.toNat = (byte frame i).toNat
    omega
  · change (half frame i).toUInt8.toNat = (byte frame (i + 1)).toNat
    omega

lemma shows_word : Shows frame i (word frame i) := by
  intro k h
  have hk : k < 4 := h
  rw [← Bytes.ofWord_word (fun k => Bytes.padded frame (i + k)) hk]
  rcases (by omega : k = 0 ∨ k = 1 ∨ k = 2 ∨ k = 3) with rfl | rfl | rfl | rfl <;> rfl

lemma shows_mac : Shows frame i (mac frame i) := by
  intro k h
  simp [WireBytes.bytes, mac, byte]

lemma shows_ipv4 : Shows frame i (ipv4 frame i) := by
  intro k h
  simp [WireBytes.bytes, ipv4, byte]

end Frame

/-! ## Fields in a pattern -/

section

variable {α : Type} {width : ℕ} [MaskBits α] [WireBytes α] [hwire : LawfulWire α width]

include hwire

omit [MaskBits α] hwire in
@[simp] lemma Patch.offset_ofMasked (i : ℕ) (field : Masked α) :
    (Patch.ofMasked i field).offset = i :=
  rfl

@[simp] lemma Patch.length_ofMasked (i : ℕ) (field : Masked α) :
    (Patch.ofMasked i field).bytes.length = width := by
  simp [Patch.ofMasked, hwire.length_bytes]

/-- A frame agrees with the patch of a field exactly if the value it shows there agrees with the
field. -/
lemma Patch.heldBy_ofMasked_iff {frame : Array UInt8} {i : ℕ} {value : α}
    (hshows : Shows frame i value) {field : Masked α} (hsound : field.Sound) :
    (Patch.ofMasked i field).HeldBy frame ↔ field.Admits value := by
  have hlength := hwire.length_bytes
  have hadmits : field.Admits value ↔ value &&& field.mask = field.value &&& field.mask := by
    rw [Masked.Admits, hsound]
  rw [hadmits, Masked.and_eq_and_iff, Patch.heldBy_iff]
  constructor
  · intro hheld k hvalue hfield hmask
    rw [hshows k hvalue]
    refine hheld k _ _ ?_
    rw [Patch.ofMasked, List.getElem?_zip_eq_some]
    exact ⟨List.getElem?_eq_getElem hfield, List.getElem?_eq_getElem hmask⟩
  · intro hagrees k fieldByte maskByte hbyte
    obtain ⟨hfieldByte, hmaskByte⟩ := List.getElem?_zip_eq_some.mp hbyte
    obtain ⟨hfield, rfl⟩ := List.getElem?_eq_some_iff.mp hfieldByte
    obtain ⟨hmask, rfl⟩ := List.getElem?_eq_some_iff.mp hmaskByte
    have hvalue : k < (WireBytes.bytes value).length := by
      rw [hlength, ← hlength field.mask]
      exact hmask
    have hk := hagrees k hvalue hfield hmask
    rwa [hshows k hvalue] at hk

end

end PacketSteering
