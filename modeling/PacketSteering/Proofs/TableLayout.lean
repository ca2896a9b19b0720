import Mathlib.Data.Nat.Bitwise
import Mathlib.Tactic.Common
import PacketSteering.TableLayout

/-!
# Indices and entry widths of a layout

An index packs the filter hits, the interface and the HLB outcome without overlap.  Whatever a
card reports, its index lies in the table (`encode_lt_entries`) and decodes to the hits it was made
of (`decode_encode_filters`), beside an interface and an outcome that do not depend on them.  What
a card of the layout can really report is decoded in full (`decode_encode`).

An entry has room for every stream below its drop marker (`streams_le_marker`), and is never wider
than a byte (`entryBits_le`).
-/

namespace PacketSteering

/-! ## Binary lengths -/

/-- So many bits are enough exactly for the numbers below the power of two. -/
lemma bitLength_le_iff {n k : ℕ} : bitLength n ≤ k ↔ n < 2 ^ k := by
  rw [bitLength]
  split
  case isTrue hzero =>
    rw [hzero]
    exact iff_of_true (Nat.zero_le k) (Nat.two_pow_pos k)
  case isFalse hne => exact Nat.succ_le_iff.trans (Nat.log2_lt hne)

lemma ceilPowerOfTwo_eq (n : ℕ) : ceilPowerOfTwo n = 2 ^ bitLength (n - 1) :=
  Nat.one_shiftLeft _

/-- A power of two that bounds a number bounds the least such power. -/
lemma ceilPowerOfTwo_le_iff {n k : ℕ} : ceilPowerOfTwo n ≤ 2 ^ k ↔ n ≤ 2 ^ k := by
  have hpos := Nat.two_pow_pos k
  rw [ceilPowerOfTwo_eq, Nat.pow_le_pow_iff_right (by decide), bitLength_le_iff]
  omega

lemma le_ceilPowerOfTwo (n : ℕ) : n ≤ ceilPowerOfTwo n := by
  rw [ceilPowerOfTwo_eq, ← ceilPowerOfTwo_le_iff, ceilPowerOfTwo_eq]

lemma one_le_streamBits (streams : ℕ) : 1 ≤ streamBits streams :=
  Nat.le_max_left _ _

/-- A number of bits names the streams exactly if it has a pattern for each of them. -/
lemma streamBits_le_iff {streams k : ℕ} (hk : 1 ≤ k) :
    streamBits streams ≤ k ↔ streams ≤ 2 ^ k := by
  have hpos := Nat.two_pow_pos k
  rw [streamBits, Nat.max_le, bitLength_le_iff]
  omega

/-- The streams can be told apart by their bits. -/
lemma le_two_pow_streamBits (streams : ℕ) : streams ≤ 2 ^ streamBits streams :=
  (streamBits_le_iff (one_le_streamBits streams)).mp (Nat.le_refl _)

/-- Six bits name every stream that there can be. -/
lemma streamBits_le {streams : ℕ} (h : streams ≤ streamLimit) : streamBits streams ≤ 6 :=
  (streamBits_le_iff (by decide)).mpr h

namespace TableLayout

lemma streamBits_lt_entryBits (layout : TableLayout) (streams : ℕ) :
    streamBits streams < layout.entryBits streams := by
  have h := le_ceilPowerOfTwo (streamBits streams + 1)
  cases layout with
  | classic => exact Nat.lt_succ_self _
  | hashedFour => exact Nat.lt_of_lt_of_le h (Nat.le_max_right _ _)
  | hashedEight => exact Nat.lt_of_lt_of_le h (Nat.le_max_right _ _)

/-- The numbers of the streams stay below the drop marker of an entry. -/
lemma streams_le_marker (layout : TableLayout) (streams : ℕ) :
    streams ≤ 2 ^ (layout.entryBits streams - 1) := by
  have h := layout.streamBits_lt_entryBits streams
  exact Nat.le_trans (le_two_pow_streamBits streams)
    (Nat.pow_le_pow_right (by decide) (by omega))

/-- An entry has a bit for the streams and the drop marker. -/
lemma two_le_entryBits (layout : TableLayout) (streams : ℕ) : 2 ≤ layout.entryBits streams := by
  have hpos := one_le_streamBits streams
  have hlt := layout.streamBits_lt_entryBits streams
  omega

/-- A power of two from four on bounds the width if it has room for the streams and the marker. -/
lemma entryBits_le_two_pow (layout : TableLayout) {streams k : ℕ} (hk : 2 ≤ k)
    (h : streamBits streams + 1 ≤ 2 ^ k) : layout.entryBits streams ≤ 2 ^ k := by
  have hfour : 2 ^ 2 ≤ 2 ^ k := Nat.pow_le_pow_right (by decide) hk
  have hpower : ceilPowerOfTwo (streamBits streams + 1) ≤ 2 ^ k := ceilPowerOfTwo_le_iff.mpr h
  cases layout with
  | classic => exact h
  | hashedFour => exact Nat.max_le.mpr ⟨hfour, hpower⟩
  | hashedEight => exact Nat.max_le.mpr ⟨hfour, hpower⟩

/-- No entry is wider than a byte. -/
lemma entryBits_le (layout : TableLayout) {streams : ℕ} (h : streams ≤ streamLimit) :
    layout.entryBits streams ≤ 8 := by
  have hstreams := streamBits_le h
  have hroom : streamBits streams + 1 ≤ 2 ^ 3 := by omega
  exact layout.entryBits_le_two_pow (by decide) hroom

/-! ## Indices -/

/-- The HLB outcomes that a card of a layout can report. -/
def Reports (layout : TableLayout) : HlbOutcome → Prop
  | .bits value => layout = classic ∧ value.toNat < 2 ^ hlbBitCount
  | .hash bucket buckets =>
    layout ≠ classic ∧ buckets.toNat = layout.hashBuckets ∧ bucket.toNat < layout.hashBuckets

lemma encodeHlb_lt (layout : TableLayout) (outcome : HlbOutcome) :
    layout.encodeHlb outcome < 1 <<< layout.hlbWidth := by
  cases layout <;> cases outcome <;> simp only [encodeHlb, hlbWidth, Nat.one_shiftLeft] <;> omega

/-- The rows of a table for any layout can be addressed. -/
lemma entries_le (layout : TableLayout) : layout.entries ≤ 2 ^ 14 := by
  cases layout <;> decide

lemma encode_lt_entries (layout : TableLayout) (key : TableKey) :
    layout.encode key < layout.entries := by
  have hfilters := key.filters.toNat_lt
  have hhlb := layout.encodeHlb_lt key.hlb
  rw [encode, entries, indexBits]
  cases layout <;> simp only [hlbWidth, Nat.one_shiftLeft] at hhlb ⊢ <;> omega

lemma encode_mod (layout : TableLayout) (key : TableKey) :
    layout.encode key % 256 = key.filters.toNat := by
  have hfilters := key.filters.toNat_lt
  rw [encode]
  omega

lemma encode_interface (layout : TableLayout) (key : TableKey) :
    layout.encode key / 256 % 4 = key.interface.toNat % 4 := by
  have hfilters := key.filters.toNat_lt
  rw [encode]
  omega

lemma encode_hlb (layout : TableLayout) (key : TableKey) :
    layout.encode key / 1024 = layout.encodeHlb key.hlb := by
  have hfilters := key.filters.toNat_lt
  rw [encode]
  omega

@[simp] lemma decode_encode_filters (layout : TableLayout) (key : TableKey) :
    (layout.decode (layout.encode key)).filters = key.filters := by
  rw [decode, encode_mod, UInt8.ofNat_toNat]

/-- Besides the hits, what an index decodes to does not depend on the hits. -/
lemma decode_encode_with_filters (layout : TableLayout) (hits hits' interface : UInt8)
    (hlb : HlbOutcome) :
    layout.decode (layout.encode ⟨hits', interface, hlb⟩) =
      { layout.decode (layout.encode ⟨hits, interface, hlb⟩) with filters := hits' } := by
  simp only [decode, decodeHlb, encode_interface, encode_hlb, encode_mod, UInt8.ofNat_toNat]

lemma decodeHlb_encode (layout : TableLayout) (key : TableKey) (h : layout.Reports key.hlb) :
    layout.decodeHlb (layout.encode key) = key.hlb := by
  have houtcome : layout.encode key / 1024 % 1 <<< layout.hlbWidth = layout.encodeHlb key.hlb := by
    rw [encode_hlb, Nat.mod_eq_of_lt (layout.encodeHlb_lt key.hlb)]
  obtain ⟨filters, interface, hlb⟩ := key
  cases hlb with
  | bits value =>
    obtain ⟨rfl, hvalue⟩ := h
    have hsmall : value.toNat % 4 = value.toNat := Nat.mod_eq_of_lt hvalue
    simp only [decodeHlb, houtcome, encodeHlb, hsmall, UInt8.ofNat_toNat]
  | hash bucket buckets =>
    obtain ⟨hkind, hbuckets, hbucket⟩ := h
    have hall : UInt8.ofNat layout.hashBuckets = buckets := by
      rw [← hbuckets, UInt8.ofNat_toNat]
    cases layout with
    | classic => exact absurd rfl hkind
    | hashedFour =>
      have hsmall : bucket.toNat % 1 <<< hashedFour.hlbWidth = bucket.toNat :=
        Nat.mod_eq_of_lt hbucket
      simp only [decodeHlb, houtcome, encodeHlb, hsmall, UInt8.ofNat_toNat, hall]
    | hashedEight =>
      have hsmall : bucket.toNat % 1 <<< hashedEight.hlbWidth = bucket.toNat :=
        Nat.mod_eq_of_lt hbucket
      simp only [decodeHlb, houtcome, encodeHlb, hsmall, UInt8.ofNat_toNat, hall]

/-- What a card can report is decoded in full. -/
lemma decode_encode (layout : TableLayout) (key : TableKey)
    (hinterface : key.interface.toNat < interfaceCount) (hhlb : layout.Reports key.hlb) :
    layout.decode (layout.encode key) = key := by
  have hsmall : key.interface.toNat % 4 = key.interface.toNat := Nat.mod_eq_of_lt hinterface
  rw [decode, encode_mod, encode_interface, decodeHlb_encode layout key hhlb, hsmall,
    UInt8.ofNat_toNat, UInt8.ofNat_toNat]

end TableLayout

end PacketSteering
