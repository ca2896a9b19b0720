import Mathlib.Order.Bounds.Basic
import Mathlib.Order.MinMax
import PacketSteering.ColourTable
import PacketSteering.Proofs.TableLayout

/-!
# The least width of an entry

The stream bits of an entry are the fewest that give every stream a number of its own, and at least
one (`isLeast_streamBits`).  An entry has one bit more for its drop marker.  A card with hash
buckets rounds the width up to a power of two from four on, and to no larger one than it has to
(`TableLayout.isLeast_entryBits`).  More streams never make an entry narrower, and no stream of a
count has the number of the marker (`TableLayout.entry_widths_tight`).

A machine finds the stream bits from the zeros that the largest stream number leads with in its
word, apart from counts too small to have such a number.  That is the same for every count that a
word holds (`toNat_streamBitsWord`), and the widths that come of it are small.
-/

namespace PacketSteering

/-! ## Least widths -/

lemma isLeast_streamBits (streams : ℕ) :
    IsLeast {bits | 1 ≤ bits ∧ streams ≤ 2 ^ bits} (streamBits streams) := by
  refine ⟨⟨one_le_streamBits streams, le_two_pow_streamBits streams⟩, ?_⟩
  rintro bits ⟨hpos, hroom⟩
  exact (streamBits_le_iff hpos).mpr hroom

lemma streamBits_mono : Monotone streamBits := by
  intro few many hle
  rw [streamBits_le_iff (one_le_streamBits many)]
  exact Nat.le_trans hle (le_two_pow_streamBits many)

lemma ceilPowerOfTwo_mono : Monotone ceilPowerOfTwo := by
  intro low high hle
  rw [ceilPowerOfTwo_eq high, ceilPowerOfTwo_le_iff, ← ceilPowerOfTwo_eq]
  exact Nat.le_trans hle (le_ceilPowerOfTwo high)

/-- A power of two from a smaller one on: the larger one of it and the number rounded up. -/
lemma isLeast_max_ceilPowerOfTwo (k n : ℕ) :
    IsLeast {width | (∃ e, width = 2 ^ e) ∧ 2 ^ k ≤ width ∧ n ≤ width}
      (max (2 ^ k) (ceilPowerOfTwo n)) := by
  refine ⟨⟨?_, Nat.le_max_left _ _, Nat.le_trans (le_ceilPowerOfTwo n) (Nat.le_max_right _ _)⟩, ?_⟩
  · rcases max_choice (2 ^ k) (ceilPowerOfTwo n) with hmax | hmax
    · exact ⟨k, hmax⟩
    · exact ⟨bitLength (n - 1), hmax.trans (ceilPowerOfTwo_eq n)⟩
  · rintro _ ⟨⟨e, rfl⟩, hlow, hroom⟩
    exact Nat.max_le.mpr ⟨hlow, ceilPowerOfTwo_le_iff.mpr hroom⟩

namespace TableLayout

/-- A layout with hash buckets has the least power of two for its width, from four on, that has room
for a stream and the marker. -/
lemma isLeast_entryBits (layout : TableLayout) (h : layout ≠ classic) (streams : ℕ) :
    IsLeast {width | (∃ e, width = 2 ^ e) ∧ 4 ≤ width ∧ streamBits streams + 1 ≤ width}
      (layout.entryBits streams) := by
  cases layout with
  | classic => exact absurd rfl h
  | hashedFour => exact isLeast_max_ceilPowerOfTwo 2 _
  | hashedEight => exact isLeast_max_ceilPowerOfTwo 2 _

lemma entryBits_mono (layout : TableLayout) : Monotone layout.entryBits := by
  intro few many hle
  have hbits : streamBits few + 1 ≤ streamBits many + 1 := Nat.succ_le_succ (streamBits_mono hle)
  cases layout with
  | classic => exact hbits
  | hashedFour => exact max_le_max_left 4 (ceilPowerOfTwo_mono hbits)
  | hashedEight => exact max_le_max_left 4 (ceilPowerOfTwo_mono hbits)

/-- The number of a stream is not that of the marker, nor any above it. -/
lemma lt_marker (layout : TableLayout) {stream streams : ℕ} (h : stream < streams) :
    stream < 1 <<< (layout.entryBits streams - 1) := by
  rw [Nat.one_shiftLeft]
  exact Nat.lt_of_lt_of_le h (layout.streams_le_marker streams)

end TableLayout

/-! ## Counts in words -/

/-- The number of zeros that a word leads with. -/
def leadingZeros (word : UInt64) : UInt32 :=
  UInt32.ofNat word.toBitVec.clz.toNat

/-- The number of stream bits as a machine finds it: one for up to two streams, and otherwise what
the leading zeros of the largest stream number leave of the word. -/
def streamBitsWord (streams : UInt64) : UInt32 :=
  if streams ≤ 2 then 1 else 64 - leadingZeros (streams - 1)

/-- What the leading zeros leave of a word is the length of its number. -/
lemma toNat_sub_leadingZeros (word : UInt64) :
    (64 - leadingZeros word).toNat = bitLength word.toNat := by
  have hle : word.toBitVec.clz.toNat ≤ 64 := by simpa using BitVec.le_def.mp BitVec.clz_le
  have hzeros : (leadingZeros word).toNat = word.toBitVec.clz.toNat :=
    UInt32.toNat_ofNat_of_lt' (Nat.lt_of_le_of_lt hle (by decide))
  have hsub : (64 - leadingZeros word).toNat = 64 - word.toBitVec.clz.toNat := by
    have hle' : leadingZeros word ≤ 64 := UInt32.le_iff_toNat_le.mpr (hzeros.trans_le hle)
    rw [UInt32.toNat_sub_of_le _ _ hle', hzeros]
    rfl
  have hupper : bitLength word.toNat ≤ 64 - word.toBitVec.clz.toNat :=
    bitLength_le_iff.mpr BitVec.toNat_lt_two_pow_sub_clz
  rw [hsub]
  refine Nat.le_antisymm ?_ hupper
  by_cases hzero : word.toBitVec = 0
  · -- A word of zeros leads with all of them.
    have hall : word.toBitVec.clz.toNat = 64 := by
      rw [hzero]
      decide
    omega
  · -- The bit that follows the leading zeros is set.
    have hlower : 2 ^ (63 - word.toBitVec.clz.toNat) ≤ word.toNat :=
      BitVec.two_pow_sub_clz_le_toNat_of_ne_zero (by decide) hzero
    have hlonger : ¬ bitLength word.toNat ≤ 63 - word.toBitVec.clz.toNat := by
      rw [bitLength_le_iff]
      exact Nat.not_lt.mpr hlower
    omega

/-- A machine finds the stream bits of every count that a word holds. -/
lemma toNat_streamBitsWord (streams : UInt64) :
    (streamBitsWord streams).toNat = streamBits streams.toNat := by
  rw [streamBitsWord, streamBits]
  have htwo : streams ≤ 2 ↔ streams.toNat ≤ 2 := UInt64.le_iff_toNat_le
  by_cases hfew : streams ≤ 2
  · have hsmall : streams.toNat - 1 < 2 ^ 1 := by
      have hle := htwo.mp hfew
      omega
    rw [if_pos hfew, Nat.max_eq_left (bitLength_le_iff.mpr hsmall)]
    rfl
  · have hmany : 2 < streams.toNat := Nat.not_le.mp (mt htwo.mpr hfew)
    have hpos : 1 ≤ streams := UInt64.le_iff_toNat_le.mpr (Nat.le_trans (by decide) hmany)
    have hpred : (streams - 1).toNat = streams.toNat - 1 := UInt64.toNat_sub_of_le _ _ hpos
    have hlong : ¬ bitLength (streams.toNat - 1) ≤ 0 := by
      rw [bitLength_le_iff]
      omega
    rw [if_neg hfew, toNat_sub_leadingZeros, hpred, Nat.max_eq_right (Nat.not_le.mp hlong)]

namespace TableLayout

/-- The widths for the counts that a word holds are small numbers. -/
lemma entryBits_le_of_lt (layout : TableLayout) {streams : ℕ} (h : streams < 2 ^ 64) :
    layout.entryBits streams ≤ 2 ^ 7 := by
  have hbits : streamBits streams ≤ 64 := (streamBits_le_iff (by decide)).mpr (Nat.le_of_lt h)
  exact layout.entryBits_le_two_pow (by decide) (by omega)

/-- **Entries are as wide as the streams need, and no wider.** For every layout and every number of
streams: the stream bits are the fewest, and at least one, that have a pattern for each stream.  An
entry of the layout with discrete bits has exactly one bit more, and one of a layout with hash
buckets as many as the least power of two that is at least four and leaves room for that.  More
streams never make either narrower.  So no stream has a number that reaches up to the drop marker,
neither that of the width nor that of any table with entries of the width.  For the counts that a
word holds, its leading zeros give the stream bits, and the widths are small numbers. -/
theorem entry_widths_tight (layout : TableLayout) :
    (∀ streams, IsLeast {bits | 1 ≤ bits ∧ streams ≤ 2 ^ bits} (streamBits streams)) ∧
      (layout = classic → ∀ streams, layout.entryBits streams = streamBits streams + 1) ∧
      (layout ≠ classic → ∀ streams,
        IsLeast {width | (∃ e, width = 2 ^ e) ∧ 4 ≤ width ∧ streamBits streams + 1 ≤ width}
          (layout.entryBits streams)) ∧
      (Monotone streamBits ∧ Monotone layout.entryBits) ∧
      (∀ streams stream, stream < streams → stream < 1 <<< (layout.entryBits streams - 1) ∧
        ∀ table : ColourTable, table.bits = layout.entryBits streams → stream < table.dropMarker) ∧
      ∀ count : UInt64, (streamBitsWord count).toNat = streamBits count.toNat ∧
        layout.entryBits count.toNat ≤ 2 ^ 7 := by
  refine ⟨isLeast_streamBits, ?_, layout.isLeast_entryBits,
    ⟨streamBits_mono, layout.entryBits_mono⟩,
    fun streams stream hstream => ⟨layout.lt_marker hstream, fun table hbits => ?_⟩,
    fun count => ⟨toNat_streamBitsWord count, ?_⟩⟩
  · rintro rfl streams
    rfl
  · rw [ColourTable.dropMarker, hbits]
    exact layout.lt_marker hstream
  · exact layout.entryBits_le_of_lt count.toNat_lt

/-- One stream more than a power of two takes one more bit, and the largest count that a word holds
makes the widest entries. -/
theorem entry_widths_tight_largestCount :
    streamBits (2 ^ 63) = 63 ∧ streamBits (2 ^ 63 + 1) = 64 ∧ streamBits (2 ^ 64 - 1) = 64 ∧
      classic.entryBits (2 ^ 64 - 1) = 65 ∧
      65 ≤ hashedEight.entryBits (2 ^ 64 - 1) ∧ hashedEight.entryBits (2 ^ 64 - 1) ≤ 2 ^ 7 ∧
      2 ^ 64 - 2 < 1 <<< (classic.entryBits (2 ^ 64 - 1) - 1) := by
  obtain ⟨-, hclassic, -, -, hmarker, hwords⟩ := entry_widths_tight classic
  obtain ⟨-, -, hhashed, -⟩ := entry_widths_tight hashedEight
  have hlargest : streamBits (2 ^ 64 - 1) = 64 := (hwords 0xFFFFFFFFFFFFFFFF).1.symm
  obtain ⟨⟨-, -, hroom⟩, hleast⟩ := hhashed nofun (2 ^ 64 - 1)
  have hpower : hashedEight.entryBits (2 ^ 64 - 1) ≤ 2 ^ 7 :=
    hleast ⟨⟨7, rfl⟩, by decide, by rw [hlargest]; decide⟩
  rw [hlargest] at hroom
  exact ⟨(hwords 0x8000000000000000).1.symm, (hwords 0x8000000000000001).1.symm, hlargest,
    by rw [hclassic rfl, hlargest], hroom, hpower, (hmarker _ _ (by decide)).1⟩

end TableLayout

end PacketSteering
