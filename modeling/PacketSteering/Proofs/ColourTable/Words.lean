import Mathlib.Tactic.IntervalCases
import PacketSteering.Proofs.ColourTable.Entries

/-!
# Entries by shifts and masks

A row is a word of sixteen bits, and a table works on it with the shifts and masks of words: an
entry is read by shifting it down to the low end and masking it, and stored by clearing its place
and putting in the masked new entry.  The mask of an entry is made in thirty-two bits, since the
mask of an entry that fills its row has all sixteen.

For every width this is what the fields of the rows say (`toNat_readEntry`, `storeEntry_eq_stored`,
`colourOfEntry_readEntry`): no shift reaches the width of a word, and no neighbour is touched.
-/

namespace PacketSteering.ColourTable

variable (table : ColourTable)

/-- The mask of an entry at the low end of a row. -/
def entryMask : UInt16 :=
  ((1 : UInt32) <<< UInt32.ofNat table.bits - 1 &&& 0xFFFF).toUInt16

/-- The entry that means drop. -/
def entryMarker : UInt16 :=
  1 <<< UInt16.ofNat (table.bits - 1)

/-- How far an entry stands above the low end of its row. -/
def entryShift (index : ℕ) : UInt16 :=
  UInt16.ofNat (index % table.perRow * table.bits)

/-- The entry of an index in its row. -/
def readEntry (index : ℕ) (row : UInt16) : UInt16 :=
  row >>> table.entryShift index &&& table.entryMask

/-- The destination that an entry stands for. -/
def colourOfEntry (entry : UInt16) : Colour :=
  if entry &&& table.entryMarker ≠ 0 then .drop else .stream entry.toUInt8

/-- The entry of a destination. -/
def entryOf : Colour → UInt16
  | .stream index => index.toUInt16 &&& ~~~table.entryMarker
  | .drop => table.entryMarker

/-- The row with the entry of an index replaced. -/
def storeEntry (index : ℕ) (colour : Colour) (row : UInt16) : UInt16 :=
  row &&& ~~~(table.entryMask <<< table.entryShift index) |||
    (table.entryOf colour &&& table.entryMask) <<< table.entryShift index

/-! ## The bits of words -/

lemma testBit_word (word : UInt16) {i : ℕ} (h : 16 ≤ i) : word.toNat.testBit i = false :=
  Nat.testBit_lt_two_pow (Nat.lt_of_lt_of_le word.toNat_lt (Nat.pow_le_pow_right (by decide) h))

lemma eq_of_testBit_word {a b : UInt16}
    (h : ∀ i < 16, a.toNat.testBit i = b.toNat.testBit i) : a = b := by
  apply UInt16.toNat_inj.mp
  apply Nat.eq_of_testBit_eq
  intro i
  rcases Nat.lt_or_ge i 16 with hi | hi
  · exact h i hi
  · rw [testBit_word a hi, testBit_word b hi]

lemma testBit_not_word (word : UInt16) {i : ℕ} (h : i < 16) :
    (~~~word).toNat.testBit i = !word.toNat.testBit i := by
  have hnot : (~~~word).toNat = 2 ^ 16 - (word.toNat + 1) := by
    have hsize : UInt16.size = 2 ^ 16 := by decide
    rw [UInt16.toNat_not, Nat.sub_sub, Nat.add_comm 1, hsize]
  rw [hnot, Nat.testBit_two_pow_sub_succ word.toNat_lt]
  simp [h]

lemma testBit_shiftRight_word (word : UInt16) {shift : UInt16} (h : shift.toNat < 16) (i : ℕ) :
    (word >>> shift).toNat.testBit i = word.toNat.testBit (shift.toNat + i) := by
  rw [UInt16.toNat_shiftRight, Nat.mod_eq_of_lt h, Nat.testBit_shiftRight]

lemma testBit_shiftLeft_word (word : UInt16) {shift : UInt16} (h : shift.toNat < 16) {i : ℕ}
    (hi : i < 16) :
    (word <<< shift).toNat.testBit i =
      (decide (shift.toNat ≤ i) && word.toNat.testBit (i - shift.toNat)) := by
  rw [UInt16.toNat_shiftLeft, Nat.mod_eq_of_lt h, Nat.testBit_mod_two_pow, Nat.testBit_shiftLeft]
  simp [hi]

/-! ## Masks and shifts -/

lemma testBit_entryMask (i : ℕ) : table.entryMask.toNat.testBit i = decide (i < table.bits) := by
  have hmask : table.entryMask.toNat = 2 ^ table.bits - 1 := by
    have hpos := table.bits_pos
    have hle := table.bits_le
    rw [entryMask]
    generalize table.bits = bits at hpos hle
    rw [rowBits] at hle
    interval_cases bits <;> rfl
  rw [hmask, Nat.testBit_two_pow_sub_one]

lemma toNat_entryMarker : table.entryMarker.toNat = 2 ^ (table.bits - 1) := by
  have hpos := table.bits_pos
  have hle := table.bits_le
  rw [entryMarker]
  generalize table.bits = bits at hpos hle
  rw [rowBits] at hle
  interval_cases bits <;> rfl

/-- No shift reaches the width of a word. -/
lemma toNat_entryShift (index : ℕ) :
    (table.entryShift index).toNat = (table.field index).low ∧ (table.field index).low < 16 := by
  have hwithin := table.field_within_row index
  have hpos : 0 < (table.field index).width := table.bits_pos
  have hlow : (table.field index).low < 16 := by omega
  refine ⟨?_, hlow⟩
  rw [entryShift, UInt16.toNat_ofNat_of_lt']
  · rfl
  · exact Nat.lt_trans hlow (by decide)

/-! ## Reading and storing -/

/-- The entry that is read is the field of the index. -/
lemma toNat_readEntry (index : ℕ) (row : UInt16) :
    (table.readEntry index row).toNat = (table.field index).get row.toNat := by
  obtain ⟨hshift, hlow⟩ := table.toNat_entryShift index
  apply Nat.eq_of_testBit_eq
  intro i
  rw [readEntry, UInt16.toNat_and, Nat.testBit_and, testBit_entryMask,
    testBit_shiftRight_word _ (hshift ▸ hlow), hshift, BitField.testBit_get, Bool.and_comm]
  rfl

/-- The entry of a destination, masked, is its raw entry. -/
lemma toNat_entryOf (colour : Colour) :
    (table.entryOf colour &&& table.entryMask).toNat = table.rawOf colour := by
  have hpos := table.bits_pos
  have hle : table.bits ≤ 16 := table.bits_le
  apply Nat.eq_of_testBit_eq
  intro i
  rw [UInt16.toNat_and, Nat.testBit_and, testBit_entryMask]
  cases colour with
  | stream index =>
    rw [entryOf, rawOf, dropMarker_eq, Nat.testBit_mod_two_pow, UInt16.toNat_and, Nat.testBit_and,
      UInt8.toNat_toUInt16]
    by_cases hi : i < table.bits
    · rw [testBit_not_word _ (by omega), toNat_entryMarker, Nat.testBit_two_pow]
      have hbelow : i < table.bits - 1 ↔ table.bits - 1 ≠ i := by omega
      simp [hi, hbelow, Bool.and_comm]
    · have hbelow : ¬ i < table.bits - 1 := by omega
      simp [hi, hbelow]
  | drop =>
    rw [entryOf, rawOf, dropMarker_eq, toNat_entryMarker, Nat.testBit_two_pow]
    by_cases hi : table.bits - 1 = i
    · have hlt : i < table.bits := by omega
      simp [hi, hlt]
    · simp [hi]

/-- The row that a store makes is the one with the field replaced. -/
lemma storeEntry_eq_stored (index : ℕ) (colour : Colour) (row : UInt16) :
    table.storeEntry index colour row = table.stored index colour row := by
  obtain ⟨hshift, hlow⟩ := table.toNat_entryShift index
  have hsmall : (table.entryShift index).toNat < 16 := hshift ▸ hlow
  have hwidth : (table.field index).width = table.bits := rfl
  apply eq_of_testBit_word
  intro i hi
  rw [toNat_stored, BitField.testBit_set, storeEntry, UInt16.toNat_or, Nat.testBit_or,
    UInt16.toNat_and, Nat.testBit_and, testBit_not_word _ hi, testBit_shiftLeft_word _ hsmall hi,
    testBit_shiftLeft_word _ hsmall hi, toNat_entryOf, testBit_entryMask, hshift, hwidth]
  by_cases hge : (table.field index).low ≤ i
  · by_cases hlt : i < (table.field index).low + table.bits
    · have hin : i - (table.field index).low < table.bits := by omega
      simp [hge, hlt, hin]
    · have hout : ¬ i - (table.field index).low < table.bits := by omega
      have hnone : (table.rawOf colour).testBit (i - (table.field index).low) = false :=
        Nat.testBit_lt_two_pow (Nat.lt_of_lt_of_le (table.rawOf_lt colour)
          (Nat.pow_le_pow_right (by decide) (by omega)))
      simp [hlt, hout, hnone]
  · simp [hge]

lemma and_entryMarker_ne_zero_iff {entry : UInt16} (h : entry.toNat < 2 ^ table.bits) :
    entry &&& table.entryMarker ≠ 0 ↔ table.dropMarker ≤ entry.toNat := by
  have hwidth : table.bits - 1 + 1 = table.bits := Nat.sub_add_cancel table.bits_pos
  have hand : (entry &&& table.entryMarker).toNat =
      (entry.toNat.testBit (table.bits - 1)).toNat * 2 ^ (table.bits - 1) := by
    rw [UInt16.toNat_and, toNat_entryMarker, Nat.and_two_pow]
  rw [ne_eq, ← UInt16.toNat_inj, hand, dropMarker_eq]
  by_cases hmarker : 2 ^ (table.bits - 1) ≤ entry.toNat
  · have hbit : entry.toNat.testBit (table.bits - 1) = true :=
      Nat.testBit_of_two_pow_le_and_two_pow_add_one_gt hmarker (hwidth.symm ▸ h)
    simp [hmarker, hbit]
  · have hbit : entry.toNat.testBit (table.bits - 1) = false :=
      Nat.testBit_lt_two_pow (Nat.lt_of_not_le hmarker)
    simp [hmarker, hbit]

/-- The entry that is read means what its raw form means. -/
lemma colourOfEntry_readEntry (index : ℕ) (row : UInt16) :
    table.colourOfEntry (table.readEntry index row) =
      table.colourOf ((table.field index).get row.toNat) := by
  have hlt : (table.readEntry index row).toNat < 2 ^ table.bits := by
    rw [toNat_readEntry, BitField.get_eq]
    exact Nat.mod_lt _ (Nat.two_pow_pos _)
  rw [← toNat_readEntry, colourOf]
  simp only [colourOfEntry, table.and_entryMarker_ne_zero_iff hlt]
  rfl

end PacketSteering.ColourTable
