import Mathlib.Tactic.Common
import PacketSteering.Proofs.BitField
import PacketSteering.Register.Protocol

/-!
# The words of the register protocol

A control word is known by its bits: `testBit_or_bitOn` and `testBit_and_not_bitOn` say that
enabling or disabling a slot changes the bit of that slot and no other.  A command and a row
address are packed from fields that do not overlap, so every field is read back as it was put in.
-/

namespace PacketSteering.Register

/-! ## Single bits -/

lemma toNat_bitOn {bit : ℕ} (h : bit < 32) : (bitOn bit).toNat = 2 ^ bit := by
  have hsmall : 2 ^ bit < UInt32.size := Nat.pow_lt_pow_right (by decide) h
  rw [bitOn, Nat.one_shiftLeft, UInt32.toNat_ofNat_of_lt' hsmall]

lemma testBit_bitOn {bit : ℕ} (h : bit < 32) (i : ℕ) :
    (bitOn bit).toNat.testBit i = decide (bit = i) := by
  rw [toNat_bitOn h, Nat.testBit_two_pow]

/-- A word has a bit in common with `bitOn` exactly if it has that bit. -/
lemma and_bitOn_ne_zero (word : UInt32) {bit : ℕ} (h : bit < 32) :
    (word &&& bitOn bit != 0) = word.toNat.testBit bit := by
  have hand : (word &&& bitOn bit).toNat = (word.toNat.testBit bit).toNat * 2 ^ bit := by
    rw [UInt32.toNat_and, toNat_bitOn h, Nat.and_two_pow]
  have hzero : (word &&& bitOn bit = 0) ↔ (word &&& bitOn bit).toNat = 0 :=
    UInt32.toNat_inj.symm
  have hpos : 2 ^ bit ≠ 0 := Nat.pos_iff_ne_zero.mp (Nat.two_pow_pos bit)
  cases hbit : word.toNat.testBit bit <;> simp_all

lemma testBit_not (word : UInt32) {i : ℕ} (h : i < 32) :
    (~~~word).toNat.testBit i = !word.toNat.testBit i := by
  have hnot : (~~~word).toNat = 2 ^ 32 - (word.toNat + 1) := by
    have hsize : UInt32.size = 2 ^ 32 := by decide
    rw [UInt32.toNat_not, Nat.sub_sub, Nat.add_comm 1, hsize]
  rw [hnot, Nat.testBit_two_pow_sub_succ word.toNat_lt]
  simp [h]

/-- Setting one bit changes that bit only. -/
lemma testBit_or_bitOn (word : UInt32) {bit : ℕ} (h : bit < 32) (i : ℕ) :
    (word ||| bitOn bit).toNat.testBit i = (word.toNat.testBit i || decide (bit = i)) := by
  rw [UInt32.toNat_or, Nat.testBit_or, testBit_bitOn h]

lemma testBit_and_not_bitOn (word : UInt32) {bit i : ℕ} (h : bit < 32) (hi : i < 32) :
    (word &&& ~~~bitOn bit).toNat.testBit i = (word.toNat.testBit i && !decide (bit = i)) := by
  rw [UInt32.toNat_and, Nat.testBit_and, testBit_not _ hi, testBit_bitOn h]

lemma controlBankBit_eq : controlBankBit = bitOn 31 := by decide

lemma colourBankBit_eq : colourBankBit = bitOn 31 := by decide

lemma colourReadBit_eq : colourReadBit = bitOn 30 := by decide

lemma readBit_eq : readBit = bitOn 31 := by decide

/-- Setting the top bit of a smaller word adds it. -/
lemma toNat_bitOn_or {bit : ℕ} (h : bit < 32) {word : UInt32} (hsmall : word.toNat < 2 ^ bit) :
    (bitOn bit ||| word).toNat = 2 ^ bit + word.toNat := by
  have hor := Nat.two_pow_add_eq_or_of_lt hsmall 1
  rw [Nat.mul_one] at hor
  rw [UInt32.toNat_or, toNat_bitOn h, hor]

/-! ## Commands -/

/-- A number of the low half of the command register is read back field by field. -/
lemma get_of_packed (high : ℕ) {slot word code : ℕ} (hslot : slot < 16) (hword : word < 256)
    (hcode : code < 4) :
    let packed := high * 2 ^ 31 + (word + slot * 256 + code * 4096)
    wordField.get packed = word ∧ slotField.get packed = slot ∧ targetField.get packed = code := by
  simp only [BitField.get_eq, wordField, slotField, targetField]
  omega

lemma Target.code_lt (target : Target) : target.code < 3 := by
  cases target <;> decide

@[simp] lemma Target.ofCode?_code (target : Target) : Target.ofCode? target.code = some target := by
  cases target <;> rfl

lemma toNat_command {slot word : ℕ} (hslot : slot < 16) (hword : word < 256) (target : Target) :
    (command slot target word).toNat = word + slot * 256 + target.code * 4096 := by
  have hcode := target.code_lt
  have hsum : wordField.place word + slotField.place slot + targetField.place target.code =
      word + slot * 256 + target.code * 4096 := by
    simp only [BitField.place_eq, wordField, slotField, targetField]
    omega
  rw [command, hsum, UInt32.toNat_ofNat_of_lt']
  have : UInt32.size = 4294967296 := rfl
  omega

/-- A command, with the read bit or without it, names the slot, part and word it was made of. -/
lemma get_command {slot word : ℕ} (hslot : slot < 16) (hword : word < 256) (target : Target) :
    wordField.get (command slot target word).toNat = word ∧
      slotField.get (command slot target word).toNat = slot ∧
        targetField.get (command slot target word).toNat = target.code := by
  have hcode := target.code_lt
  rw [toNat_command hslot hword]
  simpa using get_of_packed 0 hslot hword (by omega : target.code < 4)

lemma get_readBit_or_command {slot word : ℕ} (hslot : slot < 16) (hword : word < 256)
    (target : Target) :
    wordField.get (readBit ||| command slot target word).toNat = word ∧
      slotField.get (readBit ||| command slot target word).toNat = slot ∧
        targetField.get (readBit ||| command slot target word).toNat = target.code := by
  have hcode := target.code_lt
  have hsmall : (command slot target word).toNat < 2 ^ 31 := by
    rw [toNat_command hslot hword]
    omega
  rw [readBit_eq, toNat_bitOn_or (by decide) hsmall, toNat_command hslot hword]
  simpa using get_of_packed 1 hslot hword (by omega : target.code < 4)

/-! ## Rows -/

/-- Of the number of a row the bits of its field are put in place. -/
lemma toNat_rowPlace (row : ℕ) :
    (UInt32.ofNat (rowField.place row)).toNat = 2 ^ 16 * (row % 2 ^ 14) := by
  have hplace : rowField.place row = 2 ^ 16 * (row % 2 ^ 14) := by
    simp only [BitField.place_eq, rowField]
    omega
  have hsize : UInt32.size = 4294967296 := rfl
  rw [hplace, UInt32.toNat_ofNat_of_lt']
  omega

/-- A word of the colour register that carries a row: the bank above the row above the data. -/
lemma toNat_rowWord (bank : Bank) {row : ℕ} (hrow : row < 2 ^ 14) (data : UInt16) :
    (rowAddress bank row ||| data.toUInt32).toNat =
      (if bank.bit then 2 ^ 31 else 0) + (row * 2 ^ 16 + data.toNat) := by
  have hdata := data.toNat_lt
  have hlow : (UInt32.ofNat (rowField.place row) ||| data.toUInt32).toNat =
      2 ^ 16 * row + data.toNat := by
    rw [UInt32.toNat_or, toNat_rowPlace, Nat.mod_eq_of_lt hrow, UInt16.toNat_toUInt32,
      Nat.two_pow_add_eq_or_of_lt hdata]
  rw [rowAddress]
  cases hbit : bank.bit with
  | false =>
    rw [if_neg (by decide), if_neg (by decide), UInt32.zero_or, hlow]
    omega
  | true =>
    rw [if_pos rfl, if_pos rfl, colourBankBit_eq, UInt32.or_assoc,
      toNat_bitOn_or (by decide) (by rw [hlow]; omega), hlow]
    omega

/-- A word of the colour register that asks for a row: the bank above the read bit above the row. -/
lemma toNat_readWord (bank : Bank) (row : ℕ) :
    (colourReadBit ||| rowAddress bank row).toNat =
      (if bank.bit then 2 ^ 31 else 0) + (2 ^ 30 + 2 ^ 16 * (row % 2 ^ 14)) := by
  have hlow : (bitOn 30 ||| UInt32.ofNat (rowField.place row)).toNat =
      2 ^ 30 + 2 ^ 16 * (row % 2 ^ 14) := by
    rw [toNat_bitOn_or (by decide) (by rw [toNat_rowPlace]; omega), toNat_rowPlace]
  rw [rowAddress, colourReadBit_eq]
  cases hbit : bank.bit with
  | false =>
    rw [if_neg (by decide), if_neg (by decide), UInt32.zero_or, hlow]
    omega
  | true =>
    rw [if_pos rfl, if_pos rfl, colourBankBit_eq, ← UInt32.or_assoc, UInt32.or_comm (bitOn 30),
      UInt32.or_assoc, toNat_bitOn_or (by decide) (by rw [hlow]; omega), hlow]

lemma toNat_rowData (word : UInt32) : (rowData word).toNat = word.toNat % 2 ^ 16 := by
  rw [rowData, UInt16.toNat_ofNat', BitField.get_eq]
  simp [dataField]

@[simp] lemma rowData_toUInt32 (data : UInt16) : rowData data.toUInt32 = data := by
  apply UInt16.toNat_inj.mp
  rw [toNat_rowData, UInt16.toNat_toUInt32, Nat.mod_eq_of_lt data.toNat_lt]

/-- A word that carries a row names its bank and its row, holds its data, and asks for nothing to
be read back. -/
lemma get_rowWord (bank : Bank) {row : ℕ} (hrow : row < 2 ^ 14) (data : UInt16) :
    let word := rowAddress bank row ||| data.toUInt32
    (word &&& colourBankBit != 0) = bank.bit ∧ (word &&& colourReadBit != 0) = false ∧
      rowField.get word.toNat = row ∧ rowData word = data := by
  intro word
  have hdata := data.toNat_lt
  have hword : word.toNat = (if bank.bit then 2 ^ 31 else 0) + (row * 2 ^ 16 + data.toNat) :=
    toNat_rowWord bank hrow data
  rw [colourBankBit_eq, colourReadBit_eq, and_bitOn_ne_zero _ (by decide),
    and_bitOn_ne_zero _ (by decide)]
  refine ⟨?_, ?_, ?_, ?_⟩
  · rw [Nat.testBit_eq_decide_div_mod_eq, hword]
    cases bank.bit <;> simp <;> omega
  · rw [Nat.testBit_eq_decide_div_mod_eq, hword]
    cases bank.bit <;> simp <;> omega
  · rw [hword]
    simp only [BitField.get_eq, rowField]
    cases bank.bit <;> simp only [if_true, if_false, Bool.false_eq_true] <;> omega
  · apply UInt16.toNat_inj.mp
    rw [toNat_rowData, hword]
    split <;> omega

/-- A word that asks for a row names its bank and, as far as the field goes, its row. -/
lemma get_readWord (bank : Bank) (row : ℕ) :
    let word := colourReadBit ||| rowAddress bank row
    (word &&& colourBankBit != 0) = bank.bit ∧ (word &&& colourReadBit != 0) = true ∧
      rowField.get word.toNat = row % 2 ^ 14 := by
  intro word
  have hword : word.toNat = (if bank.bit then 2 ^ 31 else 0) + (2 ^ 30 + 2 ^ 16 * (row % 2 ^ 14)) :=
    toNat_readWord bank row
  have hrow : row % 2 ^ 14 < 2 ^ 14 := Nat.mod_lt _ (by decide)
  rw [colourBankBit_eq, colourReadBit_eq, and_bitOn_ne_zero _ (by decide),
    and_bitOn_ne_zero _ (by decide)]
  refine ⟨?_, ?_, ?_⟩
  · rw [Nat.testBit_eq_decide_div_mod_eq, hword]
    cases bank.bit <;> simp <;> omega
  · rw [Nat.testBit_eq_decide_div_mod_eq, hword]
    cases bank.bit <;> simp <;> omega
  · rw [hword]
    simp only [BitField.get_eq, rowField]
    cases bank.bit <;> simp only [if_true, if_false, Bool.false_eq_true] <;> omega

end PacketSteering.Register
