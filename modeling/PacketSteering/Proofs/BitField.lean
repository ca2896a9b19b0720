import Mathlib.Data.Nat.Bitwise
import Mathlib.Tactic.Common
import PacketSteering.TableLayout

/-!
# Reading and writing bit fields

A field is known by its bits: `testBit_get` gives those of the value read, and `testBit_set` those
of the number with the field replaced.  That a field reads back what was written, that another
one is left alone, and that two writes can change places are then comparisons of bits.
-/

namespace PacketSteering.BitField

/-! ## Fields as numbers -/

lemma get_eq (field : BitField) (word : ℕ) :
    field.get word = word / 2 ^ field.low % 2 ^ field.width := by
  rw [get, Nat.shiftRight_eq_div_pow, Nat.one_shiftLeft]

lemma place_eq (field : BitField) (value : ℕ) :
    field.place value = value % 2 ^ field.width * 2 ^ field.low := by
  rw [place, Nat.shiftLeft_eq, Nat.one_shiftLeft]

lemma set_eq (field : BitField) (word value : ℕ) :
    field.set word value =
      word / 2 ^ (field.low + field.width) * 2 ^ (field.low + field.width) + field.place value +
        word % 2 ^ field.low := by
  rw [set, Nat.shiftLeft_eq, Nat.shiftRight_eq_div_pow, Nat.one_shiftLeft]

/-! ## The bits of a field -/

lemma testBit_get (field : BitField) (word i : ℕ) :
    (field.get word).testBit i = (decide (i < field.width) && word.testBit (field.low + i)) := by
  rw [get_eq, Nat.testBit_mod_two_pow, Nat.testBit_div_two_pow, Nat.add_comm]

lemma testBit_place (field : BitField) (value i : ℕ) :
    (field.place value).testBit i =
      (decide (field.low ≤ i) && decide (i < field.low + field.width) &&
        value.testBit (i - field.low)) := by
  rw [place_eq, Nat.mul_comm, Nat.testBit_two_pow_mul, Nat.testBit_mod_two_pow]
  by_cases hlow : field.low ≤ i
  · have hiff : i - field.low < field.width ↔ i < field.low + field.width := by omega
    simp [hlow, hiff]
  · simp [hlow]

lemma place_lt (field : BitField) (value : ℕ) :
    field.place value < 2 ^ (field.low + field.width) := by
  rw [place_eq, Nat.pow_add, Nat.mul_comm]
  exact Nat.mul_lt_mul_of_pos_left (Nat.mod_lt _ (Nat.two_pow_pos _)) (Nat.two_pow_pos _)

/-- The three summands of `set` take up different bits. -/
lemma set_eq_or (field : BitField) (word value : ℕ) :
    field.set word value =
      (word / 2 ^ (field.low + field.width) * 2 ^ (field.low + field.width)) |||
        (field.place value ||| word % 2 ^ field.low) := by
  have hlow : word % 2 ^ field.low < 2 ^ field.low := Nat.mod_lt _ (Nat.two_pow_pos _)
  have hplace : field.place value ||| word % 2 ^ field.low =
      field.place value + word % 2 ^ field.low := by
    rw [place_eq, Nat.mul_comm, Nat.two_pow_add_eq_or_of_lt hlow]
  have hsmall : field.place value + word % 2 ^ field.low < 2 ^ (field.low + field.width) := by
    rw [← hplace]
    exact Nat.or_lt_two_pow (field.place_lt value)
      (Nat.lt_of_lt_of_le hlow (Nat.pow_le_pow_right (by omega) (by omega)))
  rw [set_eq, hplace, Nat.add_assoc, Nat.mul_comm, Nat.two_pow_add_eq_or_of_lt hsmall]

lemma testBit_set (field : BitField) (word value i : ℕ) :
    (field.set word value).testBit i =
      if field.low ≤ i ∧ i < field.low + field.width then value.testBit (i - field.low)
      else word.testBit i := by
  rw [set_eq_or, Nat.testBit_or, Nat.testBit_or, testBit_place, Nat.mul_comm,
    Nat.testBit_two_pow_mul, Nat.testBit_div_two_pow, Nat.testBit_mod_two_pow]
  by_cases hlow : field.low ≤ i
  · by_cases hhigh : i < field.low + field.width
    · have : ¬ field.low + field.width ≤ i := by omega
      have : ¬ i < field.low := by omega
      simp [*]
    · have hge : field.low + field.width ≤ i := by omega
      have : ¬ i < field.low := by omega
      have hback : i - (field.low + field.width) + (field.low + field.width) = i := by omega
      simp [*]
  · have : ¬ field.low + field.width ≤ i := by omega
    have : i < field.low := by omega
    simp [*]

/-! ## Reading back -/

/-- A field reads back what was written to it, less the bits that do not fit. -/
lemma get_set_self (field : BitField) (word value : ℕ) :
    field.get (field.set word value) = value % 2 ^ field.width := by
  apply Nat.eq_of_testBit_eq
  intro i
  rw [testBit_get, testBit_set, Nat.testBit_mod_two_pow]
  by_cases hi : i < field.width
  · simp [hi]
  · simp [hi]

/-- Two fields without a common bit. -/
def Disjoint (a b : BitField) : Prop :=
  a.low + a.width ≤ b.low ∨ b.low + b.width ≤ a.low

lemma get_set_of_disjoint {a b : BitField} (h : a.Disjoint b) (word value : ℕ) :
    b.get (a.set word value) = b.get word := by
  apply Nat.eq_of_testBit_eq
  intro i
  rw [testBit_get, testBit_get, testBit_set]
  by_cases hi : i < b.width
  · have hout : ¬ (a.low ≤ b.low + i ∧ b.low + i < a.low + a.width) := by
      rcases h with h | h <;> omega
    rw [if_neg hout]
  · simp [hi]

lemma set_set_self (field : BitField) (word first second : ℕ) :
    field.set (field.set word first) second = field.set word second := by
  apply Nat.eq_of_testBit_eq
  intro i
  simp only [testBit_set]
  split <;> rfl

lemma set_comm {a b : BitField} (h : a.Disjoint b) (word atA atB : ℕ) :
    b.set (a.set word atA) atB = a.set (b.set word atB) atA := by
  apply Nat.eq_of_testBit_eq
  intro i
  simp only [testBit_set]
  by_cases ha : a.low ≤ i ∧ i < a.low + a.width
  · have hb : ¬ (b.low ≤ i ∧ i < b.low + b.width) := by
      rcases h with h | h <;> omega
    rw [if_pos ha, if_neg hb, if_pos ha]
  · rw [if_neg ha, if_neg ha]

/-- A write to a field within the low bits of a number stays within them. -/
lemma set_mod_two_pow {field : BitField} {n : ℕ} (h : field.low + field.width ≤ n)
    (word value : ℕ) : field.set word value % 2 ^ n = field.set (word % 2 ^ n) value := by
  apply Nat.eq_of_testBit_eq
  intro i
  simp only [Nat.testBit_mod_two_pow, testBit_set]
  by_cases hi : field.low ≤ i ∧ i < field.low + field.width
  · have : i < n := by omega
    simp [*]
  · simp [hi]

/-! ## Numbers given by their bits -/

lemma ofBits_lt (bit : ℕ → Bool) (n : ℕ) : ofBits bit n < 2 ^ n := by
  induction n with
  | zero => simp [ofBits]
  | succ n ih =>
    simp only [ofBits, Nat.pow_succ, Nat.one_shiftLeft]
    split <;> omega

lemma testBit_ofBits (bit : ℕ → Bool) (n i : ℕ) :
    (ofBits bit n).testBit i = (decide (i < n) && bit i) := by
  induction n with
  | zero => simp [ofBits]
  | succ n ih =>
    have hsplit : ofBits bit (n + 1) = 2 ^ n * (bit n).toNat + ofBits bit n := by
      cases h : bit n <;> simp [ofBits, h, Nat.add_comm, Nat.one_shiftLeft]
    rw [hsplit, Nat.testBit_two_pow_mul_add _ (ofBits_lt bit n), ih]
    by_cases hbelow : i < n
    · simp [hbelow, Nat.lt_succ_of_lt hbelow]
    · by_cases hsame : i = n
      · subst hsame
        cases h : bit i <;> simp
      · have habove : ¬ i < n + 1 := by omega
        have hbeyond : (bit n).toNat < 2 ^ (i - n) :=
          Nat.lt_of_lt_of_le (Bool.toNat_lt (bit n)) (Nat.le_self_pow (by omega) 2)
        simp [hbelow, habove, Nat.testBit_lt_two_pow hbeyond]

/-- The bits of a byte given by its bits. -/
lemma testBit_byte (bit : ℕ → Bool) (i : ℕ) :
    (byte bit).toNat.testBit i = (decide (i < 8) && bit i) := by
  have hsmall : ofBits bit 8 < 256 := ofBits_lt bit 8
  rw [byte, UInt8.toNat_ofNat_of_lt' hsmall, testBit_ofBits]

lemma eq_of_testBit {a b : UInt8} (h : ∀ i < 8, a.toNat.testBit i = b.toNat.testBit i) : a = b := by
  apply UInt8.toNat_inj.mp
  apply Nat.eq_of_testBit_eq
  intro i
  rcases Nat.lt_or_ge i 8 with hi | hi
  · exact h i hi
  · have hle : 2 ^ 8 ≤ 2 ^ i := Nat.pow_le_pow_right (by decide) hi
    rw [Nat.testBit_lt_two_pow (Nat.lt_of_lt_of_le a.toNat_lt hle),
      Nat.testBit_lt_two_pow (Nat.lt_of_lt_of_le b.toNat_lt hle)]

end PacketSteering.BitField
