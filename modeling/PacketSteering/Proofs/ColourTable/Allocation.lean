import Mathlib.Algebra.Order.Floor.Div
import PacketSteering.Proofs.Configuration.Steering

/-!
# Allocating a table

A request for a table is refused for its width before memory is asked for.  Otherwise there are as
many rows as the entries need (`rowCount_eq_ceilDiv`), and what is due is a table of so many rows
of zeros, or the number of bytes that were not to be had (`Due`).

The rows can be counted in a word, for a quotient that is rounded up is no larger than what was
divided (`toNat_rowCountWord`).  Their bytes cannot always: a row has two of them, so the count
leaves the word where there are as many rows as half of its numbers.  That takes entries that stand
alone in their rows, or, of all numbers of entries, the largest one with two to a row.  Every such
request is refused its memory, but then there is no number to refuse it with, and the operation
breaks off (`alloc_due_iff`).
-/

namespace PacketSteering.ColourTable

/-! ## Rows -/

lemma rowCount_eq_ceilDiv (entries bits : ℕ) : rowCount entries bits = entries ⌈/⌉ (16 / bits) :=
  (Nat.ceilDiv_eq_add_pred_div entries (16 / bits)).symm

/-- So many rows are enough exactly for the entries that they have room for. -/
lemma rowCount_le_iff {entries bits rows : ℕ} (hpos : 0 < bits) (hle : bits ≤ rowBits) :
    rowCount entries bits ≤ rows ↔ entries ≤ entriesPerRow bits * rows := by
  rw [rowCount_eq_ceilDiv]
  exact ceilDiv_le_iff_le_mul (entriesPerRow_pos hpos hle)

/-- Of wide entries one goes into a row, of middling ones two, and of the others more. -/
lemma entriesPerRow_cases {bits : ℕ} (hpos : 0 < bits) (hle : bits ≤ rowBits) :
    8 < bits ∧ entriesPerRow bits = 1 ∨ 5 < bits ∧ bits ≤ 8 ∧ entriesPerRow bits = 2 ∨
      bits ≤ 5 ∧ 3 ≤ entriesPerRow bits := by
  have hrow : rowBits = 16 := rfl
  rcases Nat.lt_or_ge 8 bits with hwide | hle8
  · exact Or.inl ⟨hwide, Nat.div_eq_of_lt_le (by omega) (by omega)⟩
  rcases Nat.lt_or_ge 5 bits with hmiddling | hle5
  · exact Or.inr (Or.inl ⟨hmiddling, hle8, Nat.div_eq_of_lt_le (by omega) (by omega)⟩)
  · exact Or.inr (Or.inr ⟨hle5, (Nat.le_div_iff_mul_le hpos).mpr (by omega)⟩)

/-- The bytes of the rows can be counted in a word, unless the entries stand alone in their rows and
are at least half as many as there are words, or stand there in pairs and are all words but one. -/
lemma two_mul_rowCount_lt_iff {entries bits : ℕ} (hentries : entries < 2 ^ 64) (hpos : 0 < bits)
    (hle : bits ≤ rowBits) :
    2 * rowCount entries bits < 2 ^ 64 ↔
      (8 < bits → entries < 2 ^ 63) ∧ (5 < bits → entries < 2 ^ 64 - 1) := by
  have hrows : 2 * rowCount entries bits < 2 ^ 64 ↔
      entries ≤ entriesPerRow bits * (2 ^ 63 - 1) := by
    rw [← rowCount_le_iff hpos hle]
    omega
  rw [hrows]
  rcases entriesPerRow_cases hpos hle with ⟨hwide, hper⟩ | ⟨hmiddling, hle8, hper⟩ | ⟨hle5, hper⟩
  · rw [hper]
    omega
  · rw [hper]
    omega
  · have hroom := Nat.mul_le_mul_right (2 ^ 63 - 1) hper
    omega

/-- The number of rows in words: the quotient, and one more if there is a remainder. -/
def rowCountWord (entries perRow : UInt64) : UInt64 :=
  if entries % perRow = 0 then entries / perRow else entries / perRow + 1

/-- A quotient rounded up is the quotient, and one more if there is a remainder. -/
lemma ceilDiv_eq (a : ℕ) {b : ℕ} (hpos : 0 < b) :
    a ⌈/⌉ b = if a % b = 0 then a / b else a / b + 1 := by
  apply eq_of_forall_ge_iff
  intro c
  rw [ceilDiv_le_iff_le_mul hpos]
  split
  case isTrue hdvd =>
    obtain ⟨q, rfl⟩ := Nat.dvd_of_mod_eq_zero hdvd
    rw [Nat.mul_div_cancel_left q hpos, Nat.mul_le_mul_left_iff hpos]
  case isFalse hrest =>
    have hne : a ≠ b * c := fun heq => hrest (by rw [heq, Nat.mul_mod_right])
    rw [Nat.succ_le_iff, Nat.div_lt_iff_lt_mul hpos, Nat.mul_comm c b]
    omega

/-- Counting rows does not leave the word. -/
lemma toNat_rowCountWord (entries perRow : UInt64) (hpos : 0 < perRow) :
    (rowCountWord entries perRow).toNat = entries.toNat ⌈/⌉ perRow.toNat := by
  have hmod : entries % perRow = 0 ↔ entries.toNat % perRow.toNat = 0 := by
    rw [← UInt64.toNat_inj, UInt64.toNat_mod, UInt64.toNat_zero]
  rw [ceilDiv_eq _ (UInt64.lt_iff_toNat_lt.mp hpos), rowCountWord]
  by_cases h : entries % perRow = 0
  · rw [if_pos h, if_pos (hmod.mp h), UInt64.toNat_div]
  · have hrest := mt hmod.mpr h
    have hlt := entries.toNat_lt
    have hsum := Nat.mod_add_div entries.toNat perRow.toNat
    have hle : entries.toNat / perRow.toNat ≤ perRow.toNat * (entries.toNat / perRow.toNat) :=
      Nat.le_mul_of_pos_left _ (UInt64.lt_iff_toNat_lt.mp hpos)
    rw [if_neg h, if_neg hrest, UInt64.toNat_add, UInt64.toNat_div, UInt64.toNat_one,
      Nat.mod_eq_of_lt (by omega)]

/-! ## Answers -/

/-- What is due to a request of a possible width: a table with as many rows as the entries need, all
of them zero, or the number of the bytes in these rows. -/
def Due (memory : Memory) (entries bits : ℕ) : Prop :=
  (∃ table, alloc memory entries bits = .ok table ∧ table.entries = entries ∧ table.bits = bits ∧
      table.rows = Array.replicate (entries ⌈/⌉ (16 / bits)) 0) ∨
    alloc memory entries bits = .error (.fault (.noMemory (2 * (entries ⌈/⌉ (16 / bits)))))

section

variable {memory : Memory} {entries bits : ℕ}

/-- An impossible width is what a request is refused for, whatever the entries. -/
lemma alloc_of_impossible (h : ¬ (0 < bits ∧ bits ≤ rowBits)) :
    alloc memory entries bits = .error (.fault (.badValue "bits per entry" bits)) :=
  dif_neg h

/-- What becomes of a request of a possible width. -/
lemma alloc_of_possible (hpos : 0 < bits) (hle : bits ≤ rowBits) :
    alloc memory entries bits =
      if memory.grants (2 * rowCount entries bits) then .ok (zero entries bits hpos hle)
      else if 2 * rowCount entries bits < UInt64.size then
        .error (.fault (.noMemory (2 * rowCount entries bits)))
      else .error .sizeOverflow :=
  dif_pos ⟨hpos, hle⟩

lemma alloc_eq_badValue_iff {field : String} {value : ℕ} :
    alloc memory entries bits = .error (.fault (.badValue field value)) ↔
      ¬ (0 < bits ∧ bits ≤ rowBits) ∧ field = "bits per entry" ∧ value = bits := by
  by_cases hbits : 0 < bits ∧ bits ≤ rowBits
  · refine iff_of_false ?_ fun h => h.1 hbits
    rw [alloc_of_possible hbits.1 hbits.2]
    split
    · rintro ⟨⟩
    · split <;> rintro ⟨⟩
  · rw [alloc_of_impossible hbits]
    simp [hbits, eq_comm]

/-- Where the bytes can be counted in a word, what is due is done. -/
lemma due_of_lt (hpos : 0 < bits) (hle : bits ≤ rowBits)
    (hbytes : 2 * rowCount entries bits < 2 ^ 64) : Due memory entries bits := by
  rw [Due, ← rowCount_eq_ceilDiv]
  cases hgrants : memory.grants (2 * rowCount entries bits) with
  | true => exact Or.inl ⟨_, alloc_eq_ok hpos hle hgrants, rfl, rfl, rfl⟩
  | false => exact Or.inr ((alloc_eq_error_iff hpos hle hbytes).mpr ⟨hgrants, rfl⟩)

/-- Where they cannot, the memory is refused and the operation breaks off. -/
lemma alloc_eq_sizeOverflow (hpos : 0 < bits) (hle : bits ≤ rowBits)
    (hbytes : 2 ^ 64 ≤ 2 * rowCount entries bits) :
    alloc memory entries bits = .error .sizeOverflow := by
  have hrefused : memory.grants (2 * rowCount entries bits) = false :=
    memory.refuses_huge _ (Nat.lt_of_lt_of_le (by decide) hbytes)
  have hsize : ¬ 2 * rowCount entries bits < UInt64.size := Nat.not_lt.mpr hbytes
  rw [alloc_of_possible hpos hle, hrefused, if_neg Bool.false_ne_true, if_neg hsize]

lemma not_due_of_sizeOverflow (h : alloc memory entries bits = .error .sizeOverflow) :
    ¬ Due memory entries bits := by
  rintro (⟨table, hok, -⟩ | hrefused)
  · rw [h] at hok
    cases hok
  · rw [h] at hrefused
    cases hrefused

end

/-- What is due is done exactly if the bytes can be counted in a word. -/
lemma due_iff {memory : Memory} {entries bits : ℕ} (hpos : 0 < bits) (hle : bits ≤ rowBits) :
    Due memory entries bits ↔ 2 * rowCount entries bits < 2 ^ 64 := by
  refine ⟨fun hdue => ?_, due_of_lt hpos hle⟩
  by_contra hbytes
  exact not_due_of_sizeOverflow (alloc_eq_sizeOverflow hpos hle (Nat.not_lt.mp hbytes)) hdue

/-- **A request is answered unless its bytes leave the word.** For every number of entries that a
word holds and every width: exactly an impossible width is refused as such, and named.  For a
possible one the rows are counted without leaving the word, and the request gets what is due, a
table of zeros or the number of bytes that were not to be had, exactly if these bytes can be counted
in a word too.  They can but for entries that stand alone in their rows and are at least half as
many as there are words, or stand there in pairs and are all words but one.  Then the operation
breaks off without an answer. -/
theorem alloc_due_iff (memory : Memory) (entries : UInt64) (bits : UInt32) :
    (∀ field value, alloc memory entries.toNat bits.toNat =
        .error (.fault (.badValue field value)) ↔
      (bits = 0 ∨ 16 < bits) ∧ field = "bits per entry" ∧ value = bits.toNat) ∧
    (0 < bits → bits ≤ 16 →
      let rows := rowCountWord entries (16 / bits.toUInt64)
      rows.toNat = entries.toNat ⌈/⌉ (16 / bits.toNat) ∧
      (Due memory entries.toNat bits.toNat ↔ (rows * 2).toNat = 2 * rows.toNat) ∧
      (Due memory entries.toNat bits.toNat ↔
        (8 < bits → entries.toNat < 2 ^ 63) ∧ (5 < bits → entries.toNat < 2 ^ 64 - 1)) ∧
      (¬ Due memory entries.toNat bits.toNat →
        alloc memory entries.toNat bits.toNat = .error .sizeOverflow)) := by
  have hrow : rowBits = 16 := rfl
  constructor
  · intro field value
    have hwidth : ¬ (0 < bits.toNat ∧ bits.toNat ≤ rowBits) ↔ bits = 0 ∨ 16 < bits := by
      rw [← UInt32.toNat_inj, UInt32.lt_iff_toNat_lt, UInt32.toNat_zero, hrow]
      change _ ↔ _ ∨ 16 < bits.toNat
      omega
    rw [alloc_eq_badValue_iff, hwidth]
  · intro hpos hle rows
    have hpos' : 0 < bits.toNat := UInt32.lt_iff_toNat_lt.mp hpos
    have hle' : bits.toNat ≤ rowBits := UInt32.le_iff_toNat_le.mp hle
    have hper : (16 / bits.toUInt64).toNat = 16 / bits.toNat := by
      rw [UInt64.toNat_div, UInt32.toNat_toUInt64]
      rfl
    have hrows : rows.toNat = rowCount entries.toNat bits.toNat := by
      rw [rowCount_eq_ceilDiv, ← hper]
      refine toNat_rowCountWord _ _ (UInt64.lt_iff_toNat_lt.mpr ?_)
      rw [hper]
      exact entriesPerRow_pos hpos' hle'
    have hbytes : (rows * 2).toNat = 2 * rows.toNat ↔ 2 * rows.toNat < 2 ^ 64 := by
      have htwo : (2 : UInt64).toNat = 2 := rfl
      rw [UInt64.toNat_mul, htwo, Nat.mul_comm rows.toNat 2]
      exact ⟨fun heq => heq ▸ Nat.mod_lt _ (by decide), Nat.mod_eq_of_lt⟩
    have hmany := two_mul_rowCount_lt_iff entries.toNat_lt hpos' hle'
    refine ⟨hrows.trans (rowCount_eq_ceilDiv _ _), ?_, ?_, fun hdue => ?_⟩
    · rw [hbytes, hrows, due_iff hpos' hle']
    · rw [due_iff hpos' hle', hmany, UInt32.lt_iff_toNat_lt, UInt32.lt_iff_toNat_lt]
      rfl
    · rw [due_iff hpos' hle', Nat.not_lt] at hdue
      exact alloc_eq_sizeOverflow hpos' hle' hdue

/-- Entries in pairs, with all words but one of them and with one less: the first request has no
answer, and the second has one. -/
theorem alloc_due_iff_pairs :
    ¬ Due .addressSpace (2 ^ 64 - 1) 8 ∧
      alloc .addressSpace (2 ^ 64 - 1) 8 = .error .sizeOverflow ∧
      Due .addressSpace (2 ^ 64 - 2) 8 := by
  obtain ⟨-, hmost⟩ := alloc_due_iff .addressSpace 0xFFFFFFFFFFFFFFFF 8
  obtain ⟨-, -, hmost, hbroken⟩ := hmost (by decide) (by decide)
  obtain ⟨-, hless⟩ := alloc_due_iff .addressSpace 0xFFFFFFFFFFFFFFFE 8
  obtain ⟨-, -, hless, -⟩ := hless (by decide) (by decide)
  have hundue := mt hmost.mp fun h => absurd (h.2 (by decide)) (by decide)
  exact ⟨hundue, hbroken hundue, hless.mpr ⟨by decide, by decide⟩⟩

/-- Half as many entries as there are words, each in a row of its own, are not answered for: neither
is there a table, nor a report of the memory that was refused. -/
theorem not_due_half_of_words :
    ¬ Due .addressSpace (2 ^ 63) 16 ∧
      alloc .addressSpace (2 ^ 63) 16 = .error .sizeOverflow := by
  have hbroken : alloc .addressSpace (2 ^ 63) 16 = .error .sizeOverflow :=
    alloc_eq_sizeOverflow (by decide) (by decide) (by decide)
  exact ⟨not_due_of_sizeOverflow hbroken, hbroken⟩

end PacketSteering.ColourTable
