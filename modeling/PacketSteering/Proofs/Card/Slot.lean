import Mathlib.Data.Nat.Bitwise
import Mathlib.Tactic.Common
import PacketSteering.Card.State
import PacketSteering.Register.Channel

/-!
# Patterns in card slots

A pattern travels as big-endian words and a slot keeps the words.  `CardSlot.ofPattern` is what a
slot holds once a pattern is written, and `CardSlot.toPattern` is what is read back.  The two are
inverse, as long as the termination of the slot is one that fits a byte, as it always is after a
write; and a slot that holds a pattern is hit by the frames that the pattern is hit by.
-/

namespace PacketSteering

/-! ## Bytes of a word -/

namespace Bytes

lemma toNat_word (a b c d : UInt8) :
    (word a b c d).toNat = a.toNat * 2 ^ 24 + b.toNat * 2 ^ 16 + c.toNat * 2 ^ 8 + d.toNat := by
  have ha := a.toNat_lt
  have hb := b.toNat_lt
  have hc := c.toNat_lt
  have hd := d.toNat_lt
  have hsize : UInt32.size = 2 ^ 32 := by decide
  simp only [word, Nat.shiftLeft_eq]
  rw [UInt32.toNat_ofNat_of_lt']
  omega

lemma toNat_ofWord (w : UInt32) {position : ℕ} (h : position < 4) :
    (ofWord w position).toNat = w.toNat / 2 ^ (24 - 8 * position) % 256 := by
  have hsize : UInt32.size = 2 ^ 32 := by decide
  have hshift : (UInt32.ofNat (24 - 8 * position)).toNat = 24 - 8 * position := by
    rw [UInt32.toNat_ofNat_of_lt']
    omega
  have hmod : (24 - 8 * position) % 32 = 24 - 8 * position := Nat.mod_eq_of_lt (by omega)
  rw [ofWord, UInt32.toNat_toUInt8, UInt32.toNat_shiftRight, hshift, hmod,
    Nat.shiftRight_eq_div_pow]

lemma ofWord_word (bytes : ℕ → UInt8) {position : ℕ} (h : position < 4) :
    ofWord (word (bytes 0) (bytes 1) (bytes 2) (bytes 3)) position = bytes position := by
  have h0 := (bytes 0).toNat_lt
  have h1 := (bytes 1).toNat_lt
  have h2 := (bytes 2).toNat_lt
  have h3 := (bytes 3).toNat_lt
  apply UInt8.toNat_inj.mp
  rw [toNat_ofWord _ h, toNat_word]
  rcases (by omega : position = 0 ∨ position = 1 ∨ position = 2 ∨ position = 3) with
    rfl | rfl | rfl | rfl <;> omega

lemma word_ofWord (w : UInt32) :
    word (ofWord w 0) (ofWord w 1) (ofWord w 2) (ofWord w 3) = w := by
  have hw := w.toNat_lt
  apply UInt32.toNat_inj.mp
  rw [toNat_word, toNat_ofWord _ (by decide), toNat_ofWord _ (by decide),
    toNat_ofWord _ (by decide), toNat_ofWord _ (by decide)]
  omega

end Bytes

/-! ## Words of a pattern -/

namespace Channel

lemma getElem_bytesOf (words : Array UInt32) {i : ℕ} (h : i < matchDepth) :
    (bytesOf words)[i] = Bytes.ofWord (words.getD (i / 4) 0) (i % 4) := by
  rw [bytesOf, Vector.getElem_ofFn]
  rfl

/-- A byte of a value or mask, read out of the word that carries it. -/
lemma ofWord_wordOf (bytes : Vector UInt8 matchDepth) {i : ℕ} (h : i < matchDepth) :
    Bytes.ofWord (wordOf bytes (i / 4)) (i % 4) = bytes[i] := by
  have hposition : i % 4 < 4 := Nat.mod_lt _ (by decide)
  have hi : 4 * (i / 4) + i % 4 = i := Nat.div_add_mod i 4
  have hsize : i < bytes.toArray.size := by simpa using h
  change Bytes.ofWord (Bytes.word (bytes.toArray.getD (4 * (i / 4) + 0) 0)
    (bytes.toArray.getD (4 * (i / 4) + 1) 0) (bytes.toArray.getD (4 * (i / 4) + 2) 0)
    (bytes.toArray.getD (4 * (i / 4) + 3) 0)) (i % 4) = _
  rw [Bytes.ofWord_word (fun k => bytes.toArray.getD (4 * (i / 4) + k) 0) hposition, hi]
  simp [Array.getD, h]

lemma wordOf_bytesOf (words : Array UInt32) {k : ℕ} (h : k < Register.filterWords) :
    wordOf (bytesOf words) k = words.getD k 0 := by
  have hwords : Register.filterWords = 24 := rfl
  have hdepth : matchDepth = 96 := rfl
  have hbyte (j : ℕ) (hj : j < 4) :
      (bytesOf words).toArray.getD (4 * k + j) 0 = Bytes.ofWord (words.getD k 0) j := by
    have hlt : 4 * k + j < matchDepth := by omega
    have hdiv : (4 * k + j) / 4 = k := by omega
    have hmod : (4 * k + j) % 4 = j := by omega
    have hget := getElem_bytesOf words hlt
    rw [hdiv, hmod] at hget
    simpa [Array.getD, hlt] using hget
  have hword := Bytes.word_ofWord (words.getD k 0)
  rw [← hbyte 0 (by decide), ← hbyte 1 (by decide), ← hbyte 2 (by decide),
    ← hbyte 3 (by decide)] at hword
  exact hword

end Channel

/-! ## What a slot holds -/

namespace CardSlot

open Channel Register

/-- The slot that a pattern has been written to. -/
def ofPattern (pattern : Pattern) : CardSlot where
  value := Vector.ofFn fun word => wordOf pattern.value word
  mask := Vector.ofFn fun word => wordOf pattern.mask word
  termination := pattern.termination.toUInt32

/-- What is read back from a slot. -/
def toPattern (slot : CardSlot) : Pattern where
  value := bytesOf slot.value.toArray
  mask := bytesOf slot.mask.toArray
  termination := slot.termination.toUInt8

lemma byteAt_ofPattern (bytes : Vector UInt8 matchDepth) {i : ℕ} (h : i < matchDepth) :
    byteAt (Vector.ofFn fun word => wordOf bytes word) i h = bytes[i] := by
  rw [byteAt, Vector.getElem_ofFn]
  exact ofWord_wordOf bytes h

lemma hits_ofPattern (pattern : Pattern) (frame : Array UInt8) :
    (ofPattern pattern).hits frame = pattern.hits frame := by
  have hdepth : (ofPattern pattern).termination.toNat = pattern.termination.toNat :=
    UInt8.toNat_toUInt32 _
  rw [hits, Pattern.hits, Pattern.agrees, hdepth]
  congr 1
  funext i hi
  simp only [ofPattern, byteAt_ofPattern]

lemma termination_ofPattern_lt (pattern : Pattern) :
    (ofPattern pattern).termination.toNat < 256 := by
  rw [ofPattern, UInt8.toNat_toUInt32]
  exact pattern.termination.toNat_lt

@[simp] lemma toPattern_ofPattern (pattern : Pattern) :
    (ofPattern pattern).toPattern = pattern := by
  have hbytes (bytes : Vector UInt8 matchDepth) :
      bytesOf (Vector.ofFn fun word : Fin filterWords => wordOf bytes word).toArray = bytes := by
    apply Vector.ext
    intro i hi
    have hword : i / 4 < filterWords := (Nat.div_lt_iff_lt_mul (by decide)).2 hi
    have hget :
        (Vector.ofFn fun word : Fin filterWords => wordOf bytes word).toArray.getD (i / 4) 0 =
        wordOf bytes (i / 4) := by
      simp [Array.getD, hword]
    rw [getElem_bytesOf _ hi, hget, ofWord_wordOf bytes hi]
  have htermination : pattern.termination.toUInt32.toUInt8 = pattern.termination := by simp
  simp only [toPattern, ofPattern, hbytes, htermination]

/-- A slot whose termination fits a byte holds the pattern that is read back from it. -/
lemma ofPattern_toPattern {slot : CardSlot} (h : slot.termination.toNat < 256) :
    ofPattern slot.toPattern = slot := by
  have hwords (words : Vector UInt32 filterWords) :
      (Vector.ofFn fun word : Fin filterWords => wordOf (bytesOf words.toArray) word) = words := by
    apply Vector.ext
    intro k hk
    rw [Vector.getElem_ofFn, wordOf_bytesOf _ hk]
    simp [Array.getD, hk]
  have htermination : slot.termination.toUInt8.toUInt32 = slot.termination := by
    apply UInt32.toNat_inj.mp
    rw [UInt8.toNat_toUInt32, UInt32.toNat_toUInt8, Nat.mod_eq_of_lt h]
  simp only [ofPattern, toPattern, hwords, htermination]

/-! ## Words of a slot -/

/-- Slots of which the same is read are equal. -/
lemma eq_of_read {a b : CardSlot}
    (h : ∀ target, ∀ word < filterWords, a.read target word = b.read target word) : a = b := by
  have hvalue : a.value = b.value := by
    apply Vector.ext
    intro k hk
    simpa [CardSlot.read, hk] using h .value k hk
  have hmask : a.mask = b.mask := by
    apply Vector.ext
    intro k hk
    simpa [CardSlot.read, hk] using h .mask k hk
  have htermination : a.termination = b.termination := h .termination 0 (by decide)
  cases a
  cases b
  simp_all

/-- A word that the slot has is written, and nothing else changes. -/
lemma exists_write? (slot : CardSlot) (target : Target) {word : ℕ} (hword : word < filterWords)
    (data : UInt32) :
    ∃ written, slot.write? target word data = some written ∧ written.read target word = data ∧
      (∀ other, other ≠ target → ∀ k, written.read other k = slot.read other k) ∧
      (target ≠ .termination → ∀ k, k ≠ word → written.read target k = slot.read target k) := by
  cases target with
  | value =>
    refine ⟨_, dif_pos hword, by simp [CardSlot.read, hword], ?_, ?_⟩
    · intro other hother k
      cases other <;> simp_all [CardSlot.read]
    · intro _ k hk
      simp only [CardSlot.read]
      rw [Vector.getElem?_set_ne hword (Ne.symm hk)]
  | mask =>
    refine ⟨_, dif_pos hword, by simp [CardSlot.read, hword], ?_, ?_⟩
    · intro other hother k
      cases other <;> simp_all [CardSlot.read]
    · intro _ k hk
      simp only [CardSlot.read]
      rw [Vector.getElem?_set_ne hword (Ne.symm hk)]
  | termination =>
    refine ⟨_, rfl, rfl, ?_, fun hne => absurd rfl hne⟩
    intro other hother k
    cases other <;> simp_all [CardSlot.read]

end CardSlot

end PacketSteering
