import Mathlib.Data.List.Forall2
import Mathlib.Tactic.Common
import PacketSteering.Text

/-!
# Text in parts and in digits

Parts without the separator are what the text that joins them is cut into
(`Text.splitOn_intercalate`).  Parts are read one after the other until one of them is refused.  All
of them are read exactly if each of them can be (`Text.mapM_eq_ok_iff`), and otherwise the first
that is refused says why (`Text.mapM_eq_error_iff`).

Bytes are written as two hexadecimal digits each, so that the digits can be read back in pairs
(`Hex.read?_text`).
-/

namespace PacketSteering

namespace Text

/-! ## Cutting and joining -/

/-- Texts without the separator, joined by it, are what the whole is cut into. -/
lemma splitOn_intercalate {sep : Char} {parts : List String} (hparts : parts ≠ [])
    (hsep : ∀ part ∈ parts, sep ∉ part.toList) :
    ((String.singleton sep).intercalate parts).toList.splitOn sep = parts.map String.toList := by
  rw [String.toList_intercalate, String.toList_singleton]
  apply List.splitOn_intercalate
  · simpa using hsep
  · simpa using hparts

/-! ## Reading part by part -/

section

variable {α β ε : Type} {read : α → Except ε β}

lemma mapM_cons_eq_ok_iff {part : α} {parts : List α} {values : List β} :
    (part :: parts).mapM read = .ok values ↔
      ∃ value rest, read part = .ok value ∧ parts.mapM read = .ok rest ∧
        values = value :: rest := by
  rw [List.mapM_cons]
  cases read part with
  | error reason => exact ⟨nofun, nofun⟩
  | ok value =>
    cases parts.mapM read with
    | error reason => exact ⟨nofun, nofun⟩
    | ok rest =>
      constructor
      · rintro ⟨⟩
        exact ⟨value, rest, rfl, rfl, rfl⟩
      · rintro ⟨_, _, ⟨⟩, ⟨⟩, rfl⟩
        rfl

lemma mapM_cons_eq_error_iff {part : α} {parts : List α} {reason : ε} :
    (part :: parts).mapM read = .error reason ↔
      read part = .error reason ∨
        ∃ value, read part = .ok value ∧ parts.mapM read = .error reason := by
  rw [List.mapM_cons]
  cases read part with
  | error refusal =>
    constructor
    · rintro ⟨⟩
      exact Or.inl rfl
    · rintro (⟨⟨⟩⟩ | ⟨value, hvalue, -⟩)
      · rfl
      · cases hvalue
  | ok value =>
    cases parts.mapM read with
    | error refusal =>
      constructor
      · rintro ⟨⟩
        exact Or.inr ⟨value, rfl, rfl⟩
      · rintro (hrefused | ⟨_, -, ⟨⟩⟩)
        · cases hrefused
        · rfl
    | ok rest => exact ⟨nofun, fun h => h.elim nofun nofun⟩

/-- All parts are read exactly if each of them can be. -/
lemma mapM_eq_ok_iff {parts : List α} {values : List β} :
    parts.mapM read = .ok values ↔
      List.Forall₂ (fun part value => read part = .ok value) parts values := by
  induction parts generalizing values with
  | nil =>
    rw [List.mapM_nil, List.forall₂_nil_left_iff]
    exact ⟨fun h => (Except.ok.inj h).symm, fun h => congrArg Except.ok h.symm⟩
  | cons part parts ih =>
    rw [mapM_cons_eq_ok_iff, List.forall₂_cons_left_iff]
    simp only [ih]

/-- The first part that cannot be read says why the parts are refused. -/
lemma mapM_eq_error_iff {parts : List α} {reason : ε} :
    parts.mapM read = .error reason ↔
      ∃ earlier part later, parts = earlier ++ part :: later ∧
        (∀ other ∈ earlier, ∃ value, read other = .ok value) ∧ read part = .error reason := by
  induction parts with
  | nil => exact ⟨nofun, fun ⟨_, _, _, hparts, _⟩ => by simp at hparts⟩
  | cons part parts ih =>
    rw [mapM_cons_eq_error_iff, ih]
    constructor
    · rintro (hpart | ⟨value, hpart, earlier, other, later, rfl, hearlier, hother⟩)
      · exact ⟨[], part, parts, rfl, by simp, hpart⟩
      · refine ⟨part :: earlier, other, later, rfl, ?_, hother⟩
        exact List.forall_mem_cons.mpr ⟨⟨value, hpart⟩, hearlier⟩
    · rintro ⟨earlier, other, later, hparts, hearlier, hother⟩
      cases earlier with
      | nil =>
        obtain ⟨rfl, -⟩ := List.cons.inj hparts
        exact Or.inl hother
      | cons first earlier =>
        obtain ⟨rfl, rfl⟩ := List.cons.inj hparts
        obtain ⟨⟨value, hfirst⟩, hrest⟩ := List.forall_mem_cons.mp hearlier
        exact Or.inr ⟨value, hfirst, earlier, other, later, rfl, hrest, hother⟩

end

end Text

/-! ## Bytes as pairs of digits -/

namespace Hex

lemma digit?_digit {n : ℕ} (h : n < 16) : Numeral.digit? 16 (digit n) = some n := by
  have hall : ∀ n < 16, Numeral.digit? 16 (digit n) = some n := by decide
  exact hall n h

lemma readDigits?_digits (bytes : List UInt8) : readDigits? (digits bytes) = some bytes := by
  induction bytes with
  | nil => rfl
  | cons byte rest ih =>
    have hhigh := digit?_digit (Nat.div_lt_of_lt_mul byte.toNat_lt : byte.toNat / 16 < 16)
    have hlow := digit?_digit (Nat.mod_lt byte.toNat (by decide) : byte.toNat % 16 < 16)
    have hbyte : UInt8.ofNat (16 * (byte.toNat / 16) + byte.toNat % 16) = byte := by
      rw [Nat.div_add_mod, UInt8.ofNat_toNat]
    rw [digits, readDigits?, hhigh, hlow, ih]
    simp only [Option.bind_eq_bind, Option.bind_some, hbyte, Option.pure_def]

/-- Bytes that are written are read back. -/
theorem read?_text (bytes : List UInt8) : read? (text bytes) = some bytes := by
  rw [read?, text, String.toList_ofList, readDigits?_digits]

end Hex

end PacketSteering
