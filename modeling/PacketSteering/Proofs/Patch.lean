import Mathlib.Data.List.Pairwise
import Mathlib.Tactic.Common
import PacketSteering.Pattern

/-!
# Patches that lie apart

A pattern is what patches make of the blank pattern, one laid over the other.  When no two of them
reach the same byte (`Patch.Apart`), none takes anything from another: a frame agrees with the
pattern at every byte exactly if it agrees with each patch (`Pattern.agrees_ofPatches_iff`).

Patches are kept apart by the stretches of bytes that they lie in (`Patch.LaidOut`): fields of one
header lie in the stretch of that header, and the headers follow one another.
-/

namespace PacketSteering

namespace Patch

/-! ## Places -/

/-- A patch lies in a stretch of bytes, given by its first byte and the one just past its last. -/
@[mk_iff]
structure Within (low high : ℕ) (patch : Patch) : Prop where
  low_le : low ≤ patch.offset
  le_high : patch.offset + patch.bytes.length ≤ high

/-- One of two patches ends before the other starts. -/
def Apart (a b : Patch) : Prop :=
  a.offset + a.bytes.length ≤ b.offset ∨ b.offset + b.bytes.length ≤ a.offset

lemma Within.mono {low high low' high' : ℕ} {patch : Patch} (h : patch.Within low high)
    (hlow : low' ≤ low) (hhigh : high ≤ high') : patch.Within low' high' :=
  ⟨Nat.le_trans hlow h.low_le, Nat.le_trans h.le_high hhigh⟩

/-- Patches in two stretches, one after the other, are apart. -/
lemma Within.apart {low middle high : ℕ} {a b : Patch} (ha : a.Within low middle)
    (hb : b.Within middle high) : a.Apart b :=
  Or.inl (Nat.le_trans ha.le_high hb.low_le)

/-- Patches that lie in a stretch of bytes, any two of them apart. -/
structure LaidOut (low high : ℕ) (patches : List Patch) : Prop where
  apart : patches.Pairwise Apart
  within : ∀ patch ∈ patches, patch.Within low high

lemma laidOut_nil (low high : ℕ) : LaidOut low high [] :=
  ⟨List.Pairwise.nil, by simp⟩

lemma LaidOut.mono {low high low' high' : ℕ} {patches : List Patch} (h : LaidOut low high patches)
    (hlow : low' ≤ low) (hhigh : high ≤ high') : LaidOut low' high' patches :=
  ⟨h.apart, fun patch hpatch => (h.within patch hpatch).mono hlow hhigh⟩

lemma LaidOut.append {low middle middle' high : ℕ} {first second : List Patch}
    (h : LaidOut low middle first) (h' : LaidOut middle' high second) (hlow : low ≤ middle')
    (hmiddle : middle ≤ middle') (hhigh : middle ≤ high) : LaidOut low high (first ++ second) where
  apart := List.pairwise_append.mpr ⟨h.apart, h'.apart, fun a ha b hb =>
    ((h.within a ha).mono (Nat.le_refl low) hmiddle).apart (h'.within b hb)⟩
  within patch hpatch := by
    rcases List.mem_append.mp hpatch with hfirst | hsecond
    · exact (h.within patch hfirst).mono (Nat.le_refl low) hhigh
    · exact (h'.within patch hsecond).mono hlow (Nat.le_refl high)

/-- A patch has a byte for every position that it reaches. -/
lemma reach_of_at?_eq_some {patch : Patch} {i : ℕ} {byte : UInt8 × UInt8}
    (h : patch.at? i = some byte) : patch.offset ≤ i ∧ i < patch.offset + patch.bytes.length := by
  unfold at? at h
  split at h
  case isTrue hle =>
    obtain ⟨hlt, -⟩ := List.getElem?_eq_some_iff.mp h
    omega
  case isFalse => cases h

/-- A patch does not reach a byte of another one that it is apart from. -/
lemma Apart.at?_eq_none {a b : Patch} (h : a.Apart b) {i : ℕ} {byte : UInt8 × UInt8}
    (hb : b.at? i = some byte) : a.at? i = none := by
  have hreach := reach_of_at?_eq_some hb
  cases ha : a.at? i with
  | none => rfl
  | some other =>
    have hreach' := reach_of_at?_eq_some ha
    rcases h with h | h <;> omega

/-- What holds at every position that a patch reaches holds of all its bytes. -/
lemma forall_at?_iff {patch : Patch} {p : ℕ → UInt8 → UInt8 → Prop} :
    (∀ i value mask, patch.at? i = some (value, mask) → p i value mask) ↔
      ∀ k value mask, patch.bytes[k]? = some (value, mask) → p (patch.offset + k) value mask := by
  constructor
  · intro h k value mask hbyte
    refine h (patch.offset + k) value mask ?_
    rw [at?, if_pos (Nat.le_add_right _ _), Nat.add_sub_cancel_left, hbyte]
  · intro h i value mask hat
    have hle := (reach_of_at?_eq_some hat).1
    rw [at?, if_pos hle] at hat
    have hbyte := h (i - patch.offset) value mask hat
    rwa [Nat.add_sub_cancel' hle] at hbyte

/-! ## Agreement -/

/-- A frame agrees with a patch at every byte, as far as the mask of the byte goes. -/
def HeldBy (patch : Patch) (frame : Array UInt8) : Prop :=
  ∀ i value mask, patch.at? i = some (value, mask) →
    Bytes.padded frame i &&& mask = value &&& mask

lemma heldBy_iff {patch : Patch} {frame : Array UInt8} :
    patch.HeldBy frame ↔ ∀ k value mask, patch.bytes[k]? = some (value, mask) →
      Bytes.padded frame (patch.offset + k) &&& mask = value &&& mask :=
  forall_at?_iff

end Patch

namespace Pattern

/-- A frame agrees with a pattern at a byte. -/
def AgreesAt (pattern : Pattern) (frame : Array UInt8) (i : ℕ) : Prop :=
  ∀ hi : i < matchDepth, Bytes.padded frame i &&& pattern.mask[i] = pattern.value[i]

/-- A pattern compares nothing yet at the bytes that a patch reaches. -/
def Spares (pattern : Pattern) (patch : Patch) : Prop :=
  ∀ (i : ℕ) (hi : i < matchDepth), patch.at? i ≠ none →
    pattern.value[i] = 0 ∧ pattern.mask[i] = 0

lemma blank_spares (termination : UInt8) (patch : Patch) : (blank termination).Spares patch := by
  intro i hi _
  simp [blank]

variable {pattern : Pattern} {patch : Patch}

/-- Bytes that a patch does not reach stay as they were. -/
lemma getElem_merge_of_none (pattern : Pattern) {i : ℕ} (hi : i < matchDepth)
    (hnone : patch.at? i = none) :
    (pattern.merge patch).value[i] = pattern.value[i] ∧
      (pattern.merge patch).mask[i] = pattern.mask[i] := by
  simp only [merge, Vector.getElem_ofFn, hnone]
  exact ⟨rfl, rfl⟩

/-- A patch lays its own bytes down where nothing was compared. -/
lemma getElem_merge_of_spares (h : pattern.Spares patch) {i : ℕ} (hi : i < matchDepth)
    {value mask : UInt8} (hsome : patch.at? i = some (value, mask)) :
    (pattern.merge patch).value[i] = value &&& mask ∧ (pattern.merge patch).mask[i] = mask := by
  obtain ⟨hvalue, hmask⟩ := h i hi (by rw [hsome]; exact Option.some_ne_none _)
  simp only [merge, Vector.getElem_ofFn, hsome, Fin.getElem_fin, hvalue, hmask, UInt8.zero_and,
    UInt8.zero_or, and_self]

/-- A patch does not touch what another one, apart from it, will reach. -/
lemma Spares.merge {other : Patch} (h : pattern.Spares other) (hapart : patch.Apart other) :
    (pattern.merge patch).Spares other := by
  intro i hi hreach
  obtain ⟨byte, hbyte⟩ := Option.ne_none_iff_exists'.mp hreach
  obtain ⟨hvalue, hmask⟩ := getElem_merge_of_none pattern hi (hapart.at?_eq_none hbyte)
  rw [hvalue, hmask]
  exact h i hi hreach

/-- A frame agrees with a pattern and a patch laid over it if it agrees with both. -/
lemma agreesAt_merge_iff (h : pattern.Spares patch) (hwithin : patch.Within 0 matchDepth)
    (frame : Array UInt8) :
    (∀ i, (pattern.merge patch).AgreesAt frame i) ↔
      (∀ i, pattern.AgreesAt frame i) ∧ patch.HeldBy frame := by
  constructor
  · intro hmerged
    refine ⟨fun i hi => ?_, fun i value mask hsome => ?_⟩
    · cases hreach : patch.at? i with
      | none =>
        obtain ⟨hvalue, hmask⟩ := getElem_merge_of_none pattern hi hreach
        rw [← hvalue, ← hmask]
        exact hmerged i hi
      | some byte =>
        obtain ⟨hvalue, hmask⟩ := h i hi (by rw [hreach]; exact Option.some_ne_none _)
        rw [hvalue, hmask, UInt8.and_zero]
    · have hi : i < matchDepth :=
        Nat.lt_of_lt_of_le (Patch.reach_of_at?_eq_some hsome).2 hwithin.le_high
      obtain ⟨hvalue, hmask⟩ := getElem_merge_of_spares h hi hsome
      have hagrees := hmerged i hi
      rwa [hvalue, hmask] at hagrees
  · rintro ⟨hpattern, hpatch⟩ i hi
    cases hreach : patch.at? i with
    | none =>
      obtain ⟨hvalue, hmask⟩ := getElem_merge_of_none pattern hi hreach
      rw [hvalue, hmask]
      exact hpattern i hi
    | some byte =>
      obtain ⟨hvalue, hmask⟩ := getElem_merge_of_spares h hi hreach
      rw [hvalue, hmask]
      exact hpatch i _ _ hreach

/-- Patches that lie apart, laid over a pattern that spares them all. -/
lemma agreesAt_foldl_merge_iff {patches : List Patch} (h : Patch.LaidOut 0 matchDepth patches)
    (pattern : Pattern) (hspares : ∀ patch ∈ patches, pattern.Spares patch)
    (frame : Array UInt8) :
    (∀ i, (patches.foldl merge pattern).AgreesAt frame i) ↔
      (∀ i, pattern.AgreesAt frame i) ∧ ∀ patch ∈ patches, patch.HeldBy frame := by
  induction patches generalizing pattern with
  | nil => simp
  | cons patch rest ih =>
    obtain ⟨hfirst, hrest⟩ := List.pairwise_cons.mp h.apart
    have hwithin := List.forall_mem_cons.mp h.within
    have hlater : ∀ other ∈ rest, (pattern.merge patch).Spares other := fun other hother =>
      (hspares other (List.mem_cons_of_mem _ hother)).merge (hfirst other hother)
    rw [List.foldl_cons, ih ⟨hrest, hwithin.2⟩ _ hlater,
      agreesAt_merge_iff (hspares patch List.mem_cons_self) hwithin.1, List.forall_mem_cons,
      and_assoc]

/-- **Patches that lie apart do not get in each other's way.** A frame agrees with the pattern of
such patches exactly if it agrees with each of them. -/
theorem agrees_ofPatches_iff {patches : List Patch} (h : Patch.LaidOut 0 matchDepth patches)
    (termination : UInt8) (frame : Array UInt8) :
    (∀ i, (ofPatches termination patches).AgreesAt frame i) ↔
      ∀ patch ∈ patches, patch.HeldBy frame := by
  have hblank : ∀ i, (blank termination).AgreesAt frame i := by
    intro i hi
    simp [blank]
  rw [ofPatches, agreesAt_foldl_merge_iff h _ fun patch _ => blank_spares _ patch]
  exact and_iff_right hblank

end Pattern

end PacketSteering
