import Mathlib.Tactic.Common
import PacketSteering.Proofs.Patch
import PacketSteering.Rule.Basic

/-!
# Patterns that compare nothing

Laying a patch over a pattern never clears a mask bit, so a pattern has none exactly if each of its
patches is blank (`Pattern.mask_ofPatches_eq_zero_iff`).

A pattern without a mask bit is hit by every frame (`Pattern.hits_of_mask_eq_zero`).  So a rule of
which nothing is compared, such as `Rule.any`, is hit by every frame
(`Rule.hits_of_compares_nothing`).
-/

namespace PacketSteering

/-- A patch compares nothing. -/
def Patch.IsBlank (patch : Patch) : Prop :=
  ∀ byte ∈ patch.bytes, byte.2 = 0

lemma Patch.isBlank_iff {patch : Patch} :
    patch.IsBlank ↔ ∀ i value mask, patch.at? i = some (value, mask) → mask = 0 := by
  rw [forall_at?_iff, IsBlank]
  constructor
  · exact fun h k value mask hbyte => h _ (List.mem_of_getElem? hbyte)
  · intro h byte hbyte
    obtain ⟨k, hk⟩ := List.mem_iff_getElem?.mp hbyte
    exact h k byte.1 byte.2 hk

namespace Pattern

variable {patches : List Patch}

/-- A byte is compared under a patch or by it, or it is not compared. -/
lemma getElem_mask_merge_eq_zero_iff (pattern : Pattern) (patch : Patch) {i : ℕ}
    (hi : i < matchDepth) :
    (pattern.merge patch).mask[i] = 0 ↔
      pattern.mask[i] = 0 ∧ ∀ value mask, patch.at? i = some (value, mask) → mask = 0 := by
  simp only [merge, Vector.getElem_ofFn, Fin.getElem_fin]
  cases patch.at? i with
  | none => simp
  | some byte => simp [UInt8.or_eq_zero_iff, Prod.ext_iff]

lemma getElem_mask_foldl_merge_eq_zero_iff (patches : List Patch) (pattern : Pattern) {i : ℕ}
    (hi : i < matchDepth) :
    (patches.foldl merge pattern).mask[i] = 0 ↔ pattern.mask[i] = 0 ∧
      ∀ patch ∈ patches, ∀ value mask, patch.at? i = some (value, mask) → mask = 0 := by
  induction patches generalizing pattern with
  | nil => simp
  | cons patch rest ih =>
    rw [List.foldl_cons, ih, getElem_mask_merge_eq_zero_iff, List.forall_mem_cons, and_assoc]

lemma getElem_mask_ofPatches_eq_zero_iff (termination : UInt8) (patches : List Patch) {i : ℕ}
    (hi : i < matchDepth) :
    (ofPatches termination patches).mask[i] = 0 ↔
      ∀ patch ∈ patches, ∀ value mask, patch.at? i = some (value, mask) → mask = 0 := by
  rw [ofPatches, getElem_mask_foldl_merge_eq_zero_iff]
  exact and_iff_right (by simp [blank])

/-- Blank patches leave a pattern without a mask bit. -/
lemma mask_ofPatches_of_isBlank (h : ∀ patch ∈ patches, patch.IsBlank) (termination : UInt8) (i : ℕ)
    (hi : i < matchDepth) : (ofPatches termination patches).mask[i] = 0 :=
  (getElem_mask_ofPatches_eq_zero_iff termination patches hi).mpr fun patch hpatch =>
    Patch.isBlank_iff.mp (h patch hpatch) i

/-- A pattern has no mask bit exactly if its patches, which it has room for, are blank. -/
theorem mask_ofPatches_eq_zero_iff (hwithin : ∀ patch ∈ patches, patch.Within 0 matchDepth)
    (termination : UInt8) :
    (∀ (i : ℕ) (hi : i < matchDepth), (ofPatches termination patches).mask[i] = 0) ↔
      ∀ patch ∈ patches, patch.IsBlank := by
  refine ⟨fun h patch hpatch => ?_, fun h => mask_ofPatches_of_isBlank h termination⟩
  rw [Patch.isBlank_iff]
  intro i value mask hat
  have hi : i < matchDepth :=
    Nat.lt_of_lt_of_le (Patch.reach_of_at?_eq_some hat).2 (hwithin patch hpatch).le_high
  have hzero := (getElem_mask_ofPatches_eq_zero_iff termination patches hi).mp (h i hi)
  exact hzero patch hpatch value mask hat

/-- A pattern without a mask bit is hit by every frame. -/
lemma hits_of_mask_eq_zero {pattern : Pattern}
    (h : ∀ (i : ℕ) (hi : i < matchDepth), pattern.mask[i] = 0) (frame : Array UInt8) :
    pattern.hits frame = true := by
  rw [hits, agrees, Nat.all_eq_finRange_all, List.all_eq_true]
  intro i _
  simp [h]

end Pattern

namespace Rule

/-- A rule of which nothing is compared is hit by every frame. -/
theorem hits_of_compares_nothing {rule : Rule} (h : ∀ patch ∈ rule.patches, patch.IsBlank)
    (frame : Array UInt8) : rule.pattern.hits frame = true :=
  Pattern.hits_of_mask_eq_zero (Pattern.mask_ofPatches_of_isBlank h rule.termination) frame

@[simp] lemma hits_any (frame : Array UInt8) : any.pattern.hits frame = true := by
  -- A test of the list: `decide` could take the finite type of bytes for what is quantified over.
  have hzero : ∀ patch ∈ any.patches, patch.bytes.all (·.2 == 0) = true := by decide
  refine hits_of_compares_nothing (fun patch hpatch byte hbyte => ?_) frame
  exact eq_of_beq (List.all_eq_true.mp (hzero patch hpatch) byte hbyte)

end Rule

end PacketSteering
