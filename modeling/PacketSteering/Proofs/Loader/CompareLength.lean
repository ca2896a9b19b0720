import Mathlib.Order.Bounds.Basic
import PacketSteering.Proofs.Loader.Dump
import PacketSteering.Proofs.Rule.Termination

/-!
# How much of a frame a slot compares

A slot compares the first bytes of a frame if two frames that agree in these are matched alike
(`CardSlot.ComparesWithin`).  The least number of such bytes, `Pattern.reach`, ends with the last
one that has a mask bit and takes part, that is, comes before the termination cuts the comparison
off (`CardSlot.comparesWithin_ofPattern_iff`).

A dump gives the length of the mask, whatever the termination.  This is the number of bytes that
the slot compares for every rule with a termination that is at least its tight one, and for no
other.
-/

namespace PacketSteering

namespace CardSlot

/-- Whether a slot matches a frame depends on no more than a number of its first bytes. -/
def ComparesWithin (held : CardSlot) (n : ℕ) : Prop :=
  ∀ frame other : Array UInt8, (∀ i < n, Bytes.padded frame i = Bytes.padded other i) →
    held.hits frame = held.hits other

end CardSlot

namespace Pattern

/-- How far into a frame a pattern compares: past the last byte that has a mask bit and comes before
the comparison is cut off. -/
def reach (pattern : Pattern) : ℕ :=
  Bytes.extent (pattern.mask.toList.take (depth pattern.termination.toNat))

lemma reach_le_iff (pattern : Pattern) (n : ℕ) :
    pattern.reach ≤ n ↔
      ∀ i (hi : i < matchDepth), i < depth pattern.termination.toNat → n ≤ i →
        pattern.mask[i] = 0 := by
  rw [reach, Bytes.extent_le_iff]
  constructor
  · intro h i hi hdepth hle
    simpa [List.getD_eq_getElem?_getD, List.getElem?_take, hi, hdepth] using h i hle
  · intro h i hle
    by_cases htaken : i < depth pattern.termination.toNat ∧ i < matchDepth
    · obtain ⟨hdepth, hi⟩ := htaken
      simpa [List.getD_eq_getElem?_getD, List.getElem?_take, hi, hdepth] using h i hi hdepth hle
    · refine List.getD_eq_default _ _ ?_
      rw [List.length_take, Vector.length_toList]
      omega

lemma reach_le_extent (pattern : Pattern) : pattern.reach ≤ pattern.extent := by
  rw [reach_le_iff]
  intro i hi _ hle
  exact (pattern.extent_le_iff _).mp (Nat.le_refl _) i hi hle

/-- All that has a mask bit is compared exactly if the termination is at least the tight one. -/
lemma reach_eq_extent_iff (pattern : Pattern) :
    pattern.reach = pattern.extent ↔ pattern.tightTermination ≤ pattern.termination := by
  have hlength := pattern.reach_le_iff
  rw [tightTermination_le_iff, ← extent_le_iff]
  constructor
  · intro h
    rw [← h, hlength]
    exact fun i _ hdepth hle => absurd hdepth (Nat.not_lt.mpr hle)
  · intro h
    refine Nat.le_antisymm pattern.reach_le_extent ?_
    rw [extent_le_iff]
    intro i hi hle
    by_cases hdepth : i < depth pattern.termination.toNat
    · exact (hlength _).mp (Nat.le_refl _) i hi hdepth hle
    · exact (pattern.extent_le_iff _).mp h i hi (Nat.not_lt.mp hdepth)

end Pattern

namespace CardSlot

/-- A slot with a pattern compares the bytes up to the last one that has a mask bit and takes
part. -/
theorem comparesWithin_ofPattern_iff (pattern : Pattern) (n : ℕ) :
    (ofPattern pattern).ComparesWithin n ↔ pattern.reach ≤ n := by
  rw [Pattern.reach_le_iff]
  constructor
  · intro h k hk hdepth hle
    by_contra hmask
    -- The pattern's own bytes are matched, and the decoy for this byte is not.
    have hvalue : pattern.hits pattern.value.toArray = true := by
      rw [Pattern.hits, Pattern.agrees_iff]
      intro i hi _
      simp [Bytes.padded, hi]
    have hdecoy : ¬ pattern.hits (pattern.decoy k) = true := by
      rw [Pattern.hits, Pattern.agrees_decoy_iff hk hmask]
      exact Nat.not_le.mpr hdepth
    have hsame := h pattern.value.toArray (pattern.decoy k) fun i hi => by
      rw [Pattern.padded_decoy pattern k (by omega), if_neg (by omega)]
      simp [Bytes.padded, Nat.lt_trans (Nat.lt_of_lt_of_le hi hle) hk]
    rw [hits_ofPattern, hits_ofPattern, hvalue] at hsame
    exact hdecoy hsame.symm
  · intro h frame other hsame
    rw [hits_ofPattern, hits_ofPattern, Pattern.hits, Pattern.hits, Bool.eq_iff_iff,
      Pattern.agrees_iff, Pattern.agrees_iff]
    refine forall_congr' fun i => forall_congr' fun hi => forall_congr' fun hdepth => ?_
    by_cases hn : i < n
    · rw [hsame i hn]
    · rw [h i hi hdepth (Nat.not_lt.mp hn), UInt8.and_zero, UInt8.and_zero, UInt8.and_zero]

lemma isLeast_reach (pattern : Pattern) :
    IsLeast {n | (ofPattern pattern).ComparesWithin n} pattern.reach := by
  simp only [comparesWithin_ofPattern_iff]
  exact ⟨Nat.le_refl _, fun n hn => hn⟩

end CardSlot

/-- The edits that ask for the type of a frame and cut the comparison off before it. -/
def Rule.Edit.cutOff : List Rule.Edit :=
  [.etherType 0x0800 0xFFFF, .termination 0]

namespace Loader

open Program

/-- The length that a dump gives is that of the mask. -/
lemma dump_getElem? {card : Card} {slot : Fin filterCount} {rule : Rule}
    (hheld : card.state.slots.get slot = .ofPattern rule.pattern) :
    (dump.run Card.device card).result.slots[slot.val]? = some (card.state.slotDump slot) ∧
      (card.state.slotDump slot).compareLength = rule.pattern.extent := by
  constructor
  · rw [run_dump_result]
    simp
  · rw [SlotDump.compareLength, CardState.slotDump, hheld, CardSlot.bytes_mask_ofPattern,
      Pattern.extent]

/-- **The length that a dump gives is the number of bytes compared, unless the comparison is cut
off before.** Of a slot that holds what a rule was compiled to, a dump gives a length within which
all is compared.  It is the least such number exactly if the termination of the rule is at least its
tight one. -/
theorem compareLength_isLeast_iff {card : Card} {slot : Fin filterCount} {rule : Rule}
    (hheld : card.state.slots.get slot = .ofPattern rule.pattern) :
    ∃ shown, (dump.run Card.device card).result.slots[slot.val]? = some shown ∧
      shown.slot.toNat = slot ∧ (card.state.slots.get slot).ComparesWithin shown.compareLength ∧
      (IsLeast {n | (card.state.slots.get slot).ComparesWithin n} shown.compareLength ↔
        rule.tightTermination ≤ rule.termination) := by
  obtain ⟨hshown, hlength⟩ := dump_getElem? hheld
  have hnumber : (UInt8.ofNat slot).toNat = slot :=
    UInt8.toNat_ofNat_of_lt' (Nat.lt_trans slot.isLt (by decide))
  have hleast := CardSlot.isLeast_reach rule.pattern
  rw [hheld]
  refine ⟨card.state.slotDump slot, hshown, hnumber, ?_, ?_⟩
  · rw [hlength, CardSlot.comparesWithin_ofPattern_iff]
    exact rule.pattern.reach_le_extent
  · rw [hlength, Rule.tightTermination, ← rule.termination_pattern,
      ← Pattern.reach_eq_extent_iff]
    exact ⟨fun h => hleast.unique h, fun h => h ▸ hleast⟩

/-- Of sixteen raw bytes only the last one is compared, with just the two elements that this takes:
the dump gives all sixteen, and these are needed. -/
theorem compareLength_isLeast_lastByte :
    ∃ (card : Card) (slot : Fin filterCount) (rule : Rule) (shown : SlotDump),
      rule.isRaw = true ∧ rule.termination = 1 ∧
      card.state.slots.get slot = .ofPattern rule.pattern ∧
      (dump.run Card.device card).result.slots[slot.val]? = some shown ∧
      IsLeast {n | (card.state.slots.get slot).ComparesWithin n} shown.compareLength := by
  have hheld := Card.get_carrying ⟨7, by decide⟩ Rule.lastByte.tightenTermination
  have htermination : Rule.lastByte.tightenTermination.termination = 1 :=
    Rule.tightTermination_lastByte
  have htight : Rule.lastByte.tightenTermination.tightTermination ≤
      Rule.lastByte.tightenTermination.termination := by
    decide +kernel
  obtain ⟨shown, hshown, -, -, hleast⟩ := compareLength_isLeast_iff hheld
  exact ⟨_, _, _, shown, rfl, htermination, hheld, hshown, hleast.mpr htight⟩

/-- A rule for the type of a frame that is cut off after the first element, which ends before that
type: the dump gives sixteen bytes, and none is compared. -/
theorem compareLength_ne_least_etherType :
    ∃ (card : Card) (slot : Fin filterCount) (rule : Rule) (shown : SlotDump),
      rule.Reachable ∧ card.state.slots.get slot = .ofPattern rule.pattern ∧
      (dump.run Card.device card).result.slots[slot.val]? = some shown ∧
      shown.compareLength = 16 ∧
      IsLeast {n | (card.state.slots.get slot).ComparesWithin n} 0 := by
  have hheld := Card.get_carrying ⟨0, by decide⟩ (Rule.Edit.cutOff.foldl Rule.attempt .any)
  have hextent : (Rule.Edit.cutOff.foldl Rule.attempt .any).pattern.extent = 16 := by
    decide +kernel
  have hcut : (Rule.Edit.cutOff.foldl Rule.attempt .any).pattern.reach = 0 := by decide +kernel
  obtain ⟨hshown, hlength⟩ := dump_getElem? hheld
  refine ⟨_, _, _, _, ⟨Rule.Edit.cutOff, rfl⟩, hheld, hshown, hlength.trans hextent, ?_⟩
  rw [hheld, ← hcut]
  exact CardSlot.isLeast_reach _

end Loader

end PacketSteering
