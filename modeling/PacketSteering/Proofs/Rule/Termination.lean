import Mathlib.Tactic.Common
import PacketSteering.Proofs.Card.RoundTrip
import PacketSteering.Proofs.Rule.WellFormed

/-!
# Early termination

A termination cuts the comparison off after an element, so it is safe where no byte past the cut is
compared anyway.  `Pattern.tightTermination` looks for the last such byte from the end, and
`tightTermination_le_iff` says where that puts the cut: a termination is at least the tight one
exactly if the mask is zero past the bytes that it lets take part.

A smaller one is never safe.  It cuts off a byte with a mask bit, and a frame that agrees with the
pattern everywhere but in this one byte (`Pattern.decoy`) tells the two apart.
-/

namespace PacketSteering

/-! ## Where a mask ends -/

/-- A byte string ends at a position, or before it, if it has nothing but zeros from there on. -/
lemma Bytes.extent_le_iff (bytes : List UInt8) (n : ℕ) :
    extent bytes ≤ n ↔ ∀ i, n ≤ i → bytes.getD i 0 = 0 := by
  induction bytes generalizing n with
  | nil => simp [extent]
  | cons byte rest ih =>
    rw [extent]
    cases n with
    | zero =>
      -- From the very start on: the first byte and all others.
      have hrest := ih 0
      constructor
      · intro h i _
        obtain ⟨hzero, hbyte⟩ : extent rest = 0 ∧ byte = 0 := by
          by_contra hne
          rw [if_neg hne] at h
          omega
        cases i with
        | zero => exact hbyte
        | succ i => exact hrest.mp (Nat.le_of_eq hzero) i (Nat.zero_le i)
      · intro h
        have hzero : extent rest = 0 :=
          Nat.le_zero.mp (hrest.mpr fun i _ => h (i + 1) (Nat.zero_le _))
        rw [if_pos ⟨hzero, h 0 (Nat.le_refl 0)⟩]
    | succ n =>
      have hstep : (if extent rest = 0 ∧ byte = 0 then 0 else extent rest + 1) ≤ n + 1 ↔
          extent rest ≤ n := by
        split <;> omega
      rw [hstep, ih n]
      constructor
      · intro h i hi
        obtain ⟨i, rfl⟩ := Nat.exists_eq_succ_of_ne_zero (by omega : i ≠ 0)
        exact h i (Nat.le_of_succ_le_succ hi)
      · exact fun h i hi => h (i + 1) (Nat.succ_le_succ hi)

namespace Pattern

lemma extent_le_iff (pattern : Pattern) (n : ℕ) :
    pattern.extent ≤ n ↔ ∀ i (hi : i < matchDepth), n ≤ i → pattern.mask[i] = 0 := by
  rw [extent, Bytes.extent_le_iff]
  constructor
  · intro h i hi hle
    simpa [hi] using h i hle
  · intro h i hle
    by_cases hi : i < matchDepth
    · simpa [hi] using h i hi hle
    · simp [hi]

/-- A termination is at least the tight one if the bytes that it lets take part are all that are
compared. -/
theorem tightTermination_le_iff (pattern : Pattern) (termination : UInt8) :
    pattern.tightTermination ≤ termination ↔
      ∀ i (hi : i < matchDepth), depth termination.toNat ≤ i → pattern.mask[i] = 0 := by
  have hextent : pattern.extent ≤ 96 := (pattern.extent_le_iff 96).mpr fun i hi hle => by
    rw [matchDepth] at hi
    omega
  have htight : pattern.tightTermination.toNat = (pattern.extent - 1) / elementBytes := by
    rw [tightTermination, UInt8.toNat_ofNat_of_lt']
    rw [elementBytes, UInt8.size]
    omega
  rw [← extent_le_iff, UInt8.le_iff_toNat_le, htight, depth, elementBytes, matchDepth]
  omega

/-! ## Comparing more or less of a frame -/

lemma agrees_iff (pattern : Pattern) (depth : ℕ) (frame : Array UInt8) :
    pattern.agrees depth frame = true ↔ ∀ i (hi : i < matchDepth), i < depth →
      Bytes.padded frame i &&& pattern.mask[i] = pattern.value[i] &&& pattern.mask[i] := by
  rw [agrees, Nat.all_eq_finRange_all, List.all_eq_true]
  constructor
  · intro h i hi hdepth
    simpa [hdepth] using h ⟨i, hi⟩ (List.mem_finRange _)
  · intro h i _
    by_cases hdepth : i.val < depth
    · simpa [hdepth] using h i i.isLt hdepth
    · simp [hdepth]

/-- Bytes past a depth do not tell frames apart if none of them is compared. -/
lemma agrees_congr {pattern : Pattern} {short long : ℕ} (hle : short ≤ long)
    (h : ∀ i (hi : i < matchDepth), short ≤ i → pattern.mask[i] = 0) (frame : Array UInt8) :
    pattern.agrees short frame = pattern.agrees long frame := by
  rw [Bool.eq_iff_iff, agrees_iff, agrees_iff]
  constructor
  · intro hagrees i hi _
    by_cases hshort : i < short
    · exact hagrees i hi hshort
    · rw [h i hi (Nat.le_of_not_lt hshort), UInt8.and_zero, UInt8.and_zero]
  · exact fun hagrees i hi hshort => hagrees i hi (Nat.lt_of_lt_of_le hshort hle)

/-- A byte and its complement only look alike under an empty mask. -/
lemma eq_zero_of_not_and_eq {value mask : UInt8} (h : ~~~value &&& mask = value &&& mask) :
    mask = 0 := by
  apply UInt8.toBitVec_inj.mp
  apply BitVec.eq_of_getLsbD_eq
  intro i hi
  have hbit := congrArg (fun byte : UInt8 => byte.toBitVec.getLsbD i) h
  simp only [UInt8.toBitVec_and, UInt8.toBitVec_not, BitVec.getLsbD_and, BitVec.getLsbD_not, hi,
    decide_true, Bool.true_and] at hbit
  cases hvalue : value.toBitVec.getLsbD i <;> simp_all

/-- The frame that has the bytes of a pattern, except for one byte, in which it has none of the
bits. -/
def decoy (pattern : Pattern) (k : ℕ) : Array UInt8 :=
  pattern.value.toArray.modify k fun byte => ~~~byte

lemma padded_decoy (pattern : Pattern) (k : ℕ) {i : ℕ} (hi : i < matchDepth) :
    Bytes.padded (pattern.decoy k) i = if k = i then ~~~pattern.value[i] else pattern.value[i] := by
  rw [Bytes.padded, decoy]
  simp [Array.getElem_modify, hi]

/-- A decoy is taken for the real thing as long as the byte in which it differs is not looked at. -/
lemma agrees_decoy_iff {pattern : Pattern} {k : ℕ} (hk : k < matchDepth)
    (hmask : pattern.mask[k] ≠ 0) (depth : ℕ) :
    pattern.agrees depth (pattern.decoy k) = true ↔ depth ≤ k := by
  rw [agrees_iff]
  constructor
  · intro h
    by_contra hlt
    have hbyte := h k hk (Nat.lt_of_not_le hlt)
    rw [padded_decoy pattern k hk, if_pos rfl] at hbyte
    exact hmask (eq_zero_of_not_and_eq hbyte)
  · intro hle i hi hdepth
    rw [padded_decoy pattern k hi, if_neg (by omega)]

/-- The same bytes with another termination. -/
def terminated (pattern : Pattern) (termination : UInt8) : Pattern :=
  { pattern with termination }

/-- **The tight termination is the least that is safe.** A termination has the effect of the last
element on every frame exactly if it is at least the tight one. -/
theorem hits_terminated_iff (pattern : Pattern) (termination : UInt8) :
    (∀ frame, (pattern.terminated termination).hits frame =
        (pattern.terminated lastElement).hits frame) ↔
      pattern.tightTermination ≤ termination := by
  have hlast : depth lastElement.toNat = matchDepth := rfl
  have hle : depth termination.toNat ≤ matchDepth := Nat.min_le_right _ _
  rw [tightTermination_le_iff]
  constructor
  · intro h k hk hcut
    by_contra hmask
    -- The decoy for this byte gets by where the byte is cut off, and is found out where it is not.
    have hdecoy : pattern.agrees (depth termination.toNat) (pattern.decoy k) =
        pattern.agrees matchDepth (pattern.decoy k) := h (pattern.decoy k)
    rw [Bool.eq_iff_iff, agrees_decoy_iff hk hmask, agrees_decoy_iff hk hmask] at hdecoy
    exact absurd hk (Nat.not_lt.mpr (hdecoy.mp hcut))
  · intro h frame
    show pattern.agrees (depth termination.toNat) frame = pattern.agrees matchDepth frame
    exact agrees_congr hle h frame

end Pattern

/-! ## Slots -/

namespace Card

/-- What a slot of a card holds once a pattern is written to it. -/
def held (card : Card) (slot : Fin filterCount) (pattern : Pattern) : CardSlot :=
  ((Channel.writeFilter slot pattern).run device card).state.state.slots.get slot

/-- A slot answers for the pattern that was written to it. -/
@[simp] lemma hits_held (card : Card) (slot : Fin filterCount) (pattern : Pattern)
    (frame : Array UInt8) : (card.held slot pattern).hits frame = pattern.hits frame := by
  have hslot : card.held slot pattern = .ofPattern pattern := by
    refine ((card.servedBy_writeFilter slot.isLt pattern).slots_eq slot slot.isLt).trans ?_
    simp [Request.holds]
  rw [hslot, CardSlot.hits_ofPattern]

end Card

namespace Rule

/-- What a rule compares does not depend on its termination. -/
lemma pattern_of_termination (rule : Rule) (termination : UInt8) :
    { rule with termination }.pattern = rule.pattern.terminated termination := by
  have hfold (patches : List Patch) (pattern : Pattern) :
      patches.foldl Pattern.merge (pattern.terminated termination) =
        (patches.foldl Pattern.merge pattern).terminated termination := by
    induction patches generalizing pattern with
    | nil => rfl
    | cons patch rest ih =>
      have hmerge : (pattern.terminated termination).merge patch =
        (pattern.merge patch).terminated termination := rfl
      rw [List.foldl_cons, List.foldl_cons, hmerge, ih]
  rw [pattern, pattern, Pattern.ofPatches, Pattern.ofPatches, ← hfold]
  rfl

lemma termination_pattern (rule : Rule) : rule.pattern.termination = rule.termination :=
  congrArg Pattern.termination (rule.pattern_of_termination rule.termination)

/-- **Terminating early at the tight depth is safe, and nothing earlier is.** Whatever a rule
compares, fields or raw bytes, and whatever the card and the slot that its bytes are written to: the
slot matches the same frames, of every length, with a termination as with the last element exactly
if the termination is at least the tight one, which is an element of the filter.  So tightening the
termination of a rule that had the last element changes no match. -/
theorem tightTermination_exact (rule : Rule) (card : Card) (slot : Fin filterCount) :
    (∀ termination : UInt8,
      (∀ frame, (card.held slot (rule.pattern.terminated termination)).hits frame =
          (card.held slot (rule.pattern.terminated lastElement)).hits frame) ↔
        rule.tightTermination ≤ termination) ∧
      rule.tightTermination ≤ lastElement ∧
        (rule.termination = lastElement → ∀ frame,
          (card.held slot rule.tightenTermination.pattern).hits frame =
            (card.held slot rule.pattern).hits frame) := by
  simp only [Card.hits_held]
  refine ⟨rule.pattern.hits_terminated_iff, tightTermination_le rule.pattern, fun hlast frame => ?_⟩
  have htight : rule.tightenTermination.pattern = rule.pattern.terminated rule.tightTermination :=
    rule.pattern_of_termination rule.tightTermination
  have hpattern : rule.pattern = rule.pattern.terminated lastElement := by
    rw [← hlast, ← pattern_of_termination]
  rw [htight, (rule.pattern.hits_terminated_iff rule.tightTermination).mpr (UInt8.le_refl _) frame,
    ← hpattern]

/-- Of sixteen raw bytes, compare a bit of the last. -/
def lastByte : Rule :=
  { any with raw := some ⟨List.replicate 16 0xA5, List.replicate 15 0 ++ [0x01]⟩ }

lemma tightTermination_lastByte : lastByte.tightTermination = 1 := by
  decide +kernel

/-- Of sixteen raw bytes only a bit of the last one is compared: the second element is needed, and
no other. -/
theorem tightTermination_exact_lastByte :
    ∃ (rule : Rule) (card : Card) (slot : Fin filterCount),
      rule.isRaw = true ∧ rule.termination = lastElement ∧
      (∀ frame, (card.held slot (rule.pattern.terminated 1)).hits frame =
        (card.held slot (rule.pattern.terminated lastElement)).hits frame) ∧
      (¬ ∀ frame, (card.held slot (rule.pattern.terminated 0)).hits frame =
        (card.held slot (rule.pattern.terminated lastElement)).hits frame) ∧
      ∀ frame, (card.held slot rule.tightenTermination.pattern).hits frame =
        (card.held slot rule.pattern).hits frame := by
  obtain ⟨hexact, -, hsame⟩ := tightTermination_exact lastByte .blank ⟨7, by decide⟩
  refine ⟨lastByte, .blank, _, rfl, rfl, (hexact 1).mpr ?_, fun hzero => ?_, hsame rfl⟩
  · rw [tightTermination_lastByte]
    exact UInt8.le_refl 1
  · have hle := (hexact 0).mp hzero
    rw [tightTermination_lastByte] at hle
    exact absurd hle (by decide)

end Rule

end PacketSteering
