import PacketSteering.Proofs.Rule.Meaning

/-!
# Rules within bounds

A well-formed rule keeps its fields within the bits that they have on the wire, and the pattern of
such a rule is put together without ever reaching past the match depth: the patches of its fields
lie one header after the other, of which the longest still fit, and raw bytes were counted when
they were given (`Rule.WellFormed.within`).

Every rule that steps lead to is well formed, so that no rule can be described whose pattern would
not fit into a filter (`Rule.described_within_bounds`).
-/

namespace PacketSteering

/-! ## Fields within their bits -/

lemma Layer2.Sound.vlanId_le {ether : EtherFields} {vlanId : Masked UInt16}
    (h : (Layer2.ethernetVlan ether vlanId).Sound) :
    vlanId.mask ≤ vlanIdMax ∧ vlanId.value ≤ vlanIdMax := by
  obtain ⟨-, hsound, hmask⟩ := h
  have hmaskLe : vlanId.mask ≤ vlanIdMax := by
    rw [← hmask]
    exact UInt16.and_le_right
  have hvalueLe : vlanId.value ≤ vlanId.mask := by
    rw [← hsound]
    exact UInt16.and_le_right
  exact ⟨hmaskLe, UInt16.le_trans hvalueLe hmaskLe⟩

lemma Ipv4Fields.Sound.ihl_le {ip : Ipv4Fields} (h : ip.Sound) :
    ip.ihl.mask ≤ ihlMask ∧ ip.ihl.value ≤ ihlMask := by
  have hmaskLe : ip.ihl.mask ≤ ihlMask := by
    rw [← h.ihl_mask]
    exact UInt8.and_le_right
  have hvalueLe : ip.ihl.value ≤ ip.ihl.mask := by
    rw [← h.ihl]
    exact UInt8.and_le_right
  exact ⟨hmaskLe, UInt8.le_trans hvalueLe hmaskLe⟩

namespace Rule

variable {rule : Rule}

lemma WellFormed.exists_ipv4 (h : rule.WellFormed) (hlayer4 : rule.layer4 ≠ .none) :
    ∃ ip, rule.layer3 = .ipv4 ip := by
  have hlayer3 := h.layer3_ne_none hlayer4
  cases hkind : rule.layer3 with
  | none => exact absurd hkind hlayer3
  | ipv4 ip => exact ⟨ip, rfl⟩

/-! ## Patches within the match depth -/

/-- No patch of a well-formed rule reaches past the match depth, in raw mode or out of it. -/
lemma WellFormed.within (h : rule.WellFormed) :
    ∀ patch ∈ rule.patches, patch.Within 0 matchDepth := by
  unfold patches
  split
  case h_1 raw hraw =>
    have hlength : (raw.value.zip raw.mask).length ≤ matchDepth := by
      rw [List.length_zip]
      exact Nat.le_trans (Nat.min_le_left _ _) (h.raw_length_le raw hraw)
    intro patch hpatch
    rw [List.mem_singleton.mp hpatch]
    exact ⟨Nat.le_refl 0, by rwa [Nat.zero_add]⟩
  case h_2 => exact h.laidOut.within

/-- **Every rule that can be described is well formed and fits into a filter**, whether or not
steps on the way were refused. A transport protocol goes with IPv4, no field has a value bit
outside its mask, VLAN identifier and header length keep to their bits, a header length compared in
full is a possible one, and raw bytes and termination keep to the filter. So every patch of the
rule ends within the match depth, and its smallest termination is an element of the filter. -/
theorem described_within_bounds (h : rule.Reachable) :
    (rule.layer4 ≠ .none → ∃ ip, rule.layer3 = .ipv4 ip) ∧
      (rule.layer2.Sound ∧ rule.layer3.Sound ∧ rule.layer4.Sound) ∧
      (∀ ether vlanId, rule.layer2 = .ethernetVlan ether vlanId →
        vlanId.mask ≤ 0x0FFF ∧ vlanId.value ≤ 0x0FFF) ∧
      (∀ ip, rule.layer3 = .ipv4 ip →
        ip.ihl.mask ≤ 0x0F ∧ ip.ihl.value ≤ 0x0F ∧
          (ip.ihl.mask = 0x0F → 5 ≤ ip.ihl.value ∧ ip.ihl.value ≤ 15)) ∧
      (∀ raw, rule.raw = some raw →
        raw.value.length = raw.mask.length ∧ raw.value.length ≤ matchDepth) ∧
      rule.termination ≤ lastElement ∧
      (∀ patch ∈ rule.patches, patch.offset + patch.bytes.length ≤ matchDepth) ∧
      rule.tightTermination ≤ lastElement := by
  have hwell := h.wellFormed
  have hlayer2 := hwell.layer2
  have hlayer3 := hwell.layer3
  refine ⟨hwell.exists_ipv4, ⟨hlayer2, hlayer3, hwell.layer4⟩, fun ether vlanId heq => ?_,
    fun ip heq => ?_, fun raw hraw => ⟨hwell.raw_length raw hraw, hwell.raw_length_le raw hraw⟩,
    hwell.termination_le, fun patch hpatch => (hwell.within patch hpatch).le_high,
    tightTermination_le _⟩
  · rw [heq] at hlayer2
    exact hlayer2.vlanId_le
  · rw [heq] at hlayer3
    exact ⟨hlayer3.ihl_le.1, hlayer3.ihl_le.2, hlayer3.ihl_range⟩

/-- The edits that lead to the longest headers that a rule can have, and compare the last byte that
a field can be at. A length that no header has is refused on the way. -/
def Edit.longestHeaders : List Edit :=
  [.layer2 .ethernetVlan, .vlanId 0x0FFF 0xFFFF, .layer3 .ipv4, .ihl 15 0xFF, .ihl 4 0x0F,
    .layer4 .tcp, .tcpFlags ⟨0xFF⟩ ⟨0xFF⟩]

/-- The flags behind the longest headers are compared in the last element of the filter. -/
theorem described_within_bounds_longestHeaders :
    (Edit.longestHeaders.foldl attempt any).Reachable ∧
      (∃ patch ∈ (Edit.longestHeaders.foldl attempt any).patches, patch.offset = 93) ∧
      (∀ patch ∈ (Edit.longestHeaders.foldl attempt any).patches,
        patch.offset + patch.bytes.length ≤ matchDepth) ∧
      (Edit.longestHeaders.foldl attempt any).tightTermination = lastElement := by
  have hreachable : (Edit.longestHeaders.foldl attempt any).Reachable :=
    ⟨Edit.longestHeaders, rfl⟩
  obtain ⟨-, -, -, -, -, -, hwithin, -⟩ := described_within_bounds hreachable
  exact ⟨hreachable, by decide, hwithin, by decide +kernel⟩

end Rule

end PacketSteering
