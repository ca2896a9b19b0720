import Mathlib.Data.List.Induction
import Mathlib.Tactic.Common
import PacketSteering.Proofs.Wire
import PacketSteering.Rule.Edit

/-!
# Well-formed rules

The steps that describe a rule keep it well formed (`Rule.WellFormed`): no field has a value bit
outside its mask, the VLAN identifier and the header length keep to the bits that they have on the
wire, a header length that is compared in full is a possible one, a transport protocol goes with a
network protocol, raw bytes fit the match depth, and the termination is an element of the filter.

One lemma for each kind of step says so, `WellFormed.apply` puts them together, and every rule that
steps lead to is well formed, refused steps included (`Rule.Reachable.wellFormed`).
-/

namespace PacketSteering

/-! ## Sound layers -/

/-- No Ethernet field has a value bit outside its mask. -/
structure EtherFields.Sound (ether : EtherFields) : Prop where
  dst : ether.dst.Sound
  src : ether.src.Sound
  etherType : ether.etherType.Sound

/-- The fields of an encapsulation are sound, and of a VLAN identifier only its own bits are
compared. -/
def Layer2.Sound : Layer2 → Prop
  | ethernet ether => ether.Sound
  | ethernetVlan ether vlanId =>
    ether.Sound ∧ vlanId.Sound ∧ vlanId.mask &&& vlanIdMax = vlanId.mask
  | pos header => header.Sound

/-- The fields of an IPv4 header are sound, of its first byte only the header length is compared,
and a header length that is compared in full is a possible one. -/
structure Ipv4Fields.Sound (ip : Ipv4Fields) : Prop where
  protocol : ip.protocol.Sound
  src : ip.src.Sound
  dst : ip.dst.Sound
  ihl : ip.ihl.Sound
  ihl_mask : ip.ihl.mask &&& ihlMask = ip.ihl.mask
  ihl_range : ip.ihl.mask = ihlMask → 5 ≤ ip.ihl.value ∧ ip.ihl.value ≤ 15

/-- The fields of the network protocol are sound. -/
def Layer3.Sound : Layer3 → Prop
  | none => True
  | ipv4 ip => ip.Sound

/-- No port has a value bit outside its mask. -/
structure PortFields.Sound (ports : PortFields) : Prop where
  src : ports.src.Sound
  dst : ports.dst.Sound

/-- No ICMP field has a value bit outside its mask. -/
structure IcmpFields.Sound (icmp : IcmpFields) : Prop where
  icmpType : icmp.icmpType.Sound
  code : icmp.code.Sound

/-- The fields of the transport protocol are sound. -/
def Layer4.Sound : Layer4 → Prop
  | none => True
  | tcp fields => fields.ports.Sound ∧ fields.flags.Sound
  | udp ports => ports.Sound
  | icmp fields => fields.Sound

/-! ## Blank layers -/

lemma EtherFields.sound_ignored : EtherFields.ignored.Sound :=
  ⟨Masked.sound_ignored, Masked.sound_ignored, Masked.sound_ignored⟩

lemma Ipv4Fields.sound_ignored : Ipv4Fields.ignored.Sound where
  protocol := Masked.sound_ignored
  src := Masked.sound_ignored
  dst := Masked.sound_ignored
  ihl := Masked.sound_ignored
  ihl_mask := rfl
  ihl_range h := absurd h (by decide)

/-- A transport protocol of which nothing is compared is sound. -/
lemma Layer4.sound_ofKind (kind : Layer4Kind) : (Layer4.ofKind kind).Sound := by
  cases kind with
  | none => trivial
  | tcp => exact ⟨⟨Masked.sound_ignored, Masked.sound_ignored⟩, Masked.sound_ignored⟩
  | udp => exact ⟨Masked.sound_ignored, Masked.sound_ignored⟩
  | icmp => exact ⟨Masked.sound_ignored, Masked.sound_ignored⟩

/-- The Ethernet fields of a sound encapsulation, or blank ones, are sound. -/
lemma Layer2.Sound.ether {layer2 : Layer2} (h : layer2.Sound) :
    (layer2.ether?.getD EtherFields.ignored).Sound := by
  cases layer2 with
  | ethernet ether => exact h
  | ethernetVlan ether vlanId => exact h.1
  | pos header => exact EtherFields.sound_ignored

/-- Another encapsulation around sound Ethernet fields is sound. -/
lemma Layer2.sound_ofKind {ether : EtherFields} (h : ether.Sound) (kind : Layer2Kind) :
    (Layer2.ofKind ether kind).Sound := by
  cases kind with
  | ethernet => exact h
  | ethernetVlan => exact ⟨h, Masked.sound_ignored, rfl⟩
  | pos => exact Masked.sound_ignored

namespace Rule

/-! ## Well-formed rules -/

/-- What the steps that describe a rule keep up. -/
structure WellFormed (rule : Rule) : Prop where
  layer2 : rule.layer2.Sound
  layer3 : rule.layer3.Sound
  layer4 : rule.layer4.Sound
  layer3_ne_none : rule.layer4 ≠ .none → rule.layer3 ≠ .none
  raw_length : ∀ raw, rule.raw = some raw → raw.value.length = raw.mask.length
  raw_length_le : ∀ raw, rule.raw = some raw → raw.value.length ≤ matchDepth
  termination_le : rule.termination ≤ lastElement

lemma wellFormed_any : any.WellFormed where
  layer2 := EtherFields.sound_ignored
  layer3 := trivial
  layer4 := trivial
  layer3_ne_none h := absurd rfl h
  raw_length _ h := nomatch h
  raw_length_le _ h := nomatch h
  termination_le := by decide

variable {rule edited : Rule} {field : String}

/-- In raw mode a step on fields is refused, and otherwise it goes on. -/
lemma requireFields_bind {α : Type} (label : String) (next : Unit → Except Fault α) :
    (rule.requireFields label >>= next) =
      if rule.isRaw = true then .error (.wrongMode label "structured mode") else next () := by
  rw [requireFields]
  split <;> rfl

/-- A step on fields only gets somewhere outside raw mode. -/
lemma of_requireFields {next : Unit → Except Fault Rule}
    (hok : (rule.requireFields field >>= next) = .ok edited) :
    rule.raw = none ∧ next () = .ok edited := by
  rw [requireFields_bind] at hok
  split at hok
  case isTrue => cases hok
  case isFalse hraw =>
    have hnone : rule.raw = none := by simpa [isRaw] using hraw
    exact ⟨hnone, hok⟩

/-! ## Steps -/

lemma WellFormed.setLayer2 (h : rule.WellFormed) {kind : Layer2Kind}
    (hok : rule.setLayer2 kind = .ok edited) : edited.WellFormed := by
  obtain ⟨-, hok⟩ := of_requireFields hok
  split at hok
  case isTrue =>
    cases hok
    exact h
  case isFalse =>
    cases hok
    exact { h with layer2 := Layer2.sound_ofKind h.layer2.ether kind }

lemma WellFormed.setLayer3 (h : rule.WellFormed) {kind : Layer3Kind}
    (hok : rule.setLayer3 kind = .ok edited) : edited.WellFormed := by
  obtain ⟨-, hok⟩ := of_requireFields hok
  split at hok
  case h_1 =>
    cases hok
    exact h
  case h_2 =>
    cases hok
    exact { h with layer3 := Ipv4Fields.sound_ignored, layer3_ne_none := fun _ => nofun }
  case h_3 =>
    cases hok
    exact { h with
      layer3 := trivial
      layer4 := trivial
      layer3_ne_none := fun hne => absurd rfl hne }

lemma WellFormed.setLayer4 (h : rule.WellFormed) {kind : Layer4Kind}
    (hok : rule.setLayer4 kind = .ok edited) : edited.WellFormed := by
  obtain ⟨-, hok⟩ := of_requireFields hok
  split at hok
  case h_1 => cases hok
  case h_2 ip hlayer3 =>
    have hip : ip.Sound := by
      have hsound := h.layer3
      rwa [hlayer3] at hsound
    cases hok
    refine { h with
      layer3 := { hip with protocol := ?_ }
      layer4 := Layer4.sound_ofKind kind
      layer3_ne_none := fun _ => nofun }
    cases kind with
    | none => exact hip.protocol
    | tcp => exact Masked.sound_exact _
    | udp => exact Masked.sound_exact _
    | icmp => exact Masked.sound_exact _

lemma WellFormed.modifyEther (h : rule.WellFormed) {change : EtherFields → EtherFields}
    (hok : rule.modifyEther field change = .ok edited)
    (hchange : ∀ ether, ether.Sound → (change ether).Sound) : edited.WellFormed := by
  obtain ⟨-, hok⟩ := of_requireFields hok
  have hlayer2 := h.layer2
  split at hok
  case h_1 ether heq =>
    rw [heq] at hlayer2
    cases hok
    exact { h with layer2 := hchange ether hlayer2 }
  case h_2 ether vlanId heq =>
    rw [heq] at hlayer2
    cases hok
    exact { h with layer2 := ⟨hchange ether hlayer2.1, hlayer2.2⟩ }
  case h_3 => cases hok

lemma WellFormed.setVlanId (h : rule.WellFormed) {value mask : UInt16}
    (hok : rule.setVlanId value mask = .ok edited) : edited.WellFormed := by
  obtain ⟨-, hok⟩ := of_requireFields hok
  have hlayer2 := h.layer2
  by_cases hvalue : vlanIdMax < value
  · rw [if_pos hvalue] at hok
    cases hok
  · rw [if_neg hvalue] at hok
    split at hok
    case h_1 ether vlanId heq =>
      rw [heq] at hlayer2
      cases hok
      exact { h with
        layer2 := ⟨hlayer2.1, Masked.sound_under _ _, Masked.and_and_self mask vlanIdMax⟩ }
    case h_2 => cases hok

lemma WellFormed.setHdlc (h : rule.WellFormed) {value mask : UInt32}
    (hok : rule.setHdlc value mask = .ok edited) : edited.WellFormed := by
  obtain ⟨-, hok⟩ := of_requireFields hok
  split at hok
  case h_1 =>
    cases hok
    exact { h with layer2 := Masked.sound_under _ _ }
  case h_2 => cases hok

lemma WellFormed.modifyIpv4 (h : rule.WellFormed) {change : Ipv4Fields → Ipv4Fields}
    (hok : rule.modifyIpv4 field change = .ok edited)
    (hchange : ∀ ip, ip.Sound → (change ip).Sound) : edited.WellFormed := by
  obtain ⟨-, hok⟩ := of_requireFields hok
  have hlayer3 := h.layer3
  split at hok
  case h_1 ip heq =>
    rw [heq] at hlayer3
    cases hok
    exact { h with layer3 := hchange ip hlayer3, layer3_ne_none := fun _ => nofun }
  case h_2 => cases hok

/-- The bits of a header length that the check lets through, when all of them are compared. -/
lemma ihl_range_of_accepted {value mask : UInt8}
    (haccepted : ¬ (mask &&& ihlMask ≠ 0 ∧ ¬ (5 ≤ value ∧ value ≤ 15)))
    (hmask : mask &&& ihlMask = ihlMask) :
    5 ≤ value &&& (mask &&& ihlMask) ∧ value &&& (mask &&& ihlMask) ≤ 15 := by
  rw [hmask] at haccepted ⊢
  obtain ⟨hlow, hhigh⟩ : 5 ≤ value ∧ value ≤ 15 := by
    by_contra hrange
    exact haccepted ⟨by decide, hrange⟩
  have hkept : value &&& ihlMask = value := by
    have hlt : value.toNat < 2 ^ 4 := Nat.lt_succ_of_le (UInt8.le_iff_toNat_le.mp hhigh)
    apply UInt8.toNat_inj.mp
    rw [UInt8.toNat_and]
    exact (Nat.and_two_pow_sub_one_eq_mod _ 4).trans (Nat.mod_eq_of_lt hlt)
  rw [hkept]
  exact ⟨hlow, hhigh⟩

lemma WellFormed.setIhl (h : rule.WellFormed) {value mask : UInt8}
    (hok : rule.setIhl value mask = .ok edited) : edited.WellFormed := by
  unfold Rule.setIhl at hok
  split at hok
  case isTrue => cases hok
  case isFalse haccepted =>
    refine h.modifyIpv4 hok fun ip hip => ?_
    exact { hip with
      ihl := Masked.sound_under _ _
      ihl_mask := Masked.and_and_self mask ihlMask
      ihl_range := ihl_range_of_accepted haccepted }

lemma WellFormed.modifyPorts (h : rule.WellFormed) {change : PortFields → PortFields}
    (hok : rule.modifyPorts field change = .ok edited)
    (hchange : ∀ ports, ports.Sound → (change ports).Sound) : edited.WellFormed := by
  obtain ⟨-, hok⟩ := of_requireFields hok
  have hlayer4 := h.layer4
  have hnetwork := h.layer3_ne_none
  split at hok
  case h_1 tcp heq =>
    rw [heq] at hlayer4 hnetwork
    cases hok
    exact { h with
      layer4 := ⟨hchange _ hlayer4.1, hlayer4.2⟩, layer3_ne_none := fun _ => hnetwork nofun }
  case h_2 ports heq =>
    rw [heq] at hlayer4 hnetwork
    cases hok
    exact { h with layer4 := hchange ports hlayer4, layer3_ne_none := fun _ => hnetwork nofun }
  case h_3 => cases hok

lemma WellFormed.setTcpFlags (h : rule.WellFormed) {value mask : TcpFlags}
    (hok : rule.setTcpFlags value mask = .ok edited) : edited.WellFormed := by
  obtain ⟨-, hok⟩ := of_requireFields hok
  have hlayer4 := h.layer4
  have hnetwork := h.layer3_ne_none
  split at hok
  case h_1 tcp heq =>
    rw [heq] at hlayer4 hnetwork
    cases hok
    exact { h with
      layer4 := ⟨hlayer4.1, Masked.sound_under _ _⟩, layer3_ne_none := fun _ => hnetwork nofun }
  case h_2 => cases hok

lemma WellFormed.modifyIcmp (h : rule.WellFormed) {change : IcmpFields → IcmpFields}
    (hok : rule.modifyIcmp field change = .ok edited)
    (hchange : ∀ icmp, icmp.Sound → (change icmp).Sound) : edited.WellFormed := by
  obtain ⟨-, hok⟩ := of_requireFields hok
  have hlayer4 := h.layer4
  have hnetwork := h.layer3_ne_none
  split at hok
  case h_1 icmp heq =>
    rw [heq] at hlayer4 hnetwork
    cases hok
    exact { h with layer4 := hchange icmp hlayer4, layer3_ne_none := fun _ => hnetwork nofun }
  case h_2 => cases hok

lemma WellFormed.setRaw (h : rule.WellFormed) {value mask : List UInt8}
    (hok : rule.setRaw value mask = .ok edited) : edited.WellFormed := by
  unfold Rule.setRaw at hok
  split at hok
  case isTrue => cases hok
  case isFalse haccepted =>
    obtain ⟨hlength, hle⟩ := not_or.mp haccepted
    cases hok
    refine { h with raw_length := fun raw hraw => ?_, raw_length_le := fun raw hraw => ?_ }
    · cases hraw
      exact Decidable.not_not.mp hlength
    · cases hraw
      exact Nat.not_lt.mp hle

lemma WellFormed.clearRaw (h : rule.WellFormed) : rule.clearRaw.WellFormed :=
  { h with raw_length := nofun, raw_length_le := nofun }

lemma WellFormed.setTermination (h : rule.WellFormed) (depth : UInt8) :
    (rule.setTermination depth).WellFormed := by
  refine { h with termination_le := ?_ }
  change (if depth ≤ lastElement then depth else lastElement) ≤ lastElement
  split
  case isTrue hle => exact hle
  case isFalse => exact UInt8.le_refl lastElement

lemma extent_le_length (bytes : List UInt8) : Bytes.extent bytes ≤ bytes.length := by
  induction bytes with
  | nil => exact Nat.le_refl 0
  | cons byte rest ih =>
    rw [Bytes.extent, List.length_cons]
    split <;> omega

/-- The smallest termination that covers a pattern is an element of the filter. -/
lemma tightTermination_le (pattern : Pattern) : pattern.tightTermination ≤ lastElement := by
  have hextent : pattern.extent ≤ 96 := by
    have hle := extent_le_length pattern.mask.toList
    rwa [Vector.length_toList] at hle
  have hlast : (pattern.extent - 1) / elementBytes ≤ 11 := by
    rw [elementBytes]
    omega
  rw [UInt8.le_iff_toNat_le, Pattern.tightTermination, UInt8.toNat_ofNat_of_lt' (by
    change _ < 2 ^ 8
    omega)]
  exact hlast

lemma WellFormed.tightenTermination (h : rule.WellFormed) : rule.tightenTermination.WellFormed :=
  { h with termination_le := tightTermination_le _ }

/-! ## Histories -/

/-- A step keeps a rule well formed. -/
lemma WellFormed.apply (h : rule.WellFormed) {edit : Edit} (hok : rule.apply edit = .ok edited) :
    edited.WellFormed := by
  cases edit with
  | layer2 kind => exact h.setLayer2 hok
  | layer3 kind => exact h.setLayer3 hok
  | layer4 kind => exact h.setLayer4 hok
  | etherDst value mask =>
    exact h.modifyEther hok fun _ hether => { hether with dst := Masked.sound_under _ _ }
  | etherSrc value mask =>
    exact h.modifyEther hok fun _ hether => { hether with src := Masked.sound_under _ _ }
  | etherType value mask =>
    exact h.modifyEther hok fun _ hether => { hether with etherType := Masked.sound_under _ _ }
  | vlanId value mask => exact h.setVlanId hok
  | hdlc value mask => exact h.setHdlc hok
  | ipProtocol protocol mask =>
    exact h.modifyIpv4 hok fun _ hip => { hip with protocol := Masked.sound_under _ _ }
  | ipSrc value mask =>
    exact h.modifyIpv4 hok fun _ hip => { hip with src := Masked.sound_under _ _ }
  | ipDst value mask =>
    exact h.modifyIpv4 hok fun _ hip => { hip with dst := Masked.sound_under _ _ }
  | ihl value mask => exact h.setIhl hok
  | rejectFragments reject => exact h.modifyIpv4 hok fun _ hip => { hip with }
  | srcPort value mask =>
    rw [Rule.apply, setSrcPort] at hok
    exact h.modifyPorts hok fun _ hports => { hports with src := Masked.sound_under _ _ }
  | dstPort value mask =>
    rw [Rule.apply, setDstPort] at hok
    exact h.modifyPorts hok fun _ hports => { hports with dst := Masked.sound_under _ _ }
  | tcpFlags value mask => exact h.setTcpFlags hok
  | icmpType value mask =>
    exact h.modifyIcmp hok fun _ hicmp => { hicmp with icmpType := Masked.sound_under _ _ }
  | icmpCode value mask =>
    exact h.modifyIcmp hok fun _ hicmp => { hicmp with code := Masked.sound_under _ _ }
  | raw value mask => exact h.setRaw hok
  | clearRaw =>
    cases hok
    exact h.clearRaw
  | termination depth =>
    cases hok
    exact h.setTermination depth
  | tightTermination =>
    cases hok
    exact h.tightenTermination

lemma WellFormed.attempt (h : rule.WellFormed) (edit : Edit) : (rule.attempt edit).WellFormed := by
  unfold Rule.attempt
  split
  case h_1 edited hok => exact h.apply hok
  case h_2 => exact h

/-- **Every rule that steps lead to is well formed**, whether or not steps on the way were
refused. -/
theorem Reachable.wellFormed (h : rule.Reachable) : rule.WellFormed := by
  obtain ⟨edits, rfl⟩ := h
  induction edits using List.reverseRecOn with
  | nil => exact wellFormed_any
  | append_singleton edits edit ih =>
    rw [List.foldl_append]
    exact ih.attempt edit

end Rule

end PacketSteering
