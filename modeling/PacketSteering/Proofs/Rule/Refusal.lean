import Mathlib.Tactic.Common
import PacketSteering.Proofs.Rule.Field
import PacketSteering.Proofs.Rule.InPlace
import PacketSteering.Proofs.Rule.WellFormed

/-!
# Steps that are refused

A step is refused if the rule is in raw mode, if the layer that it is about does not have what it
asks for, or if the value is not a possible one (`Rule.Refuses`), and for no other reason.  A step
on a field that is not refused replaces that field (`Rule.Replaces`), and so changes nothing else.
-/

namespace PacketSteering

namespace Rule

/-- What a rule refuses. -/
def Refuses (rule : Rule) : Edit → Prop
  | .layer2 _ | .layer3 _ => rule.isRaw = true
  | .layer4 _ => rule.isRaw = true ∨ rule.layer3.kind ≠ .ipv4
  | .etherDst _ _ | .etherSrc _ _ | .etherType _ _ =>
    rule.isRaw = true ∨ rule.layer2.kind = .pos
  | .vlanId value _ =>
    rule.isRaw = true ∨ 0x0FFF < value ∨ rule.layer2.kind ≠ .ethernetVlan
  | .hdlc _ _ => rule.isRaw = true ∨ rule.layer2.kind ≠ .pos
  | .ipProtocol _ _ | .ipSrc _ _ | .ipDst _ _ | .rejectFragments _ =>
    rule.isRaw = true ∨ rule.layer3.kind ≠ .ipv4
  | .ihl value mask =>
    rule.isRaw = true ∨ rule.layer3.kind ≠ .ipv4 ∨
      mask &&& 0x0F ≠ 0 ∧ ¬ (5 ≤ value ∧ value ≤ 15)
  | .srcPort _ _ | .dstPort _ _ =>
    rule.isRaw = true ∨ rule.layer4.kind ≠ .tcp ∧ rule.layer4.kind ≠ .udp
  | .tcpFlags _ _ => rule.isRaw = true ∨ rule.layer4.kind ≠ .tcp
  | .icmpType _ _ | .icmpCode _ _ => rule.isRaw = true ∨ rule.layer4.kind ≠ .icmp
  | .raw value mask => value.length ≠ mask.length ∨ matchDepth < value.length
  | .clearRaw | .termination _ | .tightTermination => False

/-- The field that a step is about, and what it is to be compared with. -/
def Edit.assigns? : Edit → Option ((field : Field) × field.Value)
  | .etherDst value mask => some ⟨.layer2 (.ether .dst), .under value mask⟩
  | .etherSrc value mask => some ⟨.layer2 (.ether .src), .under value mask⟩
  | .etherType value mask => some ⟨.layer2 (.ether .etherType), .under value mask⟩
  | .vlanId value mask => some ⟨.layer2 .vlanId, .under value (mask &&& vlanIdMax)⟩
  | .hdlc value mask => some ⟨.layer2 .header, .under value mask⟩
  | .ipProtocol protocol mask => some ⟨.layer3 .protocol, .under protocol.toByte mask⟩
  | .ipSrc value mask => some ⟨.layer3 .src, .under value mask⟩
  | .ipDst value mask => some ⟨.layer3 .dst, .under value mask⟩
  | .ihl value mask => some ⟨.layer3 .ihl, .under value (mask &&& ihlMask)⟩
  | .rejectFragments reject => some ⟨.layer3 .rejectFragments, reject⟩
  | .srcPort value mask => some ⟨.layer4 (.port .src), .under value mask⟩
  | .dstPort value mask => some ⟨.layer4 (.port .dst), .under value mask⟩
  | .tcpFlags value mask => some ⟨.layer4 .tcpFlags, .under value mask⟩
  | .icmpType value mask => some ⟨.layer4 (.icmp .icmpType), .under value mask⟩
  | .icmpCode value mask => some ⟨.layer4 (.icmp .code), .under value mask⟩
  | _ => none

variable (rule : Rule)

/-- A step that is refused on a condition, and otherwise replaces one field that the rule has. -/
structure Replaces (field : Field) (value : field.Value) (refused : Prop)
    (outcome : Except Fault Rule) : Prop where
  refuses : refused → ∃ fault, outcome = .error fault
  present : ¬ refused → (rule.get? field).isSome
  succeeds : ¬ refused → outcome = .ok (rule.put field value)

variable {rule} {field : Field} {value : field.Value} {refused refused' : Prop}

lemma replaces_refused {fault : Fault} (h : refused) :
    rule.Replaces field value refused (.error fault) where
  refuses _ := ⟨fault, rfl⟩
  present hnot := absurd h hnot
  succeeds hnot := absurd h hnot

lemma replaces_put (h : ¬ refused) (hfield : (rule.get? field).isSome) :
    rule.Replaces field value refused (.ok (rule.put field value)) where
  refuses hrefused := absurd hrefused h
  present _ := hfield
  succeeds _ := rfl

lemma Replaces.requireFields {label : String} {next : Unit → Except Fault Rule}
    (h : rule.Replaces field value refused (next ())) :
    rule.Replaces field value (rule.isRaw = true ∨ refused)
      (rule.requireFields label >>= next) := by
  rw [requireFields_bind]
  by_cases hraw : rule.isRaw = true
  · rw [if_pos hraw]
    exact replaces_refused (Or.inl hraw)
  · rw [if_neg hraw, or_iff_right hraw]
    exact h

/-! ## Steps on one field -/

lemma replaces_modifyEther (rule : Rule) (label : String) (field : EtherField)
    (value : field.Value) :
    rule.Replaces (.layer2 (.ether field)) value (rule.isRaw = true ∨ rule.layer2.kind = .pos)
      (rule.modifyEther label fun ether => ether.put field value) := by
  obtain ⟨layer2, layer3, layer4, raw, termination⟩ := rule
  refine .requireFields ?_
  cases layer2 with
  | ethernet ether => exact replaces_put nofun rfl
  | ethernetVlan ether vlanId => exact replaces_put nofun rfl
  | pos header => exact replaces_refused rfl

lemma replaces_setVlanId (rule : Rule) (value mask : UInt16) :
    rule.Replaces (.layer2 .vlanId) (.under value (mask &&& vlanIdMax))
      (rule.isRaw = true ∨ 0x0FFF < value ∨ rule.layer2.kind ≠ .ethernetVlan)
      (rule.setVlanId value mask) := by
  obtain ⟨layer2, layer3, layer4, raw, termination⟩ := rule
  refine .requireFields ?_
  by_cases hvalue : vlanIdMax < value
  · rw [if_pos hvalue]
    exact replaces_refused (Or.inl hvalue)
  · rw [if_neg hvalue]
    cases layer2 with
    | ethernetVlan ether vlanId => exact replaces_put (not_or.mpr ⟨hvalue, fun hne => hne rfl⟩) rfl
    | ethernet ether => exact replaces_refused (Or.inr nofun)
    | pos header => exact replaces_refused (Or.inr nofun)

lemma replaces_setHdlc (rule : Rule) (value mask : UInt32) :
    rule.Replaces (.layer2 .header) (.under value mask)
      (rule.isRaw = true ∨ rule.layer2.kind ≠ .pos) (rule.setHdlc value mask) := by
  obtain ⟨layer2, layer3, layer4, raw, termination⟩ := rule
  refine .requireFields ?_
  cases layer2 with
  | pos header => exact replaces_put (fun hne => hne rfl) rfl
  | ethernet ether => exact replaces_refused nofun
  | ethernetVlan ether vlanId => exact replaces_refused nofun

lemma replaces_modifyIpv4 (rule : Rule) (label : String) (field : Ipv4Field)
    (value : field.Value) :
    rule.Replaces (.layer3 field) value (rule.isRaw = true ∨ rule.layer3.kind ≠ .ipv4)
      (rule.modifyIpv4 label fun ip => ip.put field value) := by
  obtain ⟨layer2, layer3, layer4, raw, termination⟩ := rule
  refine .requireFields ?_
  cases layer3 with
  | ipv4 ip => exact replaces_put (fun hne => hne rfl) rfl
  | none => exact replaces_refused nofun

/-- The header length is checked first, and what is refused for it is refused in any mode. -/
lemma replaces_setIhl (rule : Rule) (value mask : UInt8) :
    rule.Replaces (.layer3 .ihl) (.under value (mask &&& ihlMask))
      (rule.isRaw = true ∨ rule.layer3.kind ≠ .ipv4 ∨
        mask &&& 0x0F ≠ 0 ∧ ¬ (5 ≤ value ∧ value ≤ 15))
      (rule.setIhl value mask) := by
  rw [setIhl]
  by_cases hrange : mask &&& ihlMask ≠ 0 ∧ ¬ (5 ≤ value ∧ value ≤ 15)
  · rw [if_pos hrange]
    exact replaces_refused (Or.inr (Or.inr hrange))
  · have hpossible : ¬ (mask &&& 0x0F ≠ 0 ∧ ¬ (5 ≤ value ∧ value ≤ 15)) := hrange
    rw [if_neg hrange, ← or_assoc, or_iff_left hpossible]
    exact rule.replaces_modifyIpv4 "ip.ihl" .ihl _

lemma replaces_modifyPorts (rule : Rule) (label : String) (field : PortField)
    (value : Masked UInt16) :
    rule.Replaces (.layer4 (.port field)) value
      (rule.isRaw = true ∨ rule.layer4.kind ≠ .tcp ∧ rule.layer4.kind ≠ .udp)
      (rule.modifyPorts label fun ports => ports.put field value) := by
  obtain ⟨layer2, layer3, layer4, raw, termination⟩ := rule
  refine .requireFields ?_
  cases layer4 with
  | tcp fields => exact replaces_put (fun hne => hne.1 rfl) rfl
  | udp ports => exact replaces_put (fun hne => hne.2 rfl) rfl
  | none => exact replaces_refused ⟨nofun, nofun⟩
  | icmp fields => exact replaces_refused ⟨nofun, nofun⟩

lemma replaces_setTcpFlags (rule : Rule) (value mask : TcpFlags) :
    rule.Replaces (.layer4 .tcpFlags) (.under value mask)
      (rule.isRaw = true ∨ rule.layer4.kind ≠ .tcp) (rule.setTcpFlags value mask) := by
  obtain ⟨layer2, layer3, layer4, raw, termination⟩ := rule
  refine .requireFields ?_
  cases layer4 with
  | tcp fields => exact replaces_put (fun hne => hne rfl) rfl
  | none => exact replaces_refused nofun
  | udp ports => exact replaces_refused nofun
  | icmp fields => exact replaces_refused nofun

lemma replaces_modifyIcmp (rule : Rule) (label : String) (field : IcmpField)
    (value : Masked UInt8) :
    rule.Replaces (.layer4 (.icmp field)) value
      (rule.isRaw = true ∨ rule.layer4.kind ≠ .icmp)
      (rule.modifyIcmp label fun icmp => icmp.put field value) := by
  obtain ⟨layer2, layer3, layer4, raw, termination⟩ := rule
  refine .requireFields ?_
  cases layer4 with
  | icmp fields => exact replaces_put (fun hne => hne rfl) rfl
  | none => exact replaces_refused nofun
  | tcp fields => exact replaces_refused nofun
  | udp ports => exact replaces_refused nofun

/-- A step on a field replaces that field unless it is refused. -/
theorem replaces_of_assigns (rule : Rule) {edit : Edit} {field : Field} {value : field.Value}
    (h : edit.assigns? = some ⟨field, value⟩) :
    rule.Replaces field value (rule.Refuses edit) (rule.apply edit) := by
  cases edit <;> cases h
  case etherDst value mask => exact rule.replaces_modifyEther "ether.dst" .dst _
  case etherSrc value mask => exact rule.replaces_modifyEther "ether.src" .src _
  case etherType value mask => exact rule.replaces_modifyEther "ether.type" .etherType _
  case vlanId value mask => exact rule.replaces_setVlanId value mask
  case hdlc value mask => exact rule.replaces_setHdlc value mask
  case ipProtocol protocol mask => exact rule.replaces_modifyIpv4 "ip.proto" .protocol _
  case ipSrc value mask => exact rule.replaces_modifyIpv4 "ip.src" .src _
  case ipDst value mask => exact rule.replaces_modifyIpv4 "ip.dst" .dst _
  case ihl value mask => exact rule.replaces_setIhl value mask
  case rejectFragments reject => exact rule.replaces_modifyIpv4 "ip.frag" .rejectFragments _
  case srcPort value mask => exact rule.replaces_modifyPorts "ulp.src" .src _
  case dstPort value mask => exact rule.replaces_modifyPorts "ulp.dst" .dst _
  case tcpFlags value mask => exact rule.replaces_setTcpFlags value mask
  case icmpType value mask => exact rule.replaces_modifyIcmp "icmp.type" .icmpType _
  case icmpCode value mask => exact rule.replaces_modifyIcmp "icmp.code" .code _

/-! ## Steps on a layer or on raw bytes -/

lemma not_ok_eq_error {edited : Rule} :
    ¬ ∃ fault, (.ok edited : Except Fault Rule) = .error fault :=
  fun ⟨_, herror⟩ => nomatch herror

/-- A step on fields fails in raw mode, or where it fails once that is ruled out. -/
lemma requireFields_bind_eq_error_iff {label : String} {next : Unit → Except Fault Rule} :
    (∃ fault, (rule.requireFields label >>= next) = .error fault) ↔
      rule.isRaw = true ∨ ∃ fault, next () = .error fault := by
  rw [requireFields_bind]
  split
  case isTrue hraw => exact iff_of_true ⟨_, rfl⟩ (Or.inl hraw)
  case isFalse hraw => exact (or_iff_right hraw).symm

lemma setLayer2_eq_error_iff (rule : Rule) (kind : Layer2Kind) :
    (∃ fault, rule.setLayer2 kind = .error fault) ↔ rule.isRaw = true := by
  refine requireFields_bind_eq_error_iff.trans (or_iff_left ?_)
  split <;> exact not_ok_eq_error

lemma setLayer3_eq_error_iff (rule : Rule) (kind : Layer3Kind) :
    (∃ fault, rule.setLayer3 kind = .error fault) ↔ rule.isRaw = true := by
  refine requireFields_bind_eq_error_iff.trans (or_iff_left ?_)
  split <;> exact not_ok_eq_error

lemma setLayer4_eq_error_iff (rule : Rule) (kind : Layer4Kind) :
    (∃ fault, rule.setLayer4 kind = .error fault) ↔
      rule.isRaw = true ∨ rule.layer3.kind ≠ .ipv4 := by
  obtain ⟨layer2, layer3, layer4, raw, termination⟩ := rule
  refine requireFields_bind_eq_error_iff.trans (or_congr_right ?_)
  cases layer3 with
  | none => exact iff_of_true ⟨_, rfl⟩ nofun
  | ipv4 ip => exact iff_of_false not_ok_eq_error fun hne => hne rfl

lemma setRaw_eq_error_iff (rule : Rule) (value mask : List UInt8) :
    (∃ fault, rule.setRaw value mask = .error fault) ↔
      value.length ≠ mask.length ∨ matchDepth < value.length := by
  rw [setRaw]
  split
  case isTrue hlength => exact iff_of_true ⟨_, rfl⟩ hlength
  case isFalse hlength => exact iff_of_false not_ok_eq_error hlength

/-! ## All steps -/

lemma Replaces.eq_error_iff {outcome : Except Fault Rule}
    (h : rule.Replaces field value refused outcome) :
    (∃ fault, outcome = .error fault) ↔ refused := by
  refine ⟨fun hfails => ?_, h.refuses⟩
  by_contra hrefused
  rw [h.succeeds hrefused] at hfails
  exact not_ok_eq_error hfails

/-- A step fails if the rule refuses it, and for no other reason. -/
lemma apply_eq_error_iff (rule : Rule) (edit : Edit) :
    (∃ fault, rule.apply edit = .error fault) ↔ rule.Refuses edit := by
  cases edit with
  | layer2 kind => exact rule.setLayer2_eq_error_iff kind
  | layer3 kind => exact rule.setLayer3_eq_error_iff kind
  | layer4 kind => exact rule.setLayer4_eq_error_iff kind
  | raw value mask => exact rule.setRaw_eq_error_iff value mask
  | clearRaw => exact iff_of_false not_ok_eq_error id
  | termination depth => exact iff_of_false not_ok_eq_error id
  | tightTermination => exact iff_of_false not_ok_eq_error id
  | _ => exact (rule.replaces_of_assigns rfl).eq_error_iff

lemma attempt_of_refuses {edit : Edit} (h : rule.Refuses edit) : rule.attempt edit = rule := by
  obtain ⟨fault, herror⟩ := (rule.apply_eq_error_iff edit).mpr h
  rw [attempt, herror]

/-- **A step is refused exactly when it is said to be, and then changes nothing.** Whatever the rule
and the step: the step fails exactly if the rule refuses it for its mode, its layers or the value;
taken in place, part of the rule after the other, it leaves what it is said to lead to or, if it
fails, the rule as it was; and if it succeeds and is about a field, the rule that it leads to is the
one that differs in this field and in nothing else. -/
theorem apply_refused_or_changed (rule : Rule) (edit : Edit) :
    ((∃ fault, rule.apply edit = .error fault) ↔ rule.Refuses edit) ∧
      (∀ fault, rule.apply edit = .error fault →
        InPlace.perform (InPlace.apply edit) rule = (.error fault, rule)) ∧
      ∀ edited, rule.apply edit = .ok edited →
        InPlace.perform (InPlace.apply edit) rule = (.ok (), edited) ∧
          ∀ field value, edit.assigns? = some ⟨field, value⟩ →
            ∀ now, rule.Changed field value now ↔ now = edited := by
  refine ⟨rule.apply_eq_error_iff edit, fun fault herror => ?_, fun edited hok => ⟨?_, ?_⟩⟩
  · rw [InPlace.perform_apply, herror]
    rfl
  · rw [InPlace.perform_apply, hok]
    rfl
  · intro field value hassigns now
    have hreplaces := rule.replaces_of_assigns hassigns
    have hgranted : ¬ rule.Refuses edit := by
      rw [← rule.apply_eq_error_iff edit, hok]
      exact not_ok_eq_error
    have hput : edited = rule.put field value :=
      Except.ok.inj (hok.symm.trans (hreplaces.succeeds hgranted))
    have hchanged : rule.Changed field value edited := by
      rw [hput]
      exact changed_put (hreplaces.present hgranted) value
    exact ⟨fun hnow => hnow.unique hchanged, fun heq => heq ▸ hchanged⟩

/-- The edits that choose UDP over IPv4. -/
def Edit.udp : List Edit :=
  [.layer3 .ipv4, .layer4 .udp]

/-- A rule for UDP refuses to compare TCP flags, and has a source port to compare. -/
theorem apply_refused_or_changed_udp :
    ∃ rule edited : Rule, rule.Reachable ∧ rule.selection = (.ethernet, .ipv4, .udp) ∧
      (∃ fault, rule.apply (.tcpFlags .all .all) = .error fault ∧
        InPlace.perform (InPlace.apply (.tcpFlags .all .all)) rule = (.error fault, rule)) ∧
      rule.apply (.srcPort 53 0xFFFF) = .ok edited ∧
        rule.Changed (.layer4 (.port .src)) (.under 53 0xFFFF) edited := by
  obtain ⟨hrefused, hkept, -⟩ :=
    apply_refused_or_changed (Edit.udp.foldl attempt any) (.tcpFlags .all .all)
  obtain ⟨-, -, hchanged⟩ :=
    apply_refused_or_changed (Edit.udp.foldl attempt any) (.srcPort 53 0xFFFF)
  obtain ⟨fault, herror⟩ := hrefused.mpr (Or.inr (by decide))
  refine ⟨_, _, ⟨Edit.udp, rfl⟩, rfl, ⟨fault, herror, hkept fault herror⟩, rfl, ?_⟩
  exact ((hchanged _ rfl).2 _ _ rfl _).mpr rfl

end Rule

end PacketSteering
