import Mathlib.Tactic.Common
import PacketSteering.Rule.Edit

/-!
# Steps in place

A step that describes a rule looks at it, may be refused, and writes one part of the rule after the
other.  Here the steps are spelled out as ones that change a rule in place and can be refused at any
point, with what was written until then left behind.  None of them is refused once it has written
anything, so that each leaves what `Rule.apply` says, or the rule as it was
(`Rule.InPlace.perform_apply`).
-/

namespace PacketSteering

namespace Rule

/-- Steps that change a rule in place, and can be refused at any point. -/
abbrev InPlace : Type → Type :=
  ExceptT Fault (StateM Rule)

namespace InPlace

/-- What is said of a step on a rule, and the rule that it leaves. -/
def perform (step : InPlace Unit) (rule : Rule) : Except Fault Unit × Rule :=
  step.run.run rule

/-- What is said of a step and left by it, if it changes nothing unless it succeeds. -/
def settled (rule : Rule) : Except Fault Rule → Except Fault Unit × Rule
  | .ok edited => (.ok (), edited)
  | .error fault => (.error fault, rule)

/-- Refuses a step on a field while the rule is in raw mode. -/
def requireFields (field : String) : InPlace Unit := do
  if (← get).isRaw then
    throw (.wrongMode field "structured mode")

/-! ## Layers -/

/-- Writes the encapsulation. -/
def setLayer2 (kind : Layer2Kind) : InPlace Unit := do
  requireFields "layer2"
  let old := (← get).layer2
  if old.kind = kind then
    return
  modify fun rule => { rule with layer2 := .ofKind (old.ether?.getD EtherFields.ignored) kind }

/-- Writes the network protocol and, without one, the transport protocol after it. -/
def setLayer3 (kind : Layer3Kind) : InPlace Unit := do
  requireFields "layer3"
  match kind, (← get).layer3 with
  | .ipv4, .ipv4 _ => return
  | .ipv4, .none => modify fun rule => { rule with layer3 := .ipv4 Ipv4Fields.ignored }
  | .none, _ =>
    modify fun rule => { rule with layer3 := .none }
    modify fun rule => { rule with layer4 := .none }

/-- Writes the protocol number, if there is one to compare, and then the transport protocol. -/
def setLayer4 (kind : Layer4Kind) : InPlace Unit := do
  requireFields "layer4"
  match (← get).layer3 with
  | .none => throw (.wrongMode "layer4" "layer 3 IPv4")
  | .ipv4 ip =>
    match transportProtocol kind with
    | some protocol =>
      let number := Masked.exact protocol.toByte
      modify fun rule => { rule with layer3 := .ipv4 { ip with protocol := number } }
    | none => pure ()
    modify fun rule => { rule with layer4 := .ofKind kind }

/-! ## Fields -/

/-- Writes the Ethernet fields on behalf of one of them. -/
def modifyEther (field : String) (change : EtherFields → EtherFields) : InPlace Unit := do
  requireFields field
  match (← get).layer2 with
  | .ethernet ether => modify fun rule => { rule with layer2 := .ethernet (change ether) }
  | .ethernetVlan ether vlanId =>
    modify fun rule => { rule with layer2 := .ethernetVlan (change ether) vlanId }
  | .pos _ => throw (.wrongMode field "layer 2 Ethernet")

/-- Writes the VLAN identifier. -/
def setVlanId (value mask : UInt16) : InPlace Unit := do
  requireFields "vlan.id"
  if vlanIdMax < value then
    throw (.badValue "vlan.id" value.toNat)
  match (← get).layer2 with
  | .ethernetVlan ether _ =>
    let vlanId := Masked.under value (mask &&& vlanIdMax)
    modify fun rule => { rule with layer2 := .ethernetVlan ether vlanId }
  | _ => throw (.wrongMode "vlan.id" "layer 2 Ethernet VLAN")

/-- Writes the HDLC header. -/
def setHdlc (value mask : UInt32) : InPlace Unit := do
  requireFields "hdlc"
  match (← get).layer2 with
  | .pos _ => modify fun rule => { rule with layer2 := .pos (.under value mask) }
  | _ => throw (.wrongMode "hdlc" "layer 2 PoS")

/-- Writes the IPv4 fields on behalf of one of them. -/
def modifyIpv4 (field : String) (change : Ipv4Fields → Ipv4Fields) : InPlace Unit := do
  requireFields field
  match (← get).layer3 with
  | .ipv4 ip => modify fun rule => { rule with layer3 := .ipv4 (change ip) }
  | .none => throw (.wrongMode field "layer 3 IPv4")

/-- Writes the header length, after a check that comes before all others. -/
def setIhl (value mask : UInt8) : InPlace Unit := do
  if mask &&& ihlMask ≠ 0 ∧ ¬ (5 ≤ value ∧ value ≤ 15) then
    throw (.badValue "ip.ihl" value.toNat)
  modifyIpv4 "ip.ihl" fun ip => { ip with ihl := .under value (mask &&& ihlMask) }

/-- Writes the ports on behalf of one of them. -/
def modifyPorts (field : String) (change : PortFields → PortFields) : InPlace Unit := do
  requireFields field
  match (← get).layer4 with
  | .tcp tcp =>
    modify fun rule => { rule with layer4 := .tcp { tcp with ports := change tcp.ports } }
  | .udp ports => modify fun rule => { rule with layer4 := .udp (change ports) }
  | _ => throw (.wrongMode field "layer 4 TCP or UDP")

/-- Writes the TCP flags. -/
def setTcpFlags (value mask : TcpFlags) : InPlace Unit := do
  requireFields "tcp.flags"
  match (← get).layer4 with
  | .tcp tcp =>
    modify fun rule => { rule with layer4 := .tcp { tcp with flags := .under value mask } }
  | _ => throw (.wrongMode "tcp.flags" "layer 4 TCP")

/-- Writes the ICMP fields on behalf of one of them. -/
def modifyIcmp (field : String) (change : IcmpFields → IcmpFields) : InPlace Unit := do
  requireFields field
  match (← get).layer4 with
  | .icmp icmp => modify fun rule => { rule with layer4 := .icmp (change icmp) }
  | _ => throw (.wrongMode field "layer 4 ICMP")

/-! ## Raw mode -/

/-- Writes the raw bytes. -/
def setRaw (value mask : List UInt8) : InPlace Unit := do
  if value.length ≠ mask.length ∨ matchDepth < value.length then
    throw (.rawLength value.length mask.length)
  modify fun rule => { rule with raw := some ⟨value, mask⟩ }

/-! ## Steps -/

/-- Takes one step in place. -/
def apply : Edit → InPlace Unit
  | .layer2 kind => setLayer2 kind
  | .layer3 kind => setLayer3 kind
  | .layer4 kind => setLayer4 kind
  | .etherDst value mask =>
    modifyEther "ether.dst" fun ether => { ether with dst := .under value mask }
  | .etherSrc value mask =>
    modifyEther "ether.src" fun ether => { ether with src := .under value mask }
  | .etherType value mask =>
    modifyEther "ether.type" fun ether => { ether with etherType := .under value mask }
  | .vlanId value mask => setVlanId value mask
  | .hdlc value mask => setHdlc value mask
  | .ipProtocol protocol mask =>
    modifyIpv4 "ip.proto" fun ip => { ip with protocol := .under protocol.toByte mask }
  | .ipSrc value mask => modifyIpv4 "ip.src" fun ip => { ip with src := .under value mask }
  | .ipDst value mask => modifyIpv4 "ip.dst" fun ip => { ip with dst := .under value mask }
  | .ihl value mask => setIhl value mask
  | .rejectFragments reject =>
    modifyIpv4 "ip.frag" fun ip => { ip with rejectFragments := reject }
  | .srcPort value mask =>
    modifyPorts "ulp.src" fun ports => { ports with src := .under value mask }
  | .dstPort value mask =>
    modifyPorts "ulp.dst" fun ports => { ports with dst := .under value mask }
  | .tcpFlags value mask => setTcpFlags value mask
  | .icmpType value mask =>
    modifyIcmp "icmp.type" fun icmp => { icmp with icmpType := .under value mask }
  | .icmpCode value mask =>
    modifyIcmp "icmp.code" fun icmp => { icmp with code := .under value mask }
  | .raw value mask => setRaw value mask
  | .clearRaw => modify fun rule => { rule with raw := none }
  | .termination depth => modify fun rule => { rule with termination := min depth lastElement }
  | .tightTermination => modify fun rule => { rule with termination := rule.tightTermination }

variable (rule : Rule)

lemma perform_setLayer2 (kind : Layer2Kind) :
    perform (setLayer2 kind) rule = settled rule (rule.setLayer2 kind) := by
  obtain ⟨layer2, layer3, layer4, raw, termination⟩ := rule
  cases raw <;> cases layer2 <;> cases kind <;> rfl

lemma perform_setLayer3 (kind : Layer3Kind) :
    perform (setLayer3 kind) rule = settled rule (rule.setLayer3 kind) := by
  obtain ⟨layer2, layer3, layer4, raw, termination⟩ := rule
  cases raw <;> cases layer3 <;> cases kind <;> rfl

lemma perform_setLayer4 (kind : Layer4Kind) :
    perform (setLayer4 kind) rule = settled rule (rule.setLayer4 kind) := by
  obtain ⟨layer2, layer3, layer4, raw, termination⟩ := rule
  cases raw <;> cases layer3 <;> cases kind <;> rfl

lemma perform_modifyEther (field : String) (change : EtherFields → EtherFields) :
    perform (modifyEther field change) rule = settled rule (rule.modifyEther field change) := by
  obtain ⟨layer2, layer3, layer4, raw, termination⟩ := rule
  cases raw <;> cases layer2 <;> rfl

lemma perform_setVlanId (value mask : UInt16) :
    perform (setVlanId value mask) rule = settled rule (rule.setVlanId value mask) := by
  rw [setVlanId, Rule.setVlanId]
  obtain ⟨layer2, layer3, layer4, raw, termination⟩ := rule
  by_cases hvalue : vlanIdMax < value
  · simp only [if_pos hvalue]
    cases raw <;> rfl
  · simp only [if_neg hvalue]
    cases raw <;> cases layer2 <;> rfl

lemma perform_setHdlc (value mask : UInt32) :
    perform (setHdlc value mask) rule = settled rule (rule.setHdlc value mask) := by
  obtain ⟨layer2, layer3, layer4, raw, termination⟩ := rule
  cases raw <;> cases layer2 <;> rfl

lemma perform_modifyIpv4 (field : String) (change : Ipv4Fields → Ipv4Fields) :
    perform (modifyIpv4 field change) rule = settled rule (rule.modifyIpv4 field change) := by
  obtain ⟨layer2, layer3, layer4, raw, termination⟩ := rule
  cases raw <;> cases layer3 <;> rfl

lemma perform_setIhl (value mask : UInt8) :
    perform (setIhl value mask) rule = settled rule (rule.setIhl value mask) := by
  rw [setIhl, Rule.setIhl]
  by_cases hrange : mask &&& ihlMask ≠ 0 ∧ ¬ (5 ≤ value ∧ value ≤ 15)
  · simp only [if_pos hrange]
    rfl
  · simp only [if_neg hrange]
    exact perform_modifyIpv4 rule _ _

lemma perform_modifyPorts (field : String) (change : PortFields → PortFields) :
    perform (modifyPorts field change) rule = settled rule (rule.modifyPorts field change) := by
  obtain ⟨layer2, layer3, layer4, raw, termination⟩ := rule
  cases raw <;> cases layer4 <;> rfl

lemma perform_setTcpFlags (value mask : TcpFlags) :
    perform (setTcpFlags value mask) rule = settled rule (rule.setTcpFlags value mask) := by
  obtain ⟨layer2, layer3, layer4, raw, termination⟩ := rule
  cases raw <;> cases layer4 <;> rfl

lemma perform_modifyIcmp (field : String) (change : IcmpFields → IcmpFields) :
    perform (modifyIcmp field change) rule = settled rule (rule.modifyIcmp field change) := by
  obtain ⟨layer2, layer3, layer4, raw, termination⟩ := rule
  cases raw <;> cases layer4 <;> rfl

lemma perform_setRaw (value mask : List UInt8) :
    perform (setRaw value mask) rule = settled rule (rule.setRaw value mask) := by
  rw [setRaw, Rule.setRaw]
  by_cases hlength : value.length ≠ mask.length ∨ matchDepth < value.length
  · simp only [if_pos hlength]
    rfl
  · simp only [if_neg hlength]
    rfl

/-- **A step that is refused has written nothing.** Taken in place, every step leaves the rule that
it is said to lead to or, if it is refused, the rule as it was. -/
theorem perform_apply (edit : Edit) :
    perform (apply edit) rule = settled rule (rule.apply edit) := by
  cases edit with
  | layer2 kind => exact perform_setLayer2 rule kind
  | layer3 kind => exact perform_setLayer3 rule kind
  | layer4 kind => exact perform_setLayer4 rule kind
  | etherDst value mask => exact perform_modifyEther rule _ _
  | etherSrc value mask => exact perform_modifyEther rule _ _
  | etherType value mask => exact perform_modifyEther rule _ _
  | vlanId value mask => exact perform_setVlanId rule value mask
  | hdlc value mask => exact perform_setHdlc rule value mask
  | ipProtocol protocol mask => exact perform_modifyIpv4 rule _ _
  | ipSrc value mask => exact perform_modifyIpv4 rule _ _
  | ipDst value mask => exact perform_modifyIpv4 rule _ _
  | ihl value mask => exact perform_setIhl rule value mask
  | rejectFragments reject => exact perform_modifyIpv4 rule _ _
  | srcPort value mask =>
    rw [apply, Rule.apply, setSrcPort]
    exact perform_modifyPorts rule _ _
  | dstPort value mask =>
    rw [apply, Rule.apply, setDstPort]
    exact perform_modifyPorts rule _ _
  | tcpFlags value mask => exact perform_setTcpFlags rule value mask
  | icmpType value mask => exact perform_modifyIcmp rule _ _
  | icmpCode value mask => exact perform_modifyIcmp rule _ _
  | raw value mask => exact perform_setRaw rule value mask
  | clearRaw => rfl
  | termination depth => rfl
  | tightTermination => rfl

end InPlace

end Rule

end PacketSteering
