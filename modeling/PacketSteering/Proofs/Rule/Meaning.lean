import PacketSteering.Proofs.Rule.WellFormed

/-!
# What a rule means

A rule speaks of protocol fields, and a card compares bytes.  `Rule.Admits` says what a rule asks
of a frame in the terms of the protocols: which address, port or flag is where in the frame, and
what it has to be.  It knows nothing of patterns and patches.

Patches of a well-formed rule lie apart (`Rule.WellFormed.laidOut`): the fields of one header are
at fixed places in it, and the network header takes up at least the 20 bytes before the transport
header, since a header length that is compared in full is at least 5.  So the pattern of a rule
asks of a frame exactly what the rule does (`Rule.pattern_agrees_iff_admits`).
-/

namespace PacketSteering

/-! ## Fields of a frame -/

/-- Two bytes of flags and fragment offset belong to a packet that is not a fragment: the bit for
more fragments and the 13 bits of the offset are zero. -/
def Unfragmented (half : UInt16) : Prop :=
  half.toNat.testBit 13 = false ∧ half.toNat % 2 ^ 13 = 0
  deriving Decidable

/-- A frame has the addresses that an Ethernet header is compared with. -/
def EtherFields.AdmitsAddresses (ether : EtherFields) (frame : Array UInt8) : Prop :=
  ether.dst.Admits (Frame.mac frame 2) ∧ ether.src.Admits (Frame.mac frame 8)

/-- A frame has the link-layer header that an encapsulation asks for. -/
def Layer2.Admits (layer2 : Layer2) (frame : Array UInt8) : Prop :=
  match layer2 with
  | ethernet ether => ether.AdmitsAddresses frame ∧ ether.etherType.Admits (Frame.half frame 14)
  | ethernetVlan ether vlanId =>
    ether.AdmitsAddresses frame ∧ Frame.half frame 14 = 0x8100 ∧
      vlanId.Admits (Frame.half frame 16) ∧ ether.etherType.Admits (Frame.half frame 18)
  | pos header => header.Admits (Frame.word frame 0)

/-- Where the network header starts in a frame. -/
def Layer2.networkStart : Layer2 → ℕ
  | ethernet _ => 16
  | ethernetVlan _ _ => 20
  | pos _ => 4

/-- A frame has the network header that is asked for, from a position on. -/
@[mk_iff]
structure Ipv4Fields.Admits (ip : Ipv4Fields) (frame : Array UInt8) (start : ℕ) : Prop where
  ihl : ip.ihl.Admits (Frame.byte frame start)
  protocol : ip.protocol.Admits (Frame.byte frame (start + 9))
  src : ip.src.Admits (Frame.ipv4 frame (start + 12))
  dst : ip.dst.Admits (Frame.ipv4 frame (start + 16))
  unfragmented : ip.rejectFragments = true → Unfragmented (Frame.half frame (start + 6))

/-- The length of a network header: what its length field is compared with if that is compared in
full, in words of four bytes, and the length of a header without options otherwise. -/
def Ipv4Fields.headerLength (ip : Ipv4Fields) : ℕ :=
  if ip.ihl.mask = 0x0F then 4 * ip.ihl.value.toNat else 20

/-- A frame has the ports that are asked for, in a header from a position on. -/
def PortFields.Admits (ports : PortFields) (frame : Array UInt8) (start : ℕ) : Prop :=
  ports.src.Admits (Frame.half frame start) ∧ ports.dst.Admits (Frame.half frame (start + 2))

/-- A frame has the transport header that is asked for, from a position on. -/
def Layer4.Admits (layer4 : Layer4) (frame : Array UInt8) (start : ℕ) : Prop :=
  match layer4 with
  | none => True
  | tcp fields =>
    fields.ports.Admits frame start ∧ fields.flags.Admits (Frame.tcpFlags frame (start + 13))
  | udp ports => ports.Admits frame start
  | icmp fields =>
    fields.icmpType.Admits (Frame.byte frame start) ∧
      fields.code.Admits (Frame.byte frame (start + 1))

/-- A frame has the network header that is asked for from a position on, and after it the
transport header. Without a network protocol nothing is asked for. -/
def Layer3.Admits (layer3 : Layer3) (layer4 : Layer4) (frame : Array UInt8) (start : ℕ) : Prop :=
  match layer3 with
  | none => True
  | ipv4 ip => ip.Admits frame start ∧ layer4.Admits frame (start + ip.headerLength)

/-- A frame has what the fields of a rule ask for. -/
def Rule.Admits (rule : Rule) (frame : Array UInt8) : Prop :=
  rule.layer2.Admits frame ∧ rule.layer3.Admits rule.layer4 frame rule.layer2.networkStart

section

variable {α : Type} [MaskBits α] [DecidableEq α]

instance (field : Masked α) (value : α) : Decidable (field.Admits value) :=
  inferInstanceAs (Decidable (_ = _))

end

section

variable (frame : Array UInt8) (start : ℕ)

instance (ether : EtherFields) : Decidable (ether.AdmitsAddresses frame) :=
  inferInstanceAs (Decidable (_ ∧ _))

instance (layer2 : Layer2) : Decidable (layer2.Admits frame) :=
  match layer2 with
  | .ethernet _ => inferInstanceAs (Decidable (_ ∧ _))
  | .ethernetVlan _ _ => inferInstanceAs (Decidable (_ ∧ _ ∧ _ ∧ _))
  | .pos _ => inferInstanceAs (Decidable (Masked.Admits _ _))

instance (ip : Ipv4Fields) : Decidable (ip.Admits frame start) :=
  decidable_of_iff' _ (ip.admits_iff frame start)

instance (ports : PortFields) : Decidable (ports.Admits frame start) :=
  inferInstanceAs (Decidable (_ ∧ _))

instance (layer4 : Layer4) : Decidable (layer4.Admits frame start) :=
  match layer4 with
  | .none => inferInstanceAs (Decidable True)
  | .tcp _ => inferInstanceAs (Decidable (_ ∧ _))
  | .udp ports => inferInstanceAs (Decidable (ports.Admits frame start))
  | .icmp _ => inferInstanceAs (Decidable (_ ∧ _))

instance (layer3 : Layer3) (layer4 : Layer4) : Decidable (layer3.Admits layer4 frame start) :=
  match layer3 with
  | .none => inferInstanceAs (Decidable True)
  | .ipv4 _ => inferInstanceAs (Decidable (_ ∧ _))

instance (rule : Rule) : Decidable (rule.Admits frame) :=
  inferInstanceAs (Decidable (_ ∧ _))

end

/-! ## Patches lie apart -/

lemma Layer2.laidOut_patches (layer2 : Layer2) :
    Patch.LaidOut 0 layer2.networkStart layer2.patches := by
  cases layer2 with
  | ethernet ether =>
    constructor <;> simp [patches, EtherFields.addressPatches, networkStart, Patch.Apart,
      Patch.within_iff]
  | ethernetVlan ether vlanId =>
    constructor <;> simp [patches, EtherFields.addressPatches, networkStart, Patch.Apart,
      Patch.within_iff]
  | pos header =>
    constructor <;> simp [patches, networkStart, Patch.Apart, Patch.within_iff]

lemma Ipv4Fields.laidOut_patches (ip : Ipv4Fields) (start : ℕ) :
    Patch.LaidOut start (start + 20) (ip.patches start) := by
  cases hreject : ip.rejectFragments with
  | false => constructor <;> simp [patches, hreject, Patch.Apart, Patch.within_iff]
  | true => constructor <;> simp [patches, hreject, Patch.Apart, Patch.within_iff]

lemma PortFields.laidOut_patches (ports : PortFields) (start : ℕ) :
    Patch.LaidOut start (start + 4) (ports.patches start) := by
  constructor <;> simp [patches, Patch.Apart, Patch.within_iff]

lemma Layer4.laidOut_patches (layer4 : Layer4) (start : ℕ) :
    Patch.LaidOut start (start + 14) (layer4.patches start) := by
  cases layer4 with
  | none => exact Patch.laidOut_nil _ _
  | tcp fields =>
    constructor <;> simp [patches, PortFields.patches, Patch.Apart, Patch.within_iff]
  | udp ports => exact (ports.laidOut_patches start).mono (by omega) (by omega)
  | icmp fields => constructor <;> simp [patches, Patch.Apart, Patch.within_iff]

/-- A network header is as long as its fixed part, or longer, and at most four times 15 bytes. -/
lemma Ipv4Fields.Sound.headerLength_mem {ip : Ipv4Fields} (h : ip.Sound) :
    20 ≤ ip.headerLength ∧ ip.headerLength ≤ 60 := by
  unfold headerLength
  split
  case isTrue hmask =>
    obtain ⟨hlow, hhigh⟩ := h.ihl_range hmask
    have hlow' : 5 ≤ ip.ihl.value.toNat := UInt8.le_iff_toNat_le.mp hlow
    have hhigh' : ip.ihl.value.toNat ≤ 15 := UInt8.le_iff_toNat_le.mp hhigh
    omega
  case isFalse => omega

/-- The places of the headers are those that the patches are laid at. -/
lemma Layer2.networkOffset_eq (layer2 : Layer2) : layer2.networkOffset = layer2.networkStart := by
  cases layer2 <;> rfl

lemma Ipv4Fields.transportOffset_eq (ip : Ipv4Fields) : ip.transportOffset = ip.headerLength := by
  rw [transportOffset, headerLength, Nat.mul_comm]
  rfl

/-- The patches of a well-formed rule lie apart within the match depth. -/
lemma Rule.WellFormed.laidOut {rule : Rule} (h : rule.WellFormed) :
    Patch.LaidOut 0 matchDepth rule.fieldPatches := by
  have hstart : rule.layer2.networkStart ≤ 20 := by
    cases rule.layer2 <;> simp [Layer2.networkStart]
  have hlayer2 := rule.layer2.laidOut_patches
  have hlayer3 := h.layer3
  unfold fieldPatches
  split
  case h_1 =>
    rw [List.append_nil]
    exact hlayer2.mono (Nat.le_refl 0) (hstart.trans (by decide))
  case h_2 ip heq =>
    rw [heq] at hlayer3
    obtain ⟨hlow, hhigh⟩ := hlayer3.headerLength_mem
    rw [rule.layer2.networkOffset_eq, ip.transportOffset_eq]
    have hheaders := (ip.laidOut_patches rule.layer2.networkStart).append
      (rule.layer4.laidOut_patches (rule.layer2.networkStart + ip.headerLength))
      (Nat.le_add_right _ _) (by omega) (by omega)
    have hall := hlayer2.append hheaders (Nat.zero_le _) (Nat.le_refl _) (by omega)
    refine hall.mono (Nat.le_refl 0) ?_
    rw [matchDepth]
    omega

/-! ## Patches say what the fields ask for -/

section

variable {frame : Array UInt8}

/-- What the flags and the offset of an unfragmented packet are compared with. -/
lemma Ipv4Fields.admits_unfragmented_iff (half : UInt16) :
    unfragmented.Admits half ↔ Unfragmented half := by
  have hbits : (half &&& 0x3FFF).toNat = half.toNat % 2 ^ 14 := by
    rw [UInt16.toNat_and]
    exact Nat.and_two_pow_sub_one_eq_mod half.toNat 14
  rw [Masked.Admits, unfragmented, ← UInt16.toNat_inj, hbits, UInt16.toNat_zero, Unfragmented,
    Nat.testBit_eq_decide_div_mod_eq, decide_eq_false_iff_not]
  omega

lemma Ipv4Fields.sound_unfragmented : unfragmented.Sound := by
  rw [Masked.Sound, unfragmented]
  decide

lemma EtherFields.Sound.heldBy_addressPatches_iff {ether : EtherFields} (h : ether.Sound) :
    (∀ patch ∈ ether.addressPatches, patch.HeldBy frame) ↔ ether.AdmitsAddresses frame := by
  simp only [addressPatches, AdmitsAddresses, List.forall_mem_cons, List.not_mem_nil,
    false_implies, implies_true, and_true,
    Patch.heldBy_ofMasked_iff (Frame.shows_mac frame _) h.dst,
    Patch.heldBy_ofMasked_iff (Frame.shows_mac frame _) h.src]

lemma Layer2.Sound.heldBy_patches_iff {layer2 : Layer2} (h : layer2.Sound) :
    (∀ patch ∈ layer2.patches, patch.HeldBy frame) ↔ layer2.Admits frame := by
  cases layer2 with
  | ethernet ether =>
    simp only [patches, Admits, List.forall_mem_append, List.forall_mem_singleton,
      EtherFields.Sound.heldBy_addressPatches_iff h,
      Patch.heldBy_ofMasked_iff (Frame.shows_half frame _) h.etherType]
  | ethernetVlan ether vlanId =>
    obtain ⟨hether, hvlan, -⟩ := h
    have htag : (Masked.exact etherTypeVlan).Admits (Frame.half frame 14) ↔
        Frame.half frame 14 = 0x8100 := by
      rw [Masked.Admits, Masked.exact, Masked.under]
      have hall (half : UInt16) : half &&& MaskBits.all = half := UInt16.and_neg_one
      rw [hall, hall, etherTypeVlan]
    simp only [patches, Admits, List.forall_mem_append, List.forall_mem_cons, List.not_mem_nil,
      false_implies, implies_true, and_true, hether.heldBy_addressPatches_iff,
      Patch.heldBy_ofMasked_iff (Frame.shows_half frame _) (Masked.sound_exact _), htag,
      Patch.heldBy_ofMasked_iff (Frame.shows_half frame _) hvlan,
      Patch.heldBy_ofMasked_iff (Frame.shows_half frame _) hether.etherType]
  | pos header =>
    simp only [patches, Admits, List.forall_mem_singleton,
      Patch.heldBy_ofMasked_iff (Frame.shows_word frame _) h]

lemma Ipv4Fields.Sound.heldBy_patches_iff {ip : Ipv4Fields} (h : ip.Sound) (start : ℕ) :
    (∀ patch ∈ ip.patches start, patch.HeldBy frame) ↔ ip.Admits frame start := by
  have hfragments :
      (∀ patch ∈ if ip.rejectFragments then [Patch.ofMasked (start + 6) unfragmented] else [],
        patch.HeldBy frame) ↔
      (ip.rejectFragments = true → Unfragmented (Frame.half frame (start + 6))) := by
    cases ip.rejectFragments with
    | false => simp
    | true =>
      simp [Patch.heldBy_ofMasked_iff (Frame.shows_half frame _) sound_unfragmented,
        admits_unfragmented_iff]
  simp only [patches, List.forall_mem_append, List.forall_mem_cons, List.not_mem_nil,
    false_implies, implies_true, and_true, hfragments, admits_iff,
    Patch.heldBy_ofMasked_iff (Frame.shows_byte frame _) h.ihl,
    Patch.heldBy_ofMasked_iff (Frame.shows_ipv4 frame _) h.src,
    Patch.heldBy_ofMasked_iff (Frame.shows_ipv4 frame _) h.dst,
    Patch.heldBy_ofMasked_iff (Frame.shows_byte frame _) h.protocol]
  tauto

lemma PortFields.Sound.heldBy_patches_iff {ports : PortFields} (h : ports.Sound) (start : ℕ) :
    (∀ patch ∈ ports.patches start, patch.HeldBy frame) ↔ ports.Admits frame start := by
  simp only [patches, Admits, List.forall_mem_cons, List.not_mem_nil, false_implies,
    implies_true, and_true,
    Patch.heldBy_ofMasked_iff (Frame.shows_half frame _) h.src,
    Patch.heldBy_ofMasked_iff (Frame.shows_half frame _) h.dst]

lemma Layer4.Sound.heldBy_patches_iff {layer4 : Layer4} (h : layer4.Sound) (start : ℕ) :
    (∀ patch ∈ layer4.patches start, patch.HeldBy frame) ↔ layer4.Admits frame start := by
  cases layer4 with
  | none => simp [patches, Admits]
  | tcp fields =>
    obtain ⟨hports, hflags⟩ := h
    simp only [patches, Admits, List.forall_mem_append, List.forall_mem_singleton,
      hports.heldBy_patches_iff,
      Patch.heldBy_ofMasked_iff (Frame.shows_tcpFlags frame _) hflags]
  | udp ports => exact PortFields.Sound.heldBy_patches_iff h start
  | icmp fields =>
    simp only [patches, Admits, List.forall_mem_cons, List.not_mem_nil, false_implies,
      implies_true, and_true,
      Patch.heldBy_ofMasked_iff (Frame.shows_byte frame _) h.icmpType,
      Patch.heldBy_ofMasked_iff (Frame.shows_byte frame _) h.code]

/-- A frame agrees with the patches of a well-formed rule exactly if it has what the fields of the
rule ask for. -/
lemma Rule.WellFormed.heldBy_fieldPatches_iff {rule : Rule} (h : rule.WellFormed) :
    (∀ patch ∈ rule.fieldPatches, patch.HeldBy frame) ↔ rule.Admits frame := by
  have hsound := h.layer3
  rw [fieldPatches, Rule.Admits, List.forall_mem_append, h.layer2.heldBy_patches_iff]
  refine and_congr_right fun _ => ?_
  cases hlayer3 : rule.layer3 with
  | none => simp [Layer3.Admits]
  | ipv4 ip =>
    rw [hlayer3] at hsound
    rw [Layer3.Admits, List.forall_mem_append, rule.layer2.networkOffset_eq, ip.transportOffset_eq,
      Ipv4Fields.Sound.heldBy_patches_iff hsound, h.layer4.heldBy_patches_iff]

end

/-! ## The pattern of a rule -/

namespace Rule

/-- **The pattern of a rule compares what the rule says.** For every rule that steps lead to,
refused steps included, and that is not in raw mode, a frame agrees with the pattern at every byte
of the match depth exactly if the protocol fields of the frame are what the rule asks for. -/
theorem pattern_agrees_iff_admits {rule : Rule} (h : rule.Reachable) (hraw : rule.isRaw = false)
    (frame : Array UInt8) :
    (∀ (i : ℕ) (hi : i < matchDepth),
      Bytes.padded frame i &&& rule.pattern.mask[i] = rule.pattern.value[i]) ↔
      rule.Admits frame := by
  have hwell := h.wellFormed
  have hpatches : rule.patches = rule.fieldPatches := by
    rw [isRaw, Option.isSome_eq_false_iff, Option.isNone_iff_eq_none] at hraw
    rw [patches, hraw]
  have hagrees := Pattern.agrees_ofPatches_iff hwell.laidOut rule.termination frame
  rw [hwell.heldBy_fieldPatches_iff] at hagrees
  rw [← hagrees, pattern, hpatches]
  rfl

/-- The edits that describe unfragmented TCP packets to port 80 of VLAN 5 whose network header has
one word of options. -/
def Edit.vlanWeb : List Edit :=
  [.layer2 .ethernetVlan, .vlanId 5 0xFFFF, .layer3 .ipv4, .layer4 .tcp, .ihl 6 0xFF,
    .rejectFragments true, .dstPort 80 0xFFFF]

/-- The start of such a packet, up to its destination port. -/
def vlanWebFrame : Array UInt8 :=
  #[0x00, 0x00, 0x02, 0x00, 0x00, 0x00, 0x00, 0x01, 0x02, 0x00, 0x00, 0x00, 0x00, 0x02, 0x81, 0x00,
    0x00, 0x05, 0x08, 0x00, 0x46, 0x00, 0x00, 0x40, 0x12, 0x34, 0x40, 0x00, 0x40, 0x06, 0x00, 0x00,
    0x0A, 0x00, 0x00, 0x01, 0x0A, 0x00, 0x00, 0x02, 0x01, 0x01, 0x01, 0x01, 0xC0, 0x00, 0x00, 0x50]

/-- The packet agrees with the pattern of the rule, which compares the second byte of the port
behind the options. -/
theorem pattern_agrees_vlanWeb :
    (Edit.vlanWeb.foldl attempt any).isRaw = false ∧
      (Edit.vlanWeb.foldl attempt any).pattern.mask[47] = 0xFF ∧
      ∀ (i : ℕ) (hi : i < matchDepth),
        Bytes.padded vlanWebFrame i &&& (Edit.vlanWeb.foldl attempt any).pattern.mask[i] =
          (Edit.vlanWeb.foldl attempt any).pattern.value[i] :=
  ⟨rfl, by decide +kernel,
    (pattern_agrees_iff_admits ⟨Edit.vlanWeb, rfl⟩ rfl vlanWebFrame).mpr (by decide +kernel)⟩

end Rule

end PacketSteering
