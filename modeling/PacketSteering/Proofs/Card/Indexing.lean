import PacketSteering.Proofs.Card.Traffic
import PacketSteering.Proofs.TableLayout

/-!
# Keys and indices

Every index of a table stands for one key, and the key for that index: decoding and encoding are
inverse to each other.  Beyond the table an index loses its high bits (`encode_decode`), and a key
that no card of the layout reports is cut to one that some card does (`decode_encode_iff`), so that
a card looks up a row of its bank whatever it is asked about.

A card packs and takes apart an index with the shifts and masks of a word.  That is the same as the
quotients and remainders (`toNat_encodeWord`, `decodeWord_eq`).
-/

namespace PacketSteering

namespace TableLayout

variable (layout : TableLayout)

/-! ## There and back -/

/-- The bits of an index that hold the HLB outcome make a small number. -/
lemma outcome_lt (index : ℕ) : index / 1024 % 1 <<< layout.hlbWidth < 1 <<< layout.hlbWidth :=
  Nat.mod_lt _ (by rw [Nat.one_shiftLeft]; exact Nat.two_pow_pos _)

lemma toNat_outcome (index : ℕ) :
    (UInt8.ofNat (index / 1024 % 1 <<< layout.hlbWidth)).toNat =
      index / 1024 % 1 <<< layout.hlbWidth := by
  have hle : 1 <<< layout.hlbWidth ≤ UInt8.size := by cases layout <;> decide
  exact UInt8.toNat_ofNat_of_lt' (Nat.lt_of_lt_of_le (layout.outcome_lt index) hle)

lemma toNat_interface_decode (index : ℕ) :
    (layout.decode index).interface.toNat = index / 256 % 4 :=
  UInt8.toNat_ofNat_of_lt' (Nat.lt_trans (Nat.mod_lt _ (by decide)) (by decide))

/-- What an index decodes to is what a card of the layout can report. -/
lemma reports_decodeHlb (index : ℕ) : layout.Reports (layout.decodeHlb index) := by
  have hlt := layout.outcome_lt index
  rw [← layout.toNat_outcome] at hlt
  cases layout with
  | classic => exact ⟨rfl, hlt⟩
  | hashedFour => exact ⟨nofun, rfl, hlt⟩
  | hashedEight => exact ⟨nofun, rfl, hlt⟩

lemma encodeHlb_decodeHlb (index : ℕ) :
    layout.encodeHlb (layout.decodeHlb index) = index / 1024 % 1 <<< layout.hlbWidth := by
  have houtcome := layout.toNat_outcome index
  have hlt := layout.outcome_lt index
  rw [← houtcome] at hlt ⊢
  cases layout with
  | classic => exact Nat.mod_eq_of_lt hlt
  | hashedFour => exact Nat.mod_eq_of_lt hlt
  | hashedEight => exact Nat.mod_eq_of_lt hlt

/-- An index keeps the bits that the table has. -/
lemma encode_decode (index : ℕ) : layout.encode (layout.decode index) = index % layout.entries := by
  have hfilters : (layout.decode index).filters.toNat = index % 256 :=
    UInt8.toNat_ofNat_of_lt' (Nat.mod_lt _ (by decide))
  have hhlb : layout.encodeHlb (layout.decode index).hlb = _ := layout.encodeHlb_decodeHlb index
  rw [encode, hfilters, layout.toNat_interface_decode, hhlb, entries, indexBits]
  cases layout <;> simp only [hlbWidth, Nat.one_shiftLeft] <;> omega

/-- The keys that come back from their index are those that a card of the layout can report. -/
lemma decode_encode_iff (key : TableKey) :
    layout.decode (layout.encode key) = key ↔
      key.interface.toNat < interfaceCount ∧ layout.Reports key.hlb := by
  refine ⟨fun heq => ?_, fun ⟨hinterface, hhlb⟩ => layout.decode_encode key hinterface hhlb⟩
  rw [← heq]
  constructor
  · rw [layout.toNat_interface_decode]
    exact Nat.mod_lt _ (by decide)
  · exact layout.reports_decodeHlb _

/-! ## Words -/

/-- The bits of an index that hold the HLB outcome, at the low end of a word. -/
def hlbMask : UInt64 :=
  1 <<< UInt64.ofNat layout.hlbWidth - 1

/-- The bits of a word for an HLB outcome, at the low end. -/
def hlbWord (outcome : HlbOutcome) : UInt64 :=
  match layout, outcome with
  | classic, .bits value => value.toUInt64 &&& layout.hlbMask
  | classic, .hash _ _ => 0
  | _, .hash bucket _ => bucket.toUInt64 &&& layout.hlbMask
  | _, .bits _ => 0

/-- The word of an index, packed by shifts and masks. -/
def encodeWord (key : TableKey) : UInt64 :=
  key.filters.toUInt64 ||| (key.interface.toUInt64 &&& 0x3) <<< 8 ||| layout.hlbWord key.hlb <<< 10

/-- The key that a word stands for, taken apart by shifts and masks. -/
def decodeWord (index : UInt64) : TableKey where
  filters := (index &&& 0xFF).toUInt8
  interface := (index >>> 8 &&& 0x3).toUInt8
  hlb :=
    let outcome := (index >>> 10 &&& layout.hlbMask).toUInt8
    match layout with
    | classic => .bits outcome
    | _ => .hash outcome (1 <<< UInt64.ofNat layout.hlbWidth).toUInt8

lemma toNat_hlbMask : layout.hlbMask.toNat = 2 ^ layout.hlbWidth - 1 := by
  cases layout <;> rfl

lemma toNat_and_hlbMask (word : UInt64) :
    (word &&& layout.hlbMask).toNat = word.toNat % 1 <<< layout.hlbWidth := by
  rw [UInt64.toNat_and, toNat_hlbMask, Nat.and_two_pow_sub_one_eq_mod, Nat.one_shiftLeft]

lemma toNat_hlbWord (outcome : HlbOutcome) :
    (layout.hlbWord outcome).toNat = layout.encodeHlb outcome := by
  cases layout with
  | classic =>
    cases outcome with
    | bits value => exact toNat_and_hlbMask classic value.toUInt64
    | hash bucket buckets => rfl
  | hashedFour =>
    cases outcome with
    | bits value => rfl
    | hash bucket buckets => exact toNat_and_hlbMask hashedFour bucket.toUInt64
  | hashedEight =>
    cases outcome with
    | bits value => rfl
    | hash bucket buckets => exact toNat_and_hlbMask hashedEight bucket.toUInt64

/-- A number that stays below a field is put beside it by an or. -/
lemma or_eq_add {low i : ℕ} (h : low < 2 ^ i) (high : ℕ) :
    low ||| high * 2 ^ i = low + high * 2 ^ i := by
  rw [Nat.or_comm, Nat.mul_comm, ← Nat.two_pow_add_eq_or_of_lt h, Nat.add_comm]

/-- The fields of an index do not overlap, and none is shifted out of the word. -/
lemma toNat_encodeWord (key : TableKey) : (layout.encodeWord key).toNat = layout.encode key := by
  have hfilters := key.filters.toNat_lt
  have hhlb : layout.encodeHlb key.hlb < 8 := by
    have hlt := layout.encodeHlb_lt key.hlb
    have hle : 1 <<< layout.hlbWidth ≤ 8 := by cases layout <;> decide
    exact Nat.lt_of_lt_of_le hlt hle
  have hinterface : ((key.interface.toUInt64 &&& 0x3) <<< 8).toNat =
      key.interface.toNat % 4 * 2 ^ 8 := by
    have hmask : (key.interface.toUInt64 &&& 0x3).toNat = key.interface.toNat % 2 ^ 2 := by
      rw [UInt64.toNat_and, UInt8.toNat_toUInt64, ← Nat.and_two_pow_sub_one_eq_mod]
      rfl
    have hsmall : key.interface.toNat % 2 ^ 2 * 2 ^ 8 < 2 ^ 64 := by omega
    rw [UInt64.toNat_shiftLeft, hmask, Nat.shiftLeft_eq]
    exact Nat.mod_eq_of_lt hsmall
  have houtcome : (layout.hlbWord key.hlb <<< 10).toNat = layout.encodeHlb key.hlb * 2 ^ 10 := by
    have hsmall : layout.encodeHlb key.hlb * 2 ^ 10 < 2 ^ 64 := by omega
    rw [UInt64.toNat_shiftLeft, toNat_hlbWord, Nat.shiftLeft_eq]
    exact Nat.mod_eq_of_lt hsmall
  rw [encodeWord, UInt64.toNat_or, UInt64.toNat_or, hinterface, houtcome, UInt8.toNat_toUInt64,
    or_eq_add hfilters, or_eq_add (by omega)]
  rfl

/-- Taking a word apart is decoding its number. -/
lemma decodeWord_eq (index : UInt64) : layout.decodeWord index = layout.decode index.toNat := by
  have hfilters : (index &&& 0xFF).toNat = index.toNat % 256 := by
    rw [UInt64.toNat_and]
    exact Nat.and_two_pow_sub_one_eq_mod index.toNat 8
  have hinterface : (index >>> 8 &&& 0x3).toNat = index.toNat / 256 % 4 := by
    rw [UInt64.toNat_and, UInt64.toNat_shiftRight]
    exact (Nat.and_two_pow_sub_one_eq_mod _ 2).trans
      (congrArg (· % 4) (Nat.shiftRight_eq_div_pow index.toNat 8))
  have houtcome : (index >>> 10 &&& layout.hlbMask).toNat =
      index.toNat / 1024 % 1 <<< layout.hlbWidth := by
    rw [toNat_and_hlbMask, UInt64.toNat_shiftRight]
    exact congrArg (· % 1 <<< layout.hlbWidth) (Nat.shiftRight_eq_div_pow index.toNat 10)
  have hhlb : (layout.decodeWord index).hlb = layout.decodeHlb index.toNat := by
    cases layout with
    | classic => exact congrArg (fun outcome => HlbOutcome.bits (UInt8.ofNat outcome)) houtcome
    | hashedFour =>
      exact congrArg (fun outcome => HlbOutcome.hash (UInt8.ofNat outcome) 4) houtcome
    | hashedEight =>
      exact congrArg (fun outcome => HlbOutcome.hash (UInt8.ofNat outcome) 8) houtcome
  rw [decode, ← hhlb, ← hfilters, ← hinterface]
  rfl

end TableLayout

namespace Card

variable {memory : Memory} {layout : TableLayout} {bits : ℕ} {card : Card}

/-- Whatever is looked up on a card, the active bank has an entry for it. -/
lemma Complete.encode_lt (h : card.Complete layout bits) (key : TableKey) :
    card.state.layout.encode key < (card.state.bank card.state.activeBank).entries := by
  rw [(h.shape _).1, h.layout_eq]
  exact layout.encode_lt_entries key

/-- A card steers a frame by the entry that it looks up. -/
lemma Complete.get?_encode (h : card.Complete layout bits) (frame : Array UInt8)
    (interface : UInt8) (hlb : HlbOutcome) :
    (card.state.bank card.state.activeBank).get?
        (card.state.layout.encode ⟨card.state.filterHits frame, interface, hlb⟩) =
      some (card.state.classify frame interface hlb) := by
  have hlt := h.encode_lt ⟨card.state.filterHits frame, interface, hlb⟩
  rw [CardState.classify, CardState.colourAt, ColourTable.get?, dif_pos hlt, Option.getD_some]

/-- **Keys and indices are inverse to each other as far as the table goes.** For every layout: the
index of any key lies in the table; a key decoded from an index is encoded as the index again, less
the bits above the table; exactly the keys that a card of the layout can report are decoded from
their own index; and all this is what the shifts and masks of words make of keys and of indices.  So
a card in use never looks past its bank, whatever frame, interface and outcome it is asked about. -/
theorem keys_and_indices_inverse (layout : TableLayout) :
    (∀ key, layout.encode key < layout.entries) ∧
      (∀ index, layout.encode (layout.decode index) = index % layout.entries) ∧
      (∀ key, layout.decode (layout.encode key) = key ↔
        key.interface.toNat < interfaceCount ∧ layout.Reports key.hlb) ∧
      (∀ key, (layout.encodeWord key).toNat = layout.encode key) ∧
      (∀ index, layout.decodeWord index = layout.decode index.toNat) ∧
      ∀ {memory : Memory} {bits : ℕ} {card : Card}, InUse memory layout bits card →
        ∀ (frame : Array UInt8) (interface : UInt8) (hlb : HlbOutcome),
          card.state.layout.encode ⟨card.state.filterHits frame, interface, hlb⟩ <
              (card.state.bank card.state.activeBank).entries ∧
            (card.state.bank card.state.activeBank).get?
                (card.state.layout.encode ⟨card.state.filterHits frame, interface, hlb⟩) =
              some (card.state.classify frame interface hlb) :=
  ⟨layout.encode_lt_entries, layout.encode_decode, layout.decode_encode_iff,
    layout.toNat_encodeWord, layout.decodeWord_eq, fun hused frame interface hlb =>
      ⟨hused.complete.encode_lt _, hused.complete.get?_encode frame interface hlb⟩⟩

/-- A card with hash buckets finds an entry for an interface that it does not have and for an
outcome of discrete bits, though no index stands for such a key. -/
theorem keys_and_indices_inverse_foreignKey :
    ∃ card, InUse .addressSpace .hashedEight 4 card ∧
      TableLayout.hashedEight.encode (TableLayout.hashedEight.decode 9000) = 808 ∧
      TableLayout.hashedEight.decode (TableLayout.hashedEight.encode ⟨5, 3, .hash 6 8⟩) =
        ⟨5, 3, .hash 6 8⟩ ∧
      TableLayout.hashedEight.decode (TableLayout.hashedEight.encode ⟨5, 7, .bits 2⟩) ≠
        ⟨5, 7, .bits 2⟩ ∧
      (card.state.bank card.state.activeBank).get?
          (card.state.layout.encode ⟨card.state.filterHits #[0x45], 7, .bits 2⟩) =
        some (card.state.classify #[0x45] 7 (.bits 2)) := by
  have halloc : ColourTable.alloc .addressSpace TableLayout.hashedEight.entries 4 = .ok _ :=
    ColourTable.alloc_eq_ok (by decide) (by decide) (by decide)
  have hused : InUse .addressSpace .hashedEight 4 _ := .fresh (new_eq_ok_iff.mpr ⟨_, halloc, rfl⟩)
  obtain ⟨-, hindex, hkey, -, -, hlookup⟩ := keys_and_indices_inverse .hashedEight
  refine ⟨_, hused, hindex 9000, (hkey _).mpr ⟨by decide, nofun, rfl, by decide⟩, fun heq => ?_,
    (hlookup hused _ _ _).2⟩
  exact absurd ((hkey _).mp heq).1 (by decide)

end Card

end PacketSteering
