import Mathlib.Tactic.Common
import PacketSteering.Card.Basic
import PacketSteering.Proofs.Card.Effects
import PacketSteering.Proofs.Card.Slot
import PacketSteering.Proofs.Configuration.Dependence
import PacketSteering.Proofs.Pattern

/-!
# Where a card steers

A card looks up the hits of its physical slots in its active bank.  When that bank serves a
configuration (`CardState.Serves`), the card steers by the expressions of that configuration,
applied to the hits renumbered by virtual slot (`Serves.classify_eq`).  When in addition the slots
are in step with the filters (`CardState.InStep`), those hits are the ones that the configuration
asks for, `Configuration.virtualHits`, and nothing is left in the answer of where the filters are
carried (`Serves.classify_of_inStep`).  A slot that no stream mentions is not seen in the answer at
all (`Serves.classify_congr`).
-/

namespace PacketSteering

namespace Configuration

/-! ## What a configuration asks for -/

/-- Whether a filter is enabled and its rule matches a frame up to its termination. -/
def wants (config : Configuration) (v : Fin filterCount) (frame : Array UInt8) : Bool :=
  (config.filters.get v).enabled && (config.filters.get v).rule.pattern.hits frame

/-- The virtual slots that a frame should hit. -/
def virtualHits (config : Configuration) (frame : Array UInt8) : UInt8 :=
  BitField.byte fun v => if hv : v < filterCount then config.wants ⟨v, hv⟩ frame else false

lemma testBit_virtualHits (config : Configuration) (frame : Array UInt8) (v : Fin filterCount) :
    (config.virtualHits frame).toNat.testBit v = config.wants v frame := by
  have hbyte : v.val < 8 := v.isLt
  rw [virtualHits, BitField.testBit_byte, decide_eq_true hbyte, Bool.true_and,
    dif_pos v.isLt]

lemma wants_of_disabled {config : Configuration} {v : Fin filterCount}
    (hdisabled : (config.filters.get v).enabled = false) (frame : Array UInt8) :
    config.wants v frame = false := by
  rw [wants, hdisabled, Bool.false_and]

lemma wants_of_any {config : Configuration} {v : Fin filterCount}
    (henabled : (config.filters.get v).enabled = true) (hany : (config.filters.get v).rule = .any)
    (frame : Array UInt8) : config.wants v frame = true := by
  rw [wants, henabled, hany, Rule.hits_any, Bool.and_true]

/-- A frame that no other filter wants hits the first filter or nothing. -/
lemma virtualHits_of_first {config : Configuration} {frame : Array UInt8}
    (hothers : ∀ v : Fin filterCount, v.val ≠ 0 → config.wants v frame = false) :
    config.virtualHits frame = if config.wants ⟨0, by decide⟩ frame = true then 1 else 0 := by
  apply BitField.eq_of_testBit
  intro i hi
  rw [testBit_virtualHits _ frame ⟨i, hi⟩]
  cases i with
  | zero => cases config.wants ⟨0, hi⟩ frame <;> rfl
  | succ i =>
    rw [hothers ⟨i + 1, hi⟩ (Nat.succ_ne_zero i)]
    split <;> simp [Nat.testBit_add_one]

lemma virtualHits_firstFilter (frame : Array UInt8) : firstFilter.virtualHits frame = 1 := by
  have hothers : ∀ v : Fin filterCount, v.val ≠ 0 →
      (firstFilter.filters.get v).enabled = false := by
    decide
  rw [virtualHits_of_first fun v hv => wants_of_disabled (hothers v hv) frame,
    if_pos (wants_of_any (by decide) (by decide) frame)]

/-- The key that a card of the layout looks up for a set of hits: whatever is reported beside them
is cut to the width that an index has for it. -/
def seen (config : Configuration) (interface : UInt8) (hlb : HlbOutcome) (hits : UInt8) :
    TableKey :=
  { config.layout.decode (config.layout.encode ⟨0, interface, hlb⟩) with filters := hits }

/-- What a card can really report is looked up as it is. -/
lemma seen_eq (config : Configuration) {interface : UInt8}
    (hinterface : interface.toNat < interfaceCount) {hlb : HlbOutcome}
    (hhlb : config.layout.Reports hlb) (hits : UInt8) :
    config.seen interface hlb hits = ⟨hits, interface, hlb⟩ := by
  rw [seen, config.layout.decode_encode ⟨0, interface, hlb⟩ hinterface hhlb]

/-- The colour of a frame depends only on the streams, the partial expressions and the layout once
its hits are known. -/
def colourFor (config : Configuration) (interface : UInt8) (hlb : HlbOutcome) (hits : UInt8) :
    Colour :=
  .ofStream? (config.steerVirtual (config.seen interface hlb hits))

lemma Ignores.colourFor_congr {config : Configuration} {v : Fin filterCount}
    (h : config.Ignores v) (interface : UInt8) (hlb : HlbOutcome) {hits hits' : UInt8}
    (hhits : ∀ i < filterCount, i ≠ v.val → hits.toNat.testBit i = hits'.toNat.testBit i) :
    config.colourFor interface hlb hits = config.colourFor interface hlb hits' := by
  have hsteers : config.steerVirtual (config.seen interface hlb hits) =
      config.steerVirtual (config.seen interface hlb hits') :=
    h.steerVirtual_congr hhits rfl rfl
  rw [colourFor, colourFor, hsteers]

end Configuration

namespace CardState

/-! ## Shapes -/

/-- A card has the shape that a configuration needs. -/
structure Shaped (state : CardState) (config : Configuration) : Prop where
  layout_eq : state.layout = config.layout
  entries_eq : ∀ bank, (state.bank bank).entries = config.layout.entries
  bits_eq : ∀ bank, (state.bank bank).bits = config.entryBits

/-- A table for a configuration has the shape of the banks. -/
lemma Shaped.sameShape {state : CardState} {config : Configuration} (h : state.Shaped config)
    {memory : Memory} {table : ColourTable}
    (htable : ColourTable.forConfiguration memory config = .ok table) (bank : Bank) :
    table.SameShape (state.bank bank) := by
  obtain ⟨hentries, hbits⟩ := ColourTable.forConfiguration_shape htable
  exact ⟨hbits.trans (h.bits_eq bank).symm, hentries.trans (h.entries_eq bank).symm⟩

/-- The shape is kept as long as the layout is, and every bank keeps its shape. -/
lemma Shaped.of_sameShape {state now : CardState} {config : Configuration}
    (h : state.Shaped config) (hlayout : now.layout = state.layout)
    (hbank : ∀ bank, (now.bank bank).SameShape (state.bank bank)) : now.Shaped config where
  layout_eq := hlayout.trans h.layout_eq
  entries_eq bank := (hbank bank).2.trans (h.entries_eq bank)
  bits_eq bank := (hbank bank).1.trans (h.bits_eq bank)

lemma Shaped.of_bank_eq {state now : CardState} {config : Configuration}
    (h : state.Shaped config) (hlayout : now.layout = state.layout)
    (hbank : now.bank = state.bank) : now.Shaped config :=
  h.of_sameShape hlayout fun bank => by
    rw [hbank]
    exact .refl _

/-! ## Hits -/

/-- Whether a frame hits a slot. -/
def hit (state : CardState) (slot : ℕ) (frame : Array UInt8) : Bool :=
  if h : slot < filterCount then state.isEnabled slot && state.slots[slot].hits frame else false

lemma testBit_filterHits (state : CardState) (frame : Array UInt8) {slot : ℕ}
    (hslot : slot < filterCount) :
    (state.filterHits frame).toNat.testBit slot = state.hit slot frame := by
  have hbyte : slot < 8 := hslot
  rw [filterHits, BitField.testBit_byte, decide_eq_true hbyte, Bool.true_and]
  rfl

lemma hit_congr {state now : CardState} {slot : ℕ}
    (henabled : now.isEnabled slot = state.isEnabled slot)
    (hslots : ∀ hslot : slot < filterCount, now.slots[slot] = state.slots[slot])
    (frame : Array UInt8) : now.hit slot frame = state.hit slot frame := by
  unfold hit
  split
  case isTrue hslot => rw [henabled, hslots hslot]
  case isFalse => rfl

lemma hit_of_off {state : CardState} {slot : ℕ} (hoff : state.isEnabled slot = false)
    (frame : Array UInt8) : state.hit slot frame = false := by
  unfold hit
  split
  · rw [hoff, Bool.false_and]
  · rfl

lemma hit_off {state : CardState} {slot other : ℕ} (hslot : slot < filterCount)
    (hother : other < filterCount) (hne : other ≠ slot) (frame : Array UInt8) :
    (state.off slot).hit other frame = state.hit other frame :=
  hit_congr (isEnabled_off_of_ne _ hslot hother hne) (fun _ => rfl) frame

lemma hit_of_ofPattern {state : CardState} {slot : ℕ} (hslot : slot < filterCount)
    (hon : state.isEnabled slot = true) {pattern : Pattern}
    (hheld : state.slots[slot] = .ofPattern pattern) (frame : Array UInt8) :
    state.hit slot frame = pattern.hits frame := by
  rw [hit, dif_pos hslot, hon, hheld, CardSlot.hits_ofPattern, Bool.true_and]

lemma filterHits_congr {state now : CardState} {frame : Array UInt8}
    (h : ∀ slot < filterCount, now.hit slot frame = state.hit slot frame) :
    now.filterHits frame = state.filterHits frame := by
  apply BitField.eq_of_testBit
  intro slot hslot
  rw [testBit_filterHits now frame hslot, testBit_filterHits state frame hslot, h slot hslot]

lemma classify_congr {state now : CardState} {frame : Array UInt8}
    (hlayout : now.layout = state.layout)
    (hlive : now.bank now.activeBank = state.bank state.activeBank)
    (hhits : now.filterHits frame = state.filterHits frame) (interface : UInt8)
    (hlb : HlbOutcome) : now.classify frame interface hlb = state.classify frame interface hlb := by
  rw [classify, classify, colourAt, colourAt, hlayout, hlive, hhits]

/-- The hits of a card, renumbered, by virtual slot. -/
lemma testBit_toVirtual {config : Configuration} (h : config.Slotted) (state : CardState)
    (frame : Array UInt8) (v : Fin filterCount) :
    (config.slotMap.toVirtual (state.filterHits frame)).toNat.testBit v =
      state.hit (config.physical v) frame := by
  rw [h.testBit_toVirtual, testBit_filterHits _ _ (h.physical_lt v)]

/-! ## The active bank -/

/-- The active bank gives, for every index, where a configuration steers. -/
def Serves (state : CardState) (config : Configuration) : Prop :=
  ∀ index < config.layout.entries,
    (state.bank state.activeBank).get? index = some (config.colourAt config.slotMap index)

lemma serves_of_fill {state : CardState} {config : Configuration} (h : config.Slotted)
    {table : ColourTable} (hentries : table.entries = config.layout.entries)
    (hbits : table.bits = config.entryBits)
    (hbank : state.bank state.activeBank = table.fill config) : state.Serves config := by
  intro index hindex
  rw [hbank]
  exact ColourTable.get?_fill h hentries hbits hindex

lemma serves_of_rows {state : CardState} {config : Configuration} (h : config.Slotted)
    (hshape : state.Shaped config) {memory : Memory} {built : ColourTable}
    (hbuilt : ColourTable.build memory config = .ok built)
    (hrows : (state.bank state.activeBank).rows = built.rows) : state.Serves config := by
  obtain ⟨table, htable, rfl⟩ := ColourTable.build_eq_ok_iff.mp hbuilt
  have hfilled : (table.fill config).SameShape (state.bank state.activeBank) :=
    (table.sameShape_setAll _).trans (hshape.sameShape htable _)
  have hbank := hfilled.symm.eq_of_rows hrows
  intro index hindex
  rw [hbank]
  exact ColourTable.get?_build h hbuilt hindex

lemma Serves.of_live_eq {state now : CardState} {config : Configuration} (h : state.Serves config)
    (hlive : now.bank now.activeBank = state.bank state.activeBank) : now.Serves config := by
  intro index hindex
  rw [hlive]
  exact h index hindex

lemma Serves.off {state : CardState} {config : Configuration} (h : state.Serves config) {slot : ℕ}
    (hslot : slot < filterCount) : (state.off slot).Serves config :=
  h.of_live_eq (by rw [activeBank_off _ hslot, bank_off])

/-- A card that serves a configuration steers by its expressions, applied to the hits renumbered by
virtual slot. -/
theorem Serves.classify_eq {state : CardState} {config : Configuration}
    (hserves : state.Serves config) (hlayout : state.layout = config.layout) (frame : Array UInt8)
    (interface : UInt8) (hlb : HlbOutcome) :
    state.classify frame interface hlb =
      config.colourFor interface hlb (config.slotMap.toVirtual (state.filterHits frame)) := by
  rw [classify, colourAt, hlayout, hserves _ (config.layout.encode_lt_entries _),
    Option.getD_some, Configuration.colourAt, Configuration.steer,
    config.layout.decode_encode_with_filters 0]
  rfl

/-- Two cards that serve one configuration, and are hit alike but for a slot that no stream
mentions, steer alike. -/
theorem Serves.classify_congr {config : Configuration} (h : config.Slotted) {v : Fin filterCount}
    (hignores : config.Ignores v) {state now : CardState} (hstate : state.Serves config)
    (hstateLayout : state.layout = config.layout) (hnow : now.Serves config)
    (hnowLayout : now.layout = config.layout) {frame : Array UInt8}
    (hhits : ∀ w, w ≠ v → now.hit (config.physical w) frame = state.hit (config.physical w) frame)
    (interface : UInt8) (hlb : HlbOutcome) :
    now.classify frame interface hlb = state.classify frame interface hlb := by
  rw [hnow.classify_eq hnowLayout, hstate.classify_eq hstateLayout]
  apply hignores.colourFor_congr
  intro i hi hne
  have hw : (⟨i, hi⟩ : Fin filterCount) ≠ v := fun heq => hne (congrArg Fin.val heq)
  rw [testBit_toVirtual h now frame ⟨i, hi⟩, testBit_toVirtual h state frame ⟨i, hi⟩,
    hhits ⟨i, hi⟩ hw]

/-! ## Slots in step -/

/-- A slot agrees with a filter: it is on exactly if the filter is, and then holds its pattern. -/
structure InStep (state : CardState) (filter : Filter) : Prop where
  isEnabled_eq : state.isEnabled filter.physicalSlot = filter.enabled
  holds : filter.enabled = true →
    state.slots[filter.physicalSlot]? = some (.ofPattern filter.rule.pattern)

/-- A slot in step with a filter is hit by the frames that the filter wants. -/
lemma InStep.hit_eq {state : CardState} {config : Configuration} {v : Fin filterCount}
    (hslot : config.physical v < filterCount) (h : state.InStep (config.filters.get v))
    (frame : Array UInt8) : state.hit (config.physical v) frame = config.wants v frame := by
  rw [Configuration.wants]
  cases henabled : (config.filters.get v).enabled with
  | false => exact hit_of_off (h.isEnabled_eq.trans henabled) frame
  | true =>
    have hheld := h.holds henabled
    have hget : state.slots[config.physical v]? = some state.slots[config.physical v] :=
      Vector.getElem?_eq_getElem hslot
    rw [Bool.true_and]
    exact hit_of_ofPattern hslot (h.isEnabled_eq.trans henabled)
      (Option.some.inj (hget.symm.trans hheld)) frame

/-- **A card in step steers as its configuration says**, wherever the filters are carried. -/
theorem Serves.classify_of_inStep {state : CardState} {config : Configuration}
    (hserves : state.Serves config) (h : config.Slotted) (hlayout : state.layout = config.layout)
    (hstep : ∀ v : Fin filterCount, state.InStep (config.filters.get v)) (frame : Array UInt8)
    (interface : UInt8) (hlb : HlbOutcome) :
    state.classify frame interface hlb =
      config.colourFor interface hlb (config.virtualHits frame) := by
  have hhits : config.slotMap.toVirtual (state.filterHits frame) = config.virtualHits frame := by
    apply BitField.eq_of_testBit
    intro i hi
    rw [testBit_toVirtual h state frame ⟨i, hi⟩,
      Configuration.testBit_virtualHits config frame ⟨i, hi⟩,
      (hstep ⟨i, hi⟩).hit_eq (h.physical_lt _)]
  rw [hserves.classify_eq hlayout, hhits]

end CardState

/-! ## Fresh cards -/

lemma Card.new_eq_ok_iff {memory : Memory} {layout : TableLayout} {bits : ℕ} {card : Card} :
    Card.new memory layout bits = .ok card ↔
      ∃ table, ColourTable.alloc memory layout.entries bits = .ok table ∧
        card = ⟨.initial layout table.fillDrop, Register.settleReads, 0, .empty⟩ := by
  unfold Card.new
  cases ColourTable.alloc memory layout.entries bits with
  | error failure => exact ⟨nofun, nofun⟩
  | ok table =>
    constructor
    · rintro ⟨⟩
      exact ⟨table, rfl, rfl⟩
    · rintro ⟨_, ⟨⟩, rfl⟩
      rfl

lemma Card.shape_new {memory : Memory} {layout : TableLayout} {bits : ℕ} {card : Card}
    (h : Card.new memory layout bits = .ok card) (bank : Bank) :
    (card.state.bank bank).entries = layout.entries ∧ (card.state.bank bank).bits = bits := by
  obtain ⟨table, htable, rfl⟩ := Card.new_eq_ok_iff.mp h
  obtain ⟨hbits, hentries⟩ := table.sameShape_setAll fun _ => .drop
  obtain ⟨htableEntries, htableBits⟩ := ColourTable.alloc_shape htable
  cases bank <;> exact ⟨hentries.trans htableEntries, hbits.trans htableBits⟩

lemma Card.exists_forConfiguration {memory : Memory} {config : Configuration} {table : ColourTable}
    (h : ColourTable.forConfiguration memory config = .ok table) :
    ∃ card, Card.forConfiguration memory config = .ok card :=
  ⟨_, Card.new_eq_ok_iff.mpr ⟨table, h, rfl⟩⟩

lemma Card.shaped_forConfiguration {memory : Memory} {config : Configuration} {card : Card}
    (h : Card.forConfiguration memory config = .ok card) : card.state.Shaped config where
  layout_eq := by
    obtain ⟨table, -, rfl⟩ := Card.new_eq_ok_iff.mp h
    rfl
  entries_eq bank := (Card.shape_new h bank).1
  bits_eq bank := (Card.shape_new h bank).2

end PacketSteering
