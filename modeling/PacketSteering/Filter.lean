import PacketSteering.Rule.Edit
import PacketSteering.Rule.Text
import PacketSteering.TableLayout

/-!
# Filters and slot maps

The filters of a configuration, and the renumbering between the slots by which a configuration
speaks of them and those by which the card does.
-/

namespace PacketSteering

/-!
## Filters

A filter is a rule with the two slots that identify it: the virtual slot by which a configuration
addresses it, which never changes, and the physical slot that carries it on the card.
-/

/-- A rule, its slots, and whether it should be enabled. -/
structure Filter where
  virtualSlot : Nat
  physicalSlot : Nat
  enabled : Bool
  rule : Rule
  deriving DecidableEq

namespace Filter

/-- A disabled filter that matches every frame, its physical slot numbered as its virtual one. -/
def blank (slot : Nat) : Filter :=
  ⟨slot, slot, false, .any⟩

/-- The text of a filter. -/
def text (filter : Filter) : String :=
  s!"filter {filter.virtualSlot} (hw {filter.physicalSlot}) " ++
    (if filter.enabled then "on" else "off") ++ ": " ++ filter.rule.text

end Filter

/-!
## Slot maps

The renumbering of physical filter slots, by which the card reports hits, as the virtual slots
by which a configuration speaks of its filters.
-/

/-- The virtual slot that each physical slot carries. -/
structure SlotMap where
  virt : Vector Nat filterCount
  deriving DecidableEq

namespace SlotMap

/-- Every virtual slot in the physical slot of the same number. -/
def identity : SlotMap :=
  ⟨Vector.ofFn fun i => i.val⟩

/-- Records that a physical slot carries a virtual one; a slot that the card does not have is left
out. -/
def assign (slots : SlotMap) (filter : Filter) : SlotMap :=
  ⟨slots.virt.setIfInBounds filter.physicalSlot filter.virtualSlot⟩

/-- The map given by the physical slot of each filter. A physical slot that no filter claims keeps
its own number. -/
def ofFilters (filters : List Filter) : SlotMap :=
  filters.foldl assign identity

/-- The virtual slot that a physical slot carries, if the card has such a slot. -/
def virtual? (slots : SlotMap) (phys : Nat) : Option Nat :=
  slots.virt[phys]?

/-- The first physical slot that carries a virtual slot. -/
def physical? (slots : SlotMap) (virt : Nat) : Option (Fin filterCount) :=
  slots.virt.finIdxOf? virt

/-- Exchanges the physical slots of two virtual slots; if either has none, nothing happens. -/
def exchange (slots : SlotMap) (a b : Nat) : SlotMap :=
  match slots.physical? a, slots.physical? b with
  | some pa, some pb => ⟨slots.virt.swap pa pb⟩
  | _, _ => slots

/-- Renumbers a set of hits from physical to virtual slots: a virtual slot is hit when a physical
slot that carries it is. -/
def toVirtual (slots : SlotMap) (hits : UInt8) : UInt8 :=
  BitField.byte fun virt =>
    Nat.any filterCount fun phys _ => hits.toNat.testBit phys && slots.virt[phys] == virt

/-- Renumbers the hits of a key from physical to virtual slots. -/
def renumber (slots : SlotMap) (key : TableKey) : TableKey :=
  { key with filters := slots.toVirtual key.filters }

end SlotMap

end PacketSteering
