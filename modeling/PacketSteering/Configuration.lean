import PacketSteering.Expression

/-!
# Configurations

A configuration owns every filter of a card, the partial expressions, and one stream expression
per receive stream. Streams are tried in order and the first whose expression holds gets the
packet; a packet that no stream wants is dropped.
-/

namespace PacketSteering

/-- Everything that decides how a card steers. -/
structure Configuration where
  layout : TableLayout
  filters : Vector Filter filterCount
  partials : Array PartialExpression
  streams : Array StreamExpression
  deriving DecidableEq

namespace Configuration

/-- The configuration with every filter disabled and every stream empty, so that it drops
everything. -/
def new (layout : TableLayout) (streams : Nat) : Except Fault Configuration :=
  if streams = 0 ∨ streamLimit < streams then .error (.streamCount streams)
  else
    .ok {
      layout
      filters := Vector.ofFn fun slot => Filter.blank slot
      partials := #[]
      streams := Array.replicate streams .never }

/-- The width of an entry of the colour table. -/
def entryBits (config : Configuration) : Nat :=
  config.layout.entryBits config.streams.size

/-- The renumbering of physical slots that the filters give. -/
def slotMap (config : Configuration) : SlotMap :=
  .ofFilters config.filters.toList

/-! ## Filters -/

/-- The filter of a virtual slot. -/
def filter (config : Configuration) (slot : Nat) : Except Fault Filter :=
  if h : slot < filterCount then .ok config.filters[slot] else .error (.filterSlot slot)

/-- Replaces the filter of a virtual slot by what a change makes of it. -/
def modifyFilter (config : Configuration) (slot : Nat)
    (change : Filter → Except Fault Filter) : Except Fault Configuration :=
  if h : slot < filterCount then do
    let filter ← change config.filters[slot]
    return { config with filters := config.filters.set slot filter }
  else .error (.filterSlot slot)

/-- Chooses whether the filter of a virtual slot should be enabled. -/
def setEnabled (config : Configuration) (slot : Nat) (enabled : Bool) :
    Except Fault Configuration :=
  config.modifyFilter slot fun filter => .ok { filter with enabled }

/-- Takes one step of editing the rule of a virtual slot. -/
def editRule (config : Configuration) (slot : Nat) (edit : Rule.Edit) :
    Except Fault Configuration :=
  config.modifyFilter slot fun filter => do
    let rule ← filter.rule.apply edit
    return { filter with rule }

/-! ## Partial expressions -/

/-- Adds a partial expression whose terms all do not care, and issues its handle. -/
def addPartial (config : Configuration) : PartialId × Configuration :=
  (⟨config.partials.size⟩, { config with partials := config.partials.push .blank })

/-- The partial expression of a handle. -/
def partialOf (config : Configuration) (id : PartialId) : Except Fault PartialExpression :=
  match config.partials[id.index]? with
  | some expression => .ok expression
  | none => .error (.partialMissing id.index)

/-- Sets a term of the partial expression of a handle. The handle is checked before the term. -/
def setTerm (config : Configuration) (id : PartialId) (dim : Dimension) (index : Nat)
    (term : Term) : Except Fault Configuration := do
  let expression ← config.partialOf id
  let expression ← expression.setTerm dim index term
  return { config with partials := config.partials.setIfInBounds id.index expression }

/-! ## Streams -/

/-- The expression of a stream. -/
def stream (config : Configuration) (index : Nat) : Except Fault StreamExpression :=
  match config.streams[index]? with
  | some expression => .ok expression
  | none => .error (.stream index)

/-- Adds a partial expression to the expression of a stream, inverted or not. The handle is
checked before the stream. -/
def addToStream (config : Configuration) (index : Nat) (id : PartialId) (invert : Bool) :
    Except Fault Configuration := do
  let _ ← config.partialOf id
  let expression ← config.stream index
  return { config with streams := config.streams.setIfInBounds index (expression.add id invert) }

/-- Removes every member from the expression of a stream. -/
def clearStream (config : Configuration) (index : Nat) : Except Fault Configuration := do
  let _ ← config.stream index
  return { config with streams := config.streams.setIfInBounds index .never }

/-! ## Steering -/

/-- The stream that gets a packet whose key is numbered by virtual slot. -/
def steerVirtual (config : Configuration) (key : TableKey) : Option Nat :=
  config.streams.findIdx? fun expression => expression.holdsVirtual config.partials key

/-- The stream that gets a packet whose key is numbered by physical slot, or none for a drop. -/
def steer (config : Configuration) (slots : SlotMap) (key : TableKey) : Option Nat :=
  config.steerVirtual (slots.renumber key)

/-! ## Replacement -/

/-- The filters that stand in two slots. -/
def withFilters (config : Configuration) (a b : Fin filterCount) (atA atB : Filter) :
    Configuration :=
  { config with filters := (config.filters.set a atA a.isLt).set b atB b.isLt }

/-- Exchanges the physical slots of two virtual ones. -/
def swapPhysical (config : Configuration) (a b : Fin filterCount) : Configuration :=
  let fa := config.filters.get a
  let fb := config.filters.get b
  config.withFilters a b { fa with physicalSlot := fb.physicalSlot }
    { fb with physicalSlot := fa.physicalSlot }

/-- Exchanges the rules of two virtual slots, and whether they should be enabled, without touching
which slots they are. -/
def exchangeRules (config : Configuration) (a b : Fin filterCount) : Configuration :=
  let fa := config.filters.get a
  let fb := config.filters.get b
  config.withFilters a b { fa with rule := fb.rule, enabled := fb.enabled }
    { fb with rule := fa.rule, enabled := fa.enabled }

end Configuration

end PacketSteering
