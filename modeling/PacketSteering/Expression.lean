import PacketSteering.Fault
import PacketSteering.Filter

/-!
# Steering expressions

The conditions under which packets are steered: terms on single inputs, partial expressions over
all inputs, and stream expressions put together from partial ones.
-/

namespace PacketSteering

/-!
## Steering terms

A term is the three-valued state of one steering condition: the input has to be present, it has to
be absent, or it takes no part.
-/

/-- The state of a single steering condition. -/
inductive Term
  /-- The condition holds when the input is present. -/
  | assert
  /-- The condition holds when the input is absent. -/
  | negate
  /-- The input takes no part in the condition. -/
  | dontCare
  deriving DecidableEq, Inhabited

namespace Term

/-- A term holds for an input that is present, or is not; a term that does not care never holds. -/
def holds : Term → (present : Bool) → Bool
  | assert, present => present
  | negate, present => !present
  | dontCare, _ => false

/-- The one-character text of a term. -/
def text : Term → String
  | assert => "+"
  | negate => "!"
  | dontCare => "*"

/-- The term whose text is the given character. -/
def ofChar? : Char → Option Term
  | '+' => some assert
  | '!' => some negate
  | '*' => some dontCare
  | _ => none

end Term

/-!
## Partial expressions

A partial expression has a term for every filter, interface, HLB bit and hash bucket, and holds
when at least one of its terms does. Filters are numbered by virtual slot.
-/

/-- A term for every value of every steering dimension. -/
structure PartialExpression where
  filters : Vector Term filterCount
  interfaces : Vector Term interfaceCount
  hlb : Vector Term hlbBitCount
  hlbHash : Vector Term hashBucketLimit
  deriving DecidableEq

/-- The dimensions that an expression can speak of. -/
inductive Dimension
  | filter
  | interface
  | hlbBit
  | hlbBucket
  deriving DecidableEq

namespace Dimension

/-- The number of values of a dimension. -/
def size : Dimension → Nat
  | filter => filterCount
  | interface => interfaceCount
  | hlbBit => hlbBitCount
  | hlbBucket => hashBucketLimit

/-- The fault of a value that a dimension does not have. -/
def outOfRange : Dimension → Nat → Fault
  | filter => .filterSlot
  | interface => .interface
  | hlbBit => .hlbBit
  | hlbBucket => .hlbBucket

end Dimension

namespace PartialExpression

/-- The expression whose terms all do not care. -/
def blank : PartialExpression where
  filters := Vector.replicate _ .dontCare
  interfaces := Vector.replicate _ .dontCare
  hlb := Vector.replicate _ .dontCare
  hlbHash := Vector.replicate _ .dontCare

instance : Inhabited PartialExpression := ⟨blank⟩

/-- The terms of one dimension. -/
def terms (expression : PartialExpression) : (dim : Dimension) → Vector Term dim.size
  | .filter => expression.filters
  | .interface => expression.interfaces
  | .hlbBit => expression.hlb
  | .hlbBucket => expression.hlbHash

/-- The expression with the terms of one dimension replaced. -/
def withTerms (expression : PartialExpression) :
    (dim : Dimension) → Vector Term dim.size → PartialExpression
  | .filter, terms => { expression with filters := terms }
  | .interface, terms => { expression with interfaces := terms }
  | .hlbBit, terms => { expression with hlb := terms }
  | .hlbBucket, terms => { expression with hlbHash := terms }

/-- The term for one value of a dimension. -/
def term (expression : PartialExpression) (dim : Dimension) (index : Nat) : Except Fault Term :=
  if h : index < dim.size then .ok (expression.terms dim)[index]
  else .error (dim.outOfRange index)

/-- Sets the term for one value of a dimension. -/
def setTerm (expression : PartialExpression) (dim : Dimension) (index : Nat) (term : Term) :
    Except Fault PartialExpression :=
  if h : index < dim.size then
    .ok (expression.withTerms dim ((expression.terms dim).set index term))
  else .error (dim.outOfRange index)

/-- Whether no term of any dimension takes part. -/
def isDontCare (expression : PartialExpression) : Bool :=
  (expression.filters.toList ++ expression.interfaces.toList ++ expression.hlb.toList ++
    expression.hlbHash.toList).all (· == .dontCare)

/-- Whether some term on the HLB outcome holds. Discrete bits are judged by their own terms, and a
hash by the terms of the buckets there are. -/
def holdsForHlb (expression : PartialExpression) : HlbOutcome → Bool
  | .bits value =>
    Nat.any hlbBitCount fun i _ => expression.hlb[i].holds (value.toNat.testBit i)
  | .hash bucket buckets =>
    Nat.any hashBucketLimit fun i _ =>
      decide (i < buckets.toNat) && expression.hlbHash[i].holds (i == bucket.toNat)

/-- Whether the expression holds for a key whose hits are numbered by virtual slot. -/
def holds (expression : PartialExpression) (key : TableKey) : Bool :=
  if expression.isDontCare then false
  else
    (Nat.any filterCount fun i _ => expression.filters[i].holds (key.hit i)) ||
      (Nat.any interfaceCount fun i _ =>
        expression.interfaces[i].holds (i == key.interface.toNat)) ||
        expression.holdsForHlb key.hlb

/-- The texts of a row of terms, one after the other. -/
def termsText {n : Nat} (terms : Vector Term n) : String :=
  String.join (terms.toList.map Term.text)

/-- The text of an expression, dimension by dimension. -/
def text (expression : PartialExpression) : String :=
  "filt=" ++ termsText expression.filters ++ " if=" ++ termsText expression.interfaces ++
    " hlb=" ++ termsText expression.hlb ++ " hash=" ++ termsText expression.hlbHash

end PartialExpression

/-!
## Stream expressions

The condition under which a packet goes to one receive stream: every partial expression it
requires holds, and none that it excludes does. An expression without members never holds.
-/

/-- A handle on a partial expression of a configuration. -/
structure PartialId where
  index : Nat
  deriving DecidableEq

/-- The text of a handle. -/
def PartialId.text (id : PartialId) : String :=
  "p" ++ toString id.index

/-- The partial expressions that have to hold and those that must not. -/
structure StreamExpression where
  positive : List PartialId
  negated : List PartialId
  deriving DecidableEq

namespace StreamExpression

/-- The expression without members. -/
def never : StreamExpression := ⟨[], []⟩

instance : Inhabited StreamExpression := ⟨never⟩

/-- Whether the expression has no members. -/
def isEmpty (expression : StreamExpression) : Bool :=
  expression.positive.isEmpty && expression.negated.isEmpty

/-- Adds a member: one that must not hold if inverted, and one that has to hold otherwise. -/
def add (expression : StreamExpression) (id : PartialId) (invert : Bool) : StreamExpression :=
  if invert then { expression with negated := expression.negated ++ [id] }
  else { expression with positive := expression.positive ++ [id] }

/-- Whether a member holds; a handle without a partial expression does not. -/
def memberHolds (partials : Array PartialExpression) (key : TableKey) (id : PartialId) : Bool :=
  match partials[id.index]? with
  | some expression => expression.holds key
  | none => false

/-- Whether the expression holds for a key whose hits are numbered by virtual slot. -/
def holdsVirtual (expression : StreamExpression) (partials : Array PartialExpression)
    (key : TableKey) : Bool :=
  !expression.isEmpty && expression.positive.all (memberHolds partials key) &&
    !expression.negated.any (memberHolds partials key)

/-- Whether the expression holds for a key whose hits are numbered by physical slot. -/
def holds (expression : StreamExpression) (partials : Array PartialExpression) (slots : SlotMap)
    (key : TableKey) : Bool :=
  expression.holdsVirtual partials (slots.renumber key)

/-- The text of an expression: its members with an exclamation mark before each inverted one. -/
def text (expression : StreamExpression) : String :=
  if expression.isEmpty then "never"
  else
    " & ".intercalate
      (expression.positive.map PartialId.text ++
        expression.negated.map fun id => "!" ++ id.text)

end StreamExpression

end PacketSteering
