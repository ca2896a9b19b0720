/-!
# Documents

Values of the library are exchanged as documents: trees of records, lists, texts, numbers and
truth values. A record may be given as the list of its fields in order. A choice between named
variants is a text for a variant without content, and otherwise a record whose only entry has the
variant's name.
-/

namespace PacketSteering

/-- A tree of named and listed values. -/
inductive Document
  | null
  | flag (value : Bool)
  | number (value : Int)
  | text (value : String)
  | list (items : List Document)
  | record (entries : List (String × Document))

instance : Inhabited Document := ⟨.null⟩

/-- Types whose values can be written as documents. -/
class ToDocument (α : Type) where
  document : α → Document

/-- Types whose values can be read from documents. -/
class OfDocument (α : Type) where
  ofDocument? : Document → Option α

export ToDocument (document)

namespace Document

/-- Reads a value from a document. -/
def read? {α : Type} [OfDocument α] (source : Document) : Option α :=
  OfDocument.ofDocument? source

/-! ## Numbers, texts and lists -/

/-- The number of a document, if it is not negative and below a bound. -/
def natBelow? (bound : Nat) : Document → Option Nat
  | number (.ofNat n) => if n < bound then some n else none
  | _ => none

/-- A number that counts or names something, which has at most 64 bits. -/
def size? (source : Document) : Option Nat :=
  source.natBelow? UInt64.size

/-- The document of a number. -/
def ofNat (n : Nat) : Document :=
  number n

/-- Reads every document of a list; one that cannot be read spoils the list. -/
def readAll? {α : Type} (item? : Document → Option α) : List Document → Option (List α)
  | [] => some []
  | item :: rest => do
    let value ← item? item
    let values ← readAll? item? rest
    return value :: values

instance : ToDocument Nat where
  document := ofNat

instance : OfDocument Nat where
  ofDocument? := size?

instance : ToDocument UInt8 where
  document b := ofNat b.toNat

instance : OfDocument UInt8 where
  ofDocument? source := (source.natBelow? UInt8.size).map UInt8.ofNat

instance : ToDocument UInt16 where
  document w := ofNat w.toNat

instance : OfDocument UInt16 where
  ofDocument? source := (source.natBelow? UInt16.size).map UInt16.ofNat

instance : ToDocument UInt32 where
  document w := ofNat w.toNat

instance : OfDocument UInt32 where
  ofDocument? source := (source.natBelow? UInt32.size).map UInt32.ofNat

instance : ToDocument Bool where
  document := flag

instance : OfDocument Bool where
  ofDocument?
    | flag value => some value
    | _ => none

instance : ToDocument String where
  document := text

instance : OfDocument String where
  ofDocument?
    | text value => some value
    | _ => none

instance {α : Type} [ToDocument α] : ToDocument (List α) where
  document values := list (values.map document)

instance {α : Type} [OfDocument α] : OfDocument (List α) where
  ofDocument?
    | list items => readAll? read? items
    | _ => none

instance {α : Type} {n : Nat} [ToDocument α] : ToDocument (Vector α n) where
  document values := document values.toList

instance {α : Type} {n : Nat} [OfDocument α] : OfDocument (Vector α n) where
  ofDocument? source := do
    let values : List α ← source.read?
    if h : values.length = n then
      return ⟨values.toArray, by simpa using h⟩
    else
      none

instance {α : Type} [ToDocument α] : ToDocument (Array α) where
  document values := document values.toList

instance {α : Type} [ToDocument α] : ToDocument (Option α) where
  document
    | some value => document value
    | none => null

/-! ## Records -/

/-- The entry of a record under a name. -/
def entry? (name : String) : Document → Option Document
  | record entries => entries.lookup name
  | _ => none

/-- The entries of a record under the given names, in the order of the names. -/
def entries? (source : Document) : (names : List String) → Option (List Document)
  | [] => some []
  | name :: rest => do
    let content ← source.entry? name
    let contents ← source.entries? rest
    return content :: contents

/-- The contents of the named fields, in the order of the names. Entries of other names are
ignored in a record; a list has to have exactly one item for each name. -/
def fields? (names : List String) : Document → Option (List Document)
  | list items => if items.length = names.length then some items else none
  | source => source.entries? names

/-! ## Variants -/

/-- The name of a variant and its content, if it has any. -/
def variant? : Document → Option (String × Option Document)
  | text name => some (name, none)
  | record [(name, content)] => some (name, some content)
  | _ => none

/-- Whether a variant has no content, which may also be written as an empty one. -/
def isEmptyContent : Option Document → Bool
  | none => true
  | some null => true
  | some _ => false

/-- Reads a choice between variants without content from a table of their names. -/
def choice? {α : Type} (names : List (String × α)) (source : Document) : Option α := do
  let (name, content) ← source.variant?
  let value ← names.lookup name
  if isEmptyContent content then some value else none

/-- A variant with content. -/
def variant (name : String) (content : Document) : Document :=
  record [(name, content)]

end Document

end PacketSteering
