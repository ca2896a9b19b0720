import PacketSteering.Text

/-!
# Values on the wire

The values that packet headers hold: addresses, flags and protocol numbers, with their text and
their bytes in the order of transmission.
-/

namespace PacketSteering

/-!
## Link-layer addresses

Six bytes, written as hexadecimal octets separated by colons. An address also serves as the mask
of another one.
-/

/-- A link-layer address. -/
structure Mac where
  bytes : Vector UInt8 6
  deriving DecidableEq

namespace Mac

/-- The address of every station, and the mask that compares every bit. -/
def broadcast : Mac := ⟨Vector.replicate 6 255⟩

/-- The address with every bit clear, and the mask that compares nothing. -/
def zero : Mac := ⟨Vector.replicate 6 0⟩

instance : Inhabited Mac := ⟨zero⟩

/-- The bits that two addresses share; masking an address keeps the bits its mask claims. -/
instance : AndOp Mac where
  and address mask := ⟨Vector.zipWith (· &&& ·) address.bytes mask.bytes⟩

/-- The address as one number, first byte most significant; addresses are ordered by it. -/
def toNat (address : Mac) : Nat :=
  address.bytes.toList.foldl (fun acc b => 256 * acc + b.toNat) 0

/-- The address as six two-digit upper-case octets. -/
def text (address : Mac) : String :=
  ":".intercalate (address.bytes.toList.map fun b => Hex.upperText 2 b.toNat)

/-- Addresses in increasing order; equal ones stay. -/
def sort (addresses : List Mac) : List Mac :=
  addresses.mergeSort fun a b => a.toNat ≤ b.toNat

/-- The address with its kind named, for diagnostics. -/
def labelled (address : Mac) : String :=
  "MacAddr(" ++ address.text ++ ")"

/-- Why a text is not a link-layer address. -/
inductive ReadError
  /-- A part between colons is not a hexadecimal octet. -/
  | badOctet (part : String)
  /-- Every part is an octet, but there are not six of them. -/
  | wrongCount (count : Nat)
  deriving DecidableEq

/-- The wording of a refusal. -/
def ReadError.message : ReadError → String
  | badOctet part => "bad octet: " ++ part
  | wrongCount count => "incorrect number of bytes: " ++ toString count

/-- The octet that one part of the text stands for. -/
def readPart (part : List Char) : Except ReadError UInt8 :=
  match Numeral.readOctet 16 part with
  | .ok b => .ok b
  | .error _ => .error (.badOctet (String.ofList part))

/-- Reads an address. The octets are read before they are counted, and the first part that is none
is the one reported. -/
def read (text : String) : Except ReadError Mac := do
  let octets ← (text.toList.splitOn ':').mapM readPart
  if h : octets.length = 6 then
    return ⟨⟨octets.toArray, by simpa using h⟩⟩
  else
    throw (.wrongCount octets.length)

end Mac

/-!
## Network addresses

Four bytes, written as decimal octets separated by dots. An address also serves as the mask of
another one.
-/

/-- An address of version four of the internet protocol. -/
structure Ipv4 where
  bytes : Vector UInt8 4
  deriving DecidableEq

namespace Ipv4

/-- The address with every bit set, and the mask that compares every bit. -/
def broadcast : Ipv4 := ⟨Vector.replicate 4 255⟩

/-- The address with every bit clear, and the mask that compares nothing. -/
def zero : Ipv4 := ⟨Vector.replicate 4 0⟩

instance : Inhabited Ipv4 := ⟨zero⟩

/-- The bits that two addresses share; masking an address keeps the bits its mask claims. -/
instance : AndOp Ipv4 where
  and address mask := ⟨Vector.zipWith (· &&& ·) address.bytes mask.bytes⟩

/-- The address as one number, first byte most significant; addresses are ordered by it. -/
def toNat (address : Ipv4) : Nat :=
  address.bytes.toList.foldl (fun acc b => 256 * acc + b.toNat) 0

/-- The address as four decimal octets. -/
def text (address : Ipv4) : String :=
  ".".intercalate (address.bytes.toList.map fun b => toString b.toNat)

/-- Addresses in increasing order; equal ones stay. -/
def sort (addresses : List Ipv4) : List Ipv4 :=
  addresses.mergeSort fun a b => a.toNat ≤ b.toNat

/-- The address with its kind named, for diagnostics. -/
def labelled (address : Ipv4) : String :=
  "Ipv4Addr(" ++ address.text ++ ")"

/-- Why a text is not a network address. -/
inductive ReadError
  /-- A part between dots is not a decimal octet. -/
  | badOctet (cause : NumeralError)
  /-- Every part is an octet, but there are not four of them. -/
  | malformed (text : String)
  deriving DecidableEq

/-- The wording of a refusal. -/
def ReadError.message : ReadError → String
  | badOctet cause => cause.message
  | malformed text => "malformed ip: " ++ text

/-- The octet that one part of the text stands for. -/
def readPart (part : List Char) : Except ReadError UInt8 :=
  (Numeral.readOctet 10 part).mapError .badOctet

/-- Reads an address. The octets are read before they are counted, and the first part that is none
is the one reported. -/
def read (text : String) : Except ReadError Ipv4 := do
  let octets ← (text.toList.splitOn '.').mapM readPart
  if h : octets.length = 4 then
    return ⟨⟨octets.toArray, by simpa using h⟩⟩
  else
    throw (.malformed text)

end Ipv4

/-!
## TCP flags

The eight control bits of a TCP header, written as the names of the set bits with bars in between.
A bit pattern may also be read from hexadecimal digits after `0x`.
-/

/-- The control bits of a TCP header. -/
structure TcpFlags where
  bits : UInt8
  deriving DecidableEq, Inhabited

namespace TcpFlags

/-- No bit set. -/
def none : TcpFlags := ⟨0⟩

/-- Every bit set. -/
def all : TcpFlags := ⟨255⟩

/-- The flags set in both of two sets. -/
instance : AndOp TcpFlags where
  and flags mask := ⟨flags.bits &&& mask.bits⟩

/-- The names of the flags, each with its bit. -/
def names : List (String × UInt8) :=
  [("FIN", 0x01), ("SYN", 0x02), ("RST", 0x04), ("PSH", 0x08), ("ACK", 0x10), ("URG", 0x20),
    ("ECE", 0x40), ("CWR", 0x80)]

/-- The names of the flags that are set, from the lowest bit up. -/
def text (flags : TcpFlags) : String :=
  " | ".intercalate ((names.filter fun entry => flags.bits &&& entry.2 ≠ 0).map Prod.fst)

/-- The flags with their kind named, for diagnostics; an empty set shows its bits. -/
def labelled (flags : TcpFlags) : String :=
  if flags.bits = 0 then "TcpFlags(0x0)" else "TcpFlags(" ++ flags.text ++ ")"

/-- The bits that one part of a flag text stands for: digits after `0x`, or the exact name of a
flag. -/
def readPart? : List Char → Option UInt8
  | '0' :: 'x' :: digits => (Numeral.readOctet 16 digits).toOption
  | name => names.lookup (String.ofList name)

/-- The bits of all parts together; every part has to stand for something. -/
def readParts? : List (List Char) → Option UInt8
  | [] => some 0
  | part :: parts => do
    let bits ← readPart? (Text.trim part)
    let rest ← readParts? parts
    return bits ||| rest

/-- Reads a set of flags. A blank text is the empty set. -/
def read? (text : String) : Option TcpFlags :=
  if (Text.trim text.toList).isEmpty then some none
  else (readParts? (text.toList.splitOn '|')).map TcpFlags.mk

end TcpFlags

/-!
## Internet protocol numbers

The protocol byte of a network header, with names for the three protocols whose headers a filter
can compare further.
-/

/-- The tag protocol identifier of a VLAN tag, which a VLAN filter always compares. -/
def etherTypeVlan : UInt16 := 0x8100

/-- A transport protocol as numbered in the network header. -/
inductive IpProtocol
  | icmp
  | tcp
  | udp
  | other (number : UInt8)
  deriving DecidableEq, Inhabited

namespace IpProtocol

/-- The number of a protocol. -/
def toByte : IpProtocol → UInt8
  | icmp => 1
  | tcp => 6
  | udp => 17
  | other number => number

/-- The protocol of a number; a number with a name gets its name. -/
def ofByte (number : UInt8) : IpProtocol :=
  if number = 1 then icmp
  else if number = 6 then tcp
  else if number = 17 then udp
  else other number

/-- The name of a protocol, or its number if it has none. -/
def text : IpProtocol → String
  | icmp => "ICMP"
  | tcp => "TCP"
  | udp => "UDP"
  | other number => toString number.toNat

end IpProtocol

/-!
## Byte strings

How values lie on the wire, most significant byte first, and how many leading bytes of a string
matter when its zeros do not.
-/

/-- Types with a fixed layout on the wire. -/
class WireBytes (α : Type) where
  /-- The bytes of a value in the order of transmission. -/
  bytes : α → List UInt8

instance : WireBytes UInt8 where
  bytes b := [b]

instance : WireBytes UInt16 where
  bytes w := [(w >>> 8).toUInt8, w.toUInt8]

instance : WireBytes UInt32 where
  bytes w := [(w >>> 24).toUInt8, (w >>> 16).toUInt8, (w >>> 8).toUInt8, w.toUInt8]

instance : WireBytes Mac where
  bytes address := address.bytes.toList

instance : WireBytes Ipv4 where
  bytes address := address.bytes.toList

instance : WireBytes TcpFlags where
  bytes flags := [flags.bits]

namespace Bytes

/-- The position just past the last byte that is not zero. -/
def extent : List UInt8 → Nat
  | [] => 0
  | b :: rest => if extent rest = 0 ∧ b = 0 then 0 else extent rest + 1

/-- The word of four bytes, most significant first. -/
def word (a b c d : UInt8) : UInt32 :=
  UInt32.ofNat (a.toNat <<< 24 + b.toNat <<< 16 + c.toNat <<< 8 + d.toNat)

/-- The byte of a word that comes after a number of others, most significant first. -/
def ofWord (word : UInt32) (position : Nat) : UInt8 :=
  (word >>> UInt32.ofNat (24 - 8 * position)).toUInt8

/-- The byte at a position of a byte string that is followed by zeros. -/
def padded (bytes : Array UInt8) (i : Nat) : UInt8 :=
  bytes.getD i 0

end Bytes

end PacketSteering
