/-!
# Faults and failures

What an operation reports when it has no result, and which requests for memory are granted.
-/

namespace PacketSteering

/-!
## Faults

What can be wrong with a description of steering, or with the loading of one. A faulty operation
changes nothing.
-/

/-- The causes that an operation reports. -/
inductive Fault
  /-- There is no such filter slot. -/
  | filterSlot (slot : Nat)
  /-- There is no such interface. -/
  | interface (index : Nat)
  /-- There is no such HLB bit. -/
  | hlbBit (index : Nat)
  /-- There is no such HLB hash bucket. -/
  | hlbBucket (index : Nat)
  /-- There is no such receive stream. -/
  | stream (index : Nat)
  /-- A configuration cannot have this many receive streams. -/
  | streamCount (count : Nat)
  /-- The configuration did not issue this partial expression. -/
  | partialMissing (index : Nat)
  /-- The field exists, but not for the current layers or mode of the rule. -/
  | wrongMode (field needs : String)
  /-- Raw value and mask have different lengths or exceed the match depth. -/
  | rawLength (value mask : Nat)
  /-- The field cannot take this value. -/
  | badValue (field : String) (value : Nat)
  /-- The staging slot cannot itself be replaced. -/
  | swapTarget (slot : Nat)
  /-- This many bytes were not to be had. -/
  | noMemory (bytes : Nat)
  deriving DecidableEq

namespace Fault

/-- The name of the kind of fault. -/
def name : Fault → String
  | filterSlot _ => "BadFilterSlot"
  | interface _ => "BadInterface"
  | hlbBit _ => "BadHlb"
  | hlbBucket _ => "BadHlbBucket"
  | stream _ => "BadStream"
  | streamCount _ => "BadStreamCount"
  | partialMissing _ => "PartialNotFound"
  | wrongMode _ _ => "WrongMode"
  | rawLength _ _ => "RawLength"
  | badValue _ _ => "BadValue"
  | swapTarget _ => "SwapTarget"
  | noMemory _ => "NoMemory"

/-- The wording of a fault. -/
def message : Fault → String
  | filterSlot slot => s!"filter slot {slot} out of range"
  | interface index => s!"interface {index} out of range"
  | hlbBit index => s!"HLB bit {index} out of range"
  | hlbBucket index => s!"HLB hash bucket {index} out of range"
  | stream index => s!"receive stream {index} out of range"
  | streamCount count => s!"invalid receive stream count {count}"
  | partialMissing index => s!"partial expression {index} not found"
  | wrongMode field needs => s!"{field} requires {needs}"
  | rawLength value mask => s!"bad raw filter lengths: value {value}, mask {mask}"
  | badValue field value => s!"invalid {field}: {value}"
  | swapTarget slot => s!"slot {slot} cannot be swapped"
  | noMemory bytes => s!"failed to allocate {bytes} bytes"

/-- The error number for running out of memory. -/
def outOfMemory : Nat := 12

/-- The error number for an argument that makes no sense. -/
def invalidArgument : Nat := 22

/-- The error number under which a fault is reported to an operating system. -/
def errno : Fault → Nat
  | noMemory _ => outOfMemory
  | _ => invalidArgument

end Fault

/-!
## Memory

Which requests for memory are granted, and the ways in which an operation that needs memory can
fail.
-/

/-- Which requests for memory are granted. No request for more than half of the 64-bit address
space is. -/
structure Memory where
  grants : (bytes : Nat) → Bool
  refuses_huge : ∀ bytes, 1 <<< 63 - 1 < bytes → grants bytes = false

namespace Memory

/-- The memory that grants requests up to a limit. -/
def ofLimit (limit : Nat) (limit_le : limit ≤ 1 <<< 63 - 1) : Memory where
  grants bytes := decide (bytes ≤ limit)
  refuses_huge bytes huge := by simpa using Nat.lt_of_le_of_lt limit_le huge

/-- The memory that grants every request that fits into the address space of a process, which has
47 bits. -/
def addressSpace : Memory :=
  ofLimit (1 <<< 47 - 1) (by decide)

end Memory

/-- Why an operation that needs memory has no result. -/
inductive Failure
  /-- The operation reports a fault. -/
  | fault (cause : Fault)
  /-- The number of bytes to report does not fit the 64-bit arithmetic of sizes, and the operation
  breaks off. -/
  | sizeOverflow
  deriving DecidableEq

end PacketSteering
