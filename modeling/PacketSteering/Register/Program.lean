/-!
# Register programs and devices

What a driver does to a card, as a tree of register accesses that says nothing about the card, and
what comes of it on a device that takes the accesses.
-/

namespace PacketSteering

/-!
## Log messages

Messages by which a loader reports what it does, each at a level.
-/

namespace Log

/-- How much a message matters. -/
inductive Level
  | note
  | warn
  | error
  deriving DecidableEq, Inhabited

/-- The tag of a level. -/
def Level.text : Level → String
  | note => "[NOTE]"
  | warn => "[WARN]"
  | error => "[ERROR]"

/-- The name of a level in structured logs. -/
def Level.structuredName : Level → String
  | note => "INFO"
  | warn => "WARNING"
  | error => "ERROR"

/-- A message at its level. -/
structure Message where
  level : Level
  text : String
  deriving DecidableEq

/-- Where messages go. -/
inductive Sink
  /-- Messages are kept under the tag of their level. -/
  | tagged
  /-- Messages are kept under the structured name of their level. -/
  | structured
  /-- Messages are discarded. -/
  | discard
  deriving DecidableEq, Inhabited

/-- What a sink keeps of a message: the name of its level and its text. -/
def Sink.keep? (sink : Sink) (message : Message) : Option (String × String) :=
  match sink with
  | tagged => some (message.level.text, message.text)
  | structured => some (message.level.structuredName, message.text)
  | discard => none

end Log

/-!
## Register programs

What a driver does to a card is a finite tree of register accesses: after a read the program goes
on with the value that the card answered. A program may also leave messages on its way. It says
nothing about the card, so the same program can be run on any device, on one that answers as it
likes, and can be followed access by access.

### Order of effects

`Program.bind` puts one program after another and only ever touches the leaves of the first, so
the accesses and messages of a program come in the order in which they are written down.
-/

/-- A finite sequence of register accesses that depends on the values read, with a result. -/
inductive Program (α : Type) : Type
  | done (result : α)
  | read (offset : UInt32) (next : UInt32 → Program α)
  | write (offset value : UInt32) (next : Program α)
  | note (message : Log.Message) (next : Program α)

namespace Program

variable {α β γ : Type}

/-- Goes on with another program that depends on the result of the first. -/
def bind : Program α → (α → Program β) → Program β
  | done result, following => following result
  | read offset next, following => read offset fun value => (next value).bind following
  | write offset value next, following => write offset value (next.bind following)
  | note message next, following => note message (next.bind following)

@[simp] theorem bind_done (program : Program α) : program.bind done = program := by
  induction program with
  | done result => rfl
  | read offset next ih => simp only [bind, ih]
  | write offset value next ih => simp only [bind, ih]
  | note message next ih => simp only [bind, ih]

theorem bind_assoc (program : Program α) (first : α → Program β) (second : β → Program γ) :
    (program.bind first).bind second = program.bind fun result => (first result).bind second := by
  induction program with
  | done result => rfl
  | read offset next ih => simp only [bind, ih]
  | write offset value next ih => simp only [bind, ih]
  | note message next ih => simp only [bind, ih]

instance : Monad Program where
  pure := done
  bind := bind

instance : LawfulMonad Program :=
  LawfulMonad.mk' Program bind_done (fun _ _ => rfl) bind_assoc

/-- Runs a step for each element of a list, handing a state from one to the next. -/
def fold (step : γ → β → Program γ) : γ → List β → Program γ
  | state, [] => done state
  | state, x :: rest => (step state x).bind fun state => fold step state rest

/-- Runs a step for each element of a list. -/
def forEach (step : β → Program Unit) : List β → Program Unit
  | [] => done ()
  | x :: rest => (step x).bind fun _ => forEach step rest

/-- Reads a register a number of times, whatever it answers. -/
def readTimes (offset : UInt32) : Nat → Program Unit
  | 0 => done ()
  | n + 1 => read offset fun _ => readTimes offset n

/-- Leaves a message. -/
def log (level : Log.Level) (text : String) : Program Unit :=
  note ⟨level, text⟩ (done ())

end Program

/-!
## Devices

A device answers register accesses and changes its state by them. Running a program on a device
gives its result, the state it leaves behind and the messages it left. A device can be watched, so
that the accesses of a run are known in order.
-/

/-- A state machine behind a block of registers. -/
structure Device (σ : Type) where
  read : (offset : UInt32) → σ → UInt32 × σ
  write : (offset value : UInt32) → σ → σ

/-- What a run of a program gives. -/
structure Run (σ α : Type) where
  result : α
  state : σ
  log : Array Log.Message

namespace Program

variable {σ α : Type}

/-- Runs a program on a device, adding to the messages left before. -/
def runFrom (device : Device σ) : Program α → σ → Array Log.Message → Run σ α
  | done result, state, log => ⟨result, state, log⟩
  | read offset next, state, log =>
    match device.read offset state with
    | (value, state) => runFrom device (next value) state log
  | write offset value next, state, log => runFrom device next (device.write offset value state) log
  | note message next, state, log => runFrom device next state (log.push message)

theorem runFrom_bind {β : Type} (device : Device σ) (program : Program α)
    (following : α → Program β) (state : σ) (log : Array Log.Message) :
    runFrom device (program.bind following) state log =
      let first := runFrom device program state log
      runFrom device (following first.result) first.state first.log := by
  induction program generalizing state log with
  | done result => rfl
  | read offset next ih => exact ih _ _ _
  | write offset value next ih => exact ih _ _
  | note message next ih => exact ih _ _

/-- Runs a program on a device. -/
def run (device : Device σ) (program : Program α) (state : σ) : Run σ α :=
  runFrom device program state #[]

end Program

/-- One access to a register: a read with the value answered, or a write. -/
inductive Access
  | read (offset value : UInt32)
  | write (offset value : UInt32)
  deriving DecidableEq

namespace Access

/-- Whether an access is a write. -/
def isWrite : Access → Bool
  | read _ _ => false
  | write _ _ => true

end Access

/-- Accesses in order. -/
abbrev Trace : Type := Array Access

/-- A device together with the accesses made to it so far. -/
def Device.watched {σ : Type} (device : Device σ) : Device (σ × Trace) where
  read offset watched :=
    match watched with
    | (state, trace) =>
      match device.read offset state with
      | (value, state) => (value, state, trace.push (.read offset value))
  write offset value watched :=
    match watched with
    | (state, trace) => (device.write offset value state, trace.push (.write offset value))

end PacketSteering
