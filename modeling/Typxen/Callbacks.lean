import Typxen.Foundation.Monitor

/-! # Error codes and external callbacks

The components never touch hardware directly. Every reader, SHA-256 provider,
storage and executor interface of the C code is a table of function pointers;
calling one of those pointers is one call of the signature `callbacks`, and
whatever stands behind the pointer is the environment. Pointers that the code
requires to be non-null are not optional here: a table with a null entry is
not a value of these types. -/

namespace Typxen

/-- `typx_protocol_error_t`. -/
inductive ProtocolError
  | ok
  | readerError
  | headerInvalid
  | versionIncompatible
  | payloadSizeInvalid
  | actionCountMismatch
  | scheduleLimitExceeded
  | checksumMismatch
  | flagsInvalid
  | reservedFieldNonzero
  | jobIdInvalid
  | delayInvalid
  | modifierInvalid
  | keycodeUnsupported
  | sourceIndexInvalid
  | totalDurationInvalid
  | finalCleanupInvalid
  | notVerified
  | integerOverflow
  deriving DecidableEq, Repr

/-- `typx_executor_error_t`. -/
inductive ExecutorError
  | ok
  | notVerified
  | clockError
  | waitFailed
  | keyDownFailed
  | releaseFailed
  | stopped
  | protocolReadFailed
  | interruptedReset
  deriving DecidableEq, Repr

/-- `typx_terminal_status_t`. -/
inductive TerminalStatus
  | completed
  | aborted
  | error
  deriving DecidableEq, Repr

/-- One call through a function pointer, with its arguments. -/
inductive Callback
  /-- `typx_reader_t.read_at`. -/
  | readAt (offset : UInt64) (length : Nat)
  /-- `typx_sha256_provider_t.begin`, `update` and `finish`. -/
  | sha256Begin
  | sha256Update (data : List UInt8)
  | sha256Finish
  /-- `typx_upload_storage_t.erase`, `erase_range`, `write` and `read`. -/
  | erase
  | eraseRange (offset : UInt32) (length : Nat)
  | write (offset : UInt32) (data : List UInt8)
  | read (offset : UInt32) (length : Nat)
  /-- The entries of `typx_executor_io_t`. -/
  | nowUs
  | waitUs (delayUs : UInt32)
  | keyDown (modifier keycode : UInt8)
  | releaseAll
  | stopRequested
  | progress (sourceIndex completedRecords totalRecords : UInt32)
  | terminal (status : TerminalStatus) (error : ExecutorError)
      (protocolError : ProtocolError)
  deriving DecidableEq, Repr

/-- A call that fills a caller's buffer answers with the buffer, or with
nothing when it returns false. -/
@[reducible] def Callback.Answer : Callback → Type
  | .readAt _ length => Option (Vector UInt8 length)
  | .sha256Finish => Option (Vector UInt8 32)
  | .read _ length => Option (Vector UInt8 length)
  | .nowUs => UInt64
  | .progress _ _ _ => Unit
  | .terminal _ _ _ => Unit
  | _ => Bool

/-- The calls through `typx_executor_io_t`. -/
def Callback.isIo : Callback → Bool
  | .nowUs => true
  | .waitUs _ => true
  | .keyDown _ _ => true
  | .releaseAll => true
  | .stopRequested => true
  | .progress _ _ _ => true
  | .terminal _ _ _ => true
  | _ => false

@[reducible] def callbacks : Interaction.Signature where
  Call := Callback
  Answer := Callback.Answer

abbrev Firmware (α : Type) := Interaction.Program callbacks α

abbrev Quiet {α : Type} (program : Firmware α) : Prop :=
  Interaction.Program.OnlyCalls (S := callbacks)
    (fun call => call.isIo = false) program

/-! ## Calling the pointers -/

section Calls

open Interaction (Program)

def Sha256.begin : Firmware Bool := Program.call (S := callbacks) .sha256Begin

def Sha256.update (data : List UInt8) : Firmware Bool :=
  Program.call (S := callbacks) (.sha256Update data)

def Sha256.finish : Firmware (Option (Vector UInt8 32)) :=
  Program.call (S := callbacks) .sha256Finish

def Storage.erase : Firmware Bool := Program.call (S := callbacks) .erase

def Storage.eraseRange (offset : UInt32) (length : Nat) : Firmware Bool :=
  Program.call (S := callbacks) (.eraseRange offset length)

def Storage.write (offset : UInt32) (data : List UInt8) : Firmware Bool :=
  Program.call (S := callbacks) (.write offset data)

def Storage.read (offset : UInt32) (length : Nat) :
    Firmware (Option (Vector UInt8 length)) :=
  Program.call (S := callbacks) (.read offset length)

def Io.nowUs : Firmware UInt64 := Program.call (S := callbacks) .nowUs

def Io.waitUs (delayUs : UInt32) : Firmware Bool :=
  Program.call (S := callbacks) (.waitUs delayUs)

def Io.keyDown (modifier keycode : UInt8) : Firmware Bool :=
  Program.call (S := callbacks) (.keyDown modifier keycode)

def Io.releaseAll : Firmware Bool := Program.call (S := callbacks) .releaseAll

def Io.stopRequested : Firmware Bool :=
  Program.call (S := callbacks) .stopRequested

def Io.progress (sourceIndex completedRecords totalRecords : UInt32) :
    Firmware Unit :=
  Program.call (S := callbacks)
    (.progress sourceIndex completedRecords totalRecords)

def Io.terminal (status : TerminalStatus) (error : ExecutorError)
    (protocolError : ProtocolError) : Firmware Unit :=
  Program.call (S := callbacks) (.terminal status error protocolError)

variable {α : Type}

@[simp] theorem Sha256.begin_bind (next : Bool → Firmware α) :
    (Sha256.begin >>= next) = Program.ask (S := callbacks) .sha256Begin next := rfl

@[simp] theorem Sha256.update_bind (data : List UInt8)
    (next : Bool → Firmware α) :
    (Sha256.update data >>= next) =
      Program.ask (S := callbacks) (.sha256Update data) next := rfl

@[simp] theorem Sha256.finish_bind
    (next : Option (Vector UInt8 32) → Firmware α) :
    (Sha256.finish >>= next) =
      Program.ask (S := callbacks) .sha256Finish next := rfl

@[simp] theorem Storage.erase_bind (next : Bool → Firmware α) :
    (Storage.erase >>= next) = Program.ask (S := callbacks) .erase next := rfl

@[simp] theorem Storage.eraseRange_bind (offset : UInt32) (length : Nat)
    (next : Bool → Firmware α) :
    (Storage.eraseRange offset length >>= next) =
      Program.ask (S := callbacks) (.eraseRange offset length) next := rfl

@[simp] theorem Storage.write_bind (offset : UInt32) (data : List UInt8)
    (next : Bool → Firmware α) :
    (Storage.write offset data >>= next) =
      Program.ask (S := callbacks) (.write offset data) next := rfl

@[simp] theorem Storage.read_bind (offset : UInt32) (length : Nat)
    (next : Option (Vector UInt8 length) → Firmware α) :
    (Storage.read offset length >>= next) =
      Program.ask (S := callbacks) (.read offset length) next := rfl

@[simp] theorem Io.nowUs_bind (next : UInt64 → Firmware α) :
    (Io.nowUs >>= next) = Program.ask (S := callbacks) .nowUs next := rfl

@[simp] theorem Io.waitUs_bind (delayUs : UInt32) (next : Bool → Firmware α) :
    (Io.waitUs delayUs >>= next) =
      Program.ask (S := callbacks) (.waitUs delayUs) next := rfl

@[simp] theorem Io.keyDown_bind (modifier keycode : UInt8)
    (next : Bool → Firmware α) :
    (Io.keyDown modifier keycode >>= next) =
      Program.ask (S := callbacks) (.keyDown modifier keycode) next := rfl

@[simp] theorem Io.releaseAll_bind (next : Bool → Firmware α) :
    (Io.releaseAll >>= next) =
      Program.ask (S := callbacks) .releaseAll next := rfl

@[simp] theorem Io.stopRequested_bind (next : Bool → Firmware α) :
    (Io.stopRequested >>= next) =
      Program.ask (S := callbacks) .stopRequested next := rfl

@[simp] theorem Io.progress_bind
    (sourceIndex completedRecords totalRecords : UInt32)
    (next : Unit → Firmware α) :
    (Io.progress sourceIndex completedRecords totalRecords >>= next) =
      Program.ask (S := callbacks)
        (.progress sourceIndex completedRecords totalRecords) next := rfl

@[simp] theorem Io.terminal_bind (status : TerminalStatus)
    (error : ExecutorError) (protocolError : ProtocolError)
    (next : Unit → Firmware α) :
    (Io.terminal status error protocolError >>= next) =
      Program.ask (S := callbacks) (.terminal status error protocolError)
        next := rfl

end Calls

abbrev Event := Interaction.Event callbacks

abbrev Trace := Interaction.Trace callbacks

def Event.succeeded : Event → Bool
  | ⟨.readAt _ _, answer⟩ => answer.isSome
  | ⟨.sha256Begin, answer⟩ => answer
  | ⟨.sha256Update _, answer⟩ => answer
  | ⟨.sha256Finish, answer⟩ => answer.isSome
  | ⟨.erase, answer⟩ => answer
  | ⟨.eraseRange _ _, answer⟩ => answer
  | ⟨.write _ _, answer⟩ => answer
  | ⟨.read _ _, answer⟩ => answer.isSome
  | ⟨.waitUs _, answer⟩ => answer
  | ⟨.keyDown _ _, answer⟩ => answer
  | ⟨.releaseAll, answer⟩ => answer
  | _ => true

def Faulted (fault : Event → Prop) (trace : Trace) : Prop :=
  ∃ event ∈ trace, fault event

section Faults

variable {fault : Event → Prop}

@[simp] theorem faulted_nil : ¬Faulted fault [] := by
  simp [Faulted]

@[simp] theorem faulted_cons (event : Event) (trace : Trace) :
    Faulted fault (event :: trace) ↔ fault event ∨ Faulted fault trace := by
  simp [Faulted]

@[simp] theorem faulted_append (first second : Trace) :
    Faulted fault (first ++ second) ↔
      Faulted fault first ∨ Faulted fault second := by
  simp only [Faulted, List.mem_append]
  constructor
  · rintro ⟨event, member | member, faulty⟩
    · exact .inl ⟨event, member, faulty⟩
    · exact .inr ⟨event, member, faulty⟩
  · rintro (⟨event, member, faulty⟩ | ⟨event, member, faulty⟩)
    · exact ⟨event, .inl member, faulty⟩
    · exact ⟨event, .inr member, faulty⟩

end Faults

end Typxen
