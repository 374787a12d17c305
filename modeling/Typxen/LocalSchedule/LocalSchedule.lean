import Typxen.Protocol.Verifier

/-! # Schedules in memory

`typx_local_schedule.c`. The runner is a function of the verified schedule,
as behind `run_verified`. -/

namespace Typxen.LocalSchedule

open Interaction Protocol ByteString

/-- `typx_local_schedule_blob_t`. -/
structure Blob where
  data : List UInt8
  size : UInt64
  size_eq : size.toNat = data.length

/-- `typx_local_schedule_result_t`. -/
structure Result where
  executionStarted : Bool
  protocolError : ProtocolError
  executorError : ExecutorError
  deriving DecidableEq, Repr

def readMemory (memory : Blob) (offset : UInt64) (length : Nat) :
    Option (Vector UInt8 length) :=
  if offset > memory.size || length > (memory.size - offset).toNat then
    none
  else
    some (block memory.data offset.toNat length)

def memoryReader (memory : Blob) : Reader where
  sizeBytes := memory.size
  readAt offset length := return readMemory memory offset length
  quiet _ _ := Program.onlyCalls_done _

@[simp] theorem memoryReader_sizeBytes (memory : Blob) :
    (memoryReader memory).sizeBytes = memory.size := rfl

@[simp] theorem memoryReader_readAt (memory : Blob) (offset : UInt64)
    (length : Nat) :
    (memoryReader memory).readAt offset length =
      .done (readMemory memory offset length) := rfl

def typxLocalScheduleVerifyAndRun (blob : Blob) (limits : Limits)
    (runVerified : VerifiedSchedule → Firmware ExecutorError) :
    Firmware Result := do
  if blob.size == 0 then
    return ⟨false, .headerInvalid, .notVerified⟩
  else
    match ← typxProtocolV1Verify (memoryReader blob) limits with
    | .error error => return ⟨false, error, .notVerified⟩
    | .ok schedule =>
        let executorError ← runVerified schedule
        return ⟨true, .ok, executorError⟩

end Typxen.LocalSchedule
