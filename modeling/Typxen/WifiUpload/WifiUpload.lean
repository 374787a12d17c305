import Typxen.Protocol.Verifier

/-! # The Wi-Fi upload

`typx_wifi_upload.c` and the chunk session of `chunk_handler`. An operation
takes the upload record and returns it with its error code; the storage
interface is the calls of `Storage`. -/

namespace Typxen.WifiUpload

open Interaction Protocol

def maxBytes : UInt32 := 512 * 1024
def chunkBytes : UInt32 := 4096
def maxChunks : UInt32 := 128

/-- `typx_upload_status_t`. -/
inductive UploadStatus
  | idle
  | receiving
  | verifying
  | ready
  | countdown
  | executing
  | stopping
  | stopped
  | completed
  | error
  | interruptedReset
  deriving DecidableEq, Repr

/-- `typx_upload_error_t`. -/
inductive UploadError
  | ok
  | invalidArgument
  | invalidState
  | oversized
  | jobMismatch
  | chunkCrcMismatch
  | chunkConflict
  | storageFailure
  | incomplete
  | sha256Mismatch
  | protocolRejected
  | hidNotConnected
  | hidSafetyPending
  | hidSafetyFailed
  deriving DecidableEq, Repr

/-- `typx_upload_hid_readiness_t`. -/
inductive HidReadiness
  | disconnected
  | pending
  | failed
  | ready
  deriving DecidableEq, Repr

/-- `typx_wifi_upload_t`, without the storage interface. -/
structure Upload where
  status : UploadStatus
  lastError : UploadError
  protocolError : ProtocolError
  executorError : ExecutorError
  jobId : Vector UInt8 16
  expectedSha256 : Vector UInt8 32
  expectedSize : UInt32
  receivedBytes : UInt32
  chunkLengths : Vector UInt16 128
  chunkCrc32 : Vector UInt32 128
  stopRequested : Bool
  completedRecords : UInt32
  currentSourceIndex : UInt32
  totalRecords : UInt32
  verifiedSchedule : VerifiedSchedule

/-- `memset(upload, 0, sizeof(*upload))`. -/
def Upload.zero : Upload where
  status := .idle
  lastError := .ok
  protocolError := .ok
  executorError := .ok
  jobId := Vector.replicate 16 0
  expectedSha256 := Vector.replicate 32 0
  expectedSize := 0
  receivedBytes := 0
  chunkLengths := Vector.replicate 128 0
  chunkCrc32 := Vector.replicate 128 0
  stopRequested := false
  completedRecords := 0
  currentSourceIndex := 0
  totalRecords := 0
  verifiedSchedule := VerifiedSchedule.zero

/-- `typx_upload_chunk_session_t`; the pointer to the upload is passed beside
it. -/
structure ChunkSession where
  sequence : UInt32
  offset : UInt32
  length : UInt32
  expectedCrc32 : UInt32
  runningCrc32 : UInt32
  received : UInt32
  repeated : Bool
  conflict : Bool
  deriving DecidableEq, Repr

def ChunkSession.zero : ChunkSession := ⟨0, 0, 0, 0, 0, 0, false, false⟩

def sameJob (upload : Upload) (jobId : Vector UInt8 16) : Bool :=
  upload.jobId == jobId

/-! ## CRC-32 -/

def crc32Bit (crc : UInt32) : UInt32 :=
  (crc >>> 1) ^^^ (0xedb88320 &&& (0 - (crc &&& 1)))

def crc32Byte (crc : UInt32) (byte : UInt8) : UInt32 :=
  (List.range 8).foldl (fun crc _ => crc32Bit crc) (crc ^^^ byte.toUInt32)

def crc32Update (crc : UInt32) (data : List UInt8) : UInt32 :=
  data.foldl crc32Byte crc

def typxWifiUploadCrc32 (data : List UInt8) : UInt32 :=
  crc32Update 0xffffffff data ^^^ 0xffffffff

theorem crc32Update_append (crc : UInt32) (first second : List UInt8) :
    crc32Update crc (first ++ second) =
      crc32Update (crc32Update crc first) second := by
  rw [crc32Update, List.foldl_append]
  rfl

/-! ## Beginning a job -/

def setError (upload : Upload) (error : UploadError) : Upload :=
  { upload with lastError := error }

def typxWifiUploadJobLocked (upload : Upload) : Bool :=
  upload.status == .ready || upload.status == .countdown ||
    upload.status == .executing || upload.status == .stopping

def typxWifiUploadInit : Upload :=
  { Upload.zero with
    status := .idle
    executorError := .ok }

def typxWifiUploadBegin (upload : Upload) (jobId : Vector UInt8 16)
    (encodedSize : UInt32) (encodedSha256 : Vector UInt8 32) :
    Firmware (UploadError × Upload) := do
  if allZero jobId || allZero encodedSha256 then
    return (.invalidArgument, upload)
  else if encodedSize == 0 || encodedSize > maxBytes then
    return (.oversized, setError upload .oversized)
  else if typxWifiUploadJobLocked upload then
    return (.invalidState, upload)
  else
    let upload := { Upload.zero with
      status := .receiving
      expectedSize := encodedSize
      jobId := jobId
      expectedSha256 := encodedSha256 }
    if !(← Storage.erase) then
      return (.storageFailure,
        { upload with status := .error, lastError := .storageFailure })
    else
      return (.ok, upload)

/-! ## Chunks -/

def expectedLength (upload : Upload) (offset : UInt32) : UInt32 :=
  let expectedLength := upload.expectedSize - offset
  if expectedLength > chunkBytes then chunkBytes else expectedLength

def typxWifiUploadChunkBegin (upload : Upload) (session : ChunkSession)
    (jobId : Vector UInt8 16) (sequence offset length crc32 : UInt32) :
    Firmware (UploadError × ChunkSession) := do
  if upload.status != .receiving then
    return (.invalidState, session)
  else if !sameJob upload jobId then
    return (.jobMismatch, session)
  else if sequence ≥ maxChunks || offset != sequence * chunkBytes ||
      offset ≥ upload.expectedSize then
    return (.invalidArgument, session)
  else if length == 0 || length != expectedLength upload offset then
    return (.invalidArgument, session)
  else
    let repeated := upload.chunkLengths[sequence.toNat]! != 0
    let session : ChunkSession := {
      sequence := sequence
      offset := offset
      length := length
      expectedCrc32 := crc32
      runningCrc32 := 0xffffffff
      received := 0
      repeated := repeated
      conflict := false }
    if repeated && (upload.chunkLengths[sequence.toNat]!.toUInt32 != length ||
        upload.chunkCrc32[sequence.toNat]! != crc32) then
      return (.chunkConflict, { session with conflict := true })
    else if repeated then
      return (.ok, session)
    else if !(← Storage.eraseRange offset 4096) then
      return (.storageFailure, session)
    else
      return (.ok, session)

/-- The loop that compares a repeated chunk with the storage at `offset`. -/
def compareStored (offset : UInt32) (data : List UInt8) :
    Firmware UploadError :=
  if _ : data.length > 0 then do
    let chunk := min data.length 256
    match ← Storage.read offset chunk with
    | none => return .storageFailure
    | some stored =>
        if stored.toList != data.take chunk then
          return .chunkConflict
        else
          compareStored (offset + UInt32.ofNat chunk) (data.drop chunk)
  else
    return .ok
termination_by data.length
decreasing_by
  rw [List.length_drop]
  omega

def typxWifiUploadChunkWrite (session : ChunkSession) (data : List UInt8) :
    Firmware (UploadError × ChunkSession) := do
  if data.length == 0 ||
      data.length > (session.length - session.received).toNat ||
      session.conflict then
    return (.invalidArgument, session)
  else
    let session := { session with
      runningCrc32 := crc32Update session.runningCrc32 data }
    let received := { session with
      received := session.received + UInt32.ofNat data.length }
    if session.repeated then
      match ← compareStored (session.offset + session.received) data with
      | .ok => return (.ok, received)
      | .chunkConflict => return (.chunkConflict, { session with conflict := true })
      | error => return (error, session)
    else if !(← Storage.write (session.offset + session.received) data) then
      return (.storageFailure, session)
    else
      return (.ok, received)

def typxWifiUploadChunkFinish (upload : Upload) (session : ChunkSession) :
    UploadError × Upload :=
  let actualCrc := session.runningCrc32 ^^^ 0xffffffff
  if session.conflict then
    (.chunkConflict, upload)
  else if session.received != session.length then
    (.incomplete, upload)
  else if actualCrc != session.expectedCrc32 then
    (.chunkCrcMismatch, setError upload .chunkCrcMismatch)
  else if session.repeated then
    (.ok, upload)
  else
    (.ok, { upload with
      chunkLengths := upload.chunkLengths.set! session.sequence.toNat
        session.length.toUInt16
      chunkCrc32 := upload.chunkCrc32.set! session.sequence.toNat actualCrc
      receivedBytes := upload.receivedBytes + session.length })

structure ChunkRequest where
  jobId : Vector UInt8 16
  sequence : UInt32
  offset : UInt32
  length : UInt32
  crc32 : UInt32

def writeFragments (session : ChunkSession) :
    (fragments : List (List UInt8)) → Firmware (UploadError × ChunkSession)
  | [] => return (.ok, session)
  | fragment :: rest => do
      let (error, session) ← typxWifiUploadChunkWrite session fragment
      if error != .ok then
        return (error, session)
      else
        writeFragments session rest

/-- What `chunk_handler` does under the mutex: the fragments are what the
connection delivers, and `dropped` says that it then ends early. -/
def chunkSession (upload : Upload) (request : ChunkRequest)
    (fragments : List (List UInt8)) (dropped : Bool) :
    Firmware (UploadError × Upload) := do
  let (error, session) ← typxWifiUploadChunkBegin upload ChunkSession.zero
    request.jobId request.sequence request.offset request.length request.crc32
  if error != .ok then
    return (error, upload)
  else
    let (error, session) ← writeFragments session fragments
    if error != .ok then
      return (error, upload)
    else if dropped then
      return (.incomplete, upload)
    else
      return typxWifiUploadChunkFinish upload session

/-! ## Finalizing -/

/-- `upload_read_at`, with the size that the context points to. -/
def uploadReadAt (expectedSize : UInt32) (offset : UInt64) (length : Nat) :
    Firmware (Option (Vector UInt8 length)) :=
  if offset ≤ expectedSize.toUInt64 &&
      length ≤ (expectedSize.toUInt64 - offset).toNat then
    Storage.read offset.toUInt32 length
  else
    return none

def uploadReader (expectedSize : UInt32) : Reader where
  sizeBytes := expectedSize.toUInt64
  readAt := uploadReadAt expectedSize
  quiet offset length := by
    unfold uploadReadAt
    split
    · exact ⟨rfl, fun _ => Program.onlyCalls_done _⟩
    · exact Program.onlyCalls_done _

/-- The loop of `verify_encoded_sha` with `remaining` bytes left; false when a
read or an update fails. -/
def hashStored (offset : UInt32) (remaining : Nat) : Firmware Bool :=
  if _ : remaining > 0 then do
    let chunk := min remaining 256
    match ← Storage.read offset chunk with
    | none => return false
    | some buffer =>
        if ← Sha256.update buffer.toList then
          hashStored (offset + UInt32.ofNat chunk) (remaining - chunk)
        else
          return false
  else
    return true
termination_by remaining

def verifyEncodedSha (upload : Upload) : Firmware UploadError := do
  if !(← Sha256.begin) then
    return .storageFailure
  else if !(← hashStored 0 upload.expectedSize.toNat) then
    return .storageFailure
  else
    match ← Sha256.finish with
    | none => return .storageFailure
    | some digest =>
        if digest == upload.expectedSha256 then
          return .ok
        else
          return .sha256Mismatch

def chunkCount (upload : Upload) : UInt32 :=
  (upload.expectedSize + chunkBytes - 1) / chunkBytes

def typxWifiUploadFinalize (upload : Upload) (jobId : Vector UInt8 16)
    (encodedSize : UInt32) (encodedSha256 : Vector UInt8 32) :
    Firmware (UploadError × Upload) := do
  if upload.status != .receiving then
    return (.invalidState, upload)
  else if !sameJob upload jobId then
    return (.jobMismatch, upload)
  else if encodedSize != upload.expectedSize ||
      encodedSha256 != upload.expectedSha256 then
    return (.sha256Mismatch, setError upload .sha256Mismatch)
  else if upload.receivedBytes != upload.expectedSize then
    return (.incomplete, upload)
  else if (List.range (chunkCount upload).toNat).any
      fun index => upload.chunkLengths[index]! == 0 then
    return (.incomplete, upload)
  else
    let upload := { upload with status := .verifying }
    let uploadError ← verifyEncodedSha upload
    if uploadError != .ok then
      return (uploadError, setError { upload with status := .error } uploadError)
    else
      match ← typxProtocolV1Verify (uploadReader upload.expectedSize)
          typxProtocolV1Esp32CamLimits with
      | .error protocolError =>
          return (.protocolRejected, { upload with
            protocolError := protocolError
            verifiedSchedule := VerifiedSchedule.zero
            status := .error
            lastError := .protocolRejected })
      | .ok schedule =>
          return (.ok, { upload with
            protocolError := .ok
            verifiedSchedule := schedule
            status := .ready
            lastError := .ok
            totalRecords := schedule.header.actionCount
            completedRecords := 0
            currentSourceIndex := 0 })

/-! ## Running a job -/

/-- On success the schedule handed out is the verified one. -/
def typxWifiUploadPrepareStart (upload : Upload) (jobId : Vector UInt8 16)
    (hidReadiness : HidReadiness) :
    Except UploadError VerifiedSchedule × Upload :=
  if upload.status != .ready then
    (.error .invalidState, upload)
  else if !sameJob upload jobId then
    (.error .jobMismatch, upload)
  else if hidReadiness == .disconnected then
    (.error .hidNotConnected, upload)
  else if hidReadiness == .pending then
    (.error .hidSafetyPending, upload)
  else if hidReadiness == .failed then
    (.error .hidSafetyFailed, upload)
  else if !typxProtocolV1IsVerified upload.verifiedSchedule then
    (.error .protocolRejected, upload)
  else
    (.ok upload.verifiedSchedule,
      { upload with status := .countdown, stopRequested := false })

def typxWifiUploadStartFailed (upload : Upload) : UploadError × Upload :=
  if upload.status != .countdown then
    (.invalidState, upload)
  else
    (.ok, { upload with status := .ready, stopRequested := false })

def typxWifiUploadMarkExecuting (upload : Upload) : UploadError × Upload :=
  if upload.status != .countdown then
    (.invalidState, upload)
  else
    (.ok, { upload with status := .executing })

def typxWifiUploadRequestStop (upload : Upload) : UploadError × Upload :=
  if upload.status == .stopping || upload.status == .stopped then
    (.ok, upload)
  else if upload.status != .countdown && upload.status != .executing then
    (.invalidState, upload)
  else
    (.ok, { upload with stopRequested := true, status := .stopping })

def typxWifiUploadCancel (upload : Upload) (jobId : Vector UInt8 16) :
    UploadError × Upload :=
  if upload.status != .ready then
    (.invalidState, upload)
  else if !sameJob upload jobId then
    (.jobMismatch, upload)
  else
    (.ok, { Upload.zero with status := .idle })

def typxWifiUploadRecordProgress (upload : Upload)
    (sourceIndex completedRecords totalRecords : UInt32) : Upload :=
  if upload.status != .executing || totalRecords != upload.totalRecords ||
      completedRecords > totalRecords then
    upload
  else
    { upload with
      currentSourceIndex := sourceIndex
      completedRecords := completedRecords }

def typxWifiUploadMarkInterruptedReset (upload : Upload) : Upload :=
  { upload with
    status := .interruptedReset
    executorError := .interruptedReset
    lastError := .ok
    stopRequested := false }

def typxWifiUploadComplete (upload : Upload) (executorError : ExecutorError) :
    Upload :=
  { upload with
    executorError := executorError
    status := if executorError == .ok then .completed
      else if executorError == .stopped then .stopped else .error
    lastError := if executorError == .ok || executorError == .stopped then .ok
      else .invalidState
    stopRequested := false }

end Typxen.WifiUpload
