import Typxen.WifiUpload.Assembly

/-! # Sending a job

The chunks of a job are accepted in any order and as often as they are sent,
unless a call of the storage fails. -/

namespace Typxen.WifiUpload

open Interaction Protocol NorFlash Transition

/-! ## One session -/

section Sessions

variable {hash : List UInt8 → Vector UInt8 32} {upload : Upload}
  {request : ChunkRequest} {repeated : Bool} {start : Contents}
  {written : List UInt8}

def Compared (flash : Contents) (offset : Nat) (data : List UInt8)
    (expected : ChunkSession) (outcome : UploadError × ChunkSession) : Prop :=
  outcome = (.ok, expected) ∧ slice flash offset data.length = data ∨
    (outcome.1 = .chunkConflict ∧ outcome.2.conflict = true) ∧
      slice flash offset data.length ≠ data

theorem typxWifiUploadChunkWrite_guard (placed : WellPlaced request)
    {data : List UInt8} (nonempty : data ≠ [])
    (room : written.length + data.length ≤ request.length.toNat) :
    ¬(data.length == 0 || decide (data.length > (request.length -
      UInt32.ofNat written.length).toNat) || false) = true := by
  have fits : written.length ≤ request.length.toNat := by omega
  have some : data.length ≠ 0 := by simpa using nonempty
  simp only [left_toNat placed.length fits, Bool.or_eq_true, beq_iff_eq,
    decide_eq_true_eq, Bool.false_eq_true, or_false, not_or]
  omega

theorem typxWifiUploadChunkWrite_compared (placed : WellPlaced request)
    {data : List UInt8} (nonempty : data ≠ [])
    (room : written.length + data.length ≤ request.length.toNat)
    (before : World) :
    Program.Ensures (stagingStorage hash)
      (typxWifiUploadChunkWrite (sessionAt request true written) data) before
      fun trace outcome after => after = before ∧ (¬Faulted Failed trace →
        Compared before.flash (chunkStart request.sequence.toNat + written.length)
          data (sessionAt request true (written ++ data)) outcome) := by
  have length := placed.length
  have fits : written.length ≤ request.length.toNat := by omega
  have position := position_toNat placed fits
  rw [typxWifiUploadChunkWrite, sessionAt,
    if_neg (typxWifiUploadChunkWrite_guard placed nonempty room)]
  simp only [if_true]
  refine (compareStored_ensures _ data before (by
    rw [position]
    have sequence := placed.sequence
    simp only [chunkStart]
    omega)).bind ?_
  intro first result middle outcome
  rcases outcome with ⟨unchanged, _, outcome⟩
  rw [position] at outcome
  rw [unchanged]
  rcases outcome with ⟨result, same⟩ | ⟨result, differs⟩ | ⟨result, faulted⟩
  · rw [result]
    refine Program.ensures_done.mpr ⟨rfl, fun _ => .inl ⟨?_, same⟩⟩
    simp [sessionAt, crc32Update_append]
  · rw [result]
    exact Program.ensures_done.mpr ⟨rfl, fun _ => .inr ⟨⟨rfl, rfl⟩, differs⟩⟩
  · rw [result]
    refine Program.ensures_done.mpr ⟨rfl, fun clean => absurd ?_ clean⟩
    simpa using faulted

/-- Without a failing call a fragment that fits is taken, if what a repeated
chunk is compared with is the same. -/
theorem typxWifiUploadChunkWrite_accepted (placed : WellPlaced request)
    {data : List UInt8} (nonempty : data ≠ [])
    (room : written.length + data.length ≤ request.length.toNat)
    (before : World)
    (same : repeated = true → slice before.flash
      (chunkStart request.sequence.toNat + written.length) data.length = data) :
    Program.Ensures (stagingStorage hash)
      (typxWifiUploadChunkWrite (sessionAt request repeated written) data) before
      fun trace outcome _ => ¬Faulted Failed trace → outcome.1 = .ok := by
  cases repeated with
  | true =>
      refine Program.Ensures.mono
        (typxWifiUploadChunkWrite_compared placed nonempty room before) ?_
      intro trace outcome after holds clean
      rcases holds.2 clean with ⟨accepted, _⟩ | ⟨_, differs⟩
      · rw [accepted]
      · exact absurd (same rfl) differs
  | false =>
      rw [typxWifiUploadChunkWrite, sessionAt,
        if_neg (typxWifiUploadChunkWrite_guard placed nonempty room)]
      simp only [Bool.false_eq_true, if_false, Storage.write_bind,
        Program.ensures_ask]
      intro answer after _
      cases answer with
      | true => simp
      | false => simp [Failed, Event.succeeded]

theorem accepted_bind {α β : Type} {first : Firmware (UploadError × α)}
    {next : UploadError × α → Firmware (UploadError × β)} {before : World}
    (starts : Program.Ensures (stagingStorage hash) first before
      fun trace outcome middle => (¬Faulted Failed trace → outcome.1 = .ok) ∧
        (outcome.1 = .ok → Program.Ensures (stagingStorage hash) (next outcome)
          middle fun trace result _ =>
            ¬Faulted Failed trace → result.1 = .ok)) :
    Program.Ensures (stagingStorage hash) (first >>= next) before
      fun trace result _ => ¬Faulted Failed trace → result.1 = .ok := by
  refine starts.bind ?_
  intro trace outcome middle holds
  by_cases accepted : outcome.1 = .ok
  · refine Program.Ensures.mono (holds.2 accepted) ?_
    intro later result _ clean unfaulted
    rw [faulted_append, not_or] at unfaulted
    exact clean unfaulted.2
  · refine Program.Ensures.mono Program.ensures_true ?_
    intro later result _ _ unfaulted
    rw [faulted_append, not_or] at unfaulted
    exact absurd (holds.1 unfaulted.1) accepted

theorem writeFragments_accepted (placed : WellPlaced request)
    (fragments : List (List UInt8))
    (nonempty : ∀ fragment ∈ fragments, fragment ≠ [])
    (room : written.length + fragments.flatten.length ≤ request.length.toNat)
    (before : World)
    (writing : Writing request repeated start before.flash written)
    (same : repeated = true → slice start
      (chunkStart request.sequence.toNat + written.length)
      fragments.flatten.length = fragments.flatten) :
    Program.Ensures (stagingStorage hash)
      (writeFragments (sessionAt request repeated written) fragments) before
      fun trace outcome _ => ¬Faulted Failed trace → outcome.1 = .ok := by
  induction fragments generalizing written before with
  | nil => simp [writeFragments]
  | cons fragment rest induction =>
      rw [List.flatten_cons, List.length_append] at room
      have agrees : repeated = true →
          slice start (chunkStart request.sequence.toNat + written.length)
              fragment.length = fragment ∧
            slice start (chunkStart request.sequence.toNat +
              (written ++ fragment).length) rest.flatten.length =
                rest.flatten := by
        intro again
        have whole := same again
        rw [List.flatten_cons, List.length_append, slice_append_eq_iff] at whole
        rw [List.length_append, ← Nat.add_assoc]
        exact whole
      have compared : repeated = true → slice before.flash
          (chunkStart request.sequence.toNat + written.length)
          fragment.length = fragment := by
        intro again
        rw [writing.again again]
        exact (agrees again).1
      rw [writeFragments]
      apply accepted_bind
      refine Program.Ensures.mono ((typxWifiUploadChunkWrite_accepted placed
        (nonempty fragment (.head _)) (by omega) before compared).and
        (typxWifiUploadChunkWrite_ensures placed fragment before writing)) ?_
      intro trace outcome middle holds
      rcases outcome with ⟨error, session⟩
      rcases holds with ⟨clean, _, _, taken⟩
      refine ⟨clean, ?_⟩
      intro accepted
      rcases taken accepted with ⟨next, writes⟩
      rw [show error = .ok from accepted, show session = _ from next]
      exact induction (fun fragment member => nonempty fragment (.tail _ member))
        (by rw [List.length_append]; omega) middle writes
        (fun again => (agrees again).2)

theorem typxWifiUploadChunkBegin_listed (admitted : Admitted upload request)
    (listed : upload.chunkLength request.sequence.toNat = request.length.toNat) :
    typxWifiUploadChunkBegin upload ChunkSession.zero request.jobId
        request.sequence request.offset request.length request.crc32 =
      .done (if request.crc32 = upload.chunkCrc32[request.sequence.toNat]! then
        (.ok, sessionAt request true [])
      else
        (.chunkConflict, { sessionAt request true [] with conflict := true })) := by
  rcases checks_of_admitted admitted with ⟨receiving, same, placed, sized⟩
  have repeated : (upload.chunkLengths[request.sequence.toNat]! != 0) = true := by
    rw [bne_iff_ne, ne_eq, ← chunkLength_eq_zero_iff, listed]
    exact Nat.ne_of_gt admitted.positive
  have length : upload.chunkLengths[request.sequence.toNat]!.toUInt32 =
      request.length := by
    rw [← UInt32.toNat_inj, UInt16.toNat_toUInt32]
    exact listed
  rw [typxWifiUploadChunkBegin]
  simp only [receiving, same, placed, sized, Bool.false_eq_true, if_false,
    repeated, length, bne_self_eq_false, Bool.false_or, Bool.true_and, if_true]
  by_cases agrees : request.crc32 = upload.chunkCrc32[request.sequence.toNat]!
  · rw [if_pos agrees, if_neg (by simp [agrees])]
    rfl
  · rw [if_neg agrees, if_pos (by simpa using Ne.symm agrees)]
    rfl

def Repeats (upload : Upload) (flash : Contents) (request : ChunkRequest)
    (payload : List UInt8) : Prop :=
  request.crc32 = upload.chunkCrc32[request.sequence.toNat]! ∧
    payload = storedChunk upload flash request.sequence.toNat

/-- The chunk is not stored yet, or stored as it is sent. -/
def Unopposed (upload : Upload) (flash : Contents) (request : ChunkRequest)
    (payload : List UInt8) : Prop :=
  upload.chunkLength request.sequence.toNat ≠ 0 →
    upload.chunkLength request.sequence.toNat = request.length.toNat ∧
      Repeats upload flash request payload

theorem typxWifiUploadChunkBegin_accepted (admitted : Admitted upload request)
    (before : World) {payload : List UInt8}
    (unopposed : Unopposed upload before.flash request payload) :
    Program.Ensures (stagingStorage hash)
      (typxWifiUploadChunkBegin upload ChunkSession.zero request.jobId
        request.sequence request.offset request.length request.crc32) before
      fun trace outcome _ => ¬Faulted Failed trace → outcome.1 = .ok := by
  by_cases empty : upload.chunkLength request.sequence.toNat = 0
  case neg =>
    rcases unopposed empty with ⟨listed, repeats⟩
    rw [typxWifiUploadChunkBegin_listed admitted listed, if_pos repeats.1]
    exact Program.ensures_done.mpr fun _ => rfl
  rcases checks_of_admitted admitted with ⟨receiving, same, placed, sized⟩
  have fresh : (upload.chunkLengths[request.sequence.toNat]! != 0) = false := by
    rw [bne_eq_false_iff_eq, ← chunkLength_eq_zero_iff]
    exact empty
  rw [typxWifiUploadChunkBegin]
  simp only [receiving, same, placed, sized, Bool.false_eq_true, if_false, fresh,
    Bool.false_and, Storage.eraseRange_bind, Program.ensures_ask]
  intro answer after _
  cases answer with
  | true => simp
  | false => simp [Failed, Event.succeeded]

theorem typxWifiUploadChunkFinish_accepted {payload : List UInt8}
    (delivered : Delivered upload request payload) :
    (typxWifiUploadChunkFinish upload
        (sessionAt request repeated payload)).1 = .ok ∧
      (repeated = true → (typxWifiUploadChunkFinish upload
        (sessionAt request repeated payload)).2 = upload) := by
  have whole : UInt32.ofNat payload.length = request.length := by
    rw [delivered.whole, UInt32.ofNat_toNat]
  have crc : crc32Update 0xffffffff payload ^^^ 0xffffffff = request.crc32 :=
    delivered.crc.symm
  cases repeated with
  | true => simp [typxWifiUploadChunkFinish, sessionAt, whole, crc]
  | false => simp [typxWifiUploadChunkFinish, sessionAt, whole, crc]

/-- A right chunk is accepted unless the storage fails. -/
theorem chunkSession_accepted {fragments : List (List UInt8)}
    (delivered : Delivered upload request fragments.flatten)
    (nonempty : ∀ fragment ∈ fragments, fragment ≠ []) (before : World)
    (unopposed : Unopposed upload before.flash request fragments.flatten) :
    Program.Ensures (stagingStorage hash)
      (chunkSession upload request fragments false) before
      fun trace outcome _ => ¬Faulted Failed trace → outcome.1 = .ok := by
  have stored : upload.chunkLength request.sequence.toNat ≠ 0 →
      slice before.flash (chunkStart request.sequence.toNat + 0)
        fragments.flatten.length = fragments.flatten := by
    intro listed
    rcases unopposed listed with ⟨length, _, payload⟩
    rw [storedChunk, length, ← delivered.whole] at payload
    exact payload.symm
  apply accepted_bind
  refine Program.Ensures.mono ((typxWifiUploadChunkBegin_accepted
    delivered.toAdmitted before unopposed).and
      (typxWifiUploadChunkBegin_ensures upload request before)) ?_
  intro trace outcome middle holds
  rcases outcome with ⟨error, session⟩
  rcases holds with ⟨clean, _, _, opened⟩
  refine ⟨clean, ?_⟩
  intro accepted
  rcases opened accepted with ⟨_, next, writing, _⟩
  rw [show error = .ok from accepted, show session = _ from next]
  apply accepted_bind
  refine Program.Ensures.mono ((writeFragments_accepted delivered.toWellPlaced
    fragments nonempty (by simpa using delivered.whole.le) middle writing
    (fun listed => stored (by simpa using listed))).and
      (writeFragments_ensures delivered.toWellPlaced fragments middle
        writing)) ?_
  intro trace outcome last holds
  rcases outcome with ⟨error, session⟩
  rcases holds with ⟨clean, _, _, written⟩
  refine ⟨clean, ?_⟩
  intro accepted
  rw [show error = .ok from accepted, show session = _ from (written accepted).1,
    List.nil_append]
  exact Program.ensures_done.mpr fun _ =>
    (typxWifiUploadChunkFinish_accepted delivered).1

end Sessions

/-! ## The chunks of a job -/

def chunkOf (bytes : List UInt8) (index : Nat) : List UInt8 :=
  (bytes.drop (chunkStart index)).take 4096

def UploadEvent.IsSession (event : UploadEvent) : Prop :=
  ∃ request fragments dropped, event.op = .session request fragments dropped

def UploadEvent.Delivers (bytes : List UInt8) (index : Nat)
    (event : UploadEvent) : Prop :=
  ∃ request fragments dropped, event.op = .session request fragments dropped ∧
    event.result = .ok ∧ request.sequence.toNat = index ∧
    fragments.flatten = chunkOf bytes index

def requestOf (bytes : List UInt8) (jobId : Vector UInt8 16) (index : Nat) :
    ChunkRequest :=
  ⟨jobId, UInt32.ofNat index, UInt32.ofNat (chunkStart index),
    UInt32.ofNat (chunkOf bytes index).length,
    typxWifiUploadCrc32 (chunkOf bytes index)⟩

/-- A session for a chunk of `bytes`, carried whole unless the connection
drops. -/
def UploadOp.Sends (bytes : List UInt8) (jobId : Vector UInt8 16) (index : Nat)
    (dropped : Bool) (op : UploadOp) : Prop :=
  ∃ fragments, op = .session (requestOf bytes jobId index) fragments dropped ∧
    (dropped = false → (∀ fragment ∈ fragments, fragment ≠ []) ∧
      fragments.flatten = chunkOf bytes index)

/-- Every listed chunk is a chunk of `bytes`. -/
structure Sending (bytes : List UInt8) (jobId : Vector UInt8 16)
    (system : System World) : Prop where
  assembled : Assembled system.upload system.world.flash
  receiving : system.upload.status = .receiving
  jobId : system.upload.jobId = jobId
  size : system.upload.expectedSize.toNat = bytes.length
  chunks : ∀ index < 128, system.upload.chunkLength index ≠ 0 →
    storedChunk system.upload system.world.flash index = chunkOf bytes index

section Sending

variable {hash : List UInt8 → Vector UInt8 32} {bytes : List UInt8}
  {jobId : Vector UInt8 16} {before after : System World}
  {events : List UploadEvent} {event : UploadEvent} {index : Nat}
  {dropped : Bool}

theorem chunkOf_length (bytes : List UInt8) (index : Nat) :
    (chunkOf bytes index).length = chunkSize bytes.length index := by
  rw [chunkOf, List.length_take, List.length_drop, chunkSize]

theorem Sending.bound (sending : Sending bytes jobId before)
    (inside : chunkStart index < bytes.length) : index < 128 := by
  have size := sending.assembled.size
  rw [sending.size] at size
  simp only [chunkStart, storageBytes] at inside size
  omega

theorem Sending.delivered (sending : Sending bytes jobId before)
    (inside : chunkStart index < bytes.length) :
    (requestOf bytes jobId index).sequence.toNat = index ∧
      Delivered before.upload (requestOf bytes jobId index)
        (chunkOf bytes index) := by
  have bound := sending.bound inside
  have small : chunkSize bytes.length index ≤ 4096 := Nat.min_le_left _ _
  have sequence : (UInt32.ofNat index).toNat = index := by
    rw [UInt32.toNat_ofNat']
    omega
  have offset : (UInt32.ofNat (chunkStart index)).toNat = chunkStart index := by
    rw [UInt32.toNat_ofNat', chunkStart]
    omega
  have length : (UInt32.ofNat (chunkOf bytes index).length).toNat =
      chunkSize bytes.length index := by
    rw [UInt32.toNat_ofNat', chunkOf_length]
    omega
  refine ⟨sequence, {
    sequence := by rw [requestOf, sequence]; exact bound
    offset := by rw [requestOf, sequence, offset]
    length := by rw [requestOf, length]; exact small
    status := sending.receiving
    job := sending.jobId
    size := by rw [requestOf, length, sequence, sending.size]
    positive := by
      rw [requestOf, length, chunkSize]
      omega
    whole := by rw [requestOf, length, chunkOf_length]
    crc := rfl }⟩

theorem Sending.unopposed (sending : Sending bytes jobId before)
    (inside : chunkStart index < bytes.length) :
    Unopposed before.upload before.world.flash (requestOf bytes jobId index)
      (chunkOf bytes index) := by
  intro listed
  rcases sending.delivered inside with ⟨sequence, delivered⟩
  have bound := sending.bound inside
  rw [sequence] at listed
  have stored := sending.chunks index bound listed
  have crc := sending.assembled.crc index bound listed
  rw [Repeats, sequence, stored, delivered.size, sequence]
  have full := (sending.assembled.length index bound).resolve_left listed
  rw [stored] at crc
  exact ⟨full, crc, rfl⟩

/-- A session that the connection drops is not accepted. -/
theorem chunkSession_dropped {σ : Type} {environment : Environment callbacks σ}
    (upload : Upload) (request : ChunkRequest) (fragments : List (List UInt8))
    (before : σ) :
    Program.Ensures environment (chunkSession upload request fragments true)
      before fun _ outcome _ => outcome.1 ≠ .ok := by
  refine Program.ensures_true.bind ?_
  intro _ opened _ _
  rcases opened with ⟨error, session⟩
  by_cases accepted : error = .ok
  case neg => simp [accepted]
  simp only [accepted, bne_self_eq_false, Bool.false_eq_true, if_false]
  refine Program.ensures_true.bind ?_
  intro _ written _ _
  rcases written with ⟨error, session⟩
  by_cases accepted : error = .ok
  · simp [accepted]
  · simp [accepted]

theorem sends_halves (bytes : List UInt8) (jobId : Vector UInt8 16)
    {index position : Nat} (positive : 0 < position)
    (within : position < (chunkOf bytes index).length) :
    (UploadOp.session (requestOf bytes jobId index)
      [(chunkOf bytes index).take position, (chunkOf bytes index).drop position]
      false).Sends bytes jobId index false := by
  refine ⟨_, rfl, fun _ => ⟨?_, by simp⟩⟩
  intro fragment member
  apply List.ne_nil_of_length_pos
  rcases List.mem_pair.mp member with rfl | rfl
  · rw [List.length_take]
    omega
  · rw [List.length_drop]
    omega

theorem UploadOp.Sends.delivers (sends : event.op.Sends bytes jobId index false)
    (bound : index < 128) (accepted : event.result = .ok) :
    event.Delivers bytes index := by
  rcases sends with ⟨fragments, op, whole⟩
  refine ⟨_, fragments, false, op, accepted, ?_, (whole rfl).2⟩
  rw [requestOf, UInt32.toNat_ofNat']
  omega

/-- A session for a chunk of `bytes` lists no other contents. -/
theorem Sending.still (sending : Sending bytes jobId before)
    (inside : chunkStart index < bytes.length)
    (sends : event.op.Sends bytes jobId index dropped)
    (taken : UploadStep (stagingStorage hash) before event after) :
    Sending bytes jobId after := by
  rcases sends with ⟨fragments, op, whole⟩
  have sequence := (sending.delivered inside).1
  have execution := taken.2.2
  rw [op] at execution
  have outcome := (chunkSession_ensures _ _ _ _ _ _ _ _ execution).2
  have same := chunkSession_sameJob _ _ _ _ _ _ _ _ execution
  refine {
    assembled := outcome.assembled sending.assembled
    receiving := same.status.trans sending.receiving
    jobId := same.jobId.trans sending.jobId
    size := by rw [same.expectedSize]; exact sending.size
    chunks := ?_ }
  intro other bound listed
  by_cases stored : before.upload.chunkLength other = 0
  case neg =>
    rw [(outcome.kept sending.assembled bound stored).stored]
    exact sending.chunks other bound stored
  rcases (taken.effects (by rw [op]; trivial)).lists bound stored listed with
    ⟨result, request, sent, cut, session, own, _, contents⟩
  rw [op] at session
  injection session with sameRequest sameFragments _
  rw [contents, ← sameFragments]
  rw [← sameRequest, sequence] at own
  cases dropped with
  | true =>
      rw [result] at execution
      exact absurd rfl (chunkSession_dropped _ _ _ _ _ _ _ execution)
  | false => rw [(whole rfl).2, own]

theorem Sending.accepts (sending : Sending bytes jobId before)
    (inside : chunkStart index < bytes.length)
    (sends : event.op.Sends bytes jobId index false)
    (taken : UploadStep (stagingStorage hash) before event after)
    (unfaulted : ¬Faulted Failed event.trace) : event.result = .ok := by
  rcases sends with ⟨fragments, op, whole⟩
  rcases whole rfl with ⟨nonempty, payload⟩
  have delivered := (sending.delivered inside).2
  have unopposed := sending.unopposed inside
  have execution := taken.2.2
  rw [op] at execution
  rw [← payload] at delivered unopposed
  exact chunkSession_accepted delivered nonempty before.world unopposed _ _ _
    execution unfaulted

/-- The chunks of a job are accepted in any order, and again. -/
theorem Sending.run (sending : Sending bytes jobId before)
    (run : UploadRun (stagingStorage hash) before events after)
    (sends : ∀ event ∈ events, ∃ index dropped,
      chunkStart index < bytes.length ∧
        event.op.Sends bytes jobId index dropped) :
    ∀ event ∈ events, ∀ index, chunkStart index < bytes.length →
      event.op.Sends bytes jobId index false → ¬Faulted Failed event.trace →
      event.result = .ok := by
  induction run with
  | nil => exact fun event member => nomatch member
  | cons taken _ induction =>
      rcases sends _ (.head _) with ⟨index, dropped, inside, first⟩
      intro event member
      rcases List.mem_cons.mp member with rfl | later
      · intro index inside whole
        exact sending.accepts inside whole taken
      · exact induction (sending.still inside first taken)
          (fun event member => sends event (.tail _ member)) event later

end Sending

/-! ## Whole jobs -/

section Jobs

variable {hash : List UInt8 → Vector UInt8 32}
  {before after : System World} {events : List UploadEvent}

def Complete (upload : Upload) : Prop :=
  ∀ index, chunkStart index < upload.expectedSize.toNat →
    upload.chunkLength index ≠ 0

theorem chunks_take (bytes : List UInt8) (count : Nat) :
    bytes.take (chunkStart count) =
      (List.range count).flatMap (chunkOf bytes) := by
  induction count with
  | zero => simp [chunkStart]
  | succ count induction =>
      have next : chunkStart (count + 1) = chunkStart count + 4096 := by
        simp only [chunkStart]
        omega
      rw [next, List.take_add, induction, List.range_succ, List.flatMap_append,
        List.flatMap_singleton, chunkOf]

/-- A begin with good arguments succeeds unless a job is locked or the erase
fails. -/
theorem typxWifiUploadBegin_outcome {upload : Upload} {jobId : Vector UInt8 16}
    {size : UInt32} {digest : Vector UInt8 32} {start : World}
    (beginnable : Beginnable jobId size digest)
    (unlocked : typxWifiUploadJobLocked upload = false) :
    Program.Ensures (stagingStorage hash)
      (typxWifiUploadBegin upload jobId size digest) start
      fun trace outcome _ =>
        ¬Faulted Failed trace ∧ outcome = (.ok, begun jobId size digest) ∨
          Faulted Failed trace ∧ outcome.1 = .storageFailure := by
  have positive : size ≠ 0 := by
    intro zero
    have absurdity := beginnable.positive
    simp [zero] at absurdity
  have small : ¬size > maxBytes := by
    rw [gt_iff_lt, UInt32.not_lt, UInt32.le_iff_toNat_le]
    exact beginnable.size
  rw [typxWifiUploadBegin, if_neg (by simp [beginnable.jobId, beginnable.digest]),
    if_neg (by simp [positive, small]), if_neg (by simp [unlocked])]
  simp only [Storage.erase_bind, Program.ensures_ask]
  intro answer after _
  cases answer with
  | true =>
      refine Program.ensures_done.mpr (.inl ⟨?_, rfl⟩)
      simp [Failed, Event.succeeded]
  | false =>
      refine Program.ensures_done.mpr (.inr ⟨?_, rfl⟩)
      simp [Failed, Event.succeeded]

theorem sessions_keep {index : Nat} (bound : index < 128)
    (run : Run (StagingStep hash) before events after)
    (sessions : ∀ event ∈ events, event.IsSession)
    (listed : before.upload.chunkLength index ≠ 0) :
    after.upload.chunkLength index ≠ 0 ∧
      storedChunk after.upload after.world.flash index =
        storedChunk before.upload before.world.flash index := by
  refine run.invariant (fun system =>
      system.upload.chunkLength index ≠ 0 ∧
        storedChunk system.upload system.world.flash index =
          storedChunk before.upload before.world.flash index)
    UploadEvent.IsSession ?_ sessions ⟨listed, rfl⟩
  intro here event next isSession holds step
  rcases isSession with ⟨request, fragments, dropped, op⟩
  have execution := step.taken.2.2
  rw [op] at execution
  have kept := (chunkSession_ensures _ _ _ _ _ _ _ _ execution).2.kept
    step.holds bound holds.1
  exact ⟨by rw [kept.length]; exact holds.1, kept.stored.trans holds.2⟩

theorem sessions_sameJob (run : Run (StagingStep hash) before events after)
    (sessions : ∀ event ∈ events, event.IsSession) :
    SameJob before.upload after.upload := by
  refine run.invariant (fun system => SameJob before.upload system.upload)
    UploadEvent.IsSession ?_ sessions .refl
  intro here event next isSession holds step
  rcases isSession with ⟨request, fragments, dropped, op⟩
  have execution := step.taken.2.2
  rw [op] at execution
  exact holds.trans (chunkSession_sameJob _ _ _ _ _ _ _ _ execution)

theorem delivered_chunk {bytes : List UInt8}
    (run : Run (StagingStep hash) before events after)
    (sessions : ∀ event ∈ events, event.IsSession) {index : Nat}
    (bound : index < 128) {event : UploadEvent} (member : event ∈ events)
    (delivers : event.Delivers bytes index) :
    after.upload.chunkLength index ≠ 0 ∧
      storedChunk after.upload after.world.flash index =
        chunkOf bytes index := by
  rcases delivers with ⟨request, fragments, dropped, op, result, sequence, sent⟩
  rcases List.append_of_mem member with ⟨earlier, later, split⟩
  rw [split] at run sessions
  rcases run_middle_iff.mp run with ⟨here, next, _, step, rest⟩
  have execution := step.taken.2.2
  rw [op, result] at execution
  rcases (chunkSession_ensures _ _ _ _ _ _ _ _ execution).2.stores with
    ⟨admitted, length, contents⟩
  rw [sequence] at length contents
  have listed : next.upload.chunkLength index ≠ 0 := by
    rw [length, admitted.whole]
    exact Nat.ne_of_gt admitted.positive
  have kept := sessions_keep bound rest
    (fun event member => sessions event (by simp [member])) listed
  exact ⟨kept.1, by rw [kept.2, contents, sent]⟩

/-- After sessions that delivered every chunk, the upload is on flash. -/
theorem delivered_stored {bytes : List UInt8}
    (run : Run (StagingStep hash) before events after)
    (assembled : Assembled after.upload after.world.flash)
    (size : after.upload.expectedSize.toNat = bytes.length)
    (small : bytes.length ≤ 524288)
    (sessions : ∀ event ∈ events, event.IsSession)
    (delivered : ∀ index, chunkStart index < bytes.length →
      ∃ event ∈ events, event.Delivers bytes index) :
    Complete after.upload ∧ stored after.upload after.world.flash = bytes := by
  have chunk : ∀ index, chunkStart index < bytes.length →
      after.upload.chunkLength index ≠ 0 ∧
        storedChunk after.upload after.world.flash index =
          chunkOf bytes index := by
    intro index inside
    have bound : index < 128 := by
      simp only [chunkStart] at inside
      omega
    rcases delivered index inside with ⟨event, member, delivers⟩
    exact delivered_chunk run sessions bound member delivers
  have complete : Complete after.upload := fun index inside =>
    (chunk index (size ▸ inside)).1
  refine ⟨complete, ?_⟩
  have whole : bytes.take (chunkStart 128) = bytes := by
    apply List.take_of_length_le
    simp only [chunkStart]
    omega
  rw [assembled.whole complete, ← whole, chunks_take]
  apply List.flatMap_congr
  intro index member
  by_cases inside : chunkStart index < bytes.length
  · exact (chunk index inside).2
  · have beyond : bytes.length ≤ chunkStart index := by omega
    have empty : after.upload.chunkLength index = 0 := by
      rcases assembled.length index (List.mem_range.mp member) with empty | full
      · exact empty
      · rw [full, chunkSize, size]
        omega
    rw [storedChunk, empty, chunkOf, List.drop_eq_nil_of_le beyond]
    rfl

/-- A job can be sent in any order and in several attempts: without a failing
call every session that is not dropped is accepted. -/
theorem reliableRun_accepts {world : World} {bytes : List UInt8}
    {jobId : Vector UInt8 16} {size : UInt32} {digest : Vector UInt8 32}
    (beginnable : Beginnable jobId size digest)
    (length : size.toNat = bytes.length) {ops : List UploadOp}
    (sends : ∀ op ∈ ops, ∃ index dropped,
      chunkStart index < bytes.length ∧ op.Sends bytes jobId index dropped) :
    ∃ begins sessions,
      (reliableRun hash (initial world)
          (.begin jobId size digest :: ops)).1 = begins :: sessions ∧
        begins.op = .begin jobId size digest ∧
        begins.before = typxWifiUploadInit ∧ ¬Faulted Failed begins.trace ∧
        (∀ event ∈ sessions, event.IsSession) ∧
        sessions.map UploadEvent.op = ops ∧
        ∀ event ∈ sessions, ∀ index, chunkStart index < bytes.length →
          event.op.Sends bytes jobId index false → event.result = .ok := by
  rcases List.map_eq_cons_iff.mp (reliableRun_ops hash (initial world)
    (.begin jobId size digest :: ops)) with ⟨begins, sessions, split, op, sent⟩
  have run := reliableRun_run hash (initial world)
    (.begin jobId size digest :: ops)
  have unfaulted := reliableRun_unfaulted hash (initial world)
    (.begin jobId size digest :: ops)
  rw [split] at run unfaulted
  rcases run_cons_iff.mp run with ⟨began, first, rest⟩
  have clean := unfaulted begins (.head _)
  have execution := first.2.2
  rw [op] at execution
  have outcome := (typxWifiUploadBegin_outcome beginnable rfl _ _ _
    execution).resolve_right fun failed => clean failed.1
  have fresh : began.upload = begun jobId size digest :=
    congrArg Prod.snd outcome.2
  have sending : Sending bytes jobId began := {
    assembled := (first.effects (by rw [op]; trivial)).assembled assembled_initial
    receiving := by rw [fresh]; rfl
    jobId := by rw [fresh]; rfl
    size := by rw [fresh]; exact length
    chunks := by
      intro index _ listed
      rw [fresh] at listed
      exact absurd (chunkLength_of_cleared rfl index) listed }
  have asked : ∀ event ∈ sessions, ∃ index dropped,
      chunkStart index < bytes.length ∧
        event.op.Sends bytes jobId index dropped := by
    intro event member
    exact sends event.op (sent ▸ List.mem_map_of_mem member)
  refine ⟨begins, sessions, split, op, first.1, clean, ?_, sent, ?_⟩
  · intro event member
    rcases asked event member with ⟨index, dropped, _, fragments, session, _⟩
    exact ⟨_, fragments, dropped, session⟩
  · intro event member index inside whole
    exact sending.run rest asked event member index inside whole
      (unfaulted event (.tail _ member))

end Jobs

end Typxen.WifiUpload
