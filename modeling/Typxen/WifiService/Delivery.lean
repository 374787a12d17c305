import Typxen.WifiService.JobRequests
import Typxen.WifiUpload.Promotion

/-! # A job as texts

A client that writes a job into a body and its chunks into queries gets it
ready, whatever chunks it sends besides and however their bodies arrive. -/

namespace Typxen.WifiService

open CJson Json Protocol Transition WifiUpload

variable {Tree : Type} {json : Library Tree} {value : Tree → Value}
  {hash : List UInt8 → Vector UInt8 32} {bytes : List UInt8}
  {jobId : Vector UInt8 16}

/-! ## Requests -/

/-- The body of a request, if it is received, and whether there is memory for
its tree. -/
structure Body where
  content : Option (List UInt8)
  memory : Bool

def Body.root (json : Library Tree) (body : Body) : Option Tree :=
  readBody json body.content body.memory

inductive JobRequest
  | create (body : Body)
  | chunk (contentLength : Nat) (query : Option Query)
      (fragments : List (List UInt8)) (dropped : Bool)
  | finalize (body : Body)
  | cancel (body : Body)
  | device (op : UploadOp) (atomic : op.Atomic)

def JobRequest.op (json : Library Tree) : JobRequest → Option UploadOp
  | .create body => (jobBody json (body.root json)).map fun job =>
      .begin job.jobId job.size job.sha256
  | .chunk contentLength query fragments dropped =>
      (chunkQuery contentLength query).map fun request =>
        .session request fragments dropped
  | .finalize body => (jobBody json (body.root json)).map fun job =>
      .finalize job.jobId job.size job.sha256
  | .cancel body => (jsonJobId json (body.root json)).map .cancel
  | .device op _ => some op

abbrev Served := JobRequest × Option UploadEvent

inductive RequestStep (json : Library Tree)
    (hash : List UInt8 → Vector UInt8 32) :
    System World → Served → System World → Prop
  | taken {before after : System World} {request : JobRequest}
      {event : UploadEvent} :
      request.op json = some event.op →
      UploadStep (stagingStorage hash) before event after →
      RequestStep json hash before (request, some event) after
  | refused {before : System World} {request : JobRequest} :
      request.op json = none →
      RequestStep json hash before (request, none) before

theorem op_atomic {request : JobRequest} {op : UploadOp}
    (asks : request.op json = some op) : op.Atomic := by
  cases request with
  | device op atomic =>
      rw [← Option.some.inj asks]
      exact atomic
  | _ =>
      rcases Option.map_eq_some_iff.mp asks with ⟨_, _, rfl⟩
      trivial

/-- The requests that are not refused are a run of the upload. -/
theorem run_uploads {before after : System World} {served : List Served}
    (run : Run (RequestStep json hash) before served after) :
    UploadRun (stagingStorage hash) before (served.filterMap Prod.snd) after ∧
      ∀ entry ∈ served, ∀ event, entry.2 = some event →
        entry.1.op json = some event.op := by
  induction run with
  | nil => exact ⟨.nil _, by simp⟩
  | cons step _ induction =>
      rcases induction with ⟨uploads, asked⟩
      cases step with
      | taken asks step =>
          refine ⟨.cons step uploads, List.forall_mem_cons.mpr ⟨?_, asked⟩⟩
          intro event found
          rw [← Option.some.inj found]
          exact asks
      | refused unread =>
          refine ⟨uploads, List.forall_mem_cons.mpr ⟨?_, asked⟩⟩
          intro event found
          cases found

/-! ## What a client sends -/

def jobOf (hash : List UInt8 → Vector UInt8 32) (bytes : List UInt8)
    (jobId : Vector UInt8 16) : JobBody :=
  ⟨jobId, UInt32.ofNat bytes.length, hash bytes⟩

def sendChunk (bytes : List UInt8) (jobId : Vector UInt8 16) (index : Nat)
    (fragments : List (List UInt8)) : JobRequest :=
  .chunk (chunkOf bytes index).length
    (some (writeQuery (requestOf bytes jobId index))) fragments false

def jobText (hash : List UInt8 → Vector UInt8 32) (bytes : List UInt8)
    (jobId : Vector UInt8 16) : Body :=
  ⟨some (writeBody (jobOf hash bytes jobId)), true⟩

theorem jobOf_written (documented : Documented json value)
    (good : GoodJob hash bytes jobId) :
    jobBody json ((jobText hash bytes jobId).root json) =
      some (jobOf hash bytes jobId) := by
  have small := good.size
  have length : (UInt32.ofNat bytes.length).toNat = bytes.length := by
    rw [UInt32.toNat_ofNat']
    omega
  have whole := good.acceptable.length
  apply jobBody_written documented
  · apply UInt32.lt_iff_toNat_lt.mpr
    change 0 < (UInt32.ofNat bytes.length).toNat
    omega
  · apply UInt32.le_iff_toNat_le.mpr
    change (UInt32.ofNat bytes.length).toNat ≤ 524288
    omega

theorem writtenChunk_op (request : ChunkRequest)
    (positive : 0 < request.length.toNat) (small : request.length.toNat ≤ 4096)
    (fragments : List (List UInt8)) (dropped : Bool) :
    (JobRequest.chunk request.length.toNat (some (writeQuery request)) fragments
      dropped).op json = some (.session request fragments dropped) := by
  rw [JobRequest.op, chunkQuery_written request
    (UInt32.lt_iff_toNat_lt.mpr positive) (UInt32.le_iff_toNat_le.mpr small)]
  rfl

theorem requestOf_length {index : Nat} (inside : chunkStart index < bytes.length) :
    (requestOf bytes jobId index).length.toNat = (chunkOf bytes index).length ∧
      0 < (requestOf bytes jobId index).length.toNat ∧
      (requestOf bytes jobId index).length.toNat ≤ 4096 := by
  have length := chunkOf_length bytes index
  rw [chunkSize] at length
  have same : (requestOf bytes jobId index).length.toNat =
      (chunkOf bytes index).length := by
    rw [requestOf, UInt32.toNat_ofNat']
    omega
  exact ⟨same, by omega, by omega⟩

theorem sendChunk_op {index : Nat} (inside : chunkStart index < bytes.length)
    (fragments : List (List UInt8)) :
    (sendChunk bytes jobId index fragments).op json =
      some (.session (requestOf bytes jobId index) fragments false) := by
  rcases @requestOf_length bytes jobId index inside with ⟨same, positive, small⟩
  rw [sendChunk, ← same]
  exact writtenChunk_op _ positive small fragments false

theorem sendChunk_delivers {index : Nat} {fragments : List (List UInt8)}
    {event : UploadEvent} (small : bytes.length ≤ 524288)
    (inside : chunkStart index < bytes.length)
    (asks : (sendChunk bytes jobId index fragments).op json = some event.op)
    (accepted : event.result = .ok)
    (whole : fragments.flatten = chunkOf bytes index) :
    event.Delivers bytes index := by
  rw [sendChunk_op inside] at asks
  refine ⟨_, fragments, false, (Option.some.inj asks).symm, accepted, ?_, whole⟩
  change (UInt32.ofNat index).toNat = index
  rw [chunkStart] at inside
  rw [UInt32.toNat_ofNat']
  omega

/-! ## The job is ready -/

/-- What a client has sent when it finalizes: the job, and then chunks, of
which one was accepted for each part of the bytes. -/
structure Delivered (hash : List UInt8 → Vector UInt8 32) (bytes : List UInt8)
    (jobId : Vector UInt8 16) (created : Served) (sent : List Served) :
    Prop where
  creates : created.1 = .create (jobText hash bytes jobId)
  begun : ∃ event, created.2 = some event ∧
    typxWifiUploadJobLocked event.before = false ∧
    ¬Faulted Failed event.trace
  chunks : ∀ entry ∈ sent, ∃ contentLength query fragments dropped,
    entry.1 = .chunk contentLength query fragments dropped
  accepted : ∀ index, chunkStart index < bytes.length →
    ∃ fragments event,
      (sendChunk bytes jobId index fragments, some event) ∈ sent ∧
        event.result = .ok ∧ fragments.flatten = chunkOf bytes index

theorem delivered_promotable (documented : Documented json value)
    (good : GoodJob hash bytes jobId) {world : World}
    {prior sent : List Served} {created : Served} {final : System World}
    (run : Run (RequestStep json hash) (initial world)
      (prior ++ created :: sent) final)
    (delivered : Delivered hash bytes jobId created sent) :
    Assembled final.upload final.world.flash ∧
      Promotable final.upload jobId (UInt32.ofNat bytes.length) (hash bytes) ∧
      stored final.upload final.world.flash = bytes ∧
      Genuine hash final.upload final.world.flash := by
  rcases run_uploads run with ⟨uploads, asked⟩
  rcases delivered.begun with ⟨begins, here, unlocked, clean⟩
  have atomic : ∀ event ∈ (prior ++ created :: sent).filterMap Prod.snd,
      event.op.Atomic := by
    intro event member
    rcases List.mem_filterMap.mp member with ⟨entry, found, same⟩
    exact op_atomic (asked entry found event same)
  have staged := assembled_run uploads atomic
  have assembled := staged.still assembled_initial
  have sessions : ∀ event ∈ sent.filterMap Prod.snd, event.IsSession := by
    intro event member
    rcases List.mem_filterMap.mp member with ⟨entry, found, same⟩
    have asks := asked entry (by simp [found]) event same
    rcases delivered.chunks entry found with ⟨_, _, fragments, dropped, chunk⟩
    rw [chunk] at asks
    rcases Option.map_eq_some_iff.mp asks with ⟨request, _, op⟩
    exact ⟨request, fragments, dropped, op.symm⟩
  have op : begins.op =
      .begin jobId (UInt32.ofNat bytes.length) (hash bytes) := by
    have asks := asked created (by simp) begins here
    rw [delivered.creates, JobRequest.op, jobOf_written documented good] at asks
    exact (Option.some.inj asks).symm
  have arrived : ∀ index, chunkStart index < bytes.length →
      ∃ event ∈ sent.filterMap Prod.snd, event.Delivers bytes index := by
    intro index inside
    rcases delivered.accepted index inside with
      ⟨fragments, event, member, ok, whole⟩
    have asks := asked (sendChunk bytes jobId index fragments, some event)
      (by simp [member]) event rfl
    exact ⟨event, List.mem_filterMap.mpr ⟨_, member, rfl⟩,
      sendChunk_delivers good.size inside asks ok whole⟩
  rw [List.filterMap_append, List.filterMap_cons_some here] at staged
  rcases run_middle_iff.mp staged with ⟨_, began, _, step, rest⟩
  exact ⟨assembled, sent_promotable good unlocked op clean step sessions rest
    arrived⟩

/-- What was sent to the upload can be sent as chunk requests. -/
theorem sessions_served {before after : System World}
    {sessions : List UploadEvent}
    (uploads : UploadRun (stagingStorage hash) before sessions after)
    (sends : ∀ event ∈ sessions, ∃ index dropped,
      chunkStart index < bytes.length ∧
        event.op.Sends bytes jobId index dropped) :
    ∃ sent, Run (RequestStep json hash) before sent after ∧
      (∀ entry ∈ sent, ∃ contentLength query fragments dropped,
        entry.1 = .chunk contentLength query fragments dropped) ∧
      ∀ event ∈ sessions, ∀ request fragments dropped,
        event.op = .session request fragments dropped →
        (.chunk request.length.toNat (some (writeQuery request)) fragments
          dropped, some event) ∈ sent := by
  induction uploads with
  | nil => exact ⟨[], .nil _, by simp, by simp⟩
  | cons step _ induction =>
      rcases sends _ (.head _) with ⟨index, dropped, inside, fragments, op, _⟩
      rcases induction (fun event member => sends event (.tail _ member)) with
        ⟨sent, run, chunks, served⟩
      rcases @requestOf_length bytes jobId index inside with
        ⟨_, positive, small⟩
      have asks := @writtenChunk_op _ json (requestOf bytes jobId index) positive
        small fragments dropped
      rw [← op] at asks
      refine ⟨_ :: sent, .cons (.taken asks step) run, ?_, ?_⟩
      · exact List.forall_mem_cons.mpr ⟨⟨_, _, _, _, rfl⟩, chunks⟩
      · intro event member request pieces cut session
        rcases List.mem_cons.mp member with rfl | later
        · rw [op] at session
          injection session with same carried ended
          rw [← same, ← carried, ← ended]
          exact .head _
        · exact .tail _ (served event later request pieces cut session)

def pageText : Body := jobText (fun _ => letterDigest) pageSchedule letterJob

theorem pageText_read : jobBody ofValues (pageText.root ofValues) =
    some (jobOf (fun _ => letterDigest) pageSchedule letterJob) :=
  jobOf_written ofValues_documented page_good

theorem pageSent_served : ∃ created sent,
    Run (RequestStep ofValues fun _ => letterDigest) (initial blankWorld)
        ([] ++ created :: sent) pageSent.2 ∧
      Delivered (fun _ => letterDigest) pageSchedule letterJob created sent := by
  rcases pageSent_accepts with
    ⟨begins, sessions, split, op, here, clean, _, asked, accepts⟩
  have uploads := pageSent_run
  rw [split] at uploads
  rcases run_cons_iff.mp uploads with ⟨began, first, rest⟩
  rcases sessions_served rest asked with ⟨sent, run, chunks, served⟩
  have creates : (JobRequest.create pageText).op ofValues = some begins.op := by
    rw [JobRequest.op, pageText_read, op, jobOf, pageSchedule_length]
    rfl
  refine ⟨(.create pageText, some begins), sent, .cons (.taken creates first) run,
    ?_⟩
  constructor
  · rfl
  · exact ⟨begins, rfl, here ▸ rfl, clean⟩
  · exact chunks
  · intro index inside
    rcases accepts index inside with ⟨event, member, sends, ok⟩
    rcases sends with ⟨fragments, session, whole⟩
    have entry := served event member _ fragments false session
    rw [(requestOf_length inside).1] at entry
    exact ⟨fragments, event, entry, ok, (whole rfl).2⟩

theorem pageText_finalizes (final : System World) : ∃ event after,
    RequestStep ofValues (fun _ => letterDigest) final
        (.finalize pageText, some event) after ∧
      ¬Faulted Failed event.trace := by
  have finalizes := reliableAnswer_exec (fun _ => letterDigest)
    (perform final.upload (.finalize letterJob 4128 letterDigest)) final.world
  generalize Interaction.Program.run _ _ _ = outcome at finalizes
  rcases outcome with ⟨trace, ⟨error, next⟩, world⟩
  have asks : (JobRequest.finalize pageText).op ofValues =
      some (.finalize letterJob 4128 letterDigest) := by
    rw [JobRequest.op, pageText_read, jobOf, pageSchedule_length]
    rfl
  exact ⟨⟨.finalize letterJob 4128 letterDigest, error, final.upload, next, trace⟩,
    ⟨next, world⟩, .taken asks ⟨rfl, rfl, finalizes.1⟩, finalizes.2⟩

end Typxen.WifiService
