import Typxen.Protocol.Canonical
import Typxen.WifiUpload.Sending

/-! # Reassembling an upload

Whatever the order of the chunks, the storage holds each as the one session
that was accepted for it sent it. -/

namespace Typxen.WifiUpload

open Interaction Protocol NorFlash Transition

section Runs

variable {hash : List UInt8 → Vector UInt8 32} {world : World}
  {events : List UploadEvent} {before after final : System World}
  {event : UploadEvent}

/-- The session that put chunk `index` on flash with `payload`. It is the only
one: later sessions for the chunk find it listed, and succeed only with the
same payload. -/
structure AcceptedSession (index : Nat) (events : List UploadEvent)
    (payload : List UInt8) where
  first : List UploadEvent
  event : UploadEvent
  second : List UploadEvent
  request : ChunkRequest
  fragments : List (List UInt8)
  dropped : Bool
  split : events = first ++ event :: second
  op : event.op = .session request fragments dropped
  result : event.result = .ok
  sequence : request.sequence.toNat = index
  carried : fragments.flatten = payload
  unlisted : event.before.chunkLength index = 0
  listed : ∀ later ∈ second, later.before.chunkLength index ≠ 0
  unbegun : ∀ later ∈ second, ¬later.Begins
  repeated : ∀ later ∈ second, ∀ request fragments dropped,
    later.op = .session request fragments dropped → later.result = .ok →
    request.sequence.toNat = index → fragments.flatten = payload

theorem accepted_of_listed (run : Run (StagingStep hash) before events final)
    {index : Nat} (bound : index < 128)
    (unlisted : before.upload.chunkLength index = 0)
    (listed : final.upload.chunkLength index ≠ 0) :
    Nonempty (AcceptedSession index events
      (storedChunk final.upload final.world.flash index)) := by
  rcases run.last_entry (fun system => system.upload.chunkLength index ≠ 0)
    (not_not.mpr unlisted) listed with ⟨entry⟩
  have taken := entry.taken
  have empty := not_not.mp entry.outside
  rcases (taken.taken.effects taken.admitted).lists bound empty entry.inside with
    ⟨result, request, fragments, dropped, op, sequence, _, stored⟩
  have kept := storedChunk_kept bound entry.rest
  refine ⟨{
    first := entry.first
    event := entry.label
    second := entry.second
    request := request
    fragments := fragments
    dropped := dropped
    split := entry.split
    op := op
    result := result
    sequence := sequence
    carried := by rw [kept, stored]
    unlisted := by rw [taken.taken.1]; exact empty
    listed := ?_
    unbegun := ?_
    repeated := ?_ }⟩
  · intro later member
    rcases entry.rest.within_of_mem member with ⟨here, next, holds, step, _⟩
    rw [step.taken.1]
    exact holds
  · intro later member
    rcases entry.rest.within_of_mem member with ⟨here, next, _, step, still⟩
    exact step.taken.not_begins still
  · intro later member request fragments dropped op result sequence
    rcases List.append_of_mem member with ⟨earlier, rest, split⟩
    have within := entry.rest
    rw [split] at within
    rcases run_middle_iff.mp within with ⟨_, next, _, step, finish⟩
    rw [storedChunk_kept bound finish, ← sequence]
    exact (StagingStep.session_stores step.2.1 op result).symm

/-- Chunks are assembled without loss, in whatever order they come: every
listed chunk is on flash as the one accepted session for it sent it, and
sessions touch nothing but their own sector. -/
theorem upload_assemblesChunks
    (run : UploadRun (stagingStorage hash) (initial world) events final)
    (atomic : ∀ event ∈ events, event.op.Atomic) :
    (∀ index < 128, final.upload.chunkLength index ≠ 0 →
      typxWifiUploadCrc32 (storedChunk final.upload final.world.flash index) =
          final.upload.chunkCrc32[index]! ∧
        Nonempty (AcceptedSession index events
          (storedChunk final.upload final.world.flash index))) ∧
    (∀ event ∈ events, ∀ request fragments dropped,
      event.op = .session request fragments dropped →
      ∀ made ∈ event.trace, InSector request.sequence.toNat made.call ∧
        Inside 0 storageBytes made.call) ∧
    ((∀ index, chunkStart index < final.upload.expectedSize.toNat →
        final.upload.chunkLength index ≠ 0) →
      slice final.world.flash 0 final.upload.expectedSize.toNat =
        (List.range 128).flatMap
          (storedChunk final.upload final.world.flash)) := by
  have staged := assembled_run run atomic
  have assembled := staged.still assembled_initial
  refine ⟨?_, ?_, assembled.whole⟩
  · intro index bound listed
    refine ⟨assembled.crc index bound listed, ?_⟩
    exact accepted_of_listed staged bound (chunkLength_of_cleared rfl index)
      listed
  · intro event member request fragments dropped op made called
    rcases run.step_of_mem (fun _ => True) (fun _ _ _ _ _ => trivial) trivial
      member with ⟨here, next, _, taken⟩
    have execution := taken.2.2
    rw [op] at execution
    have inSector :=
      (chunkSession_ensures _ _ _ _ _ _ _ _ execution).1 made called
    refine ⟨inSector, inSector.2.mono (Nat.zero_le _) ?_⟩
    have bound := inSector.1
    simp only [chunkStart, storageBytes]
    omega

end Runs

/-! ## One upload -/

def blankWorld : World := ⟨fun _ => 0xff, []⟩

def letterJob : Vector UInt8 16 := Vector.replicate 16 7

/-- The upload of `letterSchedule` in one chunk and two fragments, up to its
execution. -/
def letterUpload : List UploadOp := [
  .begin letterJob 224 letterDigest,
  .session ⟨letterJob, 0, 0, 224, typxWifiUploadCrc32 letterSchedule⟩
    [letterSchedule.take 100, letterSchedule.drop 100] false,
  .finalize letterJob 224 letterDigest,
  .prepareStart letterJob .ready,
  .markExecuting]

def letterRun : List UploadEvent × System World :=
  reliableRun (fun _ => letterDigest) (initial blankWorld) letterUpload

theorem letterRun_run :
    UploadRun (stagingStorage fun _ => letterDigest) (initial blankWorld)
      letterRun.1 letterRun.2 :=
  reliableRun_run _ _ _

theorem letterRun_atomic : ∀ event ∈ letterRun.1, event.op.Atomic := by
  apply reliableRun_atomic
  simp [letterUpload, UploadOp.Atomic]

theorem letterRun_executes : letterRun.2.upload.status = .executing := by
  decide +kernel

/-! ## A job of two chunks -/

def pageLetter (index : Nat) : Record where
  waitBeforeKeyDownUs := 1000
  keyDownHoldUs := 8000
  waitAfterReleaseUs := 2000
  sourceIndex := UInt32.ofNat (index + 1)
  modifier := 0
  keycode := 4
  flags := 9

def pageCleanup (modifier keycode : UInt8) (wait : UInt32) : Record where
  waitBeforeKeyDownUs := 0
  keyDownHoldUs := 8000
  waitAfterReleaseUs := wait
  sourceIndex := 123
  modifier := modifier
  keycode := keycode
  flags := 14

/-- The letter `a` 123 times, followed by the final cleanup. -/
def pageRecords : List Record :=
  (List.range 123).map pageLetter ++
    [pageCleanup 0 0x29 60000, pageCleanup 3 0x4d 0, pageCleanup 0 0x4c 0]

def pageHeader : Header := { headerOf letterSchedule with
  actionCount := 126
  payloadBytes := 4032
  totalSourceCharacters := 123
  totalExpectedDurationUs := 1437000 }

def pageSchedule : List UInt8 := encode pageHeader pageRecords

theorem pageRecords_length : pageRecords.length = 126 := by
  rw [pageRecords, List.length_append, List.length_map, List.length_range]
  rfl

theorem pageSchedule_length : pageSchedule.length = 4128 := by
  rw [pageSchedule, encode_length, pageRecords_length]

theorem pageRecords_cases {property : Record → Prop}
    (letter : ∀ index < 123, property (pageLetter index))
    (first : property (pageCleanup 0 0x29 60000))
    (second : property (pageCleanup 3 0x4d 0))
    (third : property (pageCleanup 0 0x4c 0)) :
    ∀ record ∈ pageRecords, property record := by
  intro record member
  rcases List.mem_append.mp member with letters | cleanup
  · rcases List.mem_map.mp letters with ⟨index, within, rfl⟩
    exact letter index (List.mem_range.mp within)
  · simp only [List.mem_cons, List.not_mem_nil, or_false] at cleanup
    rcases cleanup with rfl | rfl | rfl
    · exact first
    · exact second
    · exact third

theorem pageLetter_rules (index : Nat) : RecordRules (pageLetter index) where
  hold := rfl
  modifier := by
    change (0 : UInt8) ≤ 3
    decide
  keycode := by
    left
    change (0x04 : UInt8) ≤ 4 ∧ (4 : UInt8) ≤ 0x31
    decide
  flags := by
    change FlagsAllowed 9
    decide

theorem pageLetter_delays (index : Nat) :
    DelaysWithin 600000000 (pageLetter index) where
  waitBefore := by
    change 1000 ≤ 600000000
    decide
  hold := by
    change 8000 ≤ 600000000
    decide
  waitAfter := by
    change 2000 ≤ 600000000
    decide

theorem pageLetter_position {index : Nat} (within : index < 123) :
    PositionRules 126 123 index (pageLetter index) := by
  have source : (pageLetter index).sourceIndex.toNat = index + 1 := by
    rw [pageLetter, UInt32.toNat_ofNat']
    omega
  have unmarked : (pageLetter index).flags.toNat.testBit 2 = false := by
    change Nat.testBit 9 2 = false
    decide
  constructor
  · rw [source]
    exact within
  · intro _
    rw [source]
    exact Nat.succ_pos index
  · rw [unmarked]
    constructor
    · intro impossible
      cases impossible
    · intro late
      omega
  · intro late
    omega

theorem pageCleanup_position (last : Nat) (bound : last < 3)
    {modifier keycode : UInt8} {wait : UInt32}
    (key : (modifier, keycode) = cleanupKey last) :
    PositionRules 126 123 (123 + last) (pageCleanup modifier keycode wait) where
  sourceBound := Nat.le_refl 123
  sourcePositive := fun _ => by
    change 0 < 123
    decide
  cleanupMarked := by
    have marked : Nat.testBit 14 2 = true := by decide
    exact iff_of_true marked (by omega)
  cleanupKey := fun _ => by
    have place : 123 + last + 3 - 126 = last := by omega
    rw [place]
    exact key

theorem pageRecords_getElem (index : Nat) (within : index < pageRecords.length) :
    PositionRules 126 123 index pageRecords[index] := by
  have total := pageRecords_length
  by_cases letter : index < 123
  · have same : pageRecords[index] = pageLetter index := by
      simp [pageRecords, letter]
    rw [same]
    exact pageLetter_position letter
  · have last : index = 123 ∨ index = 124 ∨ index = 125 := by omega
    rcases last with rfl | rfl | rfl
    · exact pageCleanup_position 0 (by decide) rfl
    · exact pageCleanup_position 1 (by decide) rfl
    · exact pageCleanup_position 2 (by decide) rfl

theorem pageRecords_rules :
    V1Rules (fun _ => letterDigest) pageHeader pageRecords where
  protocolMajor := by decide +kernel
  scheduleFormat := by decide +kernel
  actionCount := by rw [pageRecords_length]; rfl
  payloadBytes := by rw [pageRecords_length]; rfl
  sources := by decide
  jobId := ⟨1, by decide +kernel, by decide⟩
  payloadSha256 := by decide +kernel
  countLower := by rw [pageRecords_length]; decide
  each := by
    apply pageRecords_cases
    · intro index _
      exact pageLetter_rules index
    · exact ⟨rfl, by decide, .inl (by decide), by decide⟩
    · exact ⟨rfl, by decide, .inr (.inr (.inr (.inr (.inl rfl)))), by decide⟩
    · exact ⟨rfl, by decide, .inr (.inr (.inr (.inl rfl))), by decide⟩
  positions := by
    intro index within
    rw [pageRecords_length]
    exact pageRecords_getElem index within
  monotone := by decide +kernel
  duration := by decide +kernel

theorem pageSchedule_accepted :
    AcceptableV1 typxProtocolV1Esp32CamLimits (fun _ => letterDigest)
      pageSchedule := by
  apply acceptableV1_encode pageRecords_rules
  constructor
  · rw [pageRecords_length]
    decide
  · rw [pageRecords_length]
    decide
  · apply pageRecords_cases
    · intro index _
      exact pageLetter_delays index
    · exact ⟨by decide, by decide, by decide⟩
    · exact ⟨by decide, by decide, by decide⟩
    · exact ⟨by decide, by decide, by decide⟩

/-- The second chunk first, the first one after an attempt that the connection
dropped, and then the second one again. -/
def pageUpload : List UploadOp := [
  .session (requestOf pageSchedule letterJob 1)
    [(chunkOf pageSchedule 1).take 16, (chunkOf pageSchedule 1).drop 16] false,
  .session (requestOf pageSchedule letterJob 0)
    [(chunkOf pageSchedule 0).take 1500] true,
  .session (requestOf pageSchedule letterJob 0)
    [(chunkOf pageSchedule 0).take 1500, (chunkOf pageSchedule 0).drop 1500]
    false,
  .session (requestOf pageSchedule letterJob 1)
    [(chunkOf pageSchedule 1).take 20, (chunkOf pageSchedule 1).drop 20] false]

def pageSent : List UploadEvent × System World :=
  reliableRun (fun _ => letterDigest) (initial blankWorld)
    (.begin letterJob 4128 letterDigest :: pageUpload)

theorem pageSent_run :
    UploadRun (stagingStorage fun _ => letterDigest) (initial blankWorld)
      pageSent.1 pageSent.2 :=
  reliableRun_run _ _ _

theorem pageChunk_length : (chunkOf pageSchedule 0).length = 4096 ∧
    (chunkOf pageSchedule 1).length = 32 := by
  rw [chunkOf_length, chunkOf_length, pageSchedule_length]
  exact ⟨rfl, rfl⟩

theorem pageUpload_sends : ∀ op ∈ pageUpload, ∃ index dropped,
    chunkStart index < pageSchedule.length ∧
      op.Sends pageSchedule letterJob index dropped := by
  rcases pageChunk_length with ⟨first, second⟩
  rw [pageSchedule_length]
  intro op member
  simp only [pageUpload, List.mem_cons, List.not_mem_nil, or_false] at member
  rcases member with rfl | rfl | rfl | rfl
  · exact ⟨1, false, by decide, sends_halves _ _ (by decide) (by omega)⟩
  · exact ⟨0, true, by decide, _, rfl, fun whole => nomatch whole⟩
  · exact ⟨0, false, by decide, sends_halves _ _ (by decide) (by omega)⟩
  · exact ⟨1, false, by decide, sends_halves _ _ (by decide) (by omega)⟩

theorem pageSent_atomic : ∀ event ∈ pageSent.1, event.op.Atomic := by
  apply reliableRun_atomic
  simp [pageUpload, UploadOp.Atomic]

theorem pageSent_accepts : ∃ begins sessions,
    pageSent.1 = begins :: sessions ∧
      begins.op = .begin letterJob 4128 letterDigest ∧
      begins.before = typxWifiUploadInit ∧ ¬Faulted Failed begins.trace ∧
      (∀ event ∈ sessions, event.IsSession) ∧
      (∀ event ∈ sessions, ∃ index dropped,
        chunkStart index < pageSchedule.length ∧
          event.op.Sends pageSchedule letterJob index dropped) ∧
      ∀ index, chunkStart index < pageSchedule.length →
        ∃ event ∈ sessions, event.op.Sends pageSchedule letterJob index false ∧
          event.result = .ok := by
  have beginnable : Beginnable letterJob 4128 letterDigest :=
    ⟨by decide +kernel, by decide +kernel, by decide, by decide⟩
  rcases @reliableRun_accepts (fun _ => letterDigest) blankWorld _ _ _ _
    beginnable pageSchedule_length.symm _ pageUpload_sends with
    ⟨begins, sessions, split, op, here, clean, isSession, ops, accepts⟩
  refine ⟨begins, sessions, split, op, here, clean, isSession, ?_, ?_⟩
  · intro event member
    exact pageUpload_sends event.op (ops ▸ List.mem_map_of_mem member)
  intro index inside
  have sent : ∃ op ∈ pageUpload, op.Sends pageSchedule letterJob index false := by
    rcases pageChunk_length with ⟨first, second⟩
    have few : index = 0 ∨ index = 1 := by
      rw [pageSchedule_length, chunkStart] at inside
      omega
    rcases few with rfl | rfl
    · exact ⟨_, .tail _ (.tail _ (.head _)),
        sends_halves _ _ (by decide) (by omega)⟩
    · exact ⟨_, .head _, sends_halves _ _ (by decide) (by omega)⟩
  rcases sent with ⟨op, member, sends⟩
  rw [← ops] at member
  rcases List.mem_map.mp member with ⟨event, within, rfl⟩
  exact ⟨event, within, sends, accepts event within index inside sends⟩

theorem pageSent_listed {index : Nat} (few : index < 2) :
    pageSent.2.upload.chunkLength index ≠ 0 ∧
      storedChunk pageSent.2.upload pageSent.2.world.flash index =
        chunkOf pageSchedule index := by
  rcases pageSent_accepts with
    ⟨begins, sessions, split, _, _, _, isSession, _, accepts⟩
  have staged := assembled_run pageSent_run pageSent_atomic
  rw [split] at staged
  rcases run_cons_iff.mp staged with ⟨began, _, rest⟩
  have inside : chunkStart index < pageSchedule.length := by
    rw [pageSchedule_length, chunkStart]
    omega
  have bound : index < 128 := by omega
  rcases accepts index inside with ⟨event, member, sends, accepted⟩
  exact delivered_chunk rest isSession bound member
    (sends.delivers bound accepted)

theorem upload_assemblesChunks_page :
    Nonempty (AcceptedSession 0 pageSent.1 (chunkOf pageSchedule 0)) ∧
      Nonempty (AcceptedSession 1 pageSent.1 (chunkOf pageSchedule 1)) := by
  have assembled := (upload_assemblesChunks pageSent_run pageSent_atomic).1
  rcases pageSent_listed (show 0 < 2 by decide) with ⟨first, start⟩
  rcases pageSent_listed (show 1 < 2 by decide) with ⟨second, rest⟩
  rw [← start, ← rest]
  exact ⟨(assembled 0 (by decide) first).2, (assembled 1 (by decide) second).2⟩

end Typxen.WifiUpload
