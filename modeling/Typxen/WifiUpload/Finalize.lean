import Typxen.WifiUpload.Chunks
import Typxen.WifiUpload.Operations

/-! # Finalizing an upload

What `typx_wifi_upload_finalize` decides about the stored bytes. The hash of
the whole upload and the schedule verification both read the staging storage;
neither changes it. -/

namespace Typxen.WifiUpload

open Interaction Protocol NorFlash

section Content

variable {hash : List UInt8 → Vector UInt8 32}

/-- The hash loop absorbs the stored bytes in order. The induction is on the
bytes that remain. -/
theorem hashStored_ensures (offset : UInt32) (remaining : Nat) (before : World)
    (fits : offset.toNat + remaining < 2 ^ 32) :
    Program.Ensures (stagingStorage hash) (hashStored offset remaining) before
      fun trace done after => after.flash = before.flash ∧
        (done = true ∧ after.absorbed =
            before.absorbed ++ slice before.flash offset.toNat remaining ∧
            ¬Faulted Failed trace ∨
          done = false ∧ Faulted Failed trace) := by
  induction remaining using Nat.strongRecOn generalizing offset before with
  | ind remaining induction =>
  rw [hashStored]
  by_cases more : remaining > 0
  case neg =>
    have none : remaining = 0 := by omega
    rw [dif_neg more]
    simp [none]
  rw [dif_pos more]
  have chunkLe : min remaining 256 ≤ remaining := Nat.min_le_left _ _
  have advanced : (offset + UInt32.ofNat (min remaining 256)).toNat =
      offset.toNat + min remaining 256 := by
    rw [UInt32.toNat_add, UInt32.toNat_ofNat']
    omega
  simp only [Storage.read_bind, Program.ensures_ask]
  intro answer read step
  rcases step with ⟨kept, none | some⟩
  · rw [kept, none]
    simp [Failed, Event.succeeded]
  rw [kept, some]
  simp only [buffer_toList, Sha256.update_bind, Program.ensures_ask]
  intro answer updated step
  rcases step with ⟨flash, absorbed⟩
  cases answer with
  | false => simp [flash, Failed, Event.succeeded]
  | true =>
      have rest := induction (remaining - min remaining 256) (by omega)
        (offset + UInt32.ofNat (min remaining 256)) updated
        (by rw [advanced]; omega)
      simp only [if_true]
      refine rest.mono ?_
      intro trace done after holds
      rcases holds with ⟨later, outcome⟩
      refine ⟨later.trans flash, ?_⟩
      rcases outcome with ⟨finished, contents, clean⟩ | ⟨failed, fault⟩
      · refine .inl ⟨finished, ?_, ?_⟩
        · rw [contents, absorbed rfl, flash, advanced, List.append_assoc,
            ← slice_append, Nat.add_sub_cancel' chunkLe]
        · simp [Failed, Event.succeeded, clean]
      · exact .inr ⟨failed, by simp [fault]⟩

def Intact (hash : List UInt8 → Vector UInt8 32) (upload : Upload)
    (flash : Contents) : Prop :=
  hash (stored upload flash) = upload.expectedSha256

theorem verifyEncodedSha_ensures (upload : Upload) (before : World) :
    Program.Ensures (stagingStorage hash) (verifyEncodedSha upload) before
      fun trace result after => after.flash = before.flash ∧
        (result = .ok ∧ Intact hash upload before.flash ∧
            ¬Faulted Failed trace ∨
          (result = .sha256Mismatch ∨ result = .storageFailure) ∧
            (¬Intact hash upload before.flash ∨ Faulted Failed trace)) := by
  simp only [verifyEncodedSha, Sha256.begin_bind, Program.ensures_ask]
  intro answer began step
  rcases step with ⟨beganFlash, empty⟩
  cases answer with
  | false => simp [beganFlash, Failed, Event.succeeded]
  | true =>
  simp only [Bool.not_true, Bool.false_eq_true, if_false]
  refine (hashStored_ensures 0 upload.expectedSize.toNat began
    (by simpa using upload.expectedSize.toNat_lt)).bind ?_
  intro first done middle holds
  rcases holds with ⟨middleFlash, ⟨finished, contents, clean⟩ | ⟨failed, fault⟩⟩
  case inr => simp [failed, fault, middleFlash, beganFlash]
  simp only [finished, Bool.not_true, Bool.false_eq_true, if_false,
    Sha256.finish_bind, Program.ensures_ask]
  intro answer last step
  rcases step with ⟨kept, none | some⟩
  · rw [kept, none]
    simp [middleFlash, beganFlash, Failed, Event.succeeded]
  have whole : middle.absorbed = stored upload before.flash := by
    rw [contents, empty rfl, beganFlash]
    rfl
  rw [kept, some, whole]
  by_cases intact : hash (stored upload before.flash) = upload.expectedSha256
  · simp [intact, Intact, middleFlash, beganFlash, clean, Failed,
      Event.succeeded]
  · simp [intact, Intact, middleFlash, beganFlash]

structure Finalizable (upload : Upload) (jobId : Vector UInt8 16)
    (encodedSize : UInt32) (encodedSha256 : Vector UInt8 32) : Prop where
  status : upload.status = .receiving
  jobId : upload.jobId = jobId
  size : upload.expectedSize = encodedSize
  digest : upload.expectedSha256 = encodedSha256
  received : upload.receivedBytes = upload.expectedSize
  chunks : ∀ index < (chunkCount upload).toNat, upload.chunkLength index ≠ 0

structure Genuine (hash : List UInt8 → Vector UInt8 32) (upload : Upload)
    (flash : Contents) : Prop where
  intact : Intact hash upload flash
  acceptable : AcceptableV1 typxProtocolV1Esp32CamLimits hash
    (stored upload flash)

def verifiedUpload (upload : Upload) (flash : Contents) : VerifiedSchedule :=
  verifiedBy (uploadReader upload.expectedSize) typxProtocolV1Esp32CamLimits
    (headerOf (stored upload flash))

structure SameTables (upload next : Upload) : Prop where
  expectedSize : next.expectedSize = upload.expectedSize
  receivedBytes : next.receivedBytes = upload.receivedBytes
  chunkLengths : next.chunkLengths = upload.chunkLengths
  chunkCrc32 : next.chunkCrc32 = upload.chunkCrc32

theorem SameTables.refl {upload : Upload} : SameTables upload upload :=
  ⟨rfl, rfl, rfl, rfl⟩

inductive FinalizeOutcome (hash : List UInt8 → Vector UInt8 32)
    (upload : Upload) (jobId : Vector UInt8 16) (encodedSize : UInt32)
    (encodedSha256 : Vector UInt8 32) (flash : Contents) :
    Trace → UploadError → Upload → Prop
  | refused {error : UploadError} {next : Upload} :
      ¬Finalizable upload jobId encodedSize encodedSha256 → error ≠ .ok →
      next = upload ∨ next = setError upload .sha256Mismatch →
      FinalizeOutcome hash upload jobId encodedSize encodedSha256 flash []
        error next
  | promoted {trace : Trace} :
      Finalizable upload jobId encodedSize encodedSha256 →
      Genuine hash upload flash → ¬Faulted Failed trace →
      FinalizeOutcome hash upload jobId encodedSize encodedSha256 flash trace
        .ok (promoted upload (verifiedUpload upload flash))
  | rejected {trace : Trace} {error : UploadError} {next : Upload} :
      Finalizable upload jobId encodedSize encodedSha256 →
      ¬Genuine hash upload flash ∨ Faulted Failed trace → error ≠ .ok →
      next.status = .error → SameTables upload next →
      FinalizeOutcome hash upload jobId encodedSize encodedSha256 flash trace
        error next

theorem typxWifiUploadFinalize_ensures (upload : Upload)
    (jobId : Vector UInt8 16) (encodedSize : UInt32)
    (encodedSha256 : Vector UInt8 32) (before : World) :
    Program.Ensures (stagingStorage hash)
      (typxWifiUploadFinalize upload jobId encodedSize encodedSha256) before
      fun trace outcome after => after.flash = before.flash ∧
        FinalizeOutcome hash upload jobId encodedSize encodedSha256
          before.flash trace outcome.1 outcome.2 := by
  rw [typxWifiUploadFinalize]
  by_cases receiving : upload.status = .receiving
  case neg =>
    rw [if_pos (by simpa using receiving)]
    refine Program.ensures_done.mpr ⟨rfl, .refused ?_ (by simp) (.inl rfl)⟩
    exact fun finalizable => receiving finalizable.status
  rw [if_neg (by simp [receiving])]
  by_cases job : upload.jobId = jobId
  case neg =>
    rw [if_pos (by simpa [sameJob] using job)]
    refine Program.ensures_done.mpr ⟨rfl, .refused ?_ (by simp) (.inl rfl)⟩
    exact fun finalizable => job finalizable.jobId
  rw [if_neg (by simp [sameJob, job])]
  by_cases matching : encodedSize = upload.expectedSize ∧
      encodedSha256 = upload.expectedSha256
  case neg =>
    rw [if_pos (by
      simp only [Bool.or_eq_true, bne_iff_ne, ne_eq]
      exact not_and_or.mp matching)]
    refine Program.ensures_done.mpr ⟨rfl, .refused ?_ (by simp) (.inr rfl)⟩
    exact fun finalizable =>
      matching ⟨finalizable.size.symm, finalizable.digest.symm⟩
  rw [if_neg (by simp [matching])]
  by_cases received : upload.receivedBytes = upload.expectedSize
  case neg =>
    rw [if_pos (by simpa using received)]
    refine Program.ensures_done.mpr ⟨rfl, .refused ?_ (by simp) (.inl rfl)⟩
    exact fun finalizable => received finalizable.received
  rw [if_neg (by simp [received])]
  by_cases chunks : ∀ index < (chunkCount upload).toNat,
      upload.chunkLength index ≠ 0
  case neg =>
    rw [if_pos (by simpa using chunks)]
    refine Program.ensures_done.mpr ⟨rfl, .refused ?_ (by simp) (.inl rfl)⟩
    exact fun finalizable => chunks finalizable.chunks
  rw [if_neg (by simpa using chunks)]
  have finalizable : Finalizable upload jobId encodedSize encodedSha256 :=
    ⟨receiving, job, matching.1.symm, matching.2.symm, received, chunks⟩
  have size : (stored upload before.flash).length < 2 ^ 64 := by
    have bound := upload.expectedSize.toNat_lt
    rw [stored, slice_length]
    omega
  refine (verifyEncodedSha_ensures { upload with status := .verifying }
    before).bind ?_
  intro first hashed middle holds
  rcases holds with ⟨middleFlash, ⟨result, intact, clean⟩ | ⟨result, bad⟩⟩
  case inr =>
    have failed : hashed ≠ .ok := by
      rcases result with result | result <;> simp [result]
    simp only [bne_iff_ne, ne_eq, failed, not_false_eq_true, if_true]
    refine Program.ensures_done.mpr ⟨middleFlash, ?_⟩
    rw [List.append_nil]
    exact .rejected finalizable
      (bad.imp (fun changed genuine => changed genuine.intact) id) failed rfl
      ⟨rfl, rfl, rfl, rfl⟩
  rw [if_neg (by simp [result])]
  refine (typxProtocolV1Verify_ensures
    (uploadReader_serves _ { upload with status := .verifying } before.flash)
    (stagingStorage_hashes before.flash) middle middleFlash).bind ?_
  intro second verified last holds
  rcases holds with ⟨lastFlash, ⟨decided, verifyClean⟩ | ⟨failed, fault⟩⟩
  case inr =>
    rw [failed]
    refine Program.ensures_done.mpr ⟨lastFlash, ?_⟩
    exact .rejected finalizable (.inr (by simp [fault])) (by simp) rfl
      ⟨rfl, rfl, rfl, rfl⟩
  have unfaulted : ¬Faulted Failed (first ++ (second ++ [])) := by
    simp [clean, verifyClean]
  rw [decided, show stored { upload with status := .verifying } before.flash =
    stored upload before.flash from rfl]
  cases outcome : verdict hash typxProtocolV1Esp32CamLimits
      (stored upload before.flash) with
  | error error =>
      refine Program.ensures_done.mpr ⟨lastFlash, ?_⟩
      refine .rejected finalizable (.inl ?_) (by simp) rfl ⟨rfl, rfl, rfl, rfl⟩
      intro genuine
      have accepted := (verdict_eq_ok_iff size).mpr ⟨genuine.acceptable, rfl⟩
      rw [outcome] at accepted
      cases accepted
  | ok header =>
      rcases (verdict_eq_ok_iff size).mp outcome with ⟨acceptable, decoded⟩
      refine Program.ensures_done.mpr ⟨lastFlash, ?_⟩
      rw [decoded]
      exact .promoted finalizable ⟨intact, acceptable⟩ unfaulted

end Content

end Typxen.WifiUpload
