import Typxen.Foundation.NorFlash
import Typxen.Protocol.Acceptance
import Typxen.WifiUpload.Operations

/-! # The staging storage

The 512 KiB NOR flash partition behind the storage interface, next to a
SHA-256 provider that computes a fixed function. Any call may fail; a failed
erase or write leaves anything in the range it addressed, and only there. -/

namespace Typxen.WifiUpload

open Interaction Protocol ByteString NorFlash

def storageBytes : Nat := 524288

structure World where
  flash : Contents
  absorbed : List UInt8

/-- The answers of the storage and of the provider. Other calls leave both
alone. -/
def stagingStorage (hash : List UInt8 → Vector UInt8 32) :
    Environment callbacks World
  | .erase, before, answer, after =>
      after.absorbed = before.absorbed ∧
        Elsewhere before.flash after.flash 0 storageBytes ∧
        (answer = true → after.flash = NorFlash.erase before.flash 0 storageBytes)
  | .eraseRange offset length, before, answer, after =>
      after.absorbed = before.absorbed ∧
        Elsewhere before.flash after.flash offset.toNat length ∧
        (answer = true →
          after.flash = NorFlash.erase before.flash offset.toNat length)
  | .write offset data, before, answer, after =>
      after.absorbed = before.absorbed ∧
        Elsewhere before.flash after.flash offset.toNat data.length ∧
        (answer = true →
          after.flash = NorFlash.program before.flash offset.toNat data)
  | .read offset length, before, answer, after =>
      after = before ∧
        (answer = none ∨ answer = some (buffer before.flash offset.toNat length))
  | .sha256Begin, before, answer, after =>
      after.flash = before.flash ∧ (answer = true → after.absorbed = [])
  | .sha256Update data, before, answer, after =>
      after.flash = before.flash ∧
        (answer = true → after.absorbed = before.absorbed ++ data)
  | .sha256Finish, before, answer, after =>
      after = before ∧ (answer = none ∨ answer = some (hash before.absorbed))
  | .readAt _ _, before, _, after => after = before
  | .nowUs, before, _, after => after = before
  | .waitUs _, before, _, after => after = before
  | .keyDown _ _, before, _, after => after = before
  | .releaseAll, before, _, after => after = before
  | .stopRequested, before, _, after => after = before
  | .progress _ _ _, before, _, after => after = before
  | .terminal _ _ _, before, _, after => after = before

def Failed (event : Event) : Prop := event.succeeded = false

section Reading

variable {hash : List UInt8 → Vector UInt8 32}

def stored (upload : Upload) (flash : Contents) : List UInt8 :=
  slice flash 0 upload.expectedSize.toNat

theorem block_slice {flash : Contents} {size offset length : Nat}
    (within : offset + length ≤ size) :
    block (slice flash 0 size) offset length = buffer flash offset length := by
  apply Vector.toList_inj.mp
  rw [block_toList _ _ _ (by simpa using within), slice_drop_take within,
    buffer_toList, Nat.zero_add]

theorem stagingStorage_hashes (flash : Contents) :
    Hashes (stagingStorage hash) Failed (fun world => world.flash = flash)
      World.absorbed hash where
  begin := by
    intro before answer after holds step
    rcases step with ⟨kept, absorbed⟩
    refine ⟨kept.trans holds, ?_⟩
    cases answer with
    | true => exact .inl ⟨rfl, absorbed rfl, Bool.noConfusion⟩
    | false => exact .inr ⟨rfl, rfl⟩
  update := by
    intro data before answer after holds step
    rcases step with ⟨kept, absorbed⟩
    refine ⟨kept.trans holds, ?_⟩
    cases answer with
    | true => exact .inl ⟨rfl, absorbed rfl, Bool.noConfusion⟩
    | false => exact .inr ⟨rfl, rfl⟩
  finish := by
    intro before answer after holds step
    rcases step with ⟨kept, answered⟩
    rw [kept]
    refine ⟨holds, ?_⟩
    rcases answered with none | some
    · rw [none]
      exact .inr ⟨rfl, rfl⟩
    · rw [some]
      exact .inl ⟨rfl, Bool.noConfusion⟩

theorem uploadReadAt_of_within {size : UInt32} {offset : UInt64} {length : Nat}
    (within : offset.toNat + length ≤ size.toNat) :
    uploadReadAt size offset length = Storage.read offset.toUInt32 length := by
  have below : offset ≤ size.toUInt64 := by
    rw [UInt64.le_iff_toNat_le, UInt32.toNat_toUInt64]
    omega
  have room : length ≤ size.toNat - offset.toNat := by omega
  rw [uploadReadAt, if_pos]
  simp [below, room]

theorem uploadReader_serves (hash : List UInt8 → Vector UInt8 32)
    (upload : Upload) (flash : Contents) :
    Serves (stagingStorage hash) Failed (fun world => world.flash = flash)
      World.absorbed (uploadReader upload.expectedSize) (stored upload flash) where
  size := by simp [uploadReader, stored]
  read offset length before holds within := by
    have inside : offset.toNat + length ≤ upload.expectedSize.toNat := by
      simpa [stored] using within
    have small : offset.toUInt32.toNat = offset.toNat := by
      rw [UInt64.toNat_toUInt32]
      have bound := upload.expectedSize.toNat_lt
      omega
    have read : (uploadReader upload.expectedSize).readAt offset length =
        Storage.read offset.toUInt32 length := uploadReadAt_of_within inside
    rw [read, Storage.read, Program.ensures_call]
    intro answer after step
    rcases step with ⟨kept, answered⟩
    rw [kept]
    refine ⟨holds, rfl, ?_⟩
    rcases answered with none | some
    · rw [none]
      exact .inr ⟨rfl, by simp [Failed, Event.succeeded]⟩
    · rw [some, small, stored, block_slice inside, ← holds]
      exact .inl ⟨rfl, by simp [Failed, Event.succeeded]⟩

end Reading

/-! ## When nothing fails -/

section Reliable

variable (hash : List UInt8 → Vector UInt8 32)

/-- The staging storage on a day when no call fails. Reads through
`typx_reader_t` do not occur here. -/
def reliableAnswer :
    (request : Callback) → World → Callback.Answer request × World
  | .erase, world =>
      (true, { world with flash := erase world.flash 0 storageBytes })
  | .eraseRange offset length, world =>
      (true, { world with flash := erase world.flash offset.toNat length })
  | .write offset data, world =>
      (true, { world with flash := program world.flash offset.toNat data })
  | .read offset length, world =>
      (some (buffer world.flash offset.toNat length), world)
  | .sha256Begin, world => (true, { world with absorbed := [] })
  | .sha256Update data, world =>
      (true, { world with absorbed := world.absorbed ++ data })
  | .sha256Finish, world => (some (hash world.absorbed), world)
  | .readAt _ length, world => (some (Vector.replicate length 0), world)
  | .nowUs, world => (0, world)
  | .waitUs _, world => (true, world)
  | .keyDown _ _, world => (true, world)
  | .releaseAll, world => (true, world)
  | .stopRequested, world => (true, world)
  | .progress _ _ _, world => ((), world)
  | .terminal _ _ _, world => ((), world)

theorem reliableAnswer_staging (request : Callback) (world : World) :
    stagingStorage hash request world (reliableAnswer hash request world).1
        (reliableAnswer hash request world).2 ∧
      Event.succeeded ⟨request, (reliableAnswer hash request world).1⟩ =
        true := by
  cases request with
  | erase => exact ⟨⟨rfl, erase_elsewhere, fun _ => rfl⟩, rfl⟩
  | eraseRange offset length => exact ⟨⟨rfl, erase_elsewhere, fun _ => rfl⟩, rfl⟩
  | write offset data => exact ⟨⟨rfl, program_elsewhere, fun _ => rfl⟩, rfl⟩
  | read offset length => exact ⟨⟨rfl, .inr rfl⟩, rfl⟩
  | sha256Begin => exact ⟨⟨rfl, fun _ => rfl⟩, rfl⟩
  | sha256Update data => exact ⟨⟨rfl, fun _ => rfl⟩, rfl⟩
  | sha256Finish => exact ⟨⟨rfl, .inr rfl⟩, rfl⟩
  | _ => exact ⟨rfl, rfl⟩

theorem reliableAnswer_exec {α : Type} (program : Firmware α) (before : World) :
    Program.Exec (stagingStorage hash) program before
        (program.run (reliableAnswer hash) before).1
        (program.run (reliableAnswer hash) before).2.1
        (program.run (reliableAnswer hash) before).2.2 ∧
      ¬Faulted Failed (program.run (reliableAnswer hash) before).1 := by
  have execution := Program.exec_run (reliableAnswer hash) program before
  constructor
  · apply execution.weaken
    intro request before answer after step
    have staging := (reliableAnswer_staging hash request before).1
    rw [show reliableAnswer hash request before = (answer, after) from step]
      at staging
    exact staging
  · intro faulted
    rcases faulted with ⟨event, member, failed⟩
    have succeeded := execution.forall_events (fun event =>
      Event.succeeded event = true) ?_ event member
    · exact Bool.noConfusion (failed.symm.trans succeeded)
    · intro request before answer after step
      have reliable := (reliableAnswer_staging hash request before).2
      rw [show reliableAnswer hash request before = (answer, after) from step]
        at reliable
      exact reliable

def reliableRun : System World → List UploadOp → List UploadEvent × System World
  | system, [] => ([], system)
  | system, op :: ops =>
      let (trace, (error, next), world) :=
        (perform system.upload op).run (reliableAnswer hash) system.world
      let (events, final) := reliableRun ⟨next, world⟩ ops
      (⟨op, error, system.upload, next, trace⟩ :: events, final)

theorem reliableRun_run (system : System World) (ops : List UploadOp) :
    UploadRun (stagingStorage hash) system (reliableRun hash system ops).1
      (reliableRun hash system ops).2 := by
  induction ops generalizing system with
  | nil => exact .nil system
  | cons op ops induction =>
      have execution :=
        (reliableAnswer_exec hash (perform system.upload op) system.world).1
      exact .cons ⟨rfl, rfl, execution⟩ (induction _)

theorem reliableRun_ops (system : System World) (ops : List UploadOp) :
    (reliableRun hash system ops).1.map UploadEvent.op = ops := by
  induction ops generalizing system with
  | nil => rfl
  | cons op ops induction => exact congrArg (op :: ·) (induction _)

theorem reliableRun_unfaulted (system : System World) (ops : List UploadOp) :
    ∀ event ∈ (reliableRun hash system ops).1, ¬Faulted Failed event.trace := by
  induction ops generalizing system with
  | nil => exact fun event member => nomatch member
  | cons op ops induction =>
      intro event member
      rcases List.mem_cons.mp member with same | later
      · rw [same]
        exact (reliableAnswer_exec hash (perform system.upload op)
          system.world).2
      · exact induction _ event later

theorem reliableRun_atomic (system : System World) (ops : List UploadOp)
    (atomic : ∀ op ∈ ops, op.Atomic) :
    ∀ event ∈ (reliableRun hash system ops).1, event.op.Atomic := by
  intro event member
  apply atomic
  rw [← reliableRun_ops hash system ops]
  exact List.mem_map_of_mem member

end Reliable

end Typxen.WifiUpload
