import Typxen.HidRuntime.Host

/-! # The last report of a calibration run

A run that is not cut off ends with an attempt to release all keys. -/

namespace Typxen.HidRuntime

open Interaction WifiService

def LastReleases (trace : Interaction.Trace hidCalls) : Prop :=
  ∃ first answer second, trace = first ++ attempt allZero answer :: second ∧
    ∀ event ∈ second, ¬IsReport event

variable {trace : Interaction.Trace hidCalls}

theorem LastReleases.prepend (releases : LastReleases trace)
    (before : Interaction.Trace hidCalls) : LastReleases (before ++ trace) := by
  rcases releases with ⟨first, answer, second, rfl, quiet⟩
  exact ⟨before ++ first, answer, second, by simp, quiet⟩

theorem LastReleases.append (releases : LastReleases trace)
    {after : Interaction.Trace hidCalls}
    (unreported : ∀ event ∈ after, ¬IsReport event) :
    LastReleases (trace ++ after) := by
  rcases releases with ⟨first, answer, second, rfl, quiet⟩
  refine ⟨first, answer, second ++ after, by simp, ?_⟩
  intro event member
  rcases List.mem_append.mp member with earlier | later
  · exact quiet event earlier
  · exact unreported event later

theorem lastReleases_attempt (answer : Bool) :
    LastReleases [attempt allZero answer] :=
  ⟨[], answer, [], rfl, by simp⟩

theorem releaseAttempts_lastReleases (attempts : Nat) (before : Host) :
    Program.Ensures calibrationEnvironment (releaseAttempts (attempts + 1))
      before fun trace _ _ => LastReleases trace := by
  induction attempts generalizing before with
  | zero =>
      refine Program.ensures_ask.mpr ?_
      intro answer middle _
      cases answer with
      | true => exact Program.ensures_done.mpr (lastReleases_attempt true)
      | false => exact Program.ensures_done.mpr (lastReleases_attempt false)
  | succ attempts induction =>
      refine Program.ensures_ask.mpr ?_
      intro answer middle _
      cases answer with
      | true => exact Program.ensures_done.mpr (lastReleases_attempt true)
      | false =>
          refine (induction middle).mono ?_
          intro trace _ _ releases
          exact releases.prepend [attempt allZero false]

def EndsReleased (relevant : HidError → Prop) (program : Hid HidError) : Prop :=
  ∀ before, Program.Ensures calibrationEnvironment program before
    fun trace error after => relevant error →
      after.runtime.connected = true → LastReleases trace

variable {relevant : HidError → Prop}

theorem EndsReleased.bind {α : Type} {program : Hid α}
    {continuation : α → Hid HidError}
    (rest : ∀ value, EndsReleased relevant (continuation value)) :
    EndsReleased relevant (program >>= continuation) := by
  intro before
  refine Program.ensures_true.bind ?_
  intro first value middle _
  refine (rest value middle).mono ?_
  intro second _ _ ends isRelevant connected
  exact (ends isRelevant connected).prepend first

theorem typxHidReleaseAll_endsReleased :
    EndsReleased relevant typxHidReleaseAll := by
  intro before
  refine Program.ensures_ask.mpr ?_
  intro runtime middle step
  rcases step with ⟨⟨rfl, kept⟩, _⟩
  change Program.Ensures calibrationEnvironment
    (if !before.runtime.connected then _ else _) _ _
  split
  · rename_i gone
    refine Program.ensures_done.mpr ?_
    intro _ connected
    rw [kept] at connected
    simp [connected] at gone
  · refine (releaseAttempts_lastReleases 2 middle).mono ?_
    intro trace _ _ releases _ _
    exact releases.prepend [⟨.runtime, before.runtime⟩]

theorem giveUp_endsReleased (clearStop : Bool) (result : HidError)
    {first : Interaction.Trace hidCalls} {middle : Host}
    (ends : middle.runtime.connected = true → LastReleases first) :
    Program.Ensures calibrationEnvironment
      (do Hid.call (.giveUp clearStop); return result) middle
      fun second _ after =>
        after.runtime.connected = true → LastReleases (first ++ second) := by
  refine Program.ensures_ask.mpr ?_
  intro answer after step
  refine Program.ensures_done.mpr ?_
  intro connected
  have still : middle.runtime.connected = true := by
    rw [← connected, show after.runtime = _ from step.1]
    rfl
  apply (ends still).append
  intro event member
  rw [List.mem_singleton.mp member]
  intro report
  rcases report with ⟨report, answer, same⟩
  cases same

theorem release_giveUp_endsReleased (clearStop : Bool)
    (result : HidError → HidError) :
    EndsReleased relevant (do
      let error ← typxHidReleaseAll
      Hid.call (.giveUp clearStop)
      return result error) := by
  intro before
  have released := @typxHidReleaseAll_endsReleased (fun _ => True) before
  refine released.bind ?_
  intro first error middle ends
  refine (giveUp_endsReleased clearStop (result error) (ends trivial)).mono ?_
  exact fun _ _ _ releases _ => releases

theorem sendCharacters_endsReleased (holdMs : UInt32)
    (characters : List Char) :
    EndsReleased relevant (sendCharacters holdMs characters) := by
  induction characters with
  | nil => exact release_giveUp_endsReleased true _
  | cons character rest induction =>
      apply EndsReleased.bind
      intro runtime
      split
      · exact release_giveUp_endsReleased true _
      · apply EndsReleased.bind
        intro error
        split
        · exact release_giveUp_endsReleased true _
        · exact induction

theorem countdownFrom_endsReleased (secondsLeft : Nat) :
    EndsReleased (· ≠ .ok) (countdownFrom secondsLeft) := by
  induction secondsLeft with
  | zero =>
      intro before
      exact Program.ensures_done.mpr (by simp)
  | succ secondsLeft induction =>
      apply EndsReleased.bind
      intro _
      apply EndsReleased.bind
      intro error
      split
      · exact release_giveUp_endsReleased false _
      · exact induction

theorem beginTaken_endsReleased : EndsReleased (· ≠ .ok) beginTaken := by
  intro before
  refine (@typxHidReleaseAll_endsReleased (fun _ => True) before).bind ?_
  intro first error middle ends
  split
  · refine (giveUp_endsReleased false error (ends trivial)).mono ?_
    exact fun _ _ _ releases _ => releases
  · refine (countdownFrom_endsReleased 5 middle).mono ?_
    intro second _ _ released failed connected
    exact (released failed connected).prepend first

theorem runTaken_endsReleased (holdMs : UInt32) (characters : List Char) :
    EndsReleased relevant (runTaken holdMs characters) := by
  intro before
  refine (beginTaken_endsReleased before).bind ?_
  intro first error middle ends
  split
  · rename_i failed
    refine Program.ensures_done.mpr ?_
    intro _ connected
    rw [List.append_nil]
    exact ends (by simpa using failed) connected
  · have sends := @sendCharacters_endsReleased relevant holdMs characters middle
    refine sends.mono ?_
    intro second _ _ released isRelevant connected
    exact (released isRelevant connected).prepend first

end Typxen.HidRuntime
