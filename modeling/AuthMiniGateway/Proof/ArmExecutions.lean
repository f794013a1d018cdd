import AuthMiniGateway.Proof.CalibrationArms
import AuthMiniGateway.Proof.CampaignArms

namespace AuthMiniGateway.Benchmark

section Processes

variable {hash : JournalHash} {coordinator : Coordinator} {start core : Core}

theorem Kept.refl {stage : Stage} (h : Sound hash coordinator core stage) :
    Kept hash coordinator core core := ⟨⟨stage, h⟩, fun _ => ⟨rfl, rfl, rfl⟩⟩

theorem run_meets {process : coordinator.Process} (h : Kept hash coordinator start core) :
    (coordinator.run hash process).Ends hash coordinator start core := by
  cases coordinator with
  | calibration => exact Calibration.runCalibration_meets h
  | campaign => exact Campaign.runCampaign_meets h

theorem kept_of_run {disk last : ExecutionDisk} {processes : List coordinator.Process}
    (hrun : (CutOff.system (coordinator.run hash)).Run disk processes last)
    (h : Kept hash coordinator disk.core disk.core) : Kept hash coordinator disk.core last.core := by
  refine hrun.invariant (fun state => Kept hash coordinator disk.core state.core) h ?_
  intro state process next hstate hstep
  exact ((run_meets hstate).stays fun _ _ hended => hended.kept).of_step hstep

theorem not_pass_of_stuck {disk : ExecutionDisk} {process : coordinator.Process} {stage : Stage}
    (hsound : Sound hash coordinator disk.core stage) (hstuck : Stuck disk.core) :
    (coordinator.run hash process disk).result ≠ .ok .pass := by
  intro hpass
  have hended := (run_meets (Kept.refl hsound) disk rfl).of_ok hpass
  obtain ⟨ordinal, hstarted, _⟩ := hstuck
  have hsame := (hended.kept.stuck ⟨ordinal, hstarted, ‹_›⟩).journal
  rw [← hsame, hended.pass rfl] at hstarted
  cases hstarted

/-- **Arms are executed at most once.** Let processes of one coordinator work on one evidence tree, one
after the other, each of them killed at any point or not. Then no ordinal has been executed twice, the
journal is a hash chain that is a beginning of the expected sequence, and there are as many completions as
raw leaves or one less. An arm that was started and has no leaf is not started or executed again by any
later process, and none of them ends with pass. -/
theorem arms_executed_once {processes : List coordinator.Process} {disk : ExecutionDisk}
    (hrun : (CutOff.system (coordinator.run hash)).Run .empty processes disk) :
    disk.executed.Nodup ∧
      HashChain hash.recordSha256 ExecutionJournalRecord.predecessorSha256 none disk.journal ∧
      disk.journal.map ExecutionJournalRecord.sequence = List.range disk.journal.length ∧
      (∃ arms, disk.journal.map ExecutionJournalRecord.shape <+: journalShapes coordinator arms) ∧
      disk.journal.countP (·.kind == .armComplete) ≤ disk.leaves.length ∧
      disk.leaves.length ≤ disk.journal.countP (·.kind == .armComplete) + 1 ∧
      ∀ record ∈ disk.journal, ∀ ordinal, record.shape = (.armStart, some ordinal) →
        (∀ leaf ∈ disk.leaves, leaf.arm.metadata.ordinal ≠ ordinal) →
        ∀ later last, (CutOff.system (coordinator.run hash)).Run disk later last →
          last.journal = disk.journal ∧ last.executed = disk.executed ∧ last.leaves = disk.leaves ∧
            ∀ process, (coordinator.run hash process last).result ≠ .ok .pass := by
  obtain ⟨⟨stage, hsound⟩, _⟩ := kept_of_run hrun (Kept.refl Sound.empty)
  obtain ⟨arms, hshapes⟩ := stage.shapes_isPrefix coordinator
  obtain ⟨hle, hge⟩ := hsound.completed_le
  rw [← hsound.countP_completions] at hle hge
  refine ⟨hsound.executed_nodup, hsound.chain, hsound.sequence, ⟨arms, hsound.shapes ▸ hshapes⟩, hle, hge, ?_⟩
  intro record hrecord ordinal hshape hleaf later last hlater
  obtain ⟨rfl, hfew⟩ := hsound.running_of_start hrecord hshape hleaf
  have hstuck : Stuck disk.core := ⟨ordinal, hsound.started_running, hfew⟩
  have hlast := kept_of_run hlater (Kept.refl hsound)
  obtain ⟨stage, hsound'⟩ := hlast.sound
  have hsame := hlast.stuck hstuck
  exact ⟨hsame.journal, hsame.executed, hsame.leaves, fun process =>
    not_pass_of_stuck hsound' (hsame.stuck hstuck)⟩

end Processes

def sampleSha (letter : Char) : Digest := String.ofList ('a' :: List.replicate 63 letter)

def sampleHash : JournalHash where
  fileSha256 _ := sampleSha 'b'
  recordSha256 record := if record.sequence = 0 then sampleSha 'c' else sampleSha 'd'
  rootSha256 _ := sampleSha 'e'

def sampleHost : Host where
  evidenceId := "run-1"
  bootIdSha256 := sampleSha '1'
  machineSha256 := sampleSha '2'
  buildSetSha256 := sampleSha '3'
  intentSha256 := sampleSha '4'
  initialFiles := [("intent.json", [])]
  boottimeNs _ := 0
  contents _ _ := []
  answer _ _ := .ok ()
  admissible _ _ := .ok true
  measure _ _ := .error "the gateway did not answer"
  verifySource _ := .ok .blocked

def sampleCampaignHost : CampaignHost where
  toHost := sampleHost
  selectedN := 10
  directOrder := allCells.flatMap fun cell => [(cell, .h1), (cell, .h2)]
  rounds := (List.range 10).map fun round => ⟨round, round, williamsRows.getD round [], allCells⟩
  planSha256 := sampleSha '5'
  acceptedSignatures := []
  boottimeOriginNs := 0
  semanticClass _ := .ok
  qualityClean _ := true
  gatewayFault _ := false
  analyse _ := .ok .pass

def sampleInterrupted : ExecutionDisk :=
  (Coordinator.run sampleHash .campaign sampleCampaignHost .empty).state
theorem arms_executed_once_interrupted :
    sampleInterrupted.executed = [0] ∧ sampleInterrupted.leaves = [] ∧
      sampleInterrupted.executed.Nodup ∧
      ∀ process, (Coordinator.run sampleHash .campaign process sampleInterrupted).result ≠ .ok .pass := by
  have hexecuted : sampleInterrupted.executed = [0] := by decide +kernel
  have hleaves : sampleInterrupted.leaves = [] := by decide +kernel
  have hstart : sampleInterrupted.journal.any (·.shape == (.armStart, some 0)) = true := by decide +kernel
  have hrun : (CutOff.system (Coordinator.run sampleHash .campaign)).Run .empty [sampleCampaignHost]
      sampleInterrupted := .step .start (Or.inr rfl)
  obtain ⟨record, hrecord, hshape⟩ := List.any_eq_true.mp hstart
  obtain ⟨hnodup, _, _, _, _, _, hstuck⟩ := arms_executed_once hrun
  have hlater := hstuck record hrecord 0 (beq_iff_eq.mp hshape) (by simp [hleaves]) [] _ .start
  exact ⟨hexecuted, hleaves, hnodup, hlater.2.2.2⟩

end AuthMiniGateway.Benchmark
