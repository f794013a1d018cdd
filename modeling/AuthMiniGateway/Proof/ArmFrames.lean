import AuthMiniGateway.Proof.ArmStages

namespace AuthMiniGateway.Benchmark

open CutOff (Preserves preserves_read preserves_write preserves_ofExcept preserves_forM)

theorem check_core (result : ExecutionDisk → Except String Unit) :
    (Execution.check result).Preserves ExecutionDisk.core :=
  preserves_read.bind fun _ => preserves_ofExcept _

theorem Host.ask_core (host : Host) (question : Question) :
    (host.ask question).Preserves ExecutionDisk.core := check_core _

theorem put_core (disk : ExecutionDisk) (name : String) (content : Bytes) :
    (disk.put name content).core = disk.core := rfl

theorem writeNew_core {name : String} {written : ExecutionDisk → Bool}
    {change : ExecutionDisk → ExecutionDisk} (h : ∀ disk, (change disk).core = disk.core) :
    (writeNew name written change).Preserves ExecutionDisk.core :=
  (check_core _).bind fun _ => preserves_write h

theorem writeOrRequireCanonical_core (name : String) (expected : Bytes) :
    (writeOrRequireCanonical name expected).Preserves ExecutionDisk.core := by
  refine preserves_read.bind fun disk => ?_
  split
  · exact check_core _
  · exact preserves_write fun disk => put_core disk name expected

theorem requireInitialFiles_core (host : Host) :
    (requireInitialFiles host).Preserves ExecutionDisk.core :=
  preserves_forM fun _ _ => check_core _

theorem parseRawArms_core (host : Host) (message : String) :
    (parseRawArms host message).Preserves ExecutionDisk.core :=
  (host.ask_core _).bind fun _ => preserves_read.bind fun _ =>
    (preserves_ofExcept _).bind fun _ => preserves_ofExcept (.ok _)

theorem rawArmByOrdinal_core (host : Host) (wording : ArmWording) (ordinal : Nat) :
    (rawArmByOrdinal host wording ordinal).Preserves ExecutionDisk.core := by
  refine (parseRawArms_core host _).bind fun arms => ?_
  split
  · exact preserves_ofExcept (.ok _)
  · exact preserves_ofExcept _

theorem retainArmFailure_core (host : Host) (ordinal : Nat) :
    (retainArmFailure host ordinal).Preserves ExecutionDisk.core :=
  (host.ask_core _).bind fun _ => preserves_write fun _ => rfl

theorem retainInterruptedProcessArm_core (host : Host) (planned : PlannedArm) :
    (retainInterruptedProcessArm host planned).Preserves ExecutionDisk.core := by
  refine preserves_read.bind fun disk => (preserves_ofExcept _).bind fun _ => ?_
  split
  · exact host.ask_core _
  · exact retainArmFailure_core host _

theorem appendProjection_core (host : Host) (projection : Projection) :
    (appendProjection host projection).Preserves ExecutionDisk.core :=
  (host.ask_core _).bind fun _ => preserves_read.bind fun _ => (preserves_ofExcept _).bind fun _ =>
    preserves_write fun _ => rfl

theorem readProjectionBindings_core (host : Host) :
    (readProjectionBindings host).Preserves ExecutionDisk.core :=
  (check_core _).bind fun _ => host.ask_core _

theorem writeDerived_core (host : Host) (name : String) :
    (writeDerived host name).Preserves ExecutionDisk.core :=
  preserves_read.bind fun _ => writeNew_core fun disk => put_core disk name _

theorem requireDerived_core (host : Host) (terminal : TerminalState) (message : String) :
    (requireDerived host terminal message).Preserves ExecutionDisk.core :=
  preserves_read.bind fun _ => (preserves_ofExcept _).bind fun _ => preserves_ofExcept _

theorem writeProjectionFiles_core (host : Host) (final : Projection) :
    (writeProjectionFiles host final).Preserves ExecutionDisk.core :=
  (appendProjection_core host final).bind fun _ => (host.ask_core _).bind fun _ =>
    (writeDerived_core host _).bind fun _ => writeDerived_core host _

namespace Calibration

variable (host : CalibrationHost)

theorem validateResumePrefix_core : (validateResumePrefix host).Preserves ExecutionDisk.core :=
  preserves_read.bind fun _ => (preserves_ofExcept _).bind fun _ => (preserves_ofExcept _).bind fun _ =>
    (parseRawArms_core _ _).bind fun _ => preserves_ofExcept _

theorem admitReachedStorage_core (gateId : String) :
    (admitReachedStorage host gateId).Preserves ExecutionDisk.core := by
  refine preserves_read.bind fun disk => (preserves_ofExcept _).bind fun projections => ?_
  split
  · exact preserves_ofExcept (.ok _)
  · refine (parseRawArms_core _ _).bind fun _ => preserves_read.bind fun _ => ?_
    exact (preserves_ofExcept _).bind fun _ => (appendProjection_core _ _).bind fun _ =>
      preserves_ofExcept (.ok _)

theorem requireStorageAdmission_core (gateId : String) :
    (requireStorageAdmission host gateId).Preserves ExecutionDisk.core :=
  (admitReachedStorage_core host gateId).bind fun _ => preserves_ofExcept _

theorem selectParameters_core : (selectParameters host).Preserves ExecutionDisk.core := by
  refine preserves_read.bind fun disk => (preserves_ofExcept _).bind fun reason => ?_
  split
  · exact preserves_ofExcept (.ok _)
  · exact (admitReachedStorage_core host _).bind fun _ => preserves_ofExcept (.ok _)

end Calibration

namespace Campaign

variable (host : CampaignHost)

theorem validateResumePrefix_core : (validateResumePrefix host).Preserves ExecutionDisk.core :=
  preserves_read.bind fun _ => (preserves_ofExcept _).bind fun _ => (preserves_ofExcept _).bind fun _ =>
    (parseRawArms_core _ _).bind fun _ => preserves_ofExcept _

theorem writeProjectionRevision_core (gateId : String) :
    (writeProjectionRevision host gateId).Preserves ExecutionDisk.core :=
  (parseRawArms_core _ _).bind fun _ => preserves_read.bind fun _ => (preserves_ofExcept _).bind fun _ =>
    (preserves_ofExcept _).bind fun _ => appendProjection_core _ _

theorem writeAcceptedSignatures_core : (writeAcceptedSignatures host).Preserves ExecutionDisk.core :=
  preserves_forM fun _ _ => writeOrRequireCanonical_core _ _

theorem firstProjection_core : (firstProjection host).Preserves ExecutionDisk.core := by
  refine preserves_read.bind fun disk => ?_
  split
  · exact writeProjectionRevision_core host _
  · exact preserves_ofExcept (.ok ())

end Campaign

end AuthMiniGateway.Benchmark
