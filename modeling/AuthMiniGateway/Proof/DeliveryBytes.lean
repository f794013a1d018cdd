import AuthMiniGateway.Lib.Fallible
import AuthMiniGateway.Benchmark.DeliveryBytes

namespace AuthMiniGateway.Benchmark

open Fallible

/-! ### The checks -/

variable {path : RelativePath} {count : Nat} {bundle : CalibrationBundle}

variable {format : DeliveryFormat} {artifacts : Directory} {entry : DeliveryEntry}

def CalibrationBundle.Installed (bundle : CalibrationBundle) (artifacts : Directory) : Prop :=
  artifacts.resolve bundle.path = some (.directory bundle.files)

structure CampaignBundle.Installed (bundle : CampaignBundle) (artifacts : Directory) : Prop where
  files : artifacts.resolve bundle.path = some (.directory bundle.files)
  result : artifacts.resolve (resultRelative bundle.runId) = some (.regular ⟨1, bundle.result⟩)
  report : artifacts.resolve (reportRelative bundle.runId) = some (.regular ⟨1, bundle.report⟩)

inductive DeliveredBundle where
  | calibration (bundle : CalibrationBundle)
  | campaign (bundle : CampaignBundle)

namespace DeliveredBundle

def Installed (artifacts : Directory) : DeliveredBundle → Prop
  | calibration bundle => bundle.Installed artifacts
  | campaign bundle => bundle.Installed artifacts

end DeliveredBundle

end AuthMiniGateway.Benchmark
