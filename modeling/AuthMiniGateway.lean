import AuthMiniGateway.Proof.SingleFlight
import AuthMiniGateway.Proof.Versions
import AuthMiniGateway.Proof.StoreRuns
import AuthMiniGateway.Proof.Uploads
import AuthMiniGateway.Proof.SingleUse
import AuthMiniGateway.Proof.Migrations
import AuthMiniGateway.Proof.Routes
import AuthMiniGateway.Proof.Provenance
import AuthMiniGateway.Proof.DispatchGate
import AuthMiniGateway.Proof.LatchReleases
import AuthMiniGateway.Proof.TransportBound
import AuthMiniGateway.Proof.SignedCookies
import AuthMiniGateway.Proof.FrontDoors
import AuthMiniGateway.Proof.Admissions
import AuthMiniGateway.Proof.Handshakes
import AuthMiniGateway.Proof.DeliveryBytes
import AuthMiniGateway.Proof.DeliveryLedgers
import AuthMiniGateway.Proof.ArmExecutions
import AuthMiniGateway.Proof.ExtensionOffers
import AuthMiniGateway.Proof.AcceptAccounts
import AuthMiniGateway.Proof.Schedules
import AuthMiniGateway.Proof.RecordCrashes
import AuthMiniGateway.Proof.UploadWakes
import AuthMiniGateway.Proof.ResolverAccounts
import AuthMiniGateway.Proof.RawCorruption
import AuthMiniGateway.Proof.Durations
import AuthMiniGateway.Proof.UtcTexts
import AuthMiniGateway.Proof.Draws
import AuthMiniGateway.Proof.Seals
import AuthMiniGateway.Proof.ClientAddresses
import AuthMiniGateway.Proof.AuthExecutions
