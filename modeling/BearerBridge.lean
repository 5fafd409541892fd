import BearerBridge.Bridge
import BearerBridge.Client.Location
import BearerBridge.Client.Schedule
import BearerBridge.Main
import BearerBridge.Testing.Expectation
import BearerBridge.Testing.Fixture
import BearerBridge.Testing.Harness
import BearerBridge.Proofs.Json.Quoted
import BearerBridge.Proofs.Json.Written
import BearerBridge.Proofs.Regroup
import BearerBridge.Proofs.Token.Payload
import BearerBridge.Proofs.Token.Registered
import BearerBridge.Proofs.WireForm
import BearerBridge.Proofs.Token.Genuine
import BearerBridge.Proofs.Acceptance
import BearerBridge.Proofs.Token.Algorithm
import BearerBridge.Proofs.Tampering
import BearerBridge.Proofs.Issuance
import BearerBridge.Proofs.RoundTrip
import BearerBridge.Proofs.Client.SingleFlight
import BearerBridge.Proofs.Client.SharedFetch
import BearerBridge.Proofs.Shaping
import BearerBridge.Proofs.TokenSize
import BearerBridge.Proofs.Text.Visible
import BearerBridge.Proofs.Bearer
import BearerBridge.Proofs.Token.Expiry
import BearerBridge.Proofs.Client.Agreement
import BearerBridge.Proofs.OtherPolicy
import BearerBridge.Proofs.Pages
import BearerBridge.Proofs.Summaries
import BearerBridge.Proofs.Transparency
import BearerBridge.Proofs.Token.Decoding
import BearerBridge.Proofs.Guards
import BearerBridge.Proofs.Untrusted
import BearerBridge.Proofs.Containment
import BearerBridge.Proofs.Separation
import BearerBridge.Proofs.Client.FailedRefresh
import BearerBridge.Proofs.Reports
import BearerBridge.Proofs.IssuanceLog
import BearerBridge.Proofs.Correlation
import BearerBridge.Proofs.Discretion
import BearerBridge.Proofs.Startup
import BearerBridge.Proofs.Counting
import BearerBridge.Proofs.Conservation
import BearerBridge.Proofs.PlainIssuance
import BearerBridge.Proofs.Asserted
import BearerBridge.Proofs.HookPipeline
import BearerBridge.Proofs.Spelling
import BearerBridge.Proofs.Reticence
import BearerBridge.Proofs.Naming
import BearerBridge.Proofs.TokenPath
import BearerBridge.Proofs.Expectations
import BearerBridge.Proofs.Token.Splitting
