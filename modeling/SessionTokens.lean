import SessionTokens.Api.AdminService
import SessionTokens.Api.UserService
import SessionTokens.Claims.Principal
import SessionTokens.Proofs.Api.Atomicity
import SessionTokens.Proofs.Api.Authority
import SessionTokens.Proofs.Api.Callers
import SessionTokens.Proofs.Api.Closure
import SessionTokens.Proofs.Api.Coherence
import SessionTokens.Proofs.Api.Deputy
import SessionTokens.Proofs.Api.Discretion
import SessionTokens.Proofs.Api.Expiry
import SessionTokens.Proofs.Api.Gate
import SessionTokens.Proofs.Api.Internal
import SessionTokens.Proofs.Api.Login
import SessionTokens.Proofs.Api.RemoteRevocation
import SessionTokens.Proofs.Api.SessionCount
import SessionTokens.Proofs.Api.Signups
import SessionTokens.Proofs.Api.TrustAlone
import SessionTokens.Proofs.Claims.Stated
import SessionTokens.Proofs.Claims.Validity
import SessionTokens.Proofs.Claims.Wire
import SessionTokens.Proofs.Config.Lifetimes
import SessionTokens.Proofs.Config.Minting
import SessionTokens.Proofs.Directory.Replacement
import SessionTokens.Proofs.Id.Uuid
import SessionTokens.Proofs.Json.ReadBack
import SessionTokens.Proofs.Json.Record
import SessionTokens.Proofs.Json.Scan
import SessionTokens.Proofs.Json.Stated
import SessionTokens.Proofs.Ledger.Census
import SessionTokens.Proofs.Ledger.Persistence
import SessionTokens.Proofs.Password.Manager
import SessionTokens.Proofs.Rotation.Acceptance
import SessionTokens.Proofs.Rotation.Ancestry
import SessionTokens.Proofs.Rotation.Conservation
import SessionTokens.Proofs.Rotation.Decision
import SessionTokens.Proofs.Rotation.Deeds
import SessionTokens.Proofs.Rotation.Exchange
import SessionTokens.Proofs.Rotation.LifeCycle
import SessionTokens.Proofs.Rotation.Lineages
import SessionTokens.Proofs.Rotation.Logout
import SessionTokens.Proofs.Rotation.Race
import SessionTokens.Proofs.Text.Base64
import SessionTokens.Proofs.Text.Utf8
import SessionTokens.Proofs.Token.Preference
import SessionTokens.Proofs.Token.RoundTrip
import SessionTokens.Proofs.Token.Shape
import SessionTokens.Proofs.Token.Signed
import SessionTokens.Proofs.Token.Trust
import SessionTokens.Proofs.Token.Unsigned
import SessionTokens.Proofs.Traffic
import SessionTokens.Proofs.Traffic.Holding
import SessionTokens.World.Disturbance
import SessionTokens.World.Neighbour
