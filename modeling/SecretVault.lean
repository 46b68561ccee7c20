import SecretVault.Store.Registry
import SecretVault.Wording
import SecretVault.World.Rehearsal
import SecretVault.Proofs.Action.Outcome
import SecretVault.Proofs.World.Calls
import SecretVault.Proofs.Remote.Request
import SecretVault.Proofs.Remote.Punctual
import SecretVault.Proofs.World.Rehearsing
import SecretVault.Proofs.World.Books
import SecretVault.Proofs.Remote.Run
import SecretVault.Proofs.Remote.Refresh
import SecretVault.Proofs.Remote.Ledger
import SecretVault.Proofs.Listing
import SecretVault.Proofs.Walk
import SecretVault.Proofs.Payload
import SecretVault.Proofs.Remote.Serving
import SecretVault.Proofs.Store.Refinement
import SecretVault.Proofs.Context
import SecretVault.Proofs.Remote.Translation
import SecretVault.Proofs.Remote.Heeding
import SecretVault.Proofs.Store.Heeding
import SecretVault.Proofs.Store.Walking
import SecretVault.Proofs.Context.Family
import SecretVault.Proofs.Value.Overlay
import SecretVault.Proofs.Value.Resolution
import SecretVault.Proofs.Remote.Closed
import SecretVault.Proofs.Settings.Handles
import SecretVault.Proofs.Limits.Growth
import SecretVault.Proofs.Remote.Sharing
import SecretVault.Proofs.Value.Paths
import SecretVault.Proofs.Placeholder
import SecretVault.Proofs.Remote.Connecting
import SecretVault.Proofs.Value.References
import SecretVault.Proofs.Remote.Paging
import SecretVault.Proofs.Credentials.Chain
import SecretVault.Proofs.Store.Discretion
