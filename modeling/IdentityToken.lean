import IdentityToken.Main
import IdentityToken.Log.Pattern
import IdentityToken.Proofs.Validation.Acceptance
import IdentityToken.Proofs.Validation.Authenticators
import IdentityToken.Proofs.Validation.Envelope
import IdentityToken.Proofs.Token.Forms
import IdentityToken.Proofs.Reissuance
import IdentityToken.Proofs.Validation.Causes
import IdentityToken.Proofs.Command.Minting
import IdentityToken.Proofs.Validation.Keys
import IdentityToken.Proofs.Command.Acceptance
import IdentityToken.Proofs.Edits
import IdentityToken.Proofs.Files
import IdentityToken.Proofs.Token.Canonical
import IdentityToken.Proofs.Token.Disclosure
import IdentityToken.Proofs.Validation.Inspection
import IdentityToken.Proofs.Json.Checks
import IdentityToken.Proofs.Token.ListedHeader
import IdentityToken.Proofs.Sealing
import IdentityToken.Proofs.ClaimSet.Json
import IdentityToken.Proofs.ClaimSet.Record
import IdentityToken.Proofs.Token.Faults
import IdentityToken.Proofs.Json.Grammar
import IdentityToken.Proofs.Json.Passing
import IdentityToken.Proofs.Header.Members
import IdentityToken.Proofs.Command.Kinds
import IdentityToken.Proofs.Command.Profiles
import IdentityToken.Proofs.Command.DefaultKinds
import IdentityToken.Proofs.Command.Secrets
import IdentityToken.Proofs.Files.Changes
import IdentityToken.Proofs.Command.NewSecrets
import IdentityToken.Proofs.Json.Denotation
import IdentityToken.Proofs.Json.Scalars
import IdentityToken.Proofs.Json.Exactness
import IdentityToken.Proofs.Command.Attributes
