import LatchApi.Amounts.Decimal
import LatchApi.Auth.RotateOnce
import LatchApi.Auth.Routes
import LatchApi.Build.ContextWalk
import LatchApi.Build.SelfConsistent
import LatchApi.Build.SwapRule
import LatchApi.Build.Template
import LatchApi.Bundler.Policy
import LatchApi.Ceremony.SingleUse
import LatchApi.Ceremony.TrustedOrigins
import LatchApi.Deploy.IndexRuns
import LatchApi.Deploy.Spelling
import LatchApi.Draft.Membership
import LatchApi.Draft.Recorded
import LatchApi.Login.Owner
import LatchApi.Multisig.AppliedSignatures
import LatchApi.Multisig.Blocked
import LatchApi.Multisig.ConsistentRuns
import LatchApi.Multisig.DelegatedApprovals
import LatchApi.Multisig.EntryMemory
import LatchApi.Multisig.Executed
import LatchApi.Multisig.Frozen
import LatchApi.Multisig.Participants
import LatchApi.Multisig.SignerCount
import LatchApi.Multisig.SignerOrder
import LatchApi.Multisig.SourceAuth
import LatchApi.Multisig.StaleApprovals
import LatchApi.Nonce.SingleUse
import LatchApi.Otp.Guesses
import LatchApi.Otp.SingleUse
import LatchApi.Push.Replace
import LatchApi.RateLimit.Influence
import LatchApi.Session.OneIdentity
import LatchApi.Setup.DefaultRule
import LatchApi.Setup.Refusals
import LatchApi.SignIn.SignerKeys
import LatchApi.Signer.Backup
import LatchApi.Signer.Settled
import LatchApi.WebAuthn.AttachedKey
import LatchApi.WebAuthn.Layout
import LatchApi.WebAuthn.ProvedCredentials
