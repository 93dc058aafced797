import BlindOverlap.Lib.Curve25519
import BlindOverlap.Lib.Sha256
import BlindOverlap.Lib.JsonText
import BlindOverlap.Failures
import BlindOverlap.Network
import BlindOverlap.PolicyFiles
import BlindOverlap.Replay
import BlindOverlap.ReplayHistory
import BlindOverlap.ReplayPersistence
import BlindOverlap.ArtefactKinds
import BlindOverlap.Bootstrap
import BlindOverlap.LeaseChain
import BlindOverlap.CanonicalJson
import BlindOverlap.SealIntegrity
import BlindOverlap.PaddedExchange
import BlindOverlap.CliFreshness
import BlindOverlap.CliPadding
import BlindOverlap.SessionExport
import BlindOverlap.CliArchive
import BlindOverlap.StoredArtefacts
import BlindOverlap.PeerHistory
import BlindOverlap.AttestationLayout
import BlindOverlap.TranscriptLayout
import BlindOverlap.AbortLayout
import BlindOverlap.RecordLayout
import BlindOverlap.GrantLayout
import BlindOverlap.TamperEvidence
import BlindOverlap.HostilePeers
import BlindOverlap.MessageVersions
import BlindOverlap.Lifetimes
import BlindOverlap.Bindings
import BlindOverlap.Reloading
import BlindOverlap.PeerBookWrites
import BlindOverlap.ElementLimit
import BlindOverlap.OwnDeadline
import BlindOverlap.CliWireBound
import BlindOverlap.SetRoots
import BlindOverlap.CliPaddedSize
import BlindOverlap.SignedExchange
import BlindOverlap.AuthenticatedNetwork
import BlindOverlap.CliRegister
import BlindOverlap.CliSets
import BlindOverlap.CliCanonical
import BlindOverlap.CliReceipts
