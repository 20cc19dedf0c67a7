import Credentials.Document.Redacted
import Credentials.Main
import Credentials.Proofs.DeviceNames
import Credentials.Proofs.Distinct
import Credentials.Proofs.DocumentText
import Credentials.Proofs.PairingRuns
import Credentials.Proofs.Phrases
import Credentials.Proofs.RecoveryRuns
import Credentials.Store.TextList
import Credentials.Proofs.Reloading
import Credentials.Proofs.Stamps
import Credentials.Proofs.CanonicalPhrases
import Credentials.Proofs.OtherLanguages
import Credentials.Proofs.PublishedLists
import Credentials.Proofs.PublishedPhrases
import Credentials.Proofs.Register
import Credentials.Proofs.Failures
import Credentials.Proofs.HandedOut
import Credentials.Proofs.Revocation
import Credentials.Proofs.Frames
import Credentials.Proofs.Interchange
import Credentials.Proofs.Uses
import Credentials.Proofs.Deletions
import Credentials.Proofs.NewPhrases
import Credentials.Proofs.Precedence
import Credentials.Proofs.FailedRedemptions
import Credentials.Proofs.Detection
import Credentials.Proofs.MergedTrees
import Credentials.Proofs.Defaults
import Credentials.Proofs.FreeNames
import Credentials.Proofs.LoadedSources
import Credentials.Proofs.ShownConfig
import Credentials.Proofs.Redraws
import Credentials.Proofs.TimeSpellings
import Credentials.Proofs.Rearranged
import Credentials.Proofs.CommandFiles
import Credentials.Proofs.LosslessUnpacking
