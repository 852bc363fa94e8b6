import LtiPlatform.Claims.Conversion
import LtiPlatform.Command.Run
import LtiPlatform.Launch.Authentication
import LtiPlatform.Main
import LtiPlatform.Settings.Platform
import LtiPlatform.Token.Codec
import LtiPlatform.Proofs.OrderedMap
import LtiPlatform.Proofs.Text.Code
import LtiPlatform.Proofs.Launch.Answering
import LtiPlatform.Proofs.Claims.Canonical
import LtiPlatform.Proofs.Launch.Agreement
import LtiPlatform.Proofs.Token.Acceptance
import LtiPlatform.Proofs.Launch.Disclosure
import LtiPlatform.Proofs.Claims.Settling
import LtiPlatform.Proofs.Claims.Places
import LtiPlatform.Proofs.Claims.Flattening
import LtiPlatform.Proofs.Claims.Separation
import LtiPlatform.Proofs.Launch.Precedence
import LtiPlatform.Proofs.Token.Expiry
import LtiPlatform.Proofs.Launch.TokenKinds
import LtiPlatform.Proofs.Launch.TwoPhases
import LtiPlatform.Proofs.Launch.Extension
import LtiPlatform.Proofs.Claims.ContentItems
import LtiPlatform.Proofs.Command.Reconversion
import LtiPlatform.Proofs.Command.Simulation
import LtiPlatform.Proofs.Vocabulary.Conversion
import LtiPlatform.Proofs.Launch.RedirectAddresses
import LtiPlatform.Proofs.Token.Publishing
import LtiPlatform.Proofs.Settings.Override
