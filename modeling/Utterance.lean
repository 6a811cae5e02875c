import Utterance.Main
import Utterance.Proofs.Capture
import Utterance.Proofs.Carets
import Utterance.Proofs.Colour
import Utterance.Proofs.DumpReading
import Utterance.Proofs.Endings
import Utterance.Proofs.LiteralSections
import Utterance.Proofs.NodePlaces
import Utterance.Proofs.Noninterference
import Utterance.Proofs.Numbering
import Utterance.Proofs.PatternPieces
import Utterance.Proofs.PhoneText
import Utterance.Proofs.Renumbering
import Utterance.Proofs.Uniqueness
import Utterance.StoredPatterns
