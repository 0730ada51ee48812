import DialSelect.Main
import DialSelect.Policy.Datum
import DialSelect.Proofs.Agreement
import DialSelect.Proofs.Cap
import DialSelect.Proofs.Piping
import DialSelect.Proofs.Presence
import DialSelect.Proofs.LetterCase
import DialSelect.Proofs.PolicyGrammar
import DialSelect.Proofs.Documents
import DialSelect.Proofs.PolicyNames
import DialSelect.Proofs.Precedence
import DialSelect.Proofs.Sequence
import DialSelect.Proofs.Absence
import DialSelect.Proofs.Draws
import DialSelect.Proofs.Randomness
import DialSelect.Proofs.Candidates
import DialSelect.Proofs.JsonText
import DialSelect.Proofs.Selected
import DialSelect.Proofs.Endings
import DialSelect.Proofs.WholeOrNothing
import DialSelect.Proofs.ZoneText
import DialSelect.Proofs.PathText
import DialSelect.Proofs.Absorption
import DialSelect.Proofs.EvenShare
import DialSelect.Proofs.ExitCodes
import DialSelect.Proofs.DocumentLines
import DialSelect.Proofs.Files
import DialSelect.Proofs.Template
import DialSelect.Proofs.FamilySplit
import DialSelect.Proofs.ReportOrder
import DialSelect.Proofs.AddressGrammar
import DialSelect.Proofs.RecordGrammar
import DialSelect.Proofs.ItemOrder
import DialSelect.Proofs.DistinctNames
import DialSelect.Proofs.GivenOrder
import DialSelect.Proofs.Strictness
