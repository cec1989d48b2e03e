import Spellbook.Main
import Spellbook.Survey
import Spellbook.Workload
import Spellbook.Proofs.LineFeeds
import Spellbook.Proofs.Evaluation.Signals
import Spellbook.Proofs.Printing
import Spellbook.Proofs.Portions
import Spellbook.Proofs.Retyping
import Spellbook.Proofs.Rituals
import Spellbook.Proofs.RealmTokens
import Spellbook.Proofs.Quest.Vitality
import Spellbook.Proofs.Evaluation.Updates
import Spellbook.Proofs.Parsing.AnyTokens
import Spellbook.Proofs.Scrolls
import Spellbook.Proofs.Evaluation.Elements
import Spellbook.Proofs.Evaluation.LastValues
import Spellbook.Proofs.Subscripts
import Spellbook.Proofs.TypeWords
import Spellbook.Proofs.Lexing.Positions
import Spellbook.Proofs.Lexing.Outcomes
import Spellbook.Proofs.Quest.Reckoning
import Spellbook.Proofs.FailedSaves
import Spellbook.Proofs.Volume
import Spellbook.Proofs.Owls
import Spellbook.Proofs.Ledger
import Spellbook.Proofs.Evaluation.Termination
import Spellbook.Proofs.Pages
import Spellbook.Proofs.Quest.Forging
import Spellbook.Proofs.Survey.Plateau
