import Lexicon.Main
import Lexicon.Proofs.Audit.Faults
import Lexicon.Proofs.Audit.Message
import Lexicon.Proofs.Audit.Runs
import Lexicon.Proofs.Classification
import Lexicon.Proofs.Command.Batch
import Lexicon.Proofs.Command.Classify
import Lexicon.Proofs.Command.Outcome
import Lexicon.Proofs.Kind.Parse
import Lexicon.Proofs.Kind.Walk
import Lexicon.Proofs.Markdown.CodeSpan
import Lexicon.Proofs.Markdown.Growth
import Lexicon.Proofs.Markdown.Row
import Lexicon.Proofs.Spelling.Contract
import Lexicon.Proofs.Spelling.FirstClaim
