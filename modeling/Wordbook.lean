import Wordbook.FileTree.Growth
import Wordbook.Main
import Wordbook.Proofs.Contents
import Wordbook.Proofs.Contribution
import Wordbook.Proofs.Lexicon.RoundTrip
import Wordbook.Proofs.Lexicon.Transposition
import Wordbook.Proofs.Noun.Countability
import Wordbook.Proofs.Noun.Cycle
import Wordbook.Proofs.Noun.Provenance
import Wordbook.Proofs.Verb.Decoding
import Wordbook.Proofs.Build
import Wordbook.Proofs.Rebuild
import Wordbook.Proofs.Verb.Extraction
import Wordbook.Proofs.Inflection.Coincidence
import Wordbook.Proofs.Vocabulary
import Wordbook.Proofs.Sources.Oversight
import Wordbook.Proofs.Sources.Naming
import Wordbook.Proofs.Noun.Equation
import Wordbook.Proofs.Noun.Contributor
import Wordbook.Proofs.Noun.Redundancy
import Wordbook.Proofs.Configuration
import Wordbook.Proofs.Lexicon.Readers
import Wordbook.Proofs.Noun.Expansion
