import Constituency.Attributes
import Constituency.Eval.Evaluation
import Constituency.Main
import Constituency.Proofs.Bracket.Printed
import Constituency.Proofs.Bracket.Recoverable
import Constituency.Proofs.Chart.Locality
import Constituency.Proofs.Chart.Optimality
import Constituency.Proofs.Chart.Sequential
import Constituency.Proofs.Closure.Views
import Constituency.Proofs.Eval.Pooling
import Constituency.Proofs.Grammar.Frequencies
import Constituency.Proofs.Grammar.Indexing
import Constituency.Proofs.Lexicon.Balance
import Constituency.Proofs.Lexicon.Support
import Constituency.Proofs.Parser.Acceptance
import Constituency.Proofs.Parser.Corpus
import Constituency.Proofs.Parser.Faithfulness
import Constituency.Proofs.Parser.Likelihood
import Constituency.Proofs.Tree.Agenda
import Constituency.Proofs.Tree.Markovized
import Constituency.Proofs.Treebank.Annotation
import Constituency.Proofs.Treebank.Rereading
import Constituency.Tree.Construct
import Constituency.Tree.Edit
import Constituency.Proofs.Tree.Splicing
import Constituency.Proofs.Tree.Unannotated
import Constituency.Proofs.Eval.Constituents
import Constituency.Proofs.Eval.Evaluator
