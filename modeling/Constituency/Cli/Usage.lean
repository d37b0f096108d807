/-!
# Usage of the commands

The texts that explain the commands to someone who calls them.
-/
namespace Constituency.Cli.Usage

/-- What is shown when the arguments of the parser are refused. -/
def parser : String := "\n".intercalate [
  "",
  "usage: markovpcfg parser [options] <treebank> [input [output]]"]

def parserHelp : String := "\n".intercalate [
  "Train a Markovized PCFG on a treebank and parse sentences.",
  "",
  "usage: markovpcfg parser [options] <treebank> [input [output]]",
  "",
  "<treebank> is a treebank in bracket notation (a glob pattern may be used to",
  "read multiple files); input contains one tokenized sentence per line, with",
  "tokens separated by spaces. Standard in/output is used if not given.",
  "",
  "Options:",
  "  --root=X        label of the root node [default: ROOT]",
  "  --rarethreshold=N",
  "                  words seen fewer times are smoothed [default: 10]",
  "  --maxlen=N      only train on trees with at most N words",
  "  --numproc=N     parse N sentences in parallel [default: 1]",
  "  --fmt=FMT       output format; one of: bracket, pprint, tokens [default: bracket]",
  "  --encoding=ENC  encoding of input and output files [default: utf8]",
  "  --functions=X   'remove' or 'leave' function tags of the treebank",
  "                  [default: remove]",
  "  --verbosity=N   0: only warnings; 1: progress; 2: per sentence output",
  "                  [default: 1]"]

/-- What is shown when the arguments of the evaluation are refused. -/
def evaluation : String := "Usage: markovpcfg eval <gold> <parses> [options]"

def evaluationHelp : String := "\n".intercalate [
  "Evaluate parse trees against gold trees; similar to EVALB.",
  "Usage: markovpcfg eval <gold> <parses> [options]",
  "",
  "Both files are treebanks in bracket notation; trees are paired in order.",
  "Options:",
  "  --goldenc=ENC, --parsesenc=ENC",
  "                   encoding of the files [default: utf8]",
  "  --functions=X    'remove' or 'leave' function tags [default: remove]",
  "  --root=X         label of the root node [default: ROOT]",
  "  --verbose        print scores for each sentence"]

def transformationHelp : String := "\n".intercalate [
  "Annotate and binarize trees, or undo this.",
  "Usage: markovpcfg treetransforms [input [output]] --annotate|--unannotate [options]",
  "where input and output are treebanks in bracket notation; standard in/output",
  "is used if not given.",
  "",
  "Options:",
  "  --annotate       add parent annotation and binarize with markovization",
  "  --unannotate     remove intermediate nodes and annotations",
  "  --fmt=FMT        output format: bracket, pprint, tokens [default: bracket]",
  "  --enc=ENC        encoding of input and output [default: utf8]",
  "  --functions=X    'remove' or 'leave' function tags [default: leave]",
  "  --ensureroot=X   add a root node with this label if necessary"]

def grammarHelp : String := "\n".intercalate [
  "Read off a grammar and lexicon from a treebank.",
  "Usage: markovpcfg grammar <treebank> <outprefix> [options]",
  "The trees are annotated and binarized; writes <outprefix>.rules and",
  "<outprefix>.lex, and prints statistics on the grammar.",
  "",
  "Options:",
  "  --inputenc=ENC   encoding of the treebank [default: utf8]",
  "  --functions=X    'remove' or 'leave' function tags [default: remove]",
  "  --root=X         label of the root node [default: ROOT]",
  "  --rarethreshold=N",
  "                   words seen fewer times are smoothed [default: 10]"]

end Constituency.Cli.Usage
