import Propositional.Assembly.Builder
import Propositional.Assembly.Recursive
import Propositional.Formula.OfGraph
import Propositional.Formula.OfTree
import Propositional.Formula.Spelling
import Propositional.Formula.Truth
import Propositional.Graph.Ancestry
import Propositional.Graph.Edit
import Propositional.Graph.Wiring
import Propositional.Session
import Propositional.Proofs.Grammar.Acceptance
import Propositional.Proofs.Grammar.Offence
import Propositional.Proofs.Formula.Layout
import Propositional.Proofs.Log.Traced
import Propositional.Proofs.Assembly.Run
import Propositional.Proofs.Assembly.Translation
import Propositional.Proofs.Assembly.Leaf
import Propositional.Proofs.Formula.OfGraph
import Propositional.Proofs.Formula.Spelling
import Propositional.Proofs.Parse.Spelling
import Propositional.Grammar.Automaton
import Propositional.Proofs.Grammar.Automaton
import Propositional.Proofs.Graph.Record
import Propositional.Proofs.Parse.Agreement
import Propositional.Proofs.Graph.Descent
import Propositional.Proofs.Assembly.WellFormed
import Propositional.Proofs.Parse.Diagnostic
import Propositional.Proofs.Graph.Description
import Propositional.Proofs.Parse.Renormalized
import Propositional.Proofs.Parse.Folding
import Propositional.Graph.Evaluation
import Propositional.Proofs.Formula.TruthTable
import Propositional.Proofs.Parse.Truth
import Propositional.Proofs.Log.Registry
import Propositional.Proofs.Session.History
import Propositional.Proofs.Graph.Rendering
import Propositional.Proofs.Graph.Wiring
import Propositional.Proofs.Parse.Recounting
import Propositional.Proofs.Parse.Letters
import Propositional.Proofs.Session.Transcript
import Propositional.Proofs.Grammar.Ending
import Propositional.Proofs.Graph.Readability
import Propositional.Proofs.Parse.Serialization
import Propositional.Proofs.Assembly.Refusal
import Propositional.Proofs.Assembly.Balance
import Propositional.Proofs.Text.Case
import Propositional.Proofs.Assembly.Atom
import Propositional.Token.Lexer
import Propositional.Proofs.Grammar.Bracketing
import Propositional.Proofs.ParseTree.Readability
import Propositional.Proofs.Parse.Substitution
import Propositional.Proofs.Token.Tokenization
import Propositional.Proofs.Assembly.Selection
