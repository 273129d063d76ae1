import Acceptor.Automaton.Builder
import Acceptor.Automaton.History
import Acceptor.Definition.Export
import Acceptor.Definition.Import
import Acceptor.Random.Automaton
import Acceptor.Run.Display
import Acceptor.Run.Operation
import Acceptor.TransitionTable
import Acceptor.Validation.Report
import Acceptor.Proofs.Occurrence
import Acceptor.Proofs.Reordering
import Acceptor.Proofs.Run.Rest
import Acceptor.Proofs.Run.Judgement
import Acceptor.Proofs.Run.Agreement
import Acceptor.Proofs.Run.Handling
import Acceptor.Proofs.Run.Dependence
import Acceptor.Proofs.Run.Decisive
import Acceptor.Proofs.Validation.Report
import Acceptor.Proofs.Validation.Order
import Acceptor.Proofs.Run.Validated
import Acceptor.Proofs.Json.Grammar
import Acceptor.Proofs.Json.Lexical
import Acceptor.Proofs.Json.Skipping
import Acceptor.Proofs.Decimal.Rounding
import Acceptor.Proofs.Json.Evaluation
import Acceptor.Proofs.Json.Range
import Acceptor.Proofs.Json.Meaning
import Acceptor.Proofs.Json.Reading
import Acceptor.Proofs.Json.Records
import Acceptor.Proofs.Json.Members
import Acceptor.Proofs.Definition.Meaning
import Acceptor.Proofs.Definition.Decoding
import Acceptor.Proofs.Decimal.Spelling
import Acceptor.Proofs.Json.Rendering
import Acceptor.Proofs.Definition.RoundTrip
import Acceptor.Proofs.Definition.Acceptance
import Acceptor.Proofs.Renaming.Basic
import Acceptor.Proofs.Run.Composition
import Acceptor.Proofs.Editing.FreshState
import Acceptor.Proofs.Renaming.Invariance
import Acceptor.Proofs.Editing.Effect
import Acceptor.Proofs.Editing.Report
import Acceptor.Proofs.Building.Tokens
import Acceptor.Proofs.Editing.Runs
import Acceptor.Proofs.Editing.Extension
import Acceptor.Proofs.Editing.TransitionIds
import Acceptor.Proofs.Editing.Dangling
import Acceptor.Proofs.Building.Assembly
import Acceptor.Proofs.Random.Completeness
import Acceptor.Proofs.TransitionTable
import Acceptor.Proofs.Editing.Rulings
import Acceptor.Proofs.Building.Exchange
import Acceptor.Proofs.Random.DrawOrder
import Acceptor.Proofs.Editing.FreshSearch
import Acceptor.Proofs.Transcript
