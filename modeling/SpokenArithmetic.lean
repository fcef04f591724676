import SpokenArithmetic.Main
import SpokenArithmetic.SelfCheck.Program
import SpokenArithmetic.Proofs.Printing.Evaluated
import SpokenArithmetic.Proofs.Phrase.Questions
import SpokenArithmetic.Proofs.Phrase.SpokenSigns
import SpokenArithmetic.Proofs.Phrase.PowerTowers
import SpokenArithmetic.Proofs.Exceptions.Discipline
import SpokenArithmetic.Proofs.Assistant.Logs
import SpokenArithmetic.Proofs.Assistant.Described
import SpokenArithmetic.Proofs.Assistant.Undisturbed
import SpokenArithmetic.Proofs.Assistant.Stateless
import SpokenArithmetic.Proofs.History.Committed
import SpokenArithmetic.Proofs.Settings.Stranded
import SpokenArithmetic.Proofs.Settings.ReadBack
import SpokenArithmetic.Proofs.CommandLine.Recorded
import SpokenArithmetic.Proofs.CommandLine.Accepted
import SpokenArithmetic.Proofs.CommandLine.Calls
import SpokenArithmetic.Proofs.CommandLine.FaithfulLog
import SpokenArithmetic.Proofs.CommandLine.Conversation
import SpokenArithmetic.Proofs.Rewriting.Composed
import SpokenArithmetic.Proofs.Phrase.Conversions
import SpokenArithmetic.Proofs.Phrase.Merging
import SpokenArithmetic.Proofs.Phrase.TypedPowers
import SpokenArithmetic.Proofs.Phrase.SpokenDecimals
import SpokenArithmetic.Proofs.Printing.Entered
import SpokenArithmetic.Proofs.Lexing.Lossless
import SpokenArithmetic.Proofs.Phrase.Canonical
import SpokenArithmetic.Proofs.Phrase.Explicit
import SpokenArithmetic.Proofs.Phrase.SinglySpaced
import SpokenArithmetic.Proofs.Grammar.Offending
import SpokenArithmetic.Proofs.Printing.SixPlaces
import SpokenArithmetic.Proofs.Printing.RoundCall
import SpokenArithmetic.Proofs.Printing.Shown
import SpokenArithmetic.Proofs.Settings.Lineage
import SpokenArithmetic.Proofs.Settings.Fallback
import SpokenArithmetic.Proofs.Phrase.Rounds
import SpokenArithmetic.Proofs.Descent.Nesting
