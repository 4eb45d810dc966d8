import MacroScript.Case.Discovery
import MacroScript.Engine.Session
import MacroScript.Main
import MacroScript.Proofs.Broadcast
import MacroScript.Proofs.Exclusion
import MacroScript.Proofs.Loops
import MacroScript.Proofs.Termination
import MacroScript.Proofs.Sessions
import MacroScript.Proofs.Cancellation
import MacroScript.Proofs.Canonical
import MacroScript.Proofs.CaseLimits
import MacroScript.Proofs.Filling
import MacroScript.Proofs.Hygiene
import MacroScript.Proofs.LineBreaks
import MacroScript.Proofs.LineKind
import MacroScript.Proofs.Visits
import MacroScript.Proofs.Order
import MacroScript.Proofs.Outermost
import MacroScript.Proofs.Template
import MacroScript.Proofs.SharedLabel
import MacroScript.Proofs.Representation
import MacroScript.Proofs.Showing
import MacroScript.Proofs.Reporting
import MacroScript.Proofs.Failures
import MacroScript.Proofs.Grammar
import MacroScript.Proofs.Spelling
import MacroScript.Proofs.Encoding
import MacroScript.Proofs.Transcript
import MacroScript.Proofs.ByteOrder
import MacroScript.Proofs.Cycles
import MacroScript.Proofs.Discovery
import MacroScript.Proofs.Judgement
