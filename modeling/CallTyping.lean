import CallTyping.Checker.Session
import CallTyping.Syntax.Preorder
import CallTyping.Proofs.Agreement
import CallTyping.Proofs.Assertions
import CallTyping.Proofs.Bisimilarity
import CallTyping.Proofs.CallMap
import CallTyping.Proofs.Completion
import CallTyping.Proofs.Conditions
import CallTyping.Proofs.Currying
import CallTyping.Proofs.Exports
import CallTyping.Proofs.HandBack
import CallTyping.Proofs.Horizon
import CallTyping.Proofs.Isolation
import CallTyping.Proofs.Legibility
import CallTyping.Proofs.Loading
import CallTyping.Proofs.Looking
import CallTyping.Proofs.Markers
import CallTyping.Proofs.Memoization
import CallTyping.Proofs.Places
import CallTyping.Proofs.Reachable
import CallTyping.Proofs.Reading
import CallTyping.Proofs.Rebinding
import CallTyping.Proofs.Recall
import CallTyping.Proofs.Regrouping
import CallTyping.Proofs.Repetition
import CallTyping.Proofs.Required
import CallTyping.Proofs.Shadowing
import CallTyping.Proofs.Siblings
import CallTyping.Proofs.Signatures
import CallTyping.Proofs.Strictness
import CallTyping.Proofs.Unexecuted
