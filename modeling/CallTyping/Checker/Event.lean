/-
This file defines the events that a check records while it runs. Types are
written at the moment of the event, since they may grow afterwards.
-/

import CallTyping.Syntax

namespace CallTyping

/-- How much detail an event belongs to. -/
inductive Verbosity where
  | trace
  | debug
  deriving DecidableEq

def Verbosity.name : Verbosity → String
  | .trace => "TRACE"
  | .debug => "DEBUG"

/-- What happens during a check. -/
inductive Event where
  | visiting (kind : String) (span : Span)
  | checkingModule (file : String)
  | moduleKnown (file : String)
  | callKnown (closure : ClosureId)
  | specializing (closure : ClosureId) (args : List String)
  | armSkipped (tag matched : String)
  | inlay (file : String) (span : Span) (found : String)
  deriving DecidableEq

namespace Event

def verbosity : Event → Verbosity
  | .visiting _ _ => .trace
  | _ => .debug

def message : Event → String
  | .visiting kind span => "visiting " ++ kind ++ " at " ++ span.text
  | .checkingModule file => "checking module " ++ file
  | .moduleKnown file => "module " ++ file ++ " already checked"
  | .callKnown closure => "specialization cache hit for " ++ closure.text
  | .specializing closure args =>
    "specializing " ++ closure.text ++ " for (" ++ ", ".intercalate args ++ ")"
  | .armSkipped tag matched => "skipping match arm " ++ tag ++ ", not a tag of " ++ matched
  | .inlay file span found => "inlay at " ++ file ++ ":" ++ span.text ++ ": " ++ found

/-- The line of a log. -/
def line (event : Event) : String := event.verbosity.name ++ " " ++ event.message

end Event

end CallTyping
