/-
This file defines a check from outside: a checker takes one program after the
other, and keeps what it has learned from them. How far a check can lead into
calls and required files is bounded by the calls that may still be nested and the
files that are not being checked yet.
-/

import CallTyping.Checker.Traversal
import CallTyping.Report

namespace CallTyping

/-- The number of bodies and files that can still be entered inside each other. -/
def Checker.headroom (setup : Setup) (checker : Checker) : Nat :=
  (setup.settings.depthLimit - checker.callDepth) +
    (setup.loader.paths.filter fun path => !checker.isOpen path).length

/-- Types every statement of a file, which must not be one that is being checked. -/
def checkWith (run : Runner) (file : String) (program : Program) : Visit Program Unit :=
  fun checker =>
    if checker.isOpen file then
      Visit.settle program (fail .origin (.circularRequire file)) checker
    else
      (runFile run file program).andThen id (fun program _ => .settle program (pure ())) checker

/-- Checks a file with as many levels of bodies and files as there can be. -/
def checkFile (setup : Setup) (file : String) (program : Program) : Visit Program Unit :=
  fun checker => checkWith (runWithin setup (checker.headroom setup + 1)) file program checker

/-- Checks one program by itself with the standard setup. -/
def checkAlone (file : String) (program : Program) : (Program × Except Stop Unit) × Checker :=
  checkFile .standard file program .initial

/-- What is said about a program that did not pass: one line, and the report on its source. -/
structure Rejection where
  summary : String
  report : String

/-- Checks one program by itself and reports a failure against its source text. -/
def checkText (source file : String) (program : Program) : Except Rejection Checker :=
  match checkAlone file program with
  | ((_, .ok _), checker) => .ok checker
  | ((_, .error (.fault error)), checker) =>
    .error ⟨"Failed to type check " ++ error.file, error.report checker.heap source⟩
  | ((_, .error .exhausted), _) => .error ⟨"Failed to type check " ++ file, ""⟩

end CallTyping
