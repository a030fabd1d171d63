import Detour.Body.Basic
import Detour.CallSite.Resolve
import Detour.Rule.Pattern

/-!
# Redirecting calls

One pass over a method body redirects every call of a target. A dispatched call becomes a direct
one, because the wrapper is a concrete method. The pass goes on after a hit, and stops where the
host refuses a read; the calls before that place then stay redirected, so the body must not be
used.
-/

namespace Detour.CallSite

open Detour.Body
open Detour.Host
open Detour.Rule

structure Pass (S : Type) where
  /-- The number of redirected calls, or the refusal that ended the pass. -/
  result : Except Refusal Nat
  instructions : List Instruction
  scan : Scan S

namespace Pass

variable {S : Type}

/-- The pass that began with an instruction it left alone. -/
def keeping (instruction : Instruction) (pass : Pass S) : Pass S :=
  { pass with instructions := instruction :: pass.instructions }

/-- The pass that began with an instruction it redirected. -/
def redirecting (instruction : Instruction) (pass : Pass S) : Pass S :=
  { pass with
    result := pass.result.map (· + 1)
    instructions := instruction :: pass.instructions }

end Pass

variable {S : Type}

/-- Whether a declaring type is the expected one; none is expected if the target leaves it open. -/
def typeIsExpected (expected : Option String) (typeName : String) : Bool :=
  match expected with
  | none => true
  | some name => name == typeName

/-- Redirects the calls of methods with a given name, and with a given declaring type if there is
one, to `wrapperRef`. -/
def redirectNamed (metadata : Metadata S) (methodName : String) (typeName : Option String)
    (wrapperRef : Token) : List Instruction → Scan S → Pass S
  | [], scan => ⟨.ok 0, [], scan⟩
  | instruction :: rest, scan =>
    match instruction.callee? with
    | none =>
      (redirectNamed metadata methodName typeName wrapperRef rest scan).keeping instruction
    | some operand =>
      match resolve metadata operand methodName scan with
      | .error error scan => ⟨.error error, instruction :: rest, scan⟩
      | .ok none scan =>
        (redirectNamed metadata methodName typeName wrapperRef rest scan).keeping instruction
      | .ok (some target) scan =>
        if typeIsExpected typeName target.typeName then
          let event := Event.callRedirected instruction.offset target.typeName target.methodName
            wrapperRef
          (redirectNamed metadata methodName typeName wrapperRef rest (scan.log event)).redirecting
            (instruction.redirect wrapperRef)
        else
          (redirectNamed metadata methodName typeName wrapperRef rest scan).keeping instruction

/-- Redirects the calls of a target to `wrapperRef`. A target that leaves the method name open is
never looked for. -/
def redirectCalls (metadata : Metadata S) (target : MethodPattern) (wrapperRef : Token)
    (instructions : List Instruction) (scan : Scan S) : Pass S :=
  match target.methodName? with
  | none => ⟨.ok 0, instructions, scan⟩
  | some methodName =>
    redirectNamed metadata methodName target.typeName? wrapperRef instructions scan

end Detour.CallSite
