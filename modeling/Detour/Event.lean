import Detour.Error
import Detour.Module.Identity

/-!
# Log events

What the library tells about its work. An event keeps what happened; its level, message and fields
are one rendering of it.
-/

namespace Detour

open Detour.Host
open Detour.Rule

inductive Event where
  /-- The process is not one that the settings allow. -/
  | attachRefused (process : String) (allowed : List String)
  | attached (process : String) (integrations : Nat)
  | moduleSkipped (moduleId : ModuleId) (assembly : String) (flags : ModuleFlags)
  | emissionStarted (moduleId : ModuleId) (assembly : String) (candidates : Nat)
  | wrapperEmitted (moduleId : ModuleId) (wrapper : WrapperKey) (token : Token)
  | replacementDropped (moduleId : ModuleId) (wrapper : WrapperKey) (error : EmissionError)
  | recordReplaced (moduleId : ModuleId)
  | recordReleased (moduleId : ModuleId)
  | moduleTracked (moduleId : ModuleId) (enabled dropped : Nat)
  /-- Every applicable replacement of a module was dropped. -/
  | nothingEmitted (moduleId : ModuleId) (failures : Nat)
  /-- A replacement is enabled although its wrapper has no reference. -/
  | replacementSkipped (moduleId : ModuleId) (wrapper : WrapperKey)
  | callRedirected (offset : UInt32) (typeName methodName : String) (wrapper : Token)
  | methodChanged (moduleId : ModuleId) (callerType callerMethod : String) (wrapper : WrapperKey)
      (callSites : Nat)
  /-- A compilation ended with an error. -/
  | methodLeftAlone (moduleId : ModuleId) (function : Token) (error : Error)
  | catalogLoaded (path : String) (count : Nat)

inductive Level where
  | trace
  | debug
  | info
  | warn
  deriving DecidableEq, Repr, Inhabited

def Level.name : Level → String
  | trace => "TRACE"
  | debug => "DEBUG"
  | info => "INFO"
  | warn => "WARN"

namespace Event

def level : Event → Level
  | callRedirected .. => .trace
  | moduleSkipped .. | wrapperEmitted .. | recordReplaced _ | recordReleased _ | moduleTracked .. =>
    .debug
  | attachRefused .. | attached .. | emissionStarted .. | methodChanged .. | catalogLoaded .. =>
    .info
  | replacementDropped .. | nothingEmitted .. | replacementSkipped .. | methodLeftAlone .. => .warn

def message : Event → String
  | attachRefused .. => "profiler disabled: process name is not in the allowed list"
  | attached .. => "profiler attached"
  | moduleSkipped .. => "skipping non-instrumentable module"
  | emissionStarted .. => "emitting instrumentation metadata"
  | wrapperEmitted .. => "emitted wrapper member reference"
  | replacementDropped .. => "dropping replacement"
  | recordReplaced _ => "replaced existing module record"
  | recordReleased _ => "released module record"
  | moduleTracked .. => "module tracked"
  | nothingEmitted .. => "no wrapper reference could be emitted"
  | replacementSkipped .. => "no cached wrapper reference, skipping replacement"
  | callRedirected .. => "redirecting call site"
  | methodChanged .. => "rewrote method"
  | methodLeftAlone .. => "method left unmodified"
  | catalogLoaded .. => "loaded integrations"

def details : Event → List (String × String)
  | attachRefused process allowed => [("process", process), ("allowed", Text.quotedList allowed)]
  | attached process integrations => [("process", process), ("integrations", integrations.repr)]
  | moduleSkipped moduleId assembly flags =>
    [("module", moduleId.render), ("assembly", assembly), ("flags", flags.bits.toNat.repr)]
  | emissionStarted moduleId assembly candidates =>
    [("module", moduleId.render), ("assembly", assembly), ("candidates", candidates.repr)]
  | wrapperEmitted moduleId wrapper token =>
    [("module", moduleId.render), ("wrapper", wrapper.text), ("token", token.render)]
  | replacementDropped moduleId wrapper error =>
    [("module", moduleId.render), ("wrapper", wrapper.text), ("error", error.message)]
  | recordReplaced moduleId => [("module", moduleId.render)]
  | recordReleased moduleId => [("module", moduleId.render)]
  | moduleTracked moduleId enabled dropped =>
    [("module", moduleId.render), ("enabled", enabled.repr), ("dropped", dropped.repr)]
  | nothingEmitted moduleId failures =>
    [("module", moduleId.render), ("failures", failures.repr)]
  | replacementSkipped moduleId wrapper =>
    [("module", moduleId.render), ("wrapper", wrapper.text)]
  | callRedirected offset typeName methodName wrapper =>
    [("offset", offset.toNat.repr), ("target_type", typeName), ("target_method", methodName),
      ("wrapper", wrapper.render)]
  | methodChanged moduleId callerType callerMethod wrapper callSites =>
    [("module", moduleId.render), ("caller_type", callerType), ("caller_method", callerMethod),
      ("wrapper", wrapper.text), ("call_sites", callSites.repr)]
  | methodLeftAlone moduleId function error =>
    [("module", moduleId.render), ("function", function.render), ("hr", error.hresult.toInt.repr),
      ("error", error.message)]
  | catalogLoaded path count => [("path", path), ("count", count.repr)]

def render (event : Event) : String :=
  event.details.foldl (fun line (name, value) => line ++ " | " ++ name ++ "=" ++ value)
    (event.level.name ++ " " ++ event.message)

end Event

end Detour
