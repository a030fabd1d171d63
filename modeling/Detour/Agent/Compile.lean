import Detour.Agent.Basic
import Detour.Body.Decode
import Detour.Body.Encode
import Detour.CallSite.Redirect

/-!
# Compilations

When the host is about to compile a method, the replacements of its module are tried in order: those
whose caller pattern the method matches and whose wrapper has a reference. The first one that
redirects a call is committed, by writing the changed body once; the later ones are not tried. A
compilation that ends in any other way leaves the method as it is.

A compilation works with the record that it finds at its start. Reading the body may let other
callbacks in, and what they do to the module table does not matter to it.
-/

namespace Detour

open Detour.Body
open Detour.CallSite
open Detour.Host
open Detour.Rule

/-- The host's handle to the body of a method that is compiled. Its calls act on `W`, which may hold
more than the host's own state. -/
structure BodyHandle (W : Type) where
  read : EStateM Refusal W (List UInt8)
  write (bytes : List UInt8) : EStateM Refusal W Unit

/-- A body that is owned by the caller, without any host. -/
def BodyHandle.owned : BodyHandle (List UInt8) where
  read := get
  write := set

/-- Why a compilation left a method as it is. -/
inductive UnchangedReason where
  | moduleNotTracked
  /-- No enabled replacement admits the method as a caller. -/
  | noMatchingCaller
  /-- No call of the method is one to redirect. -/
  | noMatchingCallSite
  deriving DecidableEq, Repr, Inhabited

inductive CompileOutcome where
  | unchanged (reason : UnchangedReason)
  /-- The replacement at `index` of the module's record redirected `callSites` calls. -/
  | committed (index : Nat) (wrapper : WrapperKey) (callSites : Nat)
  deriving DecidableEq, Repr, Inhabited

namespace CompileOutcome

def isCommitted : CompileOutcome → Bool
  | committed .. => true
  | unchanged _ => false

end CompileOutcome

abbrev Compiling (S : Type) := EStateM Error (Session S)

namespace Compiling

variable {S α : Type}

/-- Runs a step of a scan within the session, and gives the buffers back. -/
def onScan (buffers : HeldNames) (step : Scanning S α) : Compiling S (α × HeldNames) :=
  fun session =>
    match step ⟨buffers, session.world⟩ with
    | .ok value scan => .ok (value, scan.buffers) { session with world := scan.world }
    | .error error scan => .error (.host error) { session with world := scan.world }

def redirect (metadata : Metadata S) (target : MethodPattern) (wrapperRef : Token)
    (body : MethodBody) (buffers : HeldNames) :
    Compiling S (Nat × MethodBody × HeldNames) := fun session =>
  let scan := ⟨buffers, session.world⟩
  let pass := redirectCalls metadata target wrapperRef body.instructions scan
  let session := { session with world := pass.scan.world }
  match pass.result with
  | .ok count =>
    .ok (count, { body with instructions := pass.instructions }, pass.scan.buffers) session
  | .error error => .error (.host error) session

def onBody (call : EStateM Refusal (Session S) α) : Compiling S α :=
  call.adaptExcept Error.host

def ofBody : Except BodyError α → Compiling S α
  | .ok value => return value
  | .error error => throw (.body error)

def log (event : Event) : Compiling S Unit :=
  modify (·.log event)

end Compiling

namespace ModuleRecord

variable {S : Type}

/-- The enabled replacements that admit a method as a caller, with their places in the record. -/
def callerMatches (record : ModuleRecord S) (caller : MethodIdentity) : List (Replacement × Nat) :=
  record.replacements.zipIdx.filter fun (replacement, _) =>
    replacement.caller.matchesMethod record.assembly caller.typeName caller.methodName

/-- Tries replacements in order and commits the first that redirects a call. A pass without a hit
leaves the decoded body as it was, so the next one starts from it. -/
def tryReplacements (record : ModuleRecord S) (caller : MethodIdentity)
    (handle : BodyHandle (Session S)) :
    List (Replacement × Nat) → MethodBody → HeldNames → Compiling S CompileOutcome
  | [], _, _ => return .unchanged .noMatchingCallSite
  | (replacement, index) :: rest, body, buffers => do
    let key := replacement.wrapper.key
    match record.wrapperRef? replacement.wrapper with
    | none =>
      Compiling.log (.replacementSkipped record.moduleId key)
      record.tryReplacements caller handle rest body buffers
    | some wrapperRef =>
      let (callSites, body, buffers) ←
        Compiling.redirect record.metadata replacement.target wrapperRef body buffers
      if callSites = 0 then
        record.tryReplacements caller handle rest body buffers
      else
        let bytes ← Compiling.ofBody body.encode
        Compiling.onBody (handle.write bytes)
        Compiling.log
          (.methodChanged record.moduleId caller.typeName caller.methodName key callSites)
        return .committed index key callSites

def compile (record : ModuleRecord S) (function : Token) (handle : BodyHandle (Session S)) :
    Compiling S CompileOutcome := do
  let (caller, buffers) ←
    Compiling.onScan HeldNames.empty (identify record.metadata function)
  let candidates := record.callerMatches caller
  if candidates.isEmpty then
    return .unchanged .noMatchingCaller
  else
    let bytes ← Compiling.onBody handle.read
    let body ← Compiling.ofBody (MethodBody.decode bytes)
    record.tryReplacements caller handle candidates body buffers

end ModuleRecord

namespace Session

variable {S : Type}

def compile (moduleId : ModuleId) (function : Token) (handle : BodyHandle (Session S)) :
    Compiling S CompileOutcome := do
  match (← get).agent.record? moduleId with
  | none => return .unchanged .moduleNotTracked
  | some record => record.compile function handle

end Session

end Detour
