import Detour.Agent.Compile
import Detour.Proofs.CallSite.Passes
import Detour.Proofs.Sequencing

/-!
# Effects of callbacks

Whatever a callback does to the world, it does by calls: to the metadata of a module, to the log,
and to the body of the method that is compiled. Each call is an effect with a label, refused calls
included, and a run is a sequence of effects that leads from one session to another. Scans of a
method only observe: their runs consist of reads and log events.
-/

namespace Detour

open Detour.Assembly
open Detour.Body
open Detour.CallSite
open Detour.Host
open Detour.Rule

variable {S α β : Type}

namespace Host

/-- A call to the metadata of a module. -/
inductive MetadataCall where
  | memberRef (token : Token)
  | methodDef (token : Token)
  | typeRef (token : Token)
  | typeDef (token : Token)
  | defineAssemblyRef (assembly : AssemblyName)
  | defineTypeRef (scope : Token) (typeName : String)
  | defineMemberRef (parent : Token) (methodName : String) (signature : List UInt8)

namespace MetadataCall

def isRead : MetadataCall → Bool
  | memberRef _ | methodDef _ | typeRef _ | typeDef _ => true
  | defineAssemblyRef _ | defineTypeRef _ _ | defineMemberRef _ _ _ => false

/-- The host behind a call; reads are given a buffer that holds the name `held`. -/
def hostAfter (metadata : Metadata S) (held : String) (host : S) : MetadataCall → S
  | memberRef token => (endState (metadata.memberRef token ⟨held, host⟩)).host
  | methodDef token => (endState (metadata.methodDef token ⟨held, host⟩)).host
  | typeRef token => (endState (metadata.typeRef token ⟨held, host⟩)).host
  | typeDef token => (endState (metadata.typeDef token ⟨held, host⟩)).host
  | defineAssemblyRef assembly => endState (metadata.defineAssemblyRef assembly host)
  | defineTypeRef scope typeName => endState (metadata.defineTypeRef scope typeName host)
  | defineMemberRef parent methodName signature =>
    endState (metadata.defineMemberRef parent methodName signature host)

end MetadataCall

end Host

/-- An effect of a callback. -/
inductive Effect where
  | metadata (call : MetadataCall)
  | log (event : Event)
  | readBody
  /-- The host took the bytes of a changed body. -/
  | writeBody (bytes : List UInt8)
  | refusedWrite (bytes : List UInt8) (refusal : Refusal)

/-- Whether an effect neither defines a row nor tries to write the body. -/
def Effect.onlyObserves : Effect → Bool
  | metadata call => call.isRead
  | log _ | readBody => true
  | writeBody _ | refusedWrite _ _ => false

def Effect.isMetadataRead : Effect → Bool
  | metadata call => call.isRead
  | log _ | readBody | writeBody _ | refusedWrite _ _ => false

theorem Effect.exists_call_of_isMetadataRead {effect : Effect}
    (isMetadataRead : effect.isMetadataRead = true) :
    ∃ call, effect = .metadata call ∧ call.isRead = true := by
  cases effect with
  | metadata call => exact ⟨call, rfl, isMetadataRead⟩
  | log | readBody | writeBody | refusedWrite => cases isMetadataRead

namespace Session

/-- One effect takes a session to the next, in the compilation of a method whose module has the
metadata `metadata?`, if it has a record. -/
inductive Step (metadata? : Option (Metadata S)) (handle : BodyHandle (Session S)) :
    Effect → Session S → Session S → Prop where
  | metadata {metadata : Metadata S} (known : metadata? = some metadata) (call : MetadataCall)
      (held : String) (agent : Agent S) (host : S) (events : Array Event) :
      Step metadata? handle (.metadata call) ⟨agent, host, events⟩
        ⟨agent, call.hostAfter metadata held host, events⟩
  | log (event : Event) (session : Session S) :
      Step metadata? handle (.log event) session (session.log event)
  | readBody (session : Session S) :
      Step metadata? handle .readBody session (endState (handle.read session))
  | writeBody {bytes : List UInt8} {before after : Session S}
      (taken : handle.write bytes before = .ok () after) :
      Step metadata? handle (.writeBody bytes) before after
  | refusedWrite {bytes : List UInt8} {refusal : Refusal} {before after : Session S}
      (refused : handle.write bytes before = .error refusal after) :
      Step metadata? handle (.refusedWrite bytes refusal) before after

inductive Runs (metadata? : Option (Metadata S)) (handle : BodyHandle (Session S)) :
    List Effect → Session S → Session S → Prop where
  | done (session : Session S) : Runs metadata? handle [] session session
  | step {effect : Effect} {effects : List Effect} {before middle after : Session S}
      (first : Step metadata? handle effect before middle)
      (rest : Runs metadata? handle effects middle after) :
      Runs metadata? handle (effect :: effects) before after

variable {metadata? : Option (Metadata S)} {handle : BodyHandle (Session S)}
  {before middle after : Session S}

theorem Runs.append {first second : List Effect}
    (firstRuns : Runs metadata? handle first before middle)
    (secondRuns : Runs metadata? handle second middle after) :
    Runs metadata? handle (first ++ second) before after := by
  induction firstRuns with
  | done session => exact secondRuns
  | step effect _ ih => exact .step effect (ih secondRuns)

/-- What every single effect of a run keeps is kept by the run. -/
theorem Runs.view_eq {effects : List Effect} (view : Session S → α)
    (runs : Runs metadata? handle effects before after)
    (keeps : ∀ effect ∈ effects, ∀ before after,
      Step metadata? handle effect before after → view after = view before) :
    view after = view before := by
  induction runs with
  | done session => rfl
  | step effect rest ih =>
    have restKeeps := ih fun later member => keeps later (List.mem_cons_of_mem _ member)
    exact restKeeps.trans (keeps _ List.mem_cons_self _ _ effect)

/-- Only the handle to a body can do anything to the agent. -/
theorem Step.agent_eq {effect : Effect} (step : Step metadata? handle effect before after)
    (readKeeps : ∀ session, (endState (handle.read session)).agent = session.agent)
    (writeKeeps : ∀ bytes session, (endState (handle.write bytes session)).agent = session.agent) :
    after.agent = before.agent := by
  cases step with
  | metadata => rfl
  | log => rfl
  | readBody => exact readKeeps before
  | @writeBody bytes _ _ taken =>
    have kept := writeKeeps bytes before
    rw [taken] at kept
    exact kept
  | @refusedWrite bytes _ _ _ refused =>
    have kept := writeKeeps bytes before
    rw [refused] at kept
    exact kept

/-! ## Runs of one kind -/

/-- Some run of effects of one kind leads from one session to the other. -/
def RunsBy (ofKind : Effect → Prop) (metadata? : Option (Metadata S))
    (handle : BodyHandle (Session S)) (before after : Session S) : Prop :=
  ∃ effects, (∀ effect ∈ effects, ofKind effect) ∧ Runs metadata? handle effects before after

section RunsBy

variable {ofKind : Effect → Prop}

theorem RunsBy.refl (session : Session S) : RunsBy ofKind metadata? handle session session := by
  refine ⟨[], ?_, .done session⟩
  intro effect member
  cases member

theorem RunsBy.of_step {effect : Effect} (step : Step metadata? handle effect before after)
    (isOfKind : ofKind effect) : RunsBy ofKind metadata? handle before after := by
  refine ⟨[effect], ?_, .step step (.done after)⟩
  intro other member
  rw [List.mem_singleton.mp member]
  exact isOfKind

theorem RunsBy.trans (first : RunsBy ofKind metadata? handle before middle)
    (second : RunsBy ofKind metadata? handle middle after) :
    RunsBy ofKind metadata? handle before after := by
  obtain ⟨firstEffects, firstOfKind, firstRuns⟩ := first
  obtain ⟨secondEffects, secondOfKind, secondRuns⟩ := second
  refine ⟨firstEffects ++ secondEffects, ?_, firstRuns.append secondRuns⟩
  intro effect member
  rcases List.mem_append.mp member with inFirst | inSecond
  · exact firstOfKind effect inFirst
  · exact secondOfKind effect inSecond

theorem RunsBy.mono {ofWiderKind : Effect → Prop}
    (runs : RunsBy ofKind metadata? handle before after)
    (wider : ∀ effect, ofKind effect → ofWiderKind effect) :
    RunsBy ofWiderKind metadata? handle before after := by
  obtain ⟨effects, isOfKind, runs⟩ := runs
  exact ⟨effects, fun effect member => wider effect (isOfKind effect member), runs⟩

/-- What every single effect of the kind keeps is kept by the run. -/
theorem RunsBy.view_eq (view : Session S → α)
    (keeps : ∀ effect before after, ofKind effect → Step metadata? handle effect before after →
      view after = view before)
    (runs : RunsBy ofKind metadata? handle before after) : view after = view before := by
  obtain ⟨effects, isOfKind, runs⟩ := runs
  exact runs.view_eq view fun effect member before after =>
    keeps effect before after (isOfKind effect member)

end RunsBy

/-- Some run of reads and log events leads from one session to the other. -/
def Observes (metadata? : Option (Metadata S)) (handle : BodyHandle (Session S))
    (before after : Session S) : Prop :=
  ∃ effects, (∀ effect ∈ effects, effect.onlyObserves = true) ∧
    Runs metadata? handle effects before after

theorem Observes.refl (session : Session S) : Observes metadata? handle session session :=
  RunsBy.refl session

theorem Observes.of_step {effect : Effect} (step : Step metadata? handle effect before after)
    (observing : effect.onlyObserves = true) : Observes metadata? handle before after :=
  RunsBy.of_step step observing

theorem Observes.trans (first : Observes metadata? handle before middle)
    (second : Observes metadata? handle middle after) : Observes metadata? handle before after :=
  RunsBy.trans first second

theorem Observes.view_eq (view : Session S → α)
    (keeps : ∀ effect before after, effect.onlyObserves = true →
      Step metadata? handle effect before after → view after = view before)
    (observes : Observes metadata? handle before after) : view after = view before :=
  RunsBy.view_eq view keeps observes

theorem observes_log (event : Event) (session : Session S) :
    Observes metadata? handle session (session.log event) :=
  .of_step (.log event session) rfl

/-- Reads of metadata are a kind of observation. -/
theorem RunsBy.observes
    (runs : RunsBy (fun effect => effect.isMetadataRead = true) metadata? handle before after) :
    Observes metadata? handle before after := by
  apply runs.mono
  intro effect isMetadataRead
  obtain ⟨call, rfl, isRead⟩ := Effect.exists_call_of_isMetadataRead isMetadataRead
  exact isRead

end Session

/-! ## Scans -/

namespace CallSite

open Detour.Session

/-- Wherever a step of a scan begins, it reads metadata and does nothing else. -/
def Scanning.OnlyReads (metadata : Metadata S) (step : Scanning S α) : Prop :=
  ∀ (handle : BodyHandle (Session S)) (agent : Agent S) (scan : Scan S),
    RunsBy (fun effect => effect.isMetadataRead = true) (some metadata) handle
      ⟨agent, scan.world⟩ ⟨agent, (endState (step scan)).world⟩

/-- Wherever a step of a scan begins, it only observes. -/
def Scanning.Observes (metadata : Metadata S) (step : Scanning S α) : Prop :=
  ∀ (handle : BodyHandle (Session S)) (agent : Agent S) (scan : Scan S),
    Session.Observes (some metadata) handle ⟨agent, scan.world⟩
      ⟨agent, (endState (step scan)).world⟩

variable {metadata : Metadata S}

namespace Scanning

theorem OnlyReads.observes {step : Scanning S α} (reads : step.OnlyReads metadata) :
    step.Observes metadata :=
  fun handle agent scan => (reads handle agent scan).observes

theorem onlyReads_pure (value : α) : (pure value : Scanning S α).OnlyReads metadata :=
  fun _ _ _ => .refl _

theorem onlyReads_bind {first : Scanning S α} {continuation : α → Scanning S β}
    (reads : first.OnlyReads metadata)
    (continues : ∀ value, (continuation value).OnlyReads metadata) :
    (first >>= continuation).OnlyReads metadata := by
  intro handle agent scan
  have firstReads := reads handle agent scan
  cases outcome : first scan with
  | error refusal after =>
    rw [EStateM.bind_of_error outcome]
    rw [outcome] at firstReads
    exact firstReads
  | ok value after =>
    rw [EStateM.bind_of_ok outcome]
    rw [outcome] at firstReads
    exact firstReads.trans (continues value handle agent after)

theorem onlyReads_readName {read : NameRead S α} (buffer : NameBuffer) (call : MetadataCall)
    (isRead : call.isRead = true)
    (reads : ∀ held host, call.hostAfter metadata held host = (endState (read ⟨held, host⟩)).host) :
    OnlyReads metadata (Scan.readName buffer read) := by
  intro handle agent scan
  have worldAfter : (endState (Scan.readName buffer read scan)).world =
      ⟨call.hostAfter metadata (scan.buffers.get buffer) scan.world.host, scan.world.events⟩ := by
    rw [reads, Scan.readName]
    cases read ⟨scan.buffers.get buffer, scan.world.host⟩ with
    | ok value slot => rfl
    | error refusal slot => rfl
  rw [worldAfter]
  exact .of_step (.metadata rfl call (scan.buffers.get buffer) agent _ _) isRead

theorem onlyReads_currentIdentity : (currentIdentity (S := S)).OnlyReads metadata :=
  fun _ _ _ => .refl _

theorem onlyReads_ifNamed {step : Scanning S (Option α)} (expected : String)
    (reads : step.OnlyReads metadata) :
    OnlyReads metadata (do if ← holdsMethodName expected then step else return none) := by
  apply onlyReads_bind (fun _ _ _ => .refl _)
  intro isNamed
  cases isNamed with
  | true => exact reads
  | false => exact onlyReads_pure none

theorem onlyReads_resolveType {read : NameRead S Unit} (reads : OnlyReads metadata
    (Scan.readName .typeName read)) : (resolveType read).OnlyReads metadata :=
  onlyReads_bind reads fun _ => onlyReads_bind onlyReads_currentIdentity fun _ => onlyReads_pure _

end Scanning

theorem onlyReads_typeDef (token : Token) :
    Scanning.OnlyReads metadata (Scan.readName .typeName (metadata.typeDef token)) :=
  Scanning.onlyReads_readName .typeName (.typeDef token) rfl fun _ _ => rfl

theorem onlyReads_methodDef (token : Token) :
    Scanning.OnlyReads metadata (Scan.readName .methodName (metadata.methodDef token)) :=
  Scanning.onlyReads_readName .methodName (.methodDef token) rfl fun _ _ => rfl

theorem onlyReads_resolveDefinition (definition : Token) (expected : String) :
    (resolveDefinition metadata definition expected).OnlyReads metadata := by
  apply Scanning.onlyReads_bind (onlyReads_methodDef definition)
  intro owner
  exact Scanning.onlyReads_ifNamed expected
    (Scanning.onlyReads_resolveType (onlyReads_typeDef owner))

theorem onlyReads_resolveParent (parent : Token) (expected : String) :
    (resolveParent metadata parent expected).OnlyReads metadata := by
  have readsReference :
      Scanning.OnlyReads metadata (Scan.readName .typeName (metadata.typeRef parent)) :=
    Scanning.onlyReads_readName .typeName (.typeRef parent) rfl fun _ _ => rfl
  unfold resolveParent
  split
  · exact Scanning.onlyReads_resolveType readsReference
  · exact Scanning.onlyReads_resolveType (onlyReads_typeDef parent)
  · exact onlyReads_resolveDefinition parent expected
  · exact Scanning.onlyReads_pure none

theorem onlyReads_resolve (metadata : Metadata S) (operand : Token) (expected : String) :
    (resolve metadata operand expected).OnlyReads metadata := by
  have readsReference :
      Scanning.OnlyReads metadata (Scan.readName .methodName (metadata.memberRef operand)) :=
    Scanning.onlyReads_readName .methodName (.memberRef operand) rfl fun _ _ => rfl
  unfold resolve
  split
  · apply Scanning.onlyReads_bind readsReference
    intro parent
    exact Scanning.onlyReads_ifNamed expected (onlyReads_resolveParent parent expected)
  · exact onlyReads_resolveDefinition operand expected
  · exact Scanning.onlyReads_pure none

theorem onlyReads_identify (definition : Token) :
    (identify metadata definition).OnlyReads metadata := by
  apply Scanning.onlyReads_bind (onlyReads_methodDef definition)
  intro owner
  apply Scanning.onlyReads_bind (onlyReads_typeDef owner)
  intro _
  exact Scanning.onlyReads_currentIdentity

/-- A pass only observes: the calls that it redirects are calls of the decoded body. -/
theorem observes_redirectNamed (metadata : Metadata S) (handle : BodyHandle (Session S))
    (agent : Agent S) (methodName : String) (typeName : Option String) (wrapperRef : Token)
    (instructions : List Instruction) (scan : Scan S) :
    Session.Observes (some metadata) handle ⟨agent, scan.world⟩
      ⟨agent,
        (redirectNamed metadata methodName typeName wrapperRef instructions scan).scan.world⟩ := by
  induction instructions generalizing scan with
  | nil => exact .refl _
  | cons instruction rest ih =>
    cases callee : instruction.callee? with
    | none =>
      rw [redirectNamed_of_noCallee callee]
      exact ih scan
    | some operand =>
      have resolves :=
        (onlyReads_resolve metadata operand methodName).observes handle agent scan
      cases resolved : resolve metadata operand methodName scan with
      | error refusal after =>
        rw [resolved] at resolves
        rw [redirectNamed_of_refused callee resolved]
        exact resolves
      | ok target after =>
        rw [resolved] at resolves
        cases target with
        | none =>
          rw [redirectNamed_of_unresolved callee resolved]
          exact resolves.trans (ih after)
        | some target =>
          by_cases expected : typeIsExpected typeName target.typeName = true
          · rw [redirectNamed_of_expected callee resolved expected]
            exact resolves.trans ((observes_log _ _).trans (ih (after.log _)))
          · rw [redirectNamed_of_unexpected callee resolved expected]
            exact resolves.trans (ih after)

theorem observes_redirectCalls (metadata : Metadata S) (handle : BodyHandle (Session S))
    (agent : Agent S) (target : MethodPattern) (wrapperRef : Token)
    (instructions : List Instruction) (scan : Scan S) :
    Session.Observes (some metadata) handle ⟨agent, scan.world⟩
      ⟨agent, (redirectCalls metadata target wrapperRef instructions scan).scan.world⟩ := by
  unfold redirectCalls
  split
  · exact .refl _
  · exact observes_redirectNamed metadata handle agent _ _ wrapperRef instructions scan

end CallSite

end Detour
