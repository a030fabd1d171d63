import Detour.Agent.Profiler
import Detour.Proofs.Agent.Commits
import Detour.Proofs.Agent.Effects

/-!
# The one write of a compilation

A compilation may be refused anything at any point, even after it has redirected calls of its own
copy of the body. Up to its end it only observes; then it writes the body, once, and commits if the
host takes the bytes. Every other end leaves the method as it was.
-/

namespace Detour

open Detour.Body
open Detour.CallSite
open Detour.Host
open Detour.Rule

variable {S α : Type}

namespace Session

/-- The last effects of a compilation together with its result. The event behind a taken write only
tells of it. -/
inductive EndsWith : List Effect → EStateM.Result Error (Session S) CompileOutcome → Prop where
  | unchanged (reason : UnchangedReason) (final : Session S) :
      EndsWith [] (.ok (.unchanged reason) final)
  | failed (error : Error) (final : Session S) : EndsWith [] (.error error final)
  | refused (bytes : List UInt8) (refusal : Refusal) (final : Session S) :
      EndsWith [.refusedWrite bytes refusal] (.error (.host refusal) final)
  | committed (bytes : List UInt8) (event : Event) (index : Nat) (key : WrapperKey)
      (callSites : Nat) (final : Session S) :
      EndsWith [.writeBody bytes, .log event] (.ok (.committed index key callSites) final)

/-- Observing leads to a session from which only the last effects are left. -/
def WritesLast (metadata? : Option (Metadata S)) (handle : BodyHandle (Session S))
    (session : Session S) (result : EStateM.Result Error (Session S) CompileOutcome) : Prop :=
  ∃ ready last, Observes metadata? handle session ready ∧
    Runs metadata? handle last ready (endState result) ∧ EndsWith last result

variable {metadata? : Option (Metadata S)} {handle : BodyHandle (Session S)}
  {session middle : Session S} {result : EStateM.Result Error (Session S) CompileOutcome}

theorem WritesLast.of_end {last : List Effect} (ends : EndsWith last result)
    (runs : Runs metadata? handle last session (endState result)) :
    WritesLast metadata? handle session result :=
  ⟨session, last, .refl session, runs, ends⟩

theorem WritesLast.after_observing (observes : Observes metadata? handle session middle)
    (writes : WritesLast metadata? handle middle result) :
    WritesLast metadata? handle session result := by
  obtain ⟨ready, last, observesRest, runs, ends⟩ := writes
  exact ⟨ready, last, observes.trans observesRest, runs, ends⟩

theorem writesLast_unchanged (reason : UnchangedReason) (session : Session S) :
    WritesLast metadata? handle session (.ok (.unchanged reason) session) :=
  .of_end (.unchanged reason session) (.done session)

theorem writesLast_failed (error : Error) (session : Session S) :
    WritesLast metadata? handle session (.error error session) :=
  .of_end (.failed error session) (.done session)

/-- A failure of the first part ends the whole. -/
theorem WritesLast.bind {first : Compiling S α} {continuation : α → Compiling S CompileOutcome}
    (observes : Observes metadata? handle session (endState (first session)))
    (continues : ∀ value middle, first session = .ok value middle →
      WritesLast metadata? handle middle (continuation value middle)) :
    WritesLast metadata? handle session ((first >>= continuation) session) := by
  cases outcome : first session with
  | error error after =>
    rw [EStateM.bind_of_error outcome]
    rw [outcome] at observes
    exact (writesLast_failed error after).after_observing observes
  | ok value after =>
    rw [EStateM.bind_of_ok outcome]
    rw [outcome] at observes
    exact (continues value after outcome).after_observing observes

/-- A compilation has committed exactly if the host took the bytes that it wrote. -/
theorem EndsWith.committed_iff {last : List Effect} (ends : EndsWith last result) :
    (∃ index key callSites final, result = .ok (.committed index key callSites) final) ↔
      ∃ bytes, .writeBody bytes ∈ last := by
  cases ends with
  | unchanged reason final => simp
  | failed error final => simp
  | refused bytes refusal final => simp
  | committed bytes event index key callSites final => simp

end Session

/-! ## Parts of a compilation -/

namespace Compiling

variable {metadata : Metadata S} {handle : BodyHandle (Session S)}

/-- Within a session a step of a scan runs as it does in its scan. -/
theorem runsBy_onScan {ofKind : Effect → Prop} {step : Scanning S α} {buffers : HeldNames}
    {session : Session S}
    (scanned : Session.RunsBy ofKind (some metadata) handle session
      ⟨session.agent, (endState (step ⟨buffers, session.world⟩)).world⟩) :
    Session.RunsBy ofKind (some metadata) handle session
      (endState (onScan buffers step session)) := by
  unfold onScan
  cases outcome : step ⟨buffers, session.world⟩ with
  | ok value scan =>
    rw [outcome] at scanned
    exact scanned
  | error refusal scan =>
    rw [outcome] at scanned
    exact scanned

theorem observes_onScan {step : Scanning S α} (observes : step.Observes metadata)
    (buffers : HeldNames) (session : Session S) :
    Session.Observes (some metadata) handle session (endState (onScan buffers step session)) :=
  runsBy_onScan (observes handle session.agent ⟨buffers, session.world⟩)

theorem observes_redirect (target : MethodPattern) (wrapperRef : Token) (body : MethodBody)
    (buffers : HeldNames) (session : Session S) :
    Session.Observes (some metadata) handle session
      (endState (redirect metadata target wrapperRef body buffers session)) := by
  have passed := observes_redirectCalls metadata handle session.agent target wrapperRef
    body.instructions ⟨buffers, session.world⟩
  unfold redirect
  dsimp only
  cases (redirectCalls metadata target wrapperRef body.instructions
    ⟨buffers, session.world⟩).result with
  | ok count => exact passed
  | error refusal => exact passed

theorem endState_onBody (call : EStateM Refusal (Session S) α) (session : Session S) :
    endState (onBody call session) = endState (call session) := by
  unfold onBody EStateM.adaptExcept
  cases call session with
  | ok value after => rfl
  | error refusal after => rfl

theorem endState_ofBody (outcome : Except BodyError α) (session : Session S) :
    endState (ofBody outcome session) = session := by
  cases outcome with
  | ok value => rfl
  | error error => rfl

end Compiling

namespace ModuleRecord

open Detour.Session

variable {record : ModuleRecord S} {handle : BodyHandle (Session S)}

theorem writesLast_commit (caller : MethodIdentity) (index : Nat) (key : WrapperKey)
    (callSites : Nat) (body : MethodBody) (session : Session S) :
    WritesLast (some record.metadata) handle session
      (record.commit caller handle index key callSites body session) := by
  cases encoded : body.encode with
  | error error =>
    rw [commit, encoded]
    exact writesLast_failed (.body error) session
  | ok bytes =>
    cases wrote : handle.write bytes session with
    | error refusal left =>
      rw [commit_of_refused encoded wrote]
      exact .of_end (.refused bytes refusal left) (.step (.refusedWrite wrote) (.done left))
    | ok _ written =>
      rw [commit_of_taken encoded wrote]
      exact .of_end (.committed bytes _ index key callSites _)
        (.step (.writeBody wrote) (.step (.log _ written) (.done _)))

theorem writesLast_tryReplacements (caller : MethodIdentity)
    (candidates : List (Replacement × Nat)) (body : MethodBody) (buffers : HeldNames)
    (session : Session S) :
    WritesLast (some record.metadata) handle session
      (record.tryReplacements caller handle candidates body buffers session) := by
  -- A pass without a hit belongs to the observation in front of what the rest comes to.
  induction candidates generalizing body buffers session with
  | nil => exact writesLast_unchanged .noMatchingCallSite session
  | cons candidate rest ih =>
    obtain ⟨replacement, index⟩ := candidate
    cases reference : record.wrapperRef? replacement.wrapper with
    | none =>
      rw [tryReplacements_of_noReference reference]
      exact (ih body buffers _).after_observing (observes_log _ session)
    | some wrapperRef =>
      rw [tryReplacements_of_reference reference]
      apply WritesLast.bind (Compiling.observes_redirect replacement.target wrapperRef body buffers
        session)
      intro passed middle _
      obtain ⟨callSites, changed, left⟩ := passed
      dsimp only
      by_cases noHit : callSites = 0
      · rw [if_pos noHit]
        exact ih changed left middle
      · rw [if_neg noHit]
        exact writesLast_commit caller index _ callSites changed middle

theorem writesLast_compile (function : Token) (session : Session S) :
    WritesLast (some record.metadata) handle session (record.compile function handle session) := by
  apply WritesLast.bind (Compiling.observes_onScan (onlyReads_identify function).observes
    HeldNames.empty session)
  intro identified known _
  obtain ⟨caller, buffers⟩ := identified
  dsimp only
  by_cases noCandidates : (record.callerMatches caller).isEmpty = true
  · rw [if_pos noCandidates]
    exact writesLast_unchanged .noMatchingCaller known
  · rw [if_neg noCandidates]
    have readsBody : Observes (some record.metadata) handle known
        (endState (Compiling.onBody handle.read known)) := by
      rw [Compiling.endState_onBody]
      exact .of_step (.readBody known) rfl
    apply WritesLast.bind readsBody
    intro bytes opened _
    have decodes : Observes (some record.metadata) handle opened
        (endState (Compiling.ofBody (MethodBody.decode bytes) opened)) := by
      rw [Compiling.endState_ofBody]
      exact .refl opened
    apply WritesLast.bind decodes
    intro body decoded _
    exact writesLast_tryReplacements caller _ body buffers decoded

end ModuleRecord

/-! ## Whole compilations -/

/-- The metadata of a module that has a record. -/
def Agent.metadata? (agent : Agent S) (moduleId : ModuleId) : Option (Metadata S) :=
  (agent.record? moduleId).map (·.metadata)

namespace Session

variable {metadata? : Option (Metadata S)} {handle : BodyHandle (Session S)}
  {session : Session S} {result : EStateM.Result Error (Session S) CompileOutcome}

theorem writesLast_sessionCompile (moduleId : ModuleId) (function : Token)
    (handle : BodyHandle (Session S)) (session : Session S) :
    WritesLast (session.agent.metadata? moduleId) handle session
      (Session.compile moduleId function handle session) := by
  unfold Agent.metadata?
  cases tracked : session.agent.record? moduleId with
  | none =>
    rw [compile_of_untracked tracked]
    exact writesLast_unchanged .moduleNotTracked session
  | some record =>
    rw [compile_of_tracked tracked]
    exact record.writesLast_compile function session

/-- A view that observing keeps changes only with a write. -/
theorem WritesLast.view_eq (view : Session S → α)
    (keeps : ∀ effect before after, effect.onlyObserves = true →
      Step metadata? handle effect before after → view after = view before)
    (writes : WritesLast metadata? handle session result) :
    (∀ reason final, result = .ok (.unchanged reason) final → view final = view session) ∧
      ∀ error final, result = .error error final → view final = view session ∨
        ∃ ready bytes refusal, handle.write bytes ready = .error refusal final ∧
          error = .host refusal := by
  obtain ⟨ready, last, observes, runs, ends⟩ := writes
  have kept : view ready = view session := observes.view_eq view keeps
  cases ends with
  | unchanged reason final =>
    cases runs
    refine ⟨?_, ?_⟩
    · intro _ _ same
      cases same
      exact kept
    · intro _ _ impossible
      cases impossible
  | failed error final =>
    cases runs
    refine ⟨?_, ?_⟩
    · intro _ _ impossible
      cases impossible
    · intro _ _ same
      cases same
      exact .inl kept
  | refused bytes refusal final =>
    refine ⟨?_, ?_⟩
    · intro _ _ impossible
      cases impossible
    · intro _ _ same
      cases same
      obtain ⟨⟩ | ⟨first, rest⟩ := runs
      obtain ⟨⟩ := rest
      cases first with
      | refusedWrite refused => exact .inr ⟨ready, bytes, refusal, refused, rfl⟩
  | committed bytes event index key callSites final =>
    refine ⟨?_, ?_⟩
    · intro _ _ impossible
      cases impossible
    · intro _ _ impossible
      cases impossible

theorem WritesLast.agent_eq (writes : WritesLast metadata? handle session result)
    (readKeeps : ∀ before, (endState (handle.read before)).agent = before.agent)
    (writeKeeps : ∀ bytes before, (endState (handle.write bytes before)).agent = before.agent) :
    (endState result).agent = session.agent := by
  obtain ⟨ready, last, ⟨effects, _, observing⟩, ending, _⟩ := writes
  have toReady : ready.agent = session.agent :=
    observing.view_eq Session.agent fun _ _ _ _ step => step.agent_eq readKeeps writeKeeps
  have toEnd : (endState result).agent = ready.agent :=
    ending.view_eq Session.agent fun _ _ _ _ step => step.agent_eq readKeeps writeKeeps
  exact toEnd.trans toReady

/-- The callback passes on the session behind a compilation, but for an event about its error. -/
theorem observes_onCompilationStarted (moduleId : ModuleId) (function : Token)
    (handle : BodyHandle (Session S)) (session : Session S) :
    Observes metadata? handle
      (if session.agent.isAttached then
        endState (Session.compile moduleId function handle session) else session)
      (onCompilationStarted moduleId function handle session).2 := by
  unfold onCompilationStarted
  by_cases attached : session.agent.isAttached = true
  · rw [if_pos attached, if_pos attached]
    cases Session.compile moduleId function handle session with
    | ok outcome final => exact .refl final
    | error error final => exact observes_log _ final
  · rw [if_neg attached, if_neg attached]
    exact .refl session

theorem status_onCompilationStarted (moduleId : ModuleId) (function : Token)
    (handle : BodyHandle (Session S)) (session : Session S) :
    (onCompilationStarted moduleId function handle session).1 = HResult.ok := by
  unfold onCompilationStarted
  by_cases attached : session.agent.isAttached = true
  · rw [if_pos attached]
    cases Session.compile moduleId function handle session with
    | ok outcome final => rfl
    | error error final => rfl
  · rw [if_neg attached]

/-- A compilation observes, and then it may write the body once, with nothing but a log event behind
a write that is taken. It defines no row, and it commits exactly if a write was taken. The agent
stays as it is unless the handle itself changes it. Without a write, whatever else was refused, the
bytes of the method are those before the compilation; and the host's callback always succeeds. -/
theorem compile_writes_once (moduleId : ModuleId) (function : Token)
    (handle : BodyHandle (Session S)) (session : Session S) :
    (∃ ready last,
      Observes (session.agent.metadata? moduleId) handle session ready ∧
      Runs (session.agent.metadata? moduleId) handle last ready
        (endState (Session.compile moduleId function handle session)) ∧
      EndsWith last (Session.compile moduleId function handle session) ∧
      ((∃ index key callSites final, Session.compile moduleId function handle session =
          .ok (.committed index key callSites) final) ↔
        ∃ bytes, .writeBody bytes ∈ last)) ∧
    ((∀ before, (endState (handle.read before)).agent = before.agent) →
      (∀ bytes before, (endState (handle.write bytes before)).agent = before.agent) →
      (endState (Session.compile moduleId function handle session)).agent = session.agent) ∧
    (∀ bytesOf : Session S → List UInt8,
      (∀ effect before after, effect.onlyObserves = true →
        Step (session.agent.metadata? moduleId) handle effect before after →
        bytesOf after = bytesOf before) →
      (∀ reason final, Session.compile moduleId function handle session =
        .ok (.unchanged reason) final → bytesOf final = bytesOf session) ∧
      ∀ error final, Session.compile moduleId function handle session = .error error final →
        bytesOf final = bytesOf session ∨
          ∃ ready bytes refusal, handle.write bytes ready = .error refusal final ∧
            error = .host refusal) ∧
    (onCompilationStarted moduleId function handle session).1 = HResult.ok ∧
    Observes (session.agent.metadata? moduleId) handle
      (if session.agent.isAttached then
        endState (Session.compile moduleId function handle session) else session)
      (onCompilationStarted moduleId function handle session).2 := by
  have writes := writesLast_sessionCompile moduleId function handle session
  refine ⟨?_, ?_, ?_, ?_, ?_⟩
  · obtain ⟨ready, last, observes, runs, ends⟩ := writes
    exact ⟨ready, last, observes, runs, ends, ends.committed_iff⟩
  · intro readKeeps writeKeeps
    exact writes.agent_eq readKeeps writeKeeps
  · intro bytesOf keeps
    exact writes.view_eq bytesOf keeps
  · exact status_onCompilationStarted moduleId function handle session
  · exact observes_onCompilationStarted moduleId function handle session

end Session

namespace OneMethod

/-- The host refuses to tell about the second of the two members that the method calls. -/
def refusingRecord : ModuleRecord (List UInt8) where
  moduleId := ⟨7⟩
  assembly := "App"
  metadata := { metadata with
    memberRef := fun token slot =>
      if token = ⟨0x0A000002⟩ then .error (.notFound "GetMemberRefProps" token) slot
      else metadata.memberRef token slot }
  replacements := [replacement "Run" "Start"]
  wrapperRefs := [(⟨"Start"⟩, ⟨0x0A000009⟩)]
  assemblyRefs := []
  typeRefs := []

def refusingSession : Session (List UInt8) where
  agent := ⟨⟨[], []⟩, [], (∅ : ModuleTable (List UInt8)).insert ⟨7⟩ refusingRecord, true⟩
  world := ⟨[0x2E, 0x28, 1, 0, 0, 0x0A, 0x28, 2, 0, 0, 0x0A, 0x2A], #[]⟩

theorem record?_refusingSession :
    refusingSession.agent.record? ⟨7⟩ = some refusingRecord := by
  simp [Agent.record?, refusingSession]

theorem compile_refusingSession :
    ∃ final, Session.compile ⟨7⟩ ⟨0x06000001⟩ handle refusingSession =
        .error (.host (.notFound "GetMemberRefProps" ⟨0x0A000002⟩)) final ∧
      final.world.events = #[.callRedirected 0 "Lib.Task" "Run" ⟨0x0A000009⟩] := by
  rw [Session.compile_of_tracked record?_refusingSession]
  exact ⟨_, rfl, rfl⟩

theorem bytes_eq_of_observation (effect : Effect) (before after : Session (List UInt8))
    (observing : effect.onlyObserves = true)
    (step : Session.Step (refusingSession.agent.metadata? ⟨7⟩) handle effect before after) :
    after.world.host = before.world.host := by
  cases step with
  | @metadata metadata known call held agent host events =>
    rw [Agent.metadata?, record?_refusingSession] at known
    cases known
    cases call with
    | memberRef token =>
      by_cases isSecond : token = ⟨0x0A000002⟩
      · simp [MetadataCall.hostAfter, refusingRecord, isSecond, endState]
      · simp [MetadataCall.hostAfter, refusingRecord, isSecond, endState, OneMethod.metadata]
    | methodDef token => rfl
    | typeRef token => rfl
    | typeDef token => rfl
    | defineAssemblyRef assembly => cases observing
    | defineTypeRef scope typeName => cases observing
    | defineMemberRef parent methodName signature => cases observing
  | log event => rfl
  | readBody => rfl
  | writeBody taken => cases observing
  | refusedWrite refused => cases observing

end OneMethod

/-- The first call is redirected in the decoded body before the second one is refused, and the bytes
of the method stay as they were. -/
theorem Session.compile_writes_once_refused :
    ∃ final,
      Session.compile ⟨7⟩ ⟨0x06000001⟩ OneMethod.handle OneMethod.refusingSession =
        .error (.host (.notFound "GetMemberRefProps" ⟨0x0A000002⟩)) final ∧
      final.world.events = #[.callRedirected 0 "Lib.Task" "Run" ⟨0x0A000009⟩] ∧
      final.agent = OneMethod.refusingSession.agent ∧
      final.world.host = OneMethod.refusingSession.world.host ∧
      (onCompilationStarted ⟨7⟩ ⟨0x06000001⟩ OneMethod.handle OneMethod.refusingSession).1 =
        HResult.ok := by
  obtain ⟨_, agentStays, bytesStay, status, _⟩ := Session.compile_writes_once ⟨7⟩ ⟨0x06000001⟩
    OneMethod.handle OneMethod.refusingSession
  obtain ⟨final, refused, redirected⟩ := OneMethod.compile_refusingSession
  have sameAgent := agentStays (fun _ => rfl) fun _ _ => rfl
  rw [refused] at sameAgent
  have unwritten := (bytesStay (·.world.host) OneMethod.bytes_eq_of_observation).2 _ final refused
  rcases unwritten with sameBytes | refusedWrite
  · exact ⟨final, refused, redirected, sameAgent, sameBytes, status⟩
  · obtain ⟨ready, bytes, refusal, impossible, _⟩ := refusedWrite
    cases impossible

end Detour
