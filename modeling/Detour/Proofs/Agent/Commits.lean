import Detour.Agent.Compile
import Detour.Proofs.CallSite.Passes
import Detour.Proofs.Sequencing

/-!
# Committed compilations

A compilation tries replacements one after the other. Each try skips its replacement, is refused,
finds nothing and leaves the body as it is, or commits. A compilation that commits has read the body
once, and what it writes is the decoded body with the calls of one replacement redirected.
-/

namespace Detour

open Detour.Body
open Detour.CallSite
open Detour.Host
open Detour.Rule

variable {S α : Type}

/-! ## Steps -/

namespace Compiling

theorem onBody_eq_ok_iff {call : EStateM Refusal (Session S) α} {value : α}
    {session after : Session S} :
    onBody call session = .ok value after ↔ call session = .ok value after := by
  unfold onBody EStateM.adaptExcept
  cases call session with
  | error refusal middle => simp
  | ok result middle => simp

theorem onBody_of_refused {call : EStateM Refusal (Session S) α} {refusal : Refusal}
    {session after : Session S} (refused : call session = .error refusal after) :
    onBody call session = .error (.host refusal) after := by
  rw [onBody, EStateM.adaptExcept, refused]

theorem ofBody_eq_ok_iff {outcome : Except BodyError α} {value : α} {session after : Session S} :
    ofBody outcome session = .ok value after ↔ outcome = .ok value ∧ session = after := by
  cases outcome with
  | error fault =>
    constructor
    · intro impossible
      cases impossible
    · intro impossible
      cases impossible.1
  | ok result =>
    rw [Except.ok.injEq]
    exact EStateM.pure_eq_ok_iff

variable {metadata : Metadata S} {target : MethodPattern} {wrapperRef : Token} {body : MethodBody}
  {buffers : HeldNames} {session : Session S} {changed : List Instruction} {after : Scan S}

theorem redirect_of_refused {refusal : Refusal}
    (passed : redirectCalls metadata target wrapperRef body.instructions ⟨buffers, session.world⟩ =
      ⟨.error refusal, changed, after⟩) :
    redirect metadata target wrapperRef body buffers session =
      .error (.host refusal) { session with world := after.world } := by
  rw [redirect, passed]

theorem redirect_of_counted {callSites : Nat}
    (passed : redirectCalls metadata target wrapperRef body.instructions ⟨buffers, session.world⟩ =
      ⟨.ok callSites, changed, after⟩) :
    redirect metadata target wrapperRef body buffers session =
      .ok (callSites, { body with instructions := changed }, after.buffers)
        { session with world := after.world } := by
  rw [redirect, passed]

end Compiling

namespace ModuleRecord

variable {record : ModuleRecord S} {caller : MethodIdentity} {handle : BodyHandle (Session S)}
  {replacement : Replacement} {index : Nat} {rest : List (Replacement × Nat)} {body : MethodBody}
  {buffers : HeldNames} {session : Session S} {wrapperRef : Token} {changed : List Instruction}
  {after : Scan S}

/-! ## One try -/

/-- Writes a changed body. -/
def commit (record : ModuleRecord S) (caller : MethodIdentity) (handle : BodyHandle (Session S))
    (index : Nat) (key : WrapperKey) (callSites : Nat) (body : MethodBody) :
    Compiling S CompileOutcome := do
  let bytes ← Compiling.ofBody body.encode
  Compiling.onBody (handle.write bytes)
  Compiling.log (.methodChanged record.moduleId caller.typeName caller.methodName key callSites)
  return .committed index key callSites

theorem commit_eq_ok_iff {key : WrapperKey} {callSites : Nat} {outcome : CompileOutcome}
    {final : Session S} :
    record.commit caller handle index key callSites body session = .ok outcome final ↔
      ∃ bytes written, body.encode = .ok bytes ∧ handle.write bytes session = .ok () written ∧
        .committed index key callSites = outcome ∧
        written.log (.methodChanged record.moduleId caller.typeName caller.methodName key
          callSites) = final := by
  rw [commit, EStateM.bind_eq_ok_iff]
  constructor
  · intro committed
    obtain ⟨bytes, _, encodes, behindEncode⟩ := committed
    obtain ⟨encoded, rfl⟩ := Compiling.ofBody_eq_ok_iff.mp encodes
    obtain ⟨_, written, wrote, behindWrite⟩ := EStateM.bind_eq_ok_iff.mp behindEncode
    obtain ⟨_, _, logged, returned⟩ := EStateM.bind_eq_ok_iff.mp behindWrite
    cases logged
    obtain ⟨sameOutcome, sameFinal⟩ := EStateM.pure_eq_ok_iff.mp returned
    exact ⟨bytes, written, encoded, Compiling.onBody_eq_ok_iff.mp wrote, sameOutcome, sameFinal⟩
  · intro described
    obtain ⟨bytes, written, encoded, wrote, rfl, rfl⟩ := described
    refine ⟨bytes, session, Compiling.ofBody_eq_ok_iff.mpr ⟨encoded, rfl⟩, ?_⟩
    rw [EStateM.bind_of_ok (Compiling.onBody_eq_ok_iff.mpr wrote)]
    rfl

theorem commit_of_taken {key : WrapperKey} {callSites : Nat} {bytes : List UInt8}
    {written : Session S} (encoded : body.encode = .ok bytes)
    (taken : handle.write bytes session = .ok () written) :
    record.commit caller handle index key callSites body session =
      .ok (.committed index key callSites)
        (written.log (.methodChanged record.moduleId caller.typeName caller.methodName key
          callSites)) :=
  commit_eq_ok_iff.mpr ⟨bytes, written, encoded, taken, rfl, rfl⟩

theorem commit_of_refused {key : WrapperKey} {callSites : Nat} {bytes : List UInt8}
    {refusal : Refusal} {left : Session S} (encoded : body.encode = .ok bytes)
    (refused : handle.write bytes session = .error refusal left) :
    record.commit caller handle index key callSites body session =
      .error (.host refusal) left := by
  have encodes : Compiling.ofBody body.encode session = .ok bytes session :=
    Compiling.ofBody_eq_ok_iff.mpr ⟨encoded, rfl⟩
  rw [commit, EStateM.bind_of_ok encodes,
    EStateM.bind_of_error (Compiling.onBody_of_refused refused)]

theorem tryReplacements_of_noReference
    (noReference : record.wrapperRef? replacement.wrapper = none) :
    record.tryReplacements caller handle ((replacement, index) :: rest) body buffers session =
      record.tryReplacements caller handle rest body buffers
        (session.log (.replacementSkipped record.moduleId replacement.wrapper.key)) := by
  rw [tryReplacements]
  dsimp only
  rw [noReference]
  rfl

theorem tryReplacements_of_reference
    (reference : record.wrapperRef? replacement.wrapper = some wrapperRef) :
    record.tryReplacements caller handle ((replacement, index) :: rest) body buffers =
      Compiling.redirect record.metadata replacement.target wrapperRef body buffers >>=
        fun (callSites, body, buffers) =>
          if callSites = 0 then
            record.tryReplacements caller handle rest body buffers
          else
            record.commit caller handle index replacement.wrapper.key callSites body := by
  rw [tryReplacements]
  dsimp only
  rw [reference]
  rfl

theorem tryReplacements_of_refused {refusal : Refusal}
    (reference : record.wrapperRef? replacement.wrapper = some wrapperRef)
    (passed : redirectCalls record.metadata replacement.target wrapperRef body.instructions
      ⟨buffers, session.world⟩ = ⟨.error refusal, changed, after⟩) :
    record.tryReplacements caller handle ((replacement, index) :: rest) body buffers session =
      .error (.host refusal) { session with world := after.world } := by
  rw [tryReplacements_of_reference reference]
  exact EStateM.bind_of_error (Compiling.redirect_of_refused passed) _

/-- A pass without a hit hands the body on as it was. -/
theorem tryReplacements_of_noHit
    (reference : record.wrapperRef? replacement.wrapper = some wrapperRef)
    (passed : redirectCalls record.metadata replacement.target wrapperRef body.instructions
      ⟨buffers, session.world⟩ = ⟨.ok 0, changed, after⟩) :
    record.tryReplacements caller handle ((replacement, index) :: rest) body buffers session =
      record.tryReplacements caller handle rest body after.buffers
        { session with world := after.world } := by
  have noHit := instructions_redirectCalls_of_zero (congrArg Pass.result passed)
  rw [passed] at noHit
  rw [tryReplacements_of_reference reference,
    EStateM.bind_of_ok (Compiling.redirect_of_counted passed)]
  dsimp only at noHit ⊢
  rw [if_pos rfl, noHit]

theorem tryReplacements_of_hit {callSites : Nat}
    (reference : record.wrapperRef? replacement.wrapper = some wrapperRef)
    (passed : redirectCalls record.metadata replacement.target wrapperRef body.instructions
      ⟨buffers, session.world⟩ = ⟨.ok (callSites + 1), changed, after⟩) :
    record.tryReplacements caller handle ((replacement, index) :: rest) body buffers session =
      record.commit caller handle index replacement.wrapper.key (callSites + 1)
        { body with instructions := changed } { session with world := after.world } := by
  rw [tryReplacements_of_reference reference,
    EStateM.bind_of_ok (Compiling.redirect_of_counted passed)]
  dsimp only
  rw [if_neg (Nat.succ_ne_zero callSites)]

/-! ## The committed try -/

variable {kept : S → Prop} {key : WrapperKey} {callSites : Nat} {final : Session S}
  {candidates : List (Replacement × Nat)}

/-- The replacement has no reference, or a pass for it over a kept host counts no call. -/
def Misses (record : ModuleRecord S) (kept : S → Prop) (body : MethodBody)
    (replacement : Replacement) : Prop :=
  ∀ wrapperRef, record.wrapperRef? replacement.wrapper = some wrapperRef →
    ∃ scan : Scan S, kept scan.world.host ∧
      (redirectCalls record.metadata replacement.target wrapperRef body.instructions scan).result =
        .ok 0

/-- A pass for the replacement over a kept host counts `callSites` calls, and `changed` is what it
makes of the body. -/
def Hits (record : ModuleRecord S) (kept : S → Prop) (body : MethodBody)
    (replacement : Replacement) (callSites : Nat) (changed : List UInt8) : Prop :=
  ∃ (wrapperRef : Token) (scan : Scan S) (instructions : List Instruction) (after : Scan S),
    record.wrapperRef? replacement.wrapper = some wrapperRef ∧ kept scan.world.host ∧
      redirectCalls record.metadata replacement.target wrapperRef body.instructions scan =
        ⟨.ok callSites, instructions, after⟩ ∧
      0 < callSites ∧ MethodBody.encode { body with instructions } = .ok changed

/-- The last effects of a compilation that commits. -/
def Writes (record : ModuleRecord S) (caller : MethodIdentity) (handle : BodyHandle (Session S))
    (agent : Agent S) (key : WrapperKey) (callSites : Nat) (changed : List UInt8)
    (final : Session S) : Prop :=
  ∃ world written, handle.write changed ⟨agent, world⟩ = .ok () written ∧
    written.log (.methodChanged record.moduleId caller.typeName caller.methodName key callSites) =
      final

/-- Tries that commit the replacement at `index`, after all the ones before it have missed. -/
def Commits (record : ModuleRecord S) (kept : S → Prop) (caller : MethodIdentity)
    (handle : BodyHandle (Session S)) (body : MethodBody) (agent : Agent S) (index : Nat)
    (key : WrapperKey) (callSites : Nat) (final : Session S)
    (candidates : List (Replacement × Nat)) : Prop :=
  ∃ earlier replacement later changed,
    candidates = earlier ++ (replacement, index) :: later ∧
      (∀ candidate ∈ earlier, record.Misses kept body candidate.1) ∧
      record.Hits kept body replacement callSites changed ∧ replacement.wrapper.key = key ∧
      record.Writes caller handle agent key callSites changed final

theorem Commits.cons {agent : Agent S} {candidate : Replacement × Nat}
    (missed : record.Misses kept body candidate.1)
    (commits : record.Commits kept caller handle body agent index key callSites final candidates) :
    record.Commits kept caller handle body agent index key callSites final
      (candidate :: candidates) := by
  obtain ⟨earlier, replacement, later, changed, rfl, misses, committed⟩ := commits
  refine ⟨candidate :: earlier, replacement, later, changed, rfl, ?_, committed⟩
  intro tried member
  rcases List.mem_cons.mp member with same | before
  · rw [same]
    exact missed
  · exact misses tried before

/-- Everything that the first try can do on the way to a commit: it misses and leaves the commit to
the others, or it commits itself. -/
theorem misses_or_hits_of_tryReplacements {place : Nat}
    (keeps : ∀ target wrapperRef (scan : Scan S), kept scan.world.host →
      kept (redirectCalls record.metadata target wrapperRef body.instructions scan).scan.world.host)
    (inside : kept session.world.host)
    (committed :
      record.tryReplacements caller handle ((replacement, place) :: rest) body buffers session =
        .ok (.committed index key callSites) final) :
    (record.Misses kept body replacement ∧ ∃ left world, kept world.host ∧
        record.tryReplacements caller handle rest body left { session with world } =
          .ok (.committed index key callSites) final) ∨
      place = index ∧ replacement.wrapper.key = key ∧ ∃ changed,
        record.Hits kept body replacement callSites changed ∧
          record.Writes caller handle session.agent key callSites changed final := by
  cases reference : record.wrapperRef? replacement.wrapper with
  | none =>
    rw [tryReplacements_of_noReference reference] at committed
    refine .inl ⟨?_, buffers, session.world.log _, inside, committed⟩
    intro wrapperRef found
    rw [reference] at found
    cases found
  | some wrapperRef =>
    have keptAfter := keeps replacement.target wrapperRef ⟨buffers, session.world⟩ inside
    cases passed : redirectCalls record.metadata replacement.target wrapperRef body.instructions
        ⟨buffers, session.world⟩ with
    | mk result instructions after =>
      rw [passed] at keptAfter
      cases result with
      | error refusal =>
        rw [tryReplacements_of_refused reference passed] at committed
        cases committed
      | ok counted =>
        cases counted with
        | zero =>
          rw [tryReplacements_of_noHit reference passed] at committed
          refine .inl ⟨?_, after.buffers, after.world, keptAfter, committed⟩
          intro wrapperRef found
          cases reference.symm.trans found
          exact ⟨_, inside, congrArg Pass.result passed⟩
        | succ counted =>
          rw [tryReplacements_of_hit reference passed] at committed
          obtain ⟨changed, written, encoded, wrote, same, logged⟩ := commit_eq_ok_iff.mp committed
          cases same
          have hits : record.Hits kept body replacement (counted + 1) changed :=
            ⟨wrapperRef, _, instructions, after, reference, inside, passed,
              Nat.succ_pos counted, encoded⟩
          exact .inr ⟨rfl, rfl, changed, hits, after.world, written, wrote, logged⟩

/-- If passes keep a property of the host, then all the tries up to a commit see it. -/
theorem commits_of_tryReplacements (kept : S → Prop)
    (keeps : ∀ target wrapperRef (scan : Scan S), kept scan.world.host →
      kept (redirectCalls record.metadata target wrapperRef body.instructions scan).scan.world.host)
    (inside : kept session.world.host)
    (committed : record.tryReplacements caller handle candidates body buffers session =
      .ok (.committed index key callSites) final) :
    record.Commits kept caller handle body session.agent index key callSites final candidates := by
  induction candidates generalizing buffers session with
  | nil =>
    rw [tryReplacements] at committed
    cases (EStateM.pure_eq_ok_iff.mp committed).1
  | cons candidate rest ih =>
    obtain ⟨replacement, place⟩ := candidate
    rcases misses_or_hits_of_tryReplacements keeps inside committed with missed | hit
    · obtain ⟨missed, left, world, insideRest, committedRest⟩ := missed
      have commits := ih (by exact insideRest) committedRest
      exact Commits.cons missed commits
    · obtain ⟨rfl, sameKey, changed, hits, writes⟩ := hit
      refine ⟨[], replacement, rest, changed, rfl, ?_, hits, sameKey, writes⟩
      intro tried member
      cases member

/-! ## The committed compilation -/

/-- A compilation up to its first try: the caller is known, and the body was read once. -/
structure Opens (record : ModuleRecord S) (function : Token) (handle : BodyHandle (Session S))
    (session : Session S) (caller : MethodIdentity) (buffers : HeldNames) (original : List UInt8)
    (body : MethodBody) (opened : Session S) : Prop where
  read : ∃ before,
    Compiling.onScan HeldNames.empty (identify record.metadata function) session =
      .ok (caller, buffers) before ∧ handle.read before = .ok original opened
  decoded : MethodBody.decode original = .ok body

theorem opens_of_compile {function : Token}
    (committed : record.compile function handle session =
      .ok (.committed index key callSites) final) :
    ∃ caller buffers original body opened,
      record.Opens function handle session caller buffers original body opened ∧
      record.tryReplacements caller handle (record.callerMatches caller) body buffers opened =
        .ok (.committed index key callSites) final := by
  obtain ⟨⟨caller, buffers⟩, before, identified, behindIdentify⟩ :=
    EStateM.bind_eq_ok_iff.mp committed
  dsimp only at behindIdentify
  by_cases noCandidates : (record.callerMatches caller).isEmpty = true
  · rw [if_pos noCandidates] at behindIdentify
    cases (EStateM.pure_eq_ok_iff.mp behindIdentify).1
  · rw [if_neg noCandidates] at behindIdentify
    obtain ⟨original, opened, reads, behindRead⟩ := EStateM.bind_eq_ok_iff.mp behindIdentify
    obtain ⟨body, _, decodes, tried⟩ := EStateM.bind_eq_ok_iff.mp behindRead
    obtain ⟨decoded, rfl⟩ := Compiling.ofBody_eq_ok_iff.mp decodes
    exact ⟨caller, buffers, original, body, opened,
      ⟨⟨before, identified, Compiling.onBody_eq_ok_iff.mp reads⟩, decoded⟩, tried⟩

/-- What a hit makes of a decoded body is a redirection of the calls that it counts, to the
reference of its wrapper. -/
theorem Hits.exists_redirection {original written : List UInt8}
    (decoded : MethodBody.decode original = .ok body)
    (hits : record.Hits kept body replacement callSites written) :
    ∃ positions wrapperRef, record.wrapperRef? replacement.wrapper = some wrapperRef ∧
      positions.Pairwise (· < ·) ∧ positions.length = callSites ∧
      MethodBody.Redirection positions (fun _ => wrapperRef) body original written := by
  obtain ⟨wrapperRef, scan, instructions, after, reference, _, passed, _, encoded⟩ := hits
  obtain ⟨positions, redirected, ascending, counts⟩ := callsRedirected_redirectCalls
    record.metadata replacement.target wrapperRef body.instructions scan
  rw [passed] at redirected counts
  obtain ⟨changed, changedEncoded, redirection⟩ :=
    MethodBody.exists_redirection decoded redirected
  cases encoded.symm.trans changedEncoded
  exact ⟨positions, wrapperRef, reference, ascending, counts callSites rfl, redirection⟩

/-- The bytes that a compilation commits are a redirection of the bytes that it read. -/
theorem exists_redirection_of_compile {function : Token}
    (committed : record.compile function handle session =
      .ok (.committed index key callSites) final) :
    ∃ caller buffers original body opened changed positions wrapperRef,
      record.Opens function handle session caller buffers original body opened ∧
      record.wrapperRefs.lookup key = some wrapperRef ∧
      positions.Pairwise (· < ·) ∧ positions.length = callSites ∧
      MethodBody.Redirection positions (fun _ => wrapperRef) body original changed ∧
      record.Writes caller handle opened.agent key callSites changed final := by
  obtain ⟨caller, buffers, original, body, opened, opens, tried⟩ := opens_of_compile committed
  have noCondition : ∀ (target : MethodPattern) (wrapperRef : Token) (scan : Scan S),
      True → True := fun _ _ _ _ => trivial
  obtain ⟨_, replacement, _, changed, _, _, hits, rfl, writes⟩ :=
    commits_of_tryReplacements (fun _ => True) noCondition trivial tried
  obtain ⟨positions, wrapperRef, reference, ascending, counts, redirection⟩ :=
    hits.exists_redirection opens.decoded
  exact ⟨caller, buffers, original, body, opened, changed, positions, wrapperRef, opens, reference,
    ascending, counts, redirection, writes⟩

end ModuleRecord

namespace Session

variable {session final : Session S} {moduleId : ModuleId} {record : ModuleRecord S}
  {function : Token} {handle : BodyHandle (Session S)} {index callSites : Nat} {key : WrapperKey}

theorem compile_of_tracked (tracked : session.agent.record? moduleId = some record) :
    Session.compile moduleId function handle session = record.compile function handle session := by
  have found : (get : Compiling S (Session S)) session = .ok session session := rfl
  unfold Session.compile
  refine (EStateM.bind_of_ok found _).trans ?_
  rw [tracked]

theorem compile_of_untracked (untracked : session.agent.record? moduleId = none) :
    Session.compile moduleId function handle session =
      .ok (.unchanged .moduleNotTracked) session := by
  have found : (get : Compiling S (Session S)) session = .ok session session := rfl
  unfold Session.compile
  refine (EStateM.bind_of_ok found _).trans ?_
  rw [untracked]
  rfl

theorem exists_record_of_compile
    (committed : Session.compile moduleId function handle session =
      .ok (.committed index key callSites) final) :
    ∃ record, session.agent.record? moduleId = some record ∧
      record.compile function handle session = .ok (.committed index key callSites) final := by
  cases tracked : session.agent.record? moduleId with
  | none =>
    rw [compile_of_untracked tracked] at committed
    cases committed
  | some record =>
    rw [compile_of_tracked tracked] at committed
    exact ⟨record, rfl, committed⟩

end Session

/-- Redirecting calls moves nothing. For the bytes of any body and any of its calls, the redirected
body can be encoded, and its bytes are the original ones but for the five bytes of each redirected
call. The bytes that a compilation commits are such a redirection of the bytes it read, of as many
calls as it reports, to the reference that its module holds for the reported wrapper. -/
theorem redirects_in_place :
    (∀ (bytes : List UInt8) (body : MethodBody) (positions : List Nat) (targets : Nat → Token),
      MethodBody.decode bytes = .ok body →
      (∀ position ∈ positions, ∃ instruction operand,
        body.instructions[position]? = some instruction ∧ instruction.callee? = some operand) →
      ∃ changed, (body.redirectEach positions targets).encode = .ok changed ∧
        MethodBody.Redirection positions targets body bytes changed) ∧
    ∀ (S : Type) (moduleId : ModuleId) (function : Token) (handle : BodyHandle (Session S))
      (session final : Session S) (index : Nat) (key : WrapperKey) (callSites : Nat),
      Session.compile moduleId function handle session =
        .ok (.committed index key callSites) final →
      ∃ record caller buffers original body opened changed positions wrapperRef,
        session.agent.record? moduleId = some record ∧
        record.Opens function handle session caller buffers original body opened ∧
        record.wrapperRefs.lookup key = some wrapperRef ∧
        positions.Pairwise (· < ·) ∧ positions.length = callSites ∧
        MethodBody.Redirection positions (fun _ => wrapperRef) body original changed ∧
        record.Writes caller handle opened.agent key callSites changed final := by
  constructor
  · intro bytes body positions targets decoded areCalls
    rw [MethodBody.redirectEach_eq]
    exact MethodBody.exists_redirection decoded (MethodBody.callsRedirected_redirectEach areCalls)
  · intro S moduleId function handle session final index key callSites committed
    obtain ⟨record, tracked, compiled⟩ := Session.exists_record_of_compile committed
    obtain ⟨caller, buffers, original, body, opened, changed, positions, wrapperRef, committing⟩ :=
      ModuleRecord.exists_redirection_of_compile compiled
    exact ⟨record, caller, buffers, original, body, opened, changed, positions, wrapperRef, tracked,
      committing⟩

/-! A host that keeps the bytes of one method, `Main` of `App`, and does nothing else. All members
that its module refers to are the method `Run` of `Lib.Task`. -/

namespace OneMethod

def metadata : Metadata (List UInt8) :=
  { Metadata.refusing with
    memberRef := fun _ slot => .ok ⟨0x01000001⟩ ⟨"Run", slot.host⟩
    methodDef := fun _ slot => .ok ⟨0x02000002⟩ ⟨"Main", slot.host⟩
    typeRef := fun _ slot => .ok () ⟨"Lib.Task", slot.host⟩
    typeDef := fun _ slot => .ok () ⟨"App", slot.host⟩ }

/-- Calls of a method go to a wrapper of another name. -/
def replacement (target wrapper : String) : Replacement where
  caller := .any
  target := ⟨none, none, target⟩
  wrapper := ⟨⟨"Wrap", ⟨1, 0, 0, 0⟩, "", none⟩, "Wrap.Task", wrapper, [0], ⟨wrapper⟩⟩

/-- The first replacement has no reference, the second finds no call, and the third redirects. -/
def record : ModuleRecord (List UInt8) where
  moduleId := ⟨7⟩
  assembly := "App"
  metadata := metadata
  replacements :=
    [replacement "Run" "RunOnce", replacement "Stop" "Halt", replacement "Run" "Start"]
  wrapperRefs := [(⟨"Start"⟩, ⟨0x0A000009⟩), (⟨"Halt"⟩, ⟨0x0A000008⟩)]
  assemblyRefs := []
  typeRefs := []

def handle : BodyHandle (Session (List UInt8)) where
  read session := .ok session.world.host session
  write bytes session := .ok () { session with world.host := bytes }

/-- The method calls `Run` and returns. -/
def session : Session (List UInt8) where
  agent := ⟨⟨[], []⟩, [], (∅ : ModuleTable (List UInt8)).insert ⟨7⟩ record, true⟩
  world := ⟨[0x1A, 0x28, 1, 0, 0, 0x0A, 0x2A], #[]⟩

theorem record?_session : session.agent.record? ⟨7⟩ = some record := by
  simp [Agent.record?, session]

/-- The call now names the reference of `Start`, and the other bytes stay. -/
theorem compile_session :
    ∃ final, Session.compile ⟨7⟩ ⟨0x06000001⟩ handle session =
        .ok (.committed 2 ⟨"Start"⟩ 1) final ∧
      final.world.host = [0x1A, 0x28, 9, 0, 0, 0x0A, 0x2A] := by
  rw [Session.compile_of_tracked record?_session]
  exact ⟨_, rfl, rfl⟩

end OneMethod

theorem redirects_in_place_sample :
    (∃ changed,
      (MethodBody.mixedBody.redirectEach [3] fun _ => ⟨0x0A000009⟩).encode = .ok changed ∧
      MethodBody.Redirection [3] (fun _ => ⟨0x0A000009⟩) MethodBody.mixedBody MethodBody.mixedBytes
        changed) ∧
    ∃ final record caller buffers original body opened changed positions wrapperRef,
      Session.compile ⟨7⟩ ⟨0x06000001⟩ OneMethod.handle OneMethod.session =
        .ok (.committed 2 ⟨"Start"⟩ 1) final ∧
      OneMethod.session.agent.record? ⟨7⟩ = some record ∧
      record.Opens ⟨0x06000001⟩ OneMethod.handle OneMethod.session caller buffers original body
        opened ∧
      record.wrapperRefs.lookup ⟨"Start"⟩ = some wrapperRef ∧
      positions.Pairwise (· < ·) ∧ positions.length = 1 ∧
      MethodBody.Redirection positions (fun _ => wrapperRef) body original changed ∧
      record.Writes caller OneMethod.handle opened.agent ⟨"Start"⟩ 1 changed final := by
  constructor
  · apply redirects_in_place.1 _ _ _ _ rfl
    intro position member
    cases List.mem_singleton.mp member
    exact ⟨_, _, rfl, rfl⟩
  · obtain ⟨final, committed, _⟩ := OneMethod.compile_session
    obtain ⟨record, caller, buffers, original, body, opened, changed, positions, wrapperRef,
      committing⟩ := redirects_in_place.2 _ _ _ _ _ _ _ _ _ committed
    exact ⟨final, record, caller, buffers, original, body, opened, changed, positions, wrapperRef,
      committed, committing⟩

end Detour
