import Detour.Proofs.Agent.Commits
import Detour.Proofs.CallSite.Callees

/-!
# Targets of committed compilations

The calls that a compilation redirects are those whose callees have the type and the name of the
target, as the committing pass resolves them. A target that states an assembly matches them as a
pattern only if it admits the assembly of the module: the compilation redirects them all the same.
-/

namespace Detour

open Detour.Body
open Detour.CallSite
open Detour.Host
open Detour.Rule

variable {S : Type}

namespace ModuleRecord

/-- The scan behind the tries of replacements that have no reference or find no call. -/
def passOver (record : ModuleRecord S) (body : MethodBody) :
    List (Replacement × Nat) → Scan S → Scan S
  | [], scan => scan
  | (replacement, _) :: rest, scan =>
    match record.wrapperRef? replacement.wrapper with
    | none =>
      let event := Event.replacementSkipped record.moduleId replacement.wrapper.key
      record.passOver body rest (scan.log event)
    | some wrapperRef =>
      let pass :=
        redirectCalls record.metadata replacement.target wrapperRef body.instructions scan
      record.passOver body rest pass.scan

variable {record : ModuleRecord S} {caller : MethodIdentity} {handle : BodyHandle (Session S)}
  {replacement : Replacement} {index : Nat} {rest candidates : List (Replacement × Nat)}
  {body : MethodBody} {buffers : HeldNames} {session final : Session S} {wrapperRef : Token}
  {key : WrapperKey} {callSites : Nat} {scan : Scan S}

theorem passOver_cons_of_noReference
    (noReference : record.wrapperRef? replacement.wrapper = none) :
    record.passOver body ((replacement, index) :: rest) scan =
      record.passOver body rest
        (scan.log (.replacementSkipped record.moduleId replacement.wrapper.key)) := by
  rw [passOver, noReference]

theorem passOver_cons_of_reference
    (reference : record.wrapperRef? replacement.wrapper = some wrapperRef) :
    record.passOver body ((replacement, index) :: rest) scan =
      record.passOver body rest (redirectCalls record.metadata replacement.target wrapperRef
        body.instructions scan).scan := by
  rw [passOver, reference]

/-- The try that commits: its pass begins behind those of the `earlier` replacements, and its
changed body is the one that is written. -/
structure LastTry (record : ModuleRecord S) (caller : MethodIdentity)
    (handle : BodyHandle (Session S)) (body : MethodBody) (first : Scan S) (agent : Agent S)
    (earlier : List (Replacement × Nat)) (replacement : Replacement) (wrapperRef : Token)
    (callSites : Nat) (changed : List UInt8) (final : Session S) : Prop where
  reference : record.wrapperRef? replacement.wrapper = some wrapperRef
  passes : ∃ instructions after,
    redirectCalls record.metadata replacement.target wrapperRef body.instructions
      (record.passOver body earlier first) = ⟨.ok callSites, instructions, after⟩ ∧
    MethodBody.encode { body with instructions } = .ok changed
  writes : record.Writes caller handle agent replacement.wrapper.key callSites changed final

/-- Tries that commit end with the try of the replacement that they commit. -/
theorem exists_lastTry
    (committed : record.tryReplacements caller handle candidates body buffers session =
      .ok (.committed index key callSites) final) :
    ∃ earlier replacement later wrapperRef changed,
      candidates = earlier ++ (replacement, index) :: later ∧ replacement.wrapper.key = key ∧
      record.LastTry caller handle body ⟨buffers, session.world⟩ session.agent earlier replacement
        wrapperRef callSites changed final := by
  induction candidates generalizing buffers session with
  | nil =>
    rw [tryReplacements] at committed
    cases (EStateM.pure_eq_ok_iff.mp committed).1
  | cons candidate rest ih =>
    obtain ⟨first, place⟩ := candidate
    -- A first replacement that misses takes its place in front of the earlier ones.
    have behindFirst : ∀ {left : HeldNames} {world : World S},
        (∀ earlier, record.passOver body ((first, place) :: earlier) ⟨buffers, session.world⟩ =
          record.passOver body earlier ⟨left, world⟩) →
        record.tryReplacements caller handle rest body left { session with world } =
          .ok (.committed index key callSites) final →
        ∃ earlier replacement later wrapperRef changed,
          (first, place) :: rest = earlier ++ (replacement, index) :: later ∧
          replacement.wrapper.key = key ∧
          record.LastTry caller handle body ⟨buffers, session.world⟩ session.agent earlier
            replacement wrapperRef callSites changed final := by
      intro left world passes committedRest
      obtain ⟨earlier, replacement, later, wrapperRef, changed, rfl, sameKey, reference,
        ⟨instructions, after, passed, encoded⟩, writes⟩ := ih committedRest
      refine ⟨(first, place) :: earlier, replacement, later, wrapperRef, changed, rfl, sameKey,
        reference, ⟨instructions, after, ?_, encoded⟩, writes⟩
      rw [passes]
      exact passed
    cases reference : record.wrapperRef? first.wrapper with
    | none =>
      rw [tryReplacements_of_noReference reference] at committed
      exact behindFirst (fun earlier => passOver_cons_of_noReference reference) committed
    | some wrapperRef =>
      cases passed : redirectCalls record.metadata first.target wrapperRef body.instructions
          ⟨buffers, session.world⟩ with
      | mk result instructions after =>
        cases result with
        | error refusal =>
          rw [tryReplacements_of_refused reference passed] at committed
          cases committed
        | ok counted =>
          cases counted with
          | zero =>
            rw [tryReplacements_of_noHit reference passed] at committed
            apply behindFirst _ committed
            intro earlier
            rw [passOver_cons_of_reference reference, passed]
          | succ counted =>
            rw [tryReplacements_of_hit reference passed] at committed
            obtain ⟨changed, written, encoded, wrote, same, logged⟩ :=
              commit_eq_ok_iff.mp committed
            cases same
            exact ⟨[], first, rest, wrapperRef, changed, rfl, rfl, reference,
              ⟨instructions, after, passed, encoded⟩, after.world, written, wrote, logged⟩

/-- The positions are those of the calls whose callees have the type and the name of the target, as
a pass of the replacement from the scan resolves them. Each of them matches the whole target exactly
if the target admits the assembly of the module. -/
structure Targets (record : ModuleRecord S) (replacement : Replacement) (wrapperRef : Token)
    (instructions : List Instruction) (scan : Scan S) (positions : List Nat) : Prop where
  mem_iff : ∀ position, position ∈ positions ↔
    ∃ callee,
      CalleeAt record.metadata replacement.target wrapperRef instructions scan position callee ∧
      replacement.target.matchesNames callee.typeName callee.methodName = true
  matchesMethod_iff : ∀ position ∈ positions, ∀ callee,
    CalleeAt record.metadata replacement.target wrapperRef instructions scan position callee →
    (replacement.target.matchesMethod record.assembly callee.typeName callee.methodName = true ↔
      replacement.target.matchesAssembly record.assembly = true)

theorem LastTry.exists_targets {original changed : List UInt8} {agent : Agent S}
    {earlier : List (Replacement × Nat)} (decoded : MethodBody.decode original = .ok body)
    (lastTry : record.LastTry caller handle body scan agent earlier replacement wrapperRef callSites
      changed final) :
    ∃ redirected positions, MethodBody.decode changed = .ok redirected ∧
      CallsRedirected positions (fun _ => wrapperRef) body.instructions redirected.instructions ∧
      positions.length = callSites ∧
      record.Targets replacement wrapperRef body.instructions (record.passOver body earlier scan)
        positions := by
  obtain ⟨instructions, after, passed, encoded⟩ := lastTry.passes
  obtain ⟨positions, calls, counts, areTargets⟩ :=
    redirectCalls_targets (congrArg Pass.result passed)
  rw [passed] at calls
  obtain ⟨written, writtenEncoded, redirection⟩ := MethodBody.exists_redirection decoded calls
  cases encoded.symm.trans writtenEncoded
  obtain ⟨redirected, decodes, _, _, callsDecoded⟩ := redirection.decodes
  refine ⟨redirected, positions, decodes, callsDecoded, counts, areTargets, ?_⟩
  intro position member callee isCallee
  obtain ⟨found, isFound, named⟩ := (areTargets position).mp member
  rw [isCallee.unique isFound, MethodPattern.matchesMethod_eq, named, Bool.and_true]

end ModuleRecord

/-- The calls that a committed compilation has redirected are those whose callees have the type and
the name of the target, be they members or methods of the module itself. They match the whole target
exactly if it admits the assembly of the module. -/
theorem Session.targets_of_committed {moduleId : ModuleId} {function : Token}
    {handle : BodyHandle (Session S)} {session final : Session S} {index callSites : Nat}
    {key : WrapperKey}
    (committed : Session.compile moduleId function handle session =
      .ok (.committed index key callSites) final) :
    ∃ record caller buffers original body opened earlier replacement later wrapperRef changed
        redirected positions,
      session.agent.record? moduleId = some record ∧
      record.Opens function handle session caller buffers original body opened ∧
      record.callerMatches caller = earlier ++ (replacement, index) :: later ∧
      replacement.wrapper.key = key ∧
      record.LastTry caller handle body ⟨buffers, opened.world⟩ opened.agent earlier replacement
        wrapperRef callSites changed final ∧
      MethodBody.decode changed = .ok redirected ∧
      CallsRedirected positions (fun _ => wrapperRef) body.instructions redirected.instructions ∧
      positions.length = callSites ∧
      record.Targets replacement wrapperRef body.instructions
        (record.passOver body earlier ⟨buffers, opened.world⟩) positions := by
  obtain ⟨record, tracked, compiled⟩ := Session.exists_record_of_compile committed
  obtain ⟨caller, buffers, original, body, opened, opens, tried⟩ :=
    ModuleRecord.opens_of_compile compiled
  obtain ⟨earlier, replacement, later, wrapperRef, changed, split, sameKey, lastTry⟩ :=
    ModuleRecord.exists_lastTry tried
  obtain ⟨redirected, positions, decoded, calls, counts, targets⟩ :=
    lastTry.exists_targets opens.decoded
  exact ⟨record, caller, buffers, original, body, opened, earlier, replacement, later, wrapperRef,
    changed, redirected, positions, tracked, opens, split, sameKey, lastTry, decoded, calls, counts,
    targets⟩

namespace OneMethod

/-- The target is a method of another assembly with the names of the module's own method. -/
def foreignReplacement : Replacement :=
  { replacement "Main" "Start" with target := ⟨some "Other", some "App", some "Main"⟩ }

def foreignRecord : ModuleRecord (List UInt8) :=
  { record with replacements := [foreignReplacement] }

/-- The method calls a method that the module defines, and returns. -/
def foreignSession : Session (List UInt8) where
  agent := ⟨⟨[], []⟩, [], (∅ : ModuleTable (List UInt8)).insert ⟨7⟩ foreignRecord, true⟩
  world := ⟨[0x1A, 0x28, 2, 0, 0, 0x06, 0x2A], #[]⟩

theorem record?_foreignSession : foreignSession.agent.record? ⟨7⟩ = some foreignRecord := by
  simp [Agent.record?, foreignSession]

theorem compile_foreignSession :
    ∃ final, Session.compile ⟨7⟩ ⟨0x06000001⟩ handle foreignSession =
        .ok (.committed 0 ⟨"Start"⟩ 1) final ∧
      final.world.host = [0x1A, 0x28, 9, 0, 0, 0x0A, 0x2A] := by
  rw [Session.compile_of_tracked record?_foreignSession]
  exact ⟨_, rfl, rfl⟩

end OneMethod

theorem Session.targets_of_committed_ownMethod :
    ∃ final record caller buffers original body opened earlier replacement later wrapperRef changed
        redirected positions,
      Session.compile ⟨7⟩ ⟨0x06000001⟩ OneMethod.handle OneMethod.foreignSession =
        .ok (.committed 0 ⟨"Start"⟩ 1) final ∧
      OneMethod.foreignSession.agent.record? ⟨7⟩ = some record ∧
      record.Opens ⟨0x06000001⟩ OneMethod.handle OneMethod.foreignSession caller buffers original
        body opened ∧
      record.callerMatches caller = earlier ++ (replacement, 0) :: later ∧
      replacement.wrapper.key = ⟨"Start"⟩ ∧
      record.LastTry caller OneMethod.handle body ⟨buffers, opened.world⟩ opened.agent earlier
        replacement wrapperRef 1 changed final ∧
      MethodBody.decode changed = .ok redirected ∧
      CallsRedirected positions (fun _ => wrapperRef) body.instructions redirected.instructions ∧
      positions.length = 1 ∧
      record.Targets replacement wrapperRef body.instructions
        (record.passOver body earlier ⟨buffers, opened.world⟩) positions := by
  obtain ⟨final, committed, _⟩ := OneMethod.compile_foreignSession
  obtain ⟨record, caller, buffers, original, body, opened, earlier, replacement, later, wrapperRef,
    changed, redirected, positions, described⟩ := Session.targets_of_committed committed
  exact ⟨final, record, caller, buffers, original, body, opened, earlier, replacement, later,
    wrapperRef, changed, redirected, positions, committed, described⟩

/-- The call of the module's own method is redirected for a target in another assembly, which does
not match the method. -/
theorem Session.committed_foreign_target :
    ∃ final body,
      OneMethod.foreignSession.agent.record? ⟨7⟩ = some OneMethod.foreignRecord ∧
      OneMethod.foreignRecord.replacements[0]? = some OneMethod.foreignReplacement ∧
      Session.compile ⟨7⟩ ⟨0x06000001⟩ OneMethod.handle OneMethod.foreignSession =
        .ok (.committed 0 ⟨"Start"⟩ 1) final ∧
      MethodBody.decode OneMethod.foreignSession.world.host = .ok body ∧
      body.instructions =
        [⟨0, Opcode.call, .token ⟨0x06000002⟩⟩, ⟨5, 0x2A, .none⟩] ∧
      (⟨0x06000002⟩ : Token).kind = .methodDef ∧
      (∀ scan, CalleeAt OneMethod.foreignRecord.metadata OneMethod.foreignReplacement.target
        ⟨0x0A000009⟩ body.instructions scan 0 ⟨"App", "Main"⟩) ∧
      final.world.host = [0x1A, 0x28, 9, 0, 0, 0x0A, 0x2A] ∧
      OneMethod.foreignReplacement.target.matchesMethod OneMethod.foreignRecord.assembly "App"
        "Main" = false := by
  obtain ⟨final, committed, written⟩ := OneMethod.compile_foreignSession
  refine ⟨final, ⟨.tiny, [⟨0, Opcode.call, .token ⟨0x06000002⟩⟩, ⟨5, 0x2A, .none⟩], []⟩,
    OneMethod.record?_foreignSession, rfl, committed, rfl, rfl, rfl, ?_, written, by decide⟩
  intro scan
  exact ⟨"Main", _, rfl, rfl, _, _, rfl, rfl⟩

end Detour
