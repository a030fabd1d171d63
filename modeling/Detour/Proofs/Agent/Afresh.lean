import Detour.Proofs.Agent.Commits
import Detour.Proofs.CallSite.Purity

/-!
# Compiling afresh

A compilation decodes the body once and hands it on from one replacement to the next, together with
the name buffers. The plain procedure decodes the bytes anew for every replacement and starts every
pass with empty buffers. Over a pure host the two do the same.
-/

namespace Detour

open Detour.Body
open Detour.CallSite
open Detour.Host
open Detour.Rule

variable {S : Type}

namespace ModuleRecord

/-! ## The plain procedure -/

/-- Tries replacements in order, each on a body of its own and with empty buffers. -/
def tryAfresh (record : ModuleRecord S) (caller : MethodIdentity)
    (handle : BodyHandle (Session S)) (bytes : List UInt8) :
    List (Replacement × Nat) → Compiling S CompileOutcome
  | [] => return .unchanged .noMatchingCallSite
  | (replacement, index) :: rest => do
    let key := replacement.wrapper.key
    match record.wrapperRef? replacement.wrapper with
    | none =>
      Compiling.log (.replacementSkipped record.moduleId key)
      record.tryAfresh caller handle bytes rest
    | some wrapperRef =>
      let body ← Compiling.ofBody (MethodBody.decode bytes)
      let (callSites, body, _) ←
        Compiling.redirect record.metadata replacement.target wrapperRef body HeldNames.empty
      if callSites = 0 then
        record.tryAfresh caller handle bytes rest
      else
        record.commit caller handle index key callSites body

/-- Compiles a method of the record's module, with every try afresh. The first decoding only tells
whether the bytes are those of a body. -/
def compileAfresh (record : ModuleRecord S) (function : Token) (handle : BodyHandle (Session S)) :
    Compiling S CompileOutcome := do
  let (caller, _) ← Compiling.onScan HeldNames.empty (identify record.metadata function)
  let candidates := record.callerMatches caller
  if candidates.isEmpty then
    return .unchanged .noMatchingCaller
  else
    let bytes ← Compiling.onBody handle.read
    let _ ← Compiling.ofBody (MethodBody.decode bytes)
    record.tryAfresh caller handle bytes candidates

variable {record : ModuleRecord S} {caller : MethodIdentity} {handle : BodyHandle (Session S)}
  {replacement : Replacement} {index : Nat} {rest : List (Replacement × Nat)} {body : MethodBody}
  {bytes : List UInt8} {session : Session S} {wrapperRef : Token} {changed : List Instruction}
  {after : Scan S}

theorem tryAfresh_of_noReference
    (noReference : record.wrapperRef? replacement.wrapper = none) :
    record.tryAfresh caller handle bytes ((replacement, index) :: rest) session =
      record.tryAfresh caller handle bytes rest
        (session.log (.replacementSkipped record.moduleId replacement.wrapper.key)) := by
  rw [tryAfresh]
  dsimp only
  rw [noReference]
  rfl

theorem tryAfresh_of_reference (decoded : MethodBody.decode bytes = .ok body)
    (reference : record.wrapperRef? replacement.wrapper = some wrapperRef) :
    record.tryAfresh caller handle bytes ((replacement, index) :: rest) =
      Compiling.redirect record.metadata replacement.target wrapperRef body HeldNames.empty >>=
        fun (callSites, body, _) =>
          if callSites = 0 then
            record.tryAfresh caller handle bytes rest
          else
            record.commit caller handle index replacement.wrapper.key callSites body := by
  rw [tryAfresh]
  dsimp only
  rw [reference, decoded]
  rfl

theorem tryAfresh_of_refused {refusal : Refusal} (decoded : MethodBody.decode bytes = .ok body)
    (reference : record.wrapperRef? replacement.wrapper = some wrapperRef)
    (passed : redirectCalls record.metadata replacement.target wrapperRef body.instructions
      ⟨HeldNames.empty, session.world⟩ = ⟨.error refusal, changed, after⟩) :
    record.tryAfresh caller handle bytes ((replacement, index) :: rest) session =
      .error (.host refusal) { session with world := after.world } := by
  rw [tryAfresh_of_reference decoded reference]
  exact EStateM.bind_of_error (Compiling.redirect_of_refused passed) _

theorem tryAfresh_of_counted {callSites : Nat} (decoded : MethodBody.decode bytes = .ok body)
    (reference : record.wrapperRef? replacement.wrapper = some wrapperRef)
    (passed : redirectCalls record.metadata replacement.target wrapperRef body.instructions
      ⟨HeldNames.empty, session.world⟩ = ⟨.ok callSites, changed, after⟩) :
    record.tryAfresh caller handle bytes ((replacement, index) :: rest) session =
      if callSites = 0 then
        record.tryAfresh caller handle bytes rest { session with world := after.world }
      else
        record.commit caller handle index replacement.wrapper.key callSites
          { body with instructions := changed } { session with world := after.world } := by
  rw [tryAfresh_of_reference decoded reference,
    EStateM.bind_of_ok (Compiling.redirect_of_counted passed)]
  dsimp only
  split
  · rfl
  · rfl

/-- Neither the body nor the buffers that earlier tries leave behind make a difference. -/
theorem tryReplacements_eq_tryAfresh (isPure : record.metadata.IsPure)
    (decoded : MethodBody.decode bytes = .ok body) (candidates : List (Replacement × Nat))
    (buffers : HeldNames) (session : Session S) :
    record.tryReplacements caller handle candidates body buffers session =
      record.tryAfresh caller handle bytes candidates session := by
  induction candidates generalizing buffers session with
  | nil => rfl
  | cons candidate rest ih =>
    obtain ⟨replacement, index⟩ := candidate
    cases reference : record.wrapperRef? replacement.wrapper with
    | none =>
      rw [tryReplacements_of_noReference reference, tryAfresh_of_noReference reference]
      exact ih buffers _
    | some wrapperRef =>
      obtain ⟨result, changed, events, passes⟩ := redirectCalls_settled isPure replacement.target
        wrapperRef session.world.host body.instructions
      obtain ⟨left, passed⟩ := passes ⟨buffers, session.world⟩ rfl
      obtain ⟨leftAfresh, passedAfresh⟩ := passes ⟨HeldNames.empty, session.world⟩ rfl
      cases result with
      | error refusal =>
        rw [tryReplacements_of_refused reference passed,
          tryAfresh_of_refused decoded reference passedAfresh]
      | ok callSites =>
        rw [tryAfresh_of_counted decoded reference passedAfresh]
        cases callSites with
        | zero =>
          rw [tryReplacements_of_noHit reference passed, if_pos rfl]
          exact ih left _
        | succ counted =>
          rw [tryReplacements_of_hit reference passed, if_neg (Nat.succ_ne_zero counted)]

theorem compile_eq_afresh (isPure : record.metadata.IsPure) (function : Token)
    (handle : BodyHandle (Session S)) (session : Session S) :
    record.compile function handle session = record.compileAfresh function handle session := by
  apply EStateM.bind_congr
  intro identified before _
  obtain ⟨caller, buffers⟩ := identified
  dsimp only
  by_cases noCandidates : (record.callerMatches caller).isEmpty = true
  · rw [if_pos noCandidates, if_pos noCandidates]
  · rw [if_neg noCandidates, if_neg noCandidates]
    apply EStateM.bind_congr
    intro bytes opened _
    apply EStateM.bind_congr
    intro body _ decodes
    obtain ⟨decoded, rfl⟩ := Compiling.ofBody_eq_ok_iff.mp decodes
    exact tryReplacements_eq_tryAfresh isPure decoded _ buffers opened

/-! ## The first hit -/

/-- The replacement at `position` of the record is to be tried on a caller. -/
structure IsTried (record : ModuleRecord S) (caller : MethodIdentity) (position : Nat)
    (replacement : Replacement) (wrapperRef : Token) : Prop where
  at_position : record.replacements[position]? = some replacement
  admits : replacement.caller.matchesMethod record.assembly caller.typeName caller.methodName = true
  reference : record.wrapperRef? replacement.wrapper = some wrapperRef

/-- The pass that a replacement makes over a body afresh. -/
def passAfresh (record : ModuleRecord S) (replacement : Replacement) (wrapperRef : Token)
    (body : MethodBody) (world : World S) : Pass S :=
  redirectCalls record.metadata replacement.target wrapperRef body.instructions
    ⟨HeldNames.empty, world⟩

/-- The replacement at `index` is the first of those to be tried that finds a call, and `changed`
is what it alone makes of the body. -/
structure FirstHit (record : ModuleRecord S) (caller : MethodIdentity) (body : MethodBody)
    (world : World S) (index : Nat) (key : WrapperKey) (callSites : Nat)
    (changed : List UInt8) : Prop where
  hit : ∃ replacement wrapperRef instructions after,
    record.IsTried caller index replacement wrapperRef ∧ replacement.wrapper.key = key ∧
      record.passAfresh replacement wrapperRef body world = ⟨.ok callSites, instructions, after⟩ ∧
      0 < callSites ∧ MethodBody.encode { body with instructions } = .ok changed
  earlier : ∀ position replacement wrapperRef, position < index →
    record.IsTried caller position replacement wrapperRef →
    (record.passAfresh replacement wrapperRef body world).result = .ok 0

theorem mem_callerMatches_iff {position : Nat} :
    (replacement, position) ∈ record.callerMatches caller ↔
      record.replacements[position]? = some replacement ∧
        replacement.caller.matchesMethod record.assembly caller.typeName caller.methodName =
          true := by
  rw [callerMatches, List.mem_filter, List.mem_zipIdx_iff_getElem?]

theorem callerMatches_pairwise (record : ModuleRecord S) (caller : MethodIdentity) :
    (record.callerMatches caller).Pairwise fun earlier later => earlier.2 < later.2 := by
  apply List.Pairwise.filter
  rw [← List.pairwise_map, List.zipIdx_map_snd]
  exact List.pairwise_lt_range'

/-- Of the replacements to try, those at lower places come first. -/
theorem mem_earlier_of_lt {earlier later : List (Replacement × Nat)} {first : Replacement}
    {position : Nat}
    (split : record.callerMatches caller = earlier ++ (first, index) :: later)
    (member : (replacement, position) ∈ record.callerMatches caller) (lower : position < index) :
    (replacement, position) ∈ earlier := by
  have increasing := record.callerMatches_pairwise caller
  rw [split] at member increasing
  rcases List.mem_append.mp member with before | fromIndex
  · exact before
  · rcases List.mem_cons.mp fromIndex with same | behind
    · cases same
      exact absurd lower (Nat.lt_irrefl _)
    · have ordered := (List.pairwise_append.mp increasing).2.1
      have higher := (List.pairwise_cons.mp ordered).1 _ behind
      exact absurd lower (Nat.lt_asymm higher)

/-- Tries over a pure host that commit do so with the first hit. -/
theorem Commits.firstHit (isPure : record.metadata.IsPure) {world : World S} {agent : Agent S}
    {key : WrapperKey} {callSites : Nat} {final : Session S}
    (commits : record.Commits (· = world.host) caller handle body agent index key callSites final
      (record.callerMatches caller)) :
    ∃ changed, record.FirstHit caller body world index key callSites changed ∧
      record.Writes caller handle agent key callSites changed final := by
  obtain ⟨earlier, replacement, later, changed, split, misses, hits, sameKey, writes⟩ := commits
  refine ⟨changed, ⟨?_, ?_⟩, writes⟩
  · obtain ⟨wrapperRef, scan, instructions, _, reference, sameHost, passed, positive, encoded⟩ :=
      hits
    have member : (replacement, index) ∈ record.callerMatches caller := by
      rw [split]
      exact List.mem_append_right earlier List.mem_cons_self
    obtain ⟨placed, admits⟩ := mem_callerMatches_iff.mp member
    obtain ⟨after, passedAfresh⟩ := redirectCalls_of_sameHost isPure
      ⟨HeldNames.empty, world⟩ sameHost passed
    exact ⟨replacement, wrapperRef, instructions, after, ⟨placed, admits, reference⟩, sameKey,
      passedAfresh, positive, encoded⟩
  · intro position tried wrapperRef lower isTried
    obtain ⟨placed, admits, reference⟩ := isTried
    have before := mem_earlier_of_lt split (mem_callerMatches_iff.mpr ⟨placed, admits⟩) lower
    obtain ⟨scan, sameHost, missed⟩ := misses _ before wrapperRef reference
    obtain ⟨after, passedAfresh⟩ := redirectCalls_of_sameHost isPure
      ⟨HeldNames.empty, world⟩ sameHost rfl
    rw [passAfresh, passedAfresh]
    exact missed

end ModuleRecord

/-- Over a pure host a compilation does what the plain procedure does: the result, the written
bytes and the log are the same. If it commits, it writes what the first replacement that finds a
call makes of the body on its own. -/
theorem Session.compile_eq_compileAfresh {session : Session S} {moduleId : ModuleId}
    {record : ModuleRecord S} (tracked : session.agent.record? moduleId = some record)
    (isPure : record.metadata.IsPure) (function : Token) (handle : BodyHandle (Session S)) :
    Session.compile moduleId function handle session =
      record.compileAfresh function handle session ∧
    ∀ index key callSites final,
      Session.compile moduleId function handle session =
        .ok (.committed index key callSites) final →
      ∃ caller buffers original body opened changed,
        record.Opens function handle session caller buffers original body opened ∧
        record.FirstHit caller body opened.world index key callSites changed ∧
        record.Writes caller handle opened.agent key callSites changed final := by
  rw [Session.compile_of_tracked tracked]
  refine ⟨record.compile_eq_afresh isPure function handle session, ?_⟩
  intro index key callSites final committed
  obtain ⟨caller, buffers, original, body, opened, opens, tried⟩ :=
    ModuleRecord.opens_of_compile committed
  have keeps (target : MethodPattern) (wrapperRef : Token) (scan : Scan S)
      (sameHost : scan.world.host = opened.world.host) :
      (redirectCalls record.metadata target wrapperRef body.instructions scan).scan.world.host =
        opened.world.host :=
    (host_redirectCalls isPure target wrapperRef body.instructions scan).trans sameHost
  have commits := ModuleRecord.commits_of_tryReplacements (· = opened.world.host) keeps rfl tried
  obtain ⟨changed, firstHit, writes⟩ := commits.firstHit isPure
  exact ⟨caller, buffers, original, body, opened, changed, opens, firstHit, writes⟩

theorem OneMethod.metadata_isPure : OneMethod.metadata.IsPure where
  memberRef _ _ := .inl ⟨_, _, fun _ => rfl⟩
  methodDef _ _ := .inl ⟨_, _, fun _ => rfl⟩
  typeRef _ _ := .inl ⟨_, _, fun _ => rfl⟩
  typeDef _ _ := .inl ⟨_, _, fun _ => rfl⟩

theorem Session.compile_eq_compileAfresh_oneMethod :
    OneMethod.session.agent.record? ⟨7⟩ = some OneMethod.record ∧
    OneMethod.record.metadata.IsPure ∧
    Session.compile ⟨7⟩ ⟨0x06000001⟩ OneMethod.handle OneMethod.session =
      OneMethod.record.compileAfresh ⟨0x06000001⟩ OneMethod.handle OneMethod.session ∧
    ∃ final caller buffers original body opened changed,
      Session.compile ⟨7⟩ ⟨0x06000001⟩ OneMethod.handle OneMethod.session =
        .ok (.committed 2 ⟨"Start"⟩ 1) final ∧
      OneMethod.record.Opens ⟨0x06000001⟩ OneMethod.handle OneMethod.session caller buffers original
        body opened ∧
      OneMethod.record.FirstHit caller body opened.world 2 ⟨"Start"⟩ 1 changed ∧
      OneMethod.record.Writes caller OneMethod.handle opened.agent ⟨"Start"⟩ 1 changed final ∧
      final.world.host = [0x1A, 0x28, 9, 0, 0, 0x0A, 0x2A] := by
  obtain ⟨same, commits⟩ := Session.compile_eq_compileAfresh OneMethod.record?_session
    OneMethod.metadata_isPure ⟨0x06000001⟩ OneMethod.handle
  obtain ⟨final, committed, written⟩ := OneMethod.compile_session
  obtain ⟨caller, buffers, original, body, opened, changed, opens, firstHit, writes⟩ :=
    commits _ _ _ _ committed
  exact ⟨OneMethod.record?_session, OneMethod.metadata_isPure, same, final, caller, buffers,
    original, body, opened, changed, committed, opens, firstHit, writes, written⟩

end Detour
