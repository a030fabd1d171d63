import Detour.Proofs.Agent.Writes

/-!
# What a compilation tells

A pass tells of every call that it redirects, and a compilation that commits tells of the changed
method when the host has taken the bytes. A pass without a hit tells of nothing, and what a refused
pass has told of its first calls is never followed by the event about the method. So the log of a
compilation agrees with what it comes to: behind a commit it lists the redirected calls of the
committed bytes by their offsets, in order, and otherwise no method is said to be changed.
-/

namespace Detour

open Detour.Body
open Detour.CallSite
open Detour.Host
open Detour.Rule

variable {S α : Type}

/-! ## Events of effects -/

namespace Event

/-- The offset and the wrapper that an event about a redirected call names. -/
def redirection? : Event → Option (UInt32 × Token)
  | callRedirected offset _ _ wrapper => some (offset, wrapper)
  | _ => none

/-- Whether an event is the one about a changed method. -/
def isMethodChange : Event → Bool
  | methodChanged .. => true
  | _ => false

theorem isSome_redirection?_iff (event : Event) :
    event.redirection?.isSome = true ↔ event.message = "redirecting call site" := by
  cases event <;> simp [redirection?, message]

theorem isMethodChange_iff (event : Event) :
    event.isMethodChange = true ↔ event.message = "rewrote method" := by
  cases event <;> simp [isMethodChange, message]

end Event

namespace Effect

def event? : Effect → Option Event
  | log event => some event
  | metadata _ | readBody | writeBody _ | refusedWrite _ _ => none

def redirection? (effect : Effect) : Option (UInt32 × Token) :=
  effect.event?.bind Event.redirection?

def tellsChange (effect : Effect) : Bool :=
  effect.event?.any Event.isMethodChange

/-- Whether an effect is one that a scan may have. -/
def isOfScan : Effect → Bool
  | metadata call => call.isRead
  | log _ => true
  | readBody | writeBody _ | refusedWrite _ _ => false

/-- The effect tells neither of a redirected call nor of a changed method. -/
def TellsNothing (effect : Effect) : Prop :=
  effect.redirection? = none ∧ effect.tellsChange = false

theorem tellsNothing_of_isMetadataRead {effect : Effect}
    (isMetadataRead : effect.isMetadataRead = true) : effect.TellsNothing := by
  obtain ⟨call, rfl, _⟩ := exists_call_of_isMetadataRead isMetadataRead
  exact ⟨rfl, rfl⟩

theorem isOfScan_of_isMetadataRead {effect : Effect}
    (isMetadataRead : effect.isMetadataRead = true) : effect.isOfScan = true := by
  obtain ⟨call, rfl, isRead⟩ := exists_call_of_isMetadataRead isMetadataRead
  exact isRead

end Effect

namespace Session

variable {metadata? : Option (Metadata S)} {handle : BodyHandle (Session S)}
  {before middle after : Session S}

/-- Apart from what a call to the body does to it, the log grows by the event of the effect. -/
theorem Step.events_eq {effect : Effect} (step : Step metadata? handle effect before after)
    (readKeeps : ∀ session, (endState (handle.read session)).world.events = session.world.events)
    (writeKeeps : ∀ bytes session,
      (endState (handle.write bytes session)).world.events = session.world.events) :
    after.world.events.toList = before.world.events.toList ++ effect.event?.toList := by
  have noEvent (same : after.world.events = before.world.events) :
      after.world.events.toList = before.world.events.toList ++ [] := by
    rw [same, List.append_nil]
  cases step with
  | metadata => exact noEvent rfl
  | log event => exact Array.toList_push
  | readBody => exact noEvent (readKeeps before)
  | @writeBody bytes _ _ taken =>
    have kept := writeKeeps bytes before
    rw [taken] at kept
    exact noEvent kept
  | @refusedWrite bytes _ _ _ refused =>
    have kept := writeKeeps bytes before
    rw [refused] at kept
    exact noEvent kept

theorem Runs.events_eq {effects : List Effect} (runs : Runs metadata? handle effects before after)
    (readKeeps : ∀ session, (endState (handle.read session)).world.events = session.world.events)
    (writeKeeps : ∀ bytes session,
      (endState (handle.write bytes session)).world.events = session.world.events) :
    after.world.events.toList =
      before.world.events.toList ++ effects.filterMap Effect.event? := by
  induction runs with
  | done session => exact (List.append_nil _).symm
  | @step effect effects before middle after first rest ih =>
    rw [ih, first.events_eq readKeeps writeKeeps, List.append_assoc, List.filterMap_cons]
    cases effect.event? with
    | none => rfl
    | some event => rfl

end Session

/-! ## Passes -/

namespace CallSite

open Detour.Session

/-- The calls at the positions, by their offsets and with the wrapper that they go to. -/
def redirectionsAt (positions : List Nat) (wrapperRef : Token) (instructions : List Instruction) :
    List (UInt32 × Token) :=
  (positions.filterMap (instructions[·]?)).map fun call => (call.offset, wrapperRef)

theorem redirectionsAt_cons_succ (positions : List Nat) (wrapperRef : Token)
    (first : Instruction) (rest : List Instruction) :
    redirectionsAt (positions.map (· + 1)) wrapperRef (first :: rest) =
      redirectionsAt positions wrapperRef rest := by
  rw [redirectionsAt, List.filterMap_map]
  rfl

/-- The effects of a pass that redirects the calls at the positions, whether it is refused in the
end or not: it tells of those calls, in order, and not of the method. -/
structure ToldPass (metadata : Metadata S) (handle : BodyHandle (Session S)) (agent : Agent S)
    (wrapperRef : Token) (instructions : List Instruction) (scan : Scan S) (pass : Pass S)
    (positions : List Nat) (effects : List Effect) : Prop where
  runs : Runs (some metadata) handle effects ⟨agent, scan.world⟩ ⟨agent, pass.scan.world⟩
  ofScan : ∀ effect ∈ effects, effect.isOfScan = true
  redirected : CallsRedirected positions (fun _ => wrapperRef) instructions pass.instructions
  ascending : positions.Pairwise (· < ·)
  counts : ∀ count, pass.result = .ok count → positions.length = count
  tells : effects.filterMap Effect.redirection? =
    redirectionsAt positions wrapperRef instructions
  noChange : ∀ effect ∈ effects, effect.tellsChange = false

section Pass

variable {metadata : Metadata S} {handle : BodyHandle (Session S)} {agent : Agent S}
  {wrapperRef : Token} {instruction : Instruction} {instructions : List Instruction}
  {scan after : Scan S} {pass : Pass S} {positions : List Nat} {effects : List Effect}

/-- A pass that leaves everything as it is. -/
theorem toldPass_nil {result : Except Refusal Nat}
    (counts : ∀ count, result = .ok count → 0 = count) :
    ToldPass metadata handle agent wrapperRef instructions scan ⟨result, instructions, scan⟩ []
      [] where
  runs := .done _
  ofScan := by
    intro effect member
    cases member
  redirected := .refl _ instructions
  ascending := .nil
  counts := counts
  tells := rfl
  noChange := by
    intro effect member
    cases member

/-- Reads of metadata in front of a pass tell of nothing. -/
theorem ToldPass.after_reads
    (reads : RunsBy (fun effect => effect.isMetadataRead = true) (some metadata) handle
      ⟨agent, scan.world⟩ ⟨agent, after.world⟩)
    (told : ToldPass metadata handle agent wrapperRef instructions after pass positions effects) :
    ∃ effects,
      ToldPass metadata handle agent wrapperRef instructions scan pass positions effects := by
  obtain ⟨earlier, areReads, runs⟩ := reads
  have silent : ∀ effect ∈ earlier, effect.TellsNothing := fun effect member =>
    Effect.tellsNothing_of_isMetadataRead (areReads effect member)
  refine ⟨earlier ++ effects, runs.append told.runs, ?_, told.redirected, told.ascending,
    told.counts, ?_, ?_⟩
  · exact List.forall_mem_append.mpr
      ⟨fun effect member => Effect.isOfScan_of_isMetadataRead (areReads effect member), told.ofScan⟩
  · rw [List.filterMap_append,
      List.filterMap_eq_nil_iff.mpr fun effect member => (silent effect member).1]
    exact told.tells
  · exact List.forall_mem_append.mpr
      ⟨fun effect member => (silent effect member).2, told.noChange⟩

theorem ToldPass.keeping
    (told : ToldPass metadata handle agent wrapperRef instructions scan pass positions effects) :
    ToldPass metadata handle agent wrapperRef (instruction :: instructions) scan
      (pass.keeping instruction) (positions.map (· + 1)) effects where
  runs := told.runs
  ofScan := told.ofScan
  redirected := told.redirected.cons_keep
  ascending := pairwise_map_succ told.ascending
  counts := by
    intro count counted
    rw [List.length_map]
    exact told.counts count counted
  tells := by rw [redirectionsAt_cons_succ, told.tells]
  noChange := told.noChange

/-- A redirected call in front of the others is told first. -/
theorem ToldPass.redirecting {operand : Token} {typeName methodName : String}
    (callee : instruction.callee? = some operand)
    (told : ToldPass metadata handle agent wrapperRef instructions
      (scan.log (.callRedirected instruction.offset typeName methodName wrapperRef)) pass positions
      effects) :
    ToldPass metadata handle agent wrapperRef (instruction :: instructions) scan
      (pass.redirecting (instruction.redirect wrapperRef)) (0 :: positions.map (· + 1))
      (.log (.callRedirected instruction.offset typeName methodName wrapperRef) :: effects) where
  runs := .step (.log _ _) told.runs
  ofScan := List.forall_mem_cons.mpr ⟨rfl, told.ofScan⟩
  redirected := told.redirected.cons_redirect callee
  ascending := pairwise_zero_cons_map_succ told.ascending
  counts := by
    intro count counted
    obtain ⟨restCount, restCounted, rfl⟩ := Except.map_eq_ok_iff.mp counted
    rw [List.length_cons, List.length_map, told.counts restCount restCounted]
  tells := by
    have others := redirectionsAt_cons_succ positions wrapperRef instruction instructions
    rw [← told.tells] at others
    exact congrArg ((instruction.offset, wrapperRef) :: ·) others.symm
  noChange := List.forall_mem_cons.mpr ⟨rfl, told.noChange⟩

end Pass

theorem exists_toldPass_redirectNamed (metadata : Metadata S) (handle : BodyHandle (Session S))
    (agent : Agent S) (methodName : String) (typeName : Option String) (wrapperRef : Token)
    (instructions : List Instruction) (scan : Scan S) :
    ∃ positions effects, ToldPass metadata handle agent wrapperRef instructions scan
      (redirectNamed metadata methodName typeName wrapperRef instructions scan) positions
      effects := by
  induction instructions generalizing scan with
  | nil => exact ⟨[], [], toldPass_nil fun count counted => Except.ok.inj counted⟩
  | cons instruction rest ih =>
    cases callee : instruction.callee? with
    | none =>
      obtain ⟨positions, effects, told⟩ := ih scan
      rw [redirectNamed_of_noCallee callee]
      exact ⟨_, effects, told.keeping⟩
    | some operand =>
      have reads := onlyReads_resolve metadata operand methodName handle agent scan
      cases resolved : resolve metadata operand methodName scan with
      | error refusal after =>
        rw [resolved] at reads
        rw [redirectNamed_of_refused callee resolved]
        have nothing : ToldPass metadata handle agent wrapperRef (instruction :: rest) after
            ⟨.error refusal, instruction :: rest, after⟩ [] [] := toldPass_nil nofun
        exact ⟨[], nothing.after_reads reads⟩
      | ok found after =>
        rw [resolved] at reads
        by_cases isTarget : ∃ target, found = some target ∧
            typeIsExpected typeName target.typeName = true
        · obtain ⟨target, rfl, expected⟩ := isTarget
          rw [redirectNamed_of_expected callee resolved expected]
          obtain ⟨positions, effects, told⟩ := ih (after.log _)
          exact ⟨_, (told.redirecting callee).after_reads reads⟩
        · have other : ∀ target, found = some target →
              ¬ typeIsExpected typeName target.typeName = true := by
            intro target isFound expected
            exact isTarget ⟨target, isFound, expected⟩
          rw [redirectNamed_of_other callee resolved other]
          obtain ⟨positions, effects, told⟩ := ih after
          exact ⟨_, told.keeping.after_reads reads⟩

theorem exists_toldPass (metadata : Metadata S) (handle : BodyHandle (Session S))
    (agent : Agent S) (target : MethodPattern) (wrapperRef : Token)
    (instructions : List Instruction) (scan : Scan S) :
    ∃ positions effects, ToldPass metadata handle agent wrapperRef instructions scan
      (redirectCalls metadata target wrapperRef instructions scan) positions effects := by
  unfold redirectCalls
  split
  · exact ⟨[], [], toldPass_nil fun count counted => Except.ok.inj counted⟩
  · exact exists_toldPass_redirectNamed metadata handle agent _ _ wrapperRef instructions scan

end CallSite

/-! ## Redirected calls of decoded bodies -/

namespace CallSite

variable {positions : List Nat} {wrapperRef : Token}

/-- Redirecting moves no call, so the offsets may be read off either body. -/
theorem redirectionsAt_eq_of_callsRedirected {targets : Nat → Token}
    {before after : List Instruction}
    (redirected : CallsRedirected positions targets before after) :
    redirectionsAt positions wrapperRef after = redirectionsAt positions wrapperRef before := by
  unfold redirectionsAt
  rw [List.map_filterMap, List.map_filterMap]
  refine congrArg (List.filterMap · positions) (funext fun position => ?_)
  rw [redirected.getElem?_eq]
  cases before[position]? with
  | none => rfl
  | some instruction =>
    by_cases isCall : position ∈ positions
    · simp [isCall, Instruction.redirect]
    · simp [isCall]

theorem length_redirectionsAt {targets : Nat → Token} {before after : List Instruction}
    (redirected : CallsRedirected positions targets before after) :
    (redirectionsAt positions wrapperRef before).length = positions.length := by
  have areFound : ∀ position ∈ positions, (before[position]?).isSome = true := by
    intro position member
    obtain ⟨instruction, _, found, _⟩ := redirected.areCalls position member
    rw [found]
    rfl
  rw [redirectionsAt, List.length_map, List.length_filterMap_eq_countP]
  exact List.countP_eq_length.mpr areFound

/-- In a decoded body the offsets of the calls grow with their positions. -/
theorem offsets_redirectionsAt_ascend {body : MethodBody} (wellFormed : body.WellFormed)
    (ascending : positions.Pairwise (· < ·)) :
    ((redirectionsAt positions wrapperRef body.instructions).map Prod.fst).Pairwise (· < ·) := by
  rw [redirectionsAt, List.map_map, List.pairwise_map, List.pairwise_filterMap]
  apply ascending.imp
  intro index later inFront instruction found other foundLater
  exact wellFormed.offset_lt found foundLater inFront

end CallSite

/-! ## Tries -/

namespace ModuleRecord

open Detour.Session

/-- What the effects of the tries tell fits what the tries come to. Up to the write, which can only
be followed by the event about the method, there are reads and events. -/
inductive Truthful (record : ModuleRecord S) (caller : MethodIdentity) (body : MethodBody) :
    List Effect → EStateM.Result Error (Session S) CompileOutcome → Prop where
  | unchanged {effects : List Effect} (reason : UnchangedReason) (final : Session S)
      (silent : ∀ effect ∈ effects, effect.TellsNothing) :
      Truthful record caller body effects (.ok (.unchanged reason) final)
  | failed {effects : List Effect} (error : Error) (final : Session S)
      (noChange : ∀ effect ∈ effects, effect.tellsChange = false) :
      Truthful record caller body effects (.error error final)
  | committed {scans : List Effect} {index : Nat} {replacement : Replacement} {wrapperRef : Token}
      {changed : List UInt8} {redirected : MethodBody} {positions : List Nat} (final : Session S)
      (found : record.replacements[index]? = some replacement)
      (reference : record.wrapperRef? replacement.wrapper = some wrapperRef)
      (decoded : MethodBody.decode changed = .ok redirected)
      (calls : CallsRedirected positions (fun _ => wrapperRef) body.instructions
        redirected.instructions)
      (ascending : positions.Pairwise (· < ·))
      (ofScan : ∀ effect ∈ scans, effect.isOfScan = true)
      (noChange : ∀ effect ∈ scans, effect.tellsChange = false)
      (tells : scans.filterMap Effect.redirection? =
        redirectionsAt positions wrapperRef redirected.instructions) :
      Truthful record caller body
        (scans ++ [.writeBody changed, .log (.methodChanged record.moduleId caller.typeName
          caller.methodName replacement.wrapper.key positions.length)])
        (.ok (.committed index replacement.wrapper.key positions.length) final)

variable {record : ModuleRecord S} {caller : MethodIdentity} {body : MethodBody}
  {handle : BodyHandle (Session S)} {session middle : Session S}
  {result : EStateM.Result Error (Session S) CompileOutcome}

/-- A run with truthful effects. -/
def TellsTruth (record : ModuleRecord S) (caller : MethodIdentity) (body : MethodBody)
    (handle : BodyHandle (Session S)) (session : Session S)
    (result : EStateM.Result Error (Session S) CompileOutcome) : Prop :=
  ∃ effects, Runs (some record.metadata) handle effects session (endState result) ∧
    record.Truthful caller body effects result

/-- Effects of scans that tell of nothing may stand in front. -/
theorem Truthful.after_silence {earlier effects : List Effect}
    (truthful : record.Truthful caller body effects result)
    (silent : ∀ effect ∈ earlier, effect.isOfScan = true ∧ effect.TellsNothing) :
    record.Truthful caller body (earlier ++ effects) result := by
  cases truthful with
  | unchanged reason final silentRest =>
    exact .unchanged reason final (List.forall_mem_append.mpr
      ⟨fun effect member => (silent effect member).2, silentRest⟩)
  | failed error final noChange =>
    exact .failed error final (List.forall_mem_append.mpr
      ⟨fun effect member => (silent effect member).2.2, noChange⟩)
  | committed final found reference decoded calls ascending ofScan noChange tells =>
    rw [← List.append_assoc]
    refine .committed final found reference decoded calls ascending ?_ ?_ ?_
    · exact List.forall_mem_append.mpr ⟨fun effect member => (silent effect member).1, ofScan⟩
    · exact List.forall_mem_append.mpr ⟨fun effect member => (silent effect member).2.2, noChange⟩
    · rw [List.filterMap_append,
        List.filterMap_eq_nil_iff.mpr fun effect member => (silent effect member).2.1]
      exact tells

theorem TellsTruth.after_silence
    (silent : RunsBy (fun effect => effect.isOfScan = true ∧ effect.TellsNothing)
      (some record.metadata) handle session middle)
    (tells : record.TellsTruth caller body handle middle result) :
    record.TellsTruth caller body handle session result := by
  obtain ⟨earlier, areSilent, runs⟩ := silent
  obtain ⟨effects, runsRest, truthful⟩ := tells
  exact ⟨earlier ++ effects, runs.append runsRest, truthful.after_silence areSilent⟩

/-- A hit can be encoded, so either the host refuses its bytes, or the event about the method comes
behind the events about the calls. -/
theorem tellsTruth_commit {original : List UInt8} (caller : MethodIdentity) {buffers : HeldNames}
    {index : Nat} {replacement : Replacement} {wrapperRef : Token} {pass : Pass S}
    {positions : List Nat} {effects : List Effect} (decoded : MethodBody.decode original = .ok body)
    (found : record.replacements[index]? = some replacement)
    (reference : record.wrapperRef? replacement.wrapper = some wrapperRef)
    (told : ToldPass record.metadata handle session.agent wrapperRef body.instructions
      ⟨buffers, session.world⟩ pass positions effects) :
    record.TellsTruth caller body handle session
      (record.commit caller handle index replacement.wrapper.key positions.length
        { body with instructions := pass.instructions }
        { session with world := pass.scan.world }) := by
  obtain ⟨changed, encoded, redirection⟩ := MethodBody.exists_redirection decoded told.redirected
  obtain ⟨redirected, decodes, _, _, calls⟩ := redirection.decodes
  cases wrote : handle.write changed { session with world := pass.scan.world } with
  | error refusal left =>
    rw [commit_of_refused encoded wrote]
    have runs := told.runs.append (.step (.refusedWrite wrote) (.done left))
    refine ⟨effects ++ [.refusedWrite changed refusal], runs, .failed _ left ?_⟩
    exact List.forall_mem_append.mpr ⟨told.noChange, List.forall_mem_singleton.mpr rfl⟩
  | ok _ written =>
    rw [commit_of_taken encoded wrote]
    refine ⟨_, told.runs.append (.step (.writeBody wrote) (.step (.log _ written) (.done _))),
      .committed _ found reference decodes calls told.ascending told.ofScan told.noChange ?_⟩
    rw [redirectionsAt_eq_of_callsRedirected calls, told.tells]

theorem tellsTruth_tryReplacements {original : List UInt8}
    (decoded : MethodBody.decode original = .ok body) (caller : MethodIdentity)
    (handle : BodyHandle (Session S)) (candidates : List (Replacement × Nat))
    (places : ∀ candidate ∈ candidates, record.replacements[candidate.2]? = some candidate.1)
    (buffers : HeldNames) (session : Session S) :
    record.TellsTruth caller body handle session
      (record.tryReplacements caller handle candidates body buffers session) := by
  -- A skipped replacement and a pass without a hit are silence in front of what the rest tells.
  induction candidates generalizing buffers session with
  | nil => exact ⟨[], .done session, .unchanged .noMatchingCallSite session nofun⟩
  | cons candidate rest ih =>
    obtain ⟨replacement, index⟩ := candidate
    obtain ⟨found, placesRest⟩ := List.forall_mem_cons.mp places
    cases reference : record.wrapperRef? replacement.wrapper with
    | none =>
      rw [tryReplacements_of_noReference reference]
      exact (ih placesRest buffers _).after_silence (.of_step (.log _ session) ⟨rfl, rfl, rfl⟩)
    | some wrapperRef =>
      obtain ⟨positions, effects, told⟩ := exists_toldPass record.metadata handle session.agent
        replacement.target wrapperRef body.instructions ⟨buffers, session.world⟩
      cases passed : redirectCalls record.metadata replacement.target wrapperRef body.instructions
          ⟨buffers, session.world⟩ with
      | mk result instructions after =>
        rw [passed] at told
        cases result with
        | error refusal =>
          rw [tryReplacements_of_refused reference passed]
          exact ⟨effects, told.runs, .failed _ _ told.noChange⟩
        | ok counted =>
          obtain rfl := told.counts counted rfl
          cases positions with
          | nil =>
            rw [tryReplacements_of_noHit reference passed]
            have noRedirections := List.filterMap_eq_nil_iff.mp told.tells
            refine (ih placesRest after.buffers _).after_silence ⟨effects, ?_, told.runs⟩
            intro effect member
            exact ⟨told.ofScan effect member, noRedirections effect member,
              told.noChange effect member⟩
          | cons first others =>
            rw [tryReplacements_of_hit reference passed]
            have commits := tellsTruth_commit caller decoded found reference told
            exact commits

/-! ## Compilations -/

/-- What the effects of a compilation tell. One that ends before it tries a replacement tells of
nothing; otherwise it has read metadata and then the body, and its tries tell the truth. -/
inductive Tells (record : ModuleRecord S) (function : Token) (handle : BodyHandle (Session S))
    (session : Session S) :
    List Effect → EStateM.Result Error (Session S) CompileOutcome → Prop where
  | ended {effects : List Effect} {result : EStateM.Result Error (Session S) CompileOutcome}
      (silent : ∀ effect ∈ effects, effect.TellsNothing)
      (uncommitted : ∀ index key callSites final,
        result ≠ .ok (.committed index key callSites) final) :
      Tells record function handle session effects result
  | tried {caller : MethodIdentity} {buffers : HeldNames} {original : List UInt8}
      {body : MethodBody} {opened : Session S} {reads effects : List Effect}
      {result : EStateM.Result Error (Session S) CompileOutcome}
      (opens : record.Opens function handle session caller buffers original body opened)
      (areReads : ∀ effect ∈ reads, effect.isMetadataRead = true)
      (truthful : record.Truthful caller body effects result) :
      Tells record function handle session (reads ++ .readBody :: effects) result

theorem places_callerMatches (record : ModuleRecord S) (caller : MethodIdentity) :
    ∀ candidate ∈ record.callerMatches caller,
      record.replacements[candidate.2]? = some candidate.1 := by
  intro candidate member
  exact List.mem_zipIdx_iff_getElem?.mp (List.mem_filter.mp member).1

/-- What stands in front of the tries tells of nothing. -/
theorem tellsNothing_in_front {reads : List Effect}
    (areReads : ∀ effect ∈ reads, effect.isMetadataRead = true) :
    ∀ effect ∈ reads ++ [.readBody], effect.TellsNothing :=
  List.forall_mem_append.mpr
    ⟨fun effect member => Effect.tellsNothing_of_isMetadataRead (areReads effect member),
      List.forall_mem_singleton.mpr ⟨rfl, rfl⟩⟩

theorem exists_tells_compile (record : ModuleRecord S) (function : Token)
    (handle : BodyHandle (Session S)) (session : Session S) :
    ∃ effects, Runs (some record.metadata) handle effects session
        (endState (record.compile function handle session)) ∧
      record.Tells function handle session effects (record.compile function handle session) := by
  have identifies : (identify record.metadata function).OnlyReads record.metadata :=
    onlyReads_identify function
  obtain ⟨reads, areReads, runs⟩ :=
    Compiling.runsBy_onScan (identifies handle session.agent ⟨HeldNames.empty, session.world⟩)
  have silent : ∀ effect ∈ reads, effect.TellsNothing := fun effect member =>
    Effect.tellsNothing_of_isMetadataRead (areReads effect member)
  have silentBehind := tellsNothing_in_front areReads
  unfold compile
  cases identified :
      Compiling.onScan HeldNames.empty (identify record.metadata function) session with
  | error error known =>
    rw [identified] at runs
    rw [EStateM.bind_of_error identified]
    exact ⟨reads, runs, .ended silent nofun⟩
  | ok identity known =>
    obtain ⟨caller, buffers⟩ := identity
    rw [identified] at runs
    rw [EStateM.bind_of_ok identified]
    dsimp only
    by_cases noCandidates : (record.callerMatches caller).isEmpty = true
    · rw [if_pos noCandidates]
      exact ⟨reads, runs, .ended silent nofun⟩
    · rw [if_neg noCandidates]
      have runsBehind := runs.append (.step (.readBody known) (.done _))
      cases read : handle.read known with
      | error refusal left =>
        rw [read] at runsBehind
        rw [EStateM.bind_of_error (Compiling.onBody_of_refused read)]
        exact ⟨_, runsBehind, .ended silentBehind nofun⟩
      | ok original opened =>
        rw [read] at runsBehind
        rw [EStateM.bind_of_ok (Compiling.onBody_eq_ok_iff.mpr read)]
        cases decoded : MethodBody.decode original with
        | error fault => exact ⟨_, runsBehind, .ended silentBehind nofun⟩
        | ok body =>
          have decodes : Compiling.ofBody (.ok body) opened = .ok body opened := rfl
          rw [EStateM.bind_of_ok decodes]
          obtain ⟨effects, runsRest, truthful⟩ := tellsTruth_tryReplacements decoded caller handle
            (record.callerMatches caller) (record.places_callerMatches caller) buffers opened
          have opens : record.Opens function handle session caller buffers original body opened :=
            ⟨⟨known, identified, read⟩, decoded⟩
          have runsThrough := runsBehind.append runsRest
          rw [List.append_assoc] at runsThrough
          exact ⟨_, runsThrough, .tried opens areReads truthful⟩

section Tells

variable {record : ModuleRecord S} {function : Token} {handle : BodyHandle (Session S)}
  {session final : Session S} {effects : List Effect}

theorem Tells.of_unchanged {reason : UnchangedReason}
    (tells : record.Tells function handle session effects (.ok (.unchanged reason) final)) :
    ∀ effect ∈ effects, effect.TellsNothing := by
  cases tells with
  | ended silent uncommitted => exact silent
  | @tried _ _ _ _ _ reads effects _ opens areReads truthful =>
    cases truthful with
    | unchanged _ _ silent =>
      rw [List.append_cons]
      exact List.forall_mem_append.mpr ⟨tellsNothing_in_front areReads, silent⟩

theorem Tells.of_error {error : Error}
    (tells : record.Tells function handle session effects (.error error final)) :
    ∀ effect ∈ effects, effect.tellsChange = false := by
  cases tells with
  | ended silent uncommitted => exact fun effect member => (silent effect member).2
  | @tried _ _ _ _ _ reads effects _ opens areReads truthful =>
    cases truthful with
    | failed _ _ noChange =>
      rw [List.append_cons]
      exact List.forall_mem_append.mpr
        ⟨fun effect member => (tellsNothing_in_front areReads effect member).2, noChange⟩

/-- What the effects of a committed compilation tell: of `callSites` calls, those at the positions
of the redirected body, in the order of their offsets, and of the method once the bytes are
written. -/
structure TellsCommit (record : ModuleRecord S) (caller : MethodIdentity) (wrapperRef : Token)
    (changed : List UInt8) (redirected : MethodBody) (positions : List Nat) (key : WrapperKey)
    (callSites : Nat) (effects : List Effect) : Prop where
  redirections : effects.filterMap Effect.redirection? =
    redirectionsAt positions wrapperRef redirected.instructions
  count : (effects.filterMap Effect.redirection?).length = callSites
  ascending : ((effects.filterMap Effect.redirection?).map Prod.fst).Pairwise (· < ·)
  ending : ∃ reads scans,
    effects = reads ++ .readBody :: (scans ++ [.writeBody changed,
      .log (.methodChanged record.moduleId caller.typeName caller.methodName key callSites)]) ∧
    (∀ effect ∈ reads, effect.isMetadataRead = true) ∧
    ∀ effect ∈ scans, effect.isOfScan = true ∧ effect.tellsChange = false

theorem Tells.of_committed {index callSites : Nat} {key : WrapperKey}
    (tells : record.Tells function handle session effects
      (.ok (.committed index key callSites) final)) :
    ∃ caller buffers original body opened replacement wrapperRef changed redirected positions,
      record.Opens function handle session caller buffers original body opened ∧
      record.replacements[index]? = some replacement ∧ replacement.wrapper.key = key ∧
      record.wrapperRef? replacement.wrapper = some wrapperRef ∧
      MethodBody.decode changed = .ok redirected ∧
      CallsRedirected positions (fun _ => wrapperRef) body.instructions redirected.instructions ∧
      record.TellsCommit caller wrapperRef changed redirected positions key callSites effects := by
  cases tells with
  | ended silent uncommitted => exact absurd rfl (uncommitted _ _ _ _)
  | @tried caller _ _ _ _ reads _ _ opens areReads truthful =>
    cases truthful with
    | @committed scans _ replacement wrapperRef changed redirected positions _ found reference
        decoded calls ascending ofScan noChange told =>
      have redirections : (reads ++ .readBody :: (scans ++ [.writeBody changed,
          .log (.methodChanged record.moduleId caller.typeName caller.methodName
            replacement.wrapper.key positions.length)] : List Effect)).filterMap
          Effect.redirection? = redirectionsAt positions wrapperRef redirected.instructions := by
        have inFront := List.filterMap_eq_nil_iff.mpr fun effect member =>
          (tellsNothing_in_front areReads effect member).1
        rw [List.append_cons, List.filterMap_append, inFront, List.filterMap_append, told]
        exact List.append_nil _
      have wellFormed : redirected.WellFormed := (MethodBody.decode_eq_ok_iff.mp decoded).1
      refine ⟨_, _, _, _, _, _, wrapperRef, changed, redirected, positions, opens, found, rfl,
        reference, decoded, calls, redirections, ?_, ?_, reads, scans, rfl, areReads, ?_⟩
      · rw [redirections, redirectionsAt_eq_of_callsRedirected calls, length_redirectionsAt calls]
      · rw [redirections]
        exact offsets_redirectionsAt_ascend wellFormed ascending
      · exact fun effect member => ⟨ofScan effect member, noChange effect member⟩

end Tells

end ModuleRecord

namespace Session

/-- The log of a compilation tells the truth. A compilation is a run of effects, and apart from what
the calls to the body do to it, the log grows by the events of these effects. If the method is left
as it is, none of them is about a redirected call or a changed method. If the compilation fails,
none is about a changed method. If it commits, then the events about redirected calls name the calls
of the written bytes that were redirected, by their growing offsets and with the reference of the
committed replacement, and they are as many as the one event about the method says, which follows
the write. -/
theorem compile_log_tells_truth (moduleId : ModuleId) (function : Token)
    (handle : BodyHandle (Session S)) (session : Session S) :
    ∃ effects,
      Runs (session.agent.metadata? moduleId) handle effects session
        (endState (Session.compile moduleId function handle session)) ∧
      ((∀ before, (endState (handle.read before)).world.events = before.world.events) →
        (∀ bytes before,
          (endState (handle.write bytes before)).world.events = before.world.events) →
        (endState (Session.compile moduleId function handle session)).world.events.toList =
          session.world.events.toList ++ effects.filterMap Effect.event?) ∧
      (∀ reason final,
        Session.compile moduleId function handle session = .ok (.unchanged reason) final →
        ∀ effect ∈ effects, effect.redirection? = none ∧ effect.tellsChange = false) ∧
      (∀ error final, Session.compile moduleId function handle session = .error error final →
        ∀ effect ∈ effects, effect.tellsChange = false) ∧
      ∀ index key callSites final,
        Session.compile moduleId function handle session =
          .ok (.committed index key callSites) final →
        ∃ record caller buffers original body opened replacement wrapperRef changed redirected
            positions,
          session.agent.record? moduleId = some record ∧
          record.Opens function handle session caller buffers original body opened ∧
          record.replacements[index]? = some replacement ∧ replacement.wrapper.key = key ∧
          record.wrapperRef? replacement.wrapper = some wrapperRef ∧
          MethodBody.decode changed = .ok redirected ∧
          CallsRedirected positions (fun _ => wrapperRef) body.instructions
            redirected.instructions ∧
          record.TellsCommit caller wrapperRef changed redirected positions key callSites
            effects := by
  cases tracked : session.agent.record? moduleId with
  | none =>
    rw [compile_of_untracked tracked]
    refine ⟨[], .done session, fun _ _ => (List.append_nil _).symm,
      fun _ _ _ => List.forall_mem_nil _, fun _ _ _ => List.forall_mem_nil _, ?_⟩
    intro index key callSites final impossible
    cases impossible
  | some record =>
    obtain ⟨effects, runs, tells⟩ := record.exists_tells_compile function handle session
    have sameMetadata : session.agent.metadata? moduleId = some record.metadata := by
      rw [Agent.metadata?, tracked]
      rfl
    rw [compile_of_tracked tracked, sameMetadata]
    refine ⟨effects, runs, runs.events_eq, ?_, ?_, ?_⟩
    · intro reason final unchanged
      rw [unchanged] at tells
      exact tells.of_unchanged
    · intro error final failed
      rw [failed] at tells
      exact tells.of_error
    · intro index key callSites final committed
      rw [committed] at tells
      obtain ⟨caller, buffers, original, body, opened, replacement, wrapperRef, changed, redirected,
        positions, committing⟩ := tells.of_committed
      exact ⟨record, caller, buffers, original, body, opened, replacement, wrapperRef, changed,
        redirected, positions, rfl, committing⟩

end Session

namespace OneMethod

/-- Neither replacement redirects a call: the first has no reference, the second finds no call. -/
def missingRecord : ModuleRecord (List UInt8) :=
  { record with replacements := [replacement "Run" "RunOnce", replacement "Stop" "Halt"] }

def missingSession : Session (List UInt8) :=
  { session with
    agent.modules := (∅ : ModuleTable (List UInt8)).insert ⟨7⟩ missingRecord }

theorem record?_missingSession : missingSession.agent.record? ⟨7⟩ = some missingRecord := by
  simp [Agent.record?, missingSession]

theorem compile_missingSession :
    ∃ final, Session.compile ⟨7⟩ ⟨0x06000001⟩ handle missingSession =
      .ok (.unchanged .noMatchingCallSite) final := by
  rw [Session.compile_of_tracked record?_missingSession]
  exact ⟨_, rfl⟩

end OneMethod

/-- A commit, a compilation without a hit, and one that is refused behind its first hit. -/
theorem Session.compile_log_tells_truth_oneMethod :
    (∃ final, ∃ effects : List Effect,
      Session.compile ⟨7⟩ ⟨0x06000001⟩ OneMethod.handle OneMethod.session =
        .ok (.committed 2 ⟨"Start"⟩ 1) final ∧
      final.world.events.toList = effects.filterMap Effect.event? ∧
      (effects.filterMap Effect.redirection?).length = 1) ∧
    (∃ final, ∃ effects : List Effect,
      Session.compile ⟨7⟩ ⟨0x06000001⟩ OneMethod.handle OneMethod.missingSession =
        .ok (.unchanged .noMatchingCallSite) final ∧
      final.world.events.toList = effects.filterMap Effect.event? ∧
      ∀ effect ∈ effects, effect.redirection? = none ∧ effect.tellsChange = false) ∧
    ∃ final, ∃ effects : List Effect,
      Session.compile ⟨7⟩ ⟨0x06000001⟩ OneMethod.handle OneMethod.refusingSession =
        .error (.host (.notFound "GetMemberRefProps" ⟨0x0A000002⟩)) final ∧
      final.world.events = #[.callRedirected 0 "Lib.Task" "Run" ⟨0x0A000009⟩] ∧
      final.world.events.toList = effects.filterMap Effect.event? ∧
      ∀ effect ∈ effects, effect.tellsChange = false := by
  refine ⟨?_, ?_, ?_⟩
  · obtain ⟨final, committed, _⟩ := OneMethod.compile_session
    obtain ⟨effects, _, logged, _, _, commits⟩ := Session.compile_log_tells_truth ⟨7⟩
      ⟨0x06000001⟩ OneMethod.handle OneMethod.session
    have started : OneMethod.session.world.events.toList = [] := rfl
    obtain ⟨_, _, _, _, _, _, _, _, _, _, _, _, _, _, _, _, _, _, tells⟩ :=
      commits 2 ⟨"Start"⟩ 1 final committed
    have events := logged (fun _ => rfl) fun _ _ => rfl
    rw [committed, started, List.nil_append] at events
    exact ⟨final, effects, committed, events, tells.count⟩
  · obtain ⟨final, unchanged⟩ := OneMethod.compile_missingSession
    obtain ⟨effects, _, logged, silent, _, _⟩ := Session.compile_log_tells_truth ⟨7⟩
      ⟨0x06000001⟩ OneMethod.handle OneMethod.missingSession
    have started : OneMethod.missingSession.world.events.toList = [] := rfl
    have events := logged (fun _ => rfl) fun _ _ => rfl
    rw [unchanged, started, List.nil_append] at events
    exact ⟨final, effects, unchanged, events, silent _ final unchanged⟩
  · obtain ⟨final, refused, redirected⟩ := OneMethod.compile_refusingSession
    obtain ⟨effects, _, logged, _, fails, _⟩ := Session.compile_log_tells_truth ⟨7⟩
      ⟨0x06000001⟩ OneMethod.handle OneMethod.refusingSession
    have started : OneMethod.refusingSession.world.events.toList = [] := rfl
    have events := logged (fun _ => rfl) fun _ _ => rfl
    rw [refused, started, List.nil_append] at events
    exact ⟨final, effects, refused, redirected, events, fails _ final refused⟩

end Detour
