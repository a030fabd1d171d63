import Detour.Proofs.Module.Requests

/-!
# Granted rows

No row is granted twice to the requests on one record. A request that is refused leaves the
references alone and its granted rows to the later requests, so that the next one for the same
wrapper begins with the row that was refused.
-/

namespace Detour

open Detour.Host
open Detour.Rule

variable {S : Type}

/-- Whether a call defines the row of a member. -/
def Host.MetadataCall.definesMember : MetadataCall → Bool
  | .defineMemberRef _ _ _ => true
  | .memberRef _ | .methodDef _ | .typeRef _ | .typeDef _ | .defineAssemblyRef _
  | .defineTypeRef _ _ => false

/-- The shared rows that were granted, in order. -/
def Host.AnsweredCall.grantedRows (calls : List AnsweredCall) : List MetadataCall :=
  (calls.filter fun answered => answered.call.isShared && answered.answer.isOk).map (·.call)

open Host.AnsweredCall (grantedRows)

theorem Host.AnsweredCall.mem_grantedRows_iff {calls : List AnsweredCall} {call : MetadataCall} :
    call ∈ grantedRows calls ↔ call.isShared = true ∧ ∃ token, Granted calls call token := by
  unfold grantedRows
  constructor
  · intro member
    obtain ⟨⟨asked, answer, name⟩, isGranted, rfl⟩ := List.mem_map.mp member
    obtain ⟨answered, shared⟩ := List.mem_filter.mp isGranted
    rw [Bool.and_eq_true] at shared
    cases answer with
    | ok token => exact ⟨shared.1, token, _, answered, rfl, rfl⟩
    | error refusal => cases shared.2
  · rintro ⟨shared, token, answered, member, rfl, isGranted⟩
    apply List.mem_map.mpr
    refine ⟨answered, List.mem_filter.mpr ⟨member, ?_⟩, rfl⟩
    rw [shared, isGranted]
    rfl

theorem Host.AnsweredCall.grantedRows_append (first second : List AnsweredCall) :
    grantedRows (first ++ second) = grantedRows first ++ grantedRows second := by
  rw [grantedRows, List.filter_append, List.map_append]
  rfl

theorem Stage.grantedRows_sublist {earlier made : List AnsweredCall} {call : MetadataCall}
    {answer : Except Refusal Token} (stage : Stage earlier call made answer) :
    (grantedRows made).Sublist [call] := by
  cases stage with
  | remembered granted => exact List.nil_sublist [call]
  | asked ungranted =>
    have asked : ([⟨call, answer, ""⟩] : List AnsweredCall).map (·.call) = [call] := rfl
    rw [← asked]
    exact List.filter_sublist.map _

namespace Emits

variable {earlier made : List AnsweredCall} {wrapper : Wrapper}
  {outcome : Except EmissionError Token}

/-- An emission is granted the row of its assembly and the row of its type at most. -/
theorem grantedRows_sublist (emits : Emits earlier wrapper made outcome) :
    ∃ scope, (grantedRows made).Sublist
      [.defineAssemblyRef wrapper.assembly, .defineTypeRef scope wrapper.typeName] := by
  cases emits with
  | assemblyRefused assembly =>
    exact ⟨Token.nil, assembly.grantedRows_sublist.trans (List.sublist_append_left _ [_])⟩
  | @typeRefused _ _ scope _ assembly type =>
    rw [Host.AnsweredCall.grantedRows_append]
    exact ⟨scope, assembly.grantedRows_sublist.append type.grantedRows_sublist⟩
  | @memberAsked _ _ scope parent assembly type answer =>
    rw [Host.AnsweredCall.grantedRows_append, Host.AnsweredCall.grantedRows_append]
    have nothing : grantedRows
        [⟨.defineMemberRef parent wrapper.methodName wrapper.signature, answer, ""⟩] = [] := rfl
    rw [nothing, List.append_nil]
    exact ⟨scope, assembly.grantedRows_sublist.append type.grantedRows_sublist⟩

theorem nodup_grantedRows (emits : Emits earlier wrapper made outcome) :
    (grantedRows made).Nodup := by
  obtain ⟨scope, sublist⟩ := emits.grantedRows_sublist
  apply sublist.nodup
  simp

/-- What an emission asks for was not granted before. -/
theorem ungranted_of_mem (emits : Emits earlier wrapper made outcome) {answered : AnsweredCall}
    (shared : answered.call.isShared = true) (asked : answered ∈ made) :
    ∀ token, ¬ Granted earlier answered.call token := by
  have ofStage : ∀ {row calls answer}, Stage earlier row calls answer → answered ∈ calls →
      ∀ token, ¬ Granted earlier answered.call token := by
    intro row calls answer stage member
    rw [stage.call_eq_of_mem member]
    exact stage.ungranted_of_mem member
  cases emits with
  | assemblyRefused assembly => exact ofStage assembly asked
  | typeRefused assembly type =>
    rcases List.mem_append.mp asked with forAssembly | forType
    · exact ofStage assembly forAssembly
    · exact ofStage type forType
  | memberAsked assembly type memberAnswer =>
    rcases List.mem_append.mp asked with forShared | forMember
    · rcases List.mem_append.mp forShared with forAssembly | forType
      · exact ofStage assembly forAssembly
      · exact ofStage type forType
    · cases List.mem_singleton.mp forMember
      cases shared

end Emits

/-! ## Rows are granted once -/

namespace Request

/-- The keys of the wrappers whose members were granted a row, in order. -/
def grantedKeys (requests : List Request) : List WrapperKey :=
  requests.flatMap fun request =>
    (request.calls.filter fun answered =>
      answered.call.definesMember && answered.answer.isOk).map fun _ => request.wrapper.key

/-- No row was granted twice: no assembly, no type in a scope, and no member for a key. -/
structure RowsOnce (requests : List Request) : Prop where
  shared : (grantedRows (hostCalls requests)).Nodup
  members : (grantedKeys requests).Nodup

variable {past : List Request} {request : Request}

theorem grantedKeys_append (first second : List Request) :
    grantedKeys (first ++ second) = grantedKeys first ++ grantedKeys second :=
  List.flatMap_append

/-- A request is granted the row of its member exactly if it emits the reference that it gives. -/
theorem Follows.grantedKeys_cases (follows : request.Follows past) :
    grantedKeys [request] = [] ∨
      (∀ token, ¬ Gave past request.wrapper.key token) ∧
        grantedKeys [request] = [request.wrapper.key] ∧ ∃ token, request.outcome = .ok token := by
  have ofStage : ∀ {earlier row calls answer}, Stage earlier row calls answer →
      row.isShared = true → calls.filter (fun answered =>
        answered.call.definesMember && answered.answer.isOk) = [] := by
    intro earlier row calls answer stage shared
    apply List.filter_eq_nil_iff.mpr
    intro answered member
    rw [stage.call_eq_of_mem member]
    cases row with
    | defineAssemblyRef | defineTypeRef => simp [MetadataCall.definesMember]
    | memberRef | methodDef | typeRef | typeDef | defineMemberRef => cases shared
  cases follows with
  | remembered gave => exact Or.inl rfl
  | emitted missing emits =>
    simp only [grantedKeys, List.flatMap_cons, List.flatMap_nil, List.append_nil]
    cases emits with
    | assemblyRefused assembly =>
      rw [ofStage assembly rfl]
      exact Or.inl rfl
    | typeRefused assembly type =>
      rw [List.filter_append, ofStage assembly rfl, ofStage type rfl]
      exact Or.inl rfl
    | memberAsked assembly type answer =>
      rw [List.filter_append, List.filter_append, ofStage assembly rfl, ofStage type rfl]
      cases answer with
      | ok token => exact Or.inr ⟨missing, rfl, token, rfl⟩
      | error refusal => exact Or.inl rfl

theorem RowsOnce.concat (once : RowsOnce past) (follows : request.Follows past)
    (gave : ∀ key ∈ grantedKeys past, ∃ token, Gave past key token) :
    RowsOnce (past ++ [request]) where
  shared := by
    rw [hostCalls_append, hostCalls_singleton, AnsweredCall.grantedRows_append]
    cases follows with
    | remembered =>
      have nothing : grantedRows [] = [] := rfl
      rw [nothing, List.append_nil]
      exact once.shared
    | emitted missing emits =>
      refine List.nodup_append.mpr ⟨once.shared, emits.nodup_grantedRows, ?_⟩
      intro row granted other asked same
      rw [same] at granted
      obtain ⟨shared, token, before⟩ := AnsweredCall.mem_grantedRows_iff.mp granted
      obtain ⟨_, _, answered, now, rfl, _⟩ := AnsweredCall.mem_grantedRows_iff.mp asked
      exact emits.ungranted_of_mem shared now token before
  members := by
    rw [grantedKeys_append]
    rcases follows.grantedKeys_cases with nothing | ⟨missing, one, _⟩
    · rw [nothing, List.append_nil]
      exact once.members
    · rw [one]
      refine List.nodup_append.mpr ⟨once.members, by simp, ?_⟩
      intro key granted other isKey same
      rw [same, List.mem_singleton.mp isKey] at granted
      obtain ⟨token, before⟩ := gave _ granted
      exact missing token before

end Request

namespace ModuleRecord

variable {before middle after record : ModuleRecord S} {past later : List Request}
  {moduleId : ModuleId} {assembly : String} {metadata : Metadata S}

theorem Reaches.gave_of_mem_grantedKeys
    (reached : (fresh moduleId assembly metadata).Reaches past record) {key : WrapperKey}
    (granted : key ∈ Request.grantedKeys past) : ∃ token, Request.Gave past key token := by
  obtain ⟨request, member, ofRequest⟩ := List.mem_flatMap.mp granted
  obtain ⟨earlier, behind, _, follows⟩ := reached.follows_of_mem member
  have ofRequest : key ∈ Request.grantedKeys [request] := by
    rw [Request.grantedKeys, List.flatMap_cons, List.flatMap_nil, List.append_nil]
    exact ofRequest
  rcases follows.grantedKeys_cases with nothing | ⟨_, one, token, gave⟩
  · rw [nothing] at ofRequest
    cases ofRequest
  · rw [one] at ofRequest
    exact ⟨token, request, member, (List.mem_singleton.mp ofRequest).symm, gave⟩

theorem Reaches.rowsOnce (reached : (fresh moduleId assembly metadata).Reaches past record) :
    Request.RowsOnce past := by
  induction reached with
  | start => exact ⟨List.nodup_nil, List.nodup_nil⟩
  | ask reaches wrapper world ih =>
    have follows := (reaches.next wrapper world).1
    exact ih.concat follows fun key granted => reaches.gave_of_mem_grantedKeys granted
  | enable reaches replacement ih => exact ih

end ModuleRecord

/-! ## Where an emission begins -/

namespace Emits

variable {earlier made : List AnsweredCall} {wrapper : Wrapper}
  {outcome : Except EmissionError Token} {record : ModuleRecord S} {scope parent : Token}

theorem begins_at_assembly (emits : Emits earlier wrapper made outcome)
    (ungranted : ∀ token, ¬ Granted earlier (.defineAssemblyRef wrapper.assembly) token) :
    ∃ answer rest, made = ⟨.defineAssemblyRef wrapper.assembly, answer, ""⟩ :: rest := by
  cases emits with
  | assemblyRefused assembly => exact ⟨_, [], assembly.calls_of_ungranted ungranted⟩
  | typeRefused assembly type =>
    rw [assembly.calls_of_ungranted ungranted]
    exact ⟨_, _, rfl⟩
  | memberAsked assembly type answer =>
    rw [assembly.calls_of_ungranted ungranted]
    exact ⟨_, _, rfl⟩

theorem begins_at_type (emits : Emits earlier wrapper made outcome)
    (knows : record.Knows earlier)
    (scopeGranted : Granted earlier (.defineAssemblyRef wrapper.assembly) scope)
    (ungranted : ∀ token, ¬ Granted earlier (.defineTypeRef scope wrapper.typeName) token) :
    ∃ answer rest, made = ⟨.defineTypeRef scope wrapper.typeName, answer, ""⟩ :: rest := by
  cases emits with
  | assemblyRefused assembly => exact absurd scopeGranted (assembly.calls_of_error.2 scope)
  | typeRefused assembly type =>
    obtain ⟨noCall, same⟩ := assembly.eq_of_granted knows rfl scopeGranted
    cases same
    rw [noCall, type.calls_of_ungranted ungranted]
    exact ⟨_, _, rfl⟩
  | memberAsked assembly type answer =>
    obtain ⟨noCall, same⟩ := assembly.eq_of_granted knows rfl scopeGranted
    cases same
    rw [noCall, type.calls_of_ungranted ungranted]
    exact ⟨_, _, rfl⟩

theorem begins_at_member (emits : Emits earlier wrapper made outcome)
    (knows : record.Knows earlier)
    (scopeGranted : Granted earlier (.defineAssemblyRef wrapper.assembly) scope)
    (parentGranted : Granted earlier (.defineTypeRef scope wrapper.typeName) parent) :
    ∃ answer,
      made = [⟨.defineMemberRef parent wrapper.methodName wrapper.signature, answer, ""⟩] := by
  cases emits with
  | assemblyRefused assembly => exact absurd scopeGranted (assembly.calls_of_error.2 scope)
  | typeRefused assembly type =>
    obtain ⟨_, same⟩ := assembly.eq_of_granted knows rfl scopeGranted
    cases same
    exact absurd parentGranted (type.calls_of_error.2 parent)
  | memberAsked assembly type answer =>
    obtain ⟨noScopeCall, same⟩ := assembly.eq_of_granted knows rfl scopeGranted
    cases same
    obtain ⟨noTypeCall, same⟩ := type.eq_of_granted knows rfl parentGranted
    cases same
    rw [noScopeCall, noTypeCall]
    exact ⟨answer, rfl⟩

/-- An emission that is refused ends with the refusal, and the next one for the same wrapper begins
with the row that was refused, unless that was granted to others. -/
theorem resumes {error : EmissionError} (emits : Emits earlier wrapper made outcome)
    (refused : outcome = .error error) :
    ∃ row, made.getLast? = some ⟨row, .error error.refusal, ""⟩ ∧
      ∀ {others again : List AnsweredCall} {next : Except EmissionError Token}
        {record : ModuleRecord S}, record.Knows (earlier ++ made ++ others) →
        (row.isShared = true → ∀ token, ¬ Granted others row token) →
        Emits (earlier ++ made ++ others) wrapper again next →
        ∃ answer rest, again = ⟨row, answer, ""⟩ :: rest := by
  have ungranted : ∀ {row : MetadataCall} {refusal : Refusal} {calls now others},
      Stage earlier row calls (.error refusal) → (∀ token, ¬ Granted now row token) →
      (∀ token, ¬ Granted others row token) →
      ∀ token, ¬ Granted (earlier ++ now ++ others) row token := by
    intro row refusal calls now others stage notNow byOthers token granted
    rcases granted_append_iff.mp granted with soFar | later
    · rcases granted_append_iff.mp soFar with before | justNow
      · exact stage.calls_of_error.2 token before
      · exact notNow token justNow
    · exact byOthers token later
  have before : ∀ others, earlier ⊆ earlier ++ made ++ others := by
    intro others answered member
    exact List.mem_append_left others (List.mem_append_left made member)
  have now : ∀ others, made ⊆ earlier ++ made ++ others := by
    intro others answered member
    exact List.mem_append_left others (List.mem_append_right earlier member)
  cases emits with
  | assemblyRefused assembly =>
    cases refused
    refine ⟨_, by rw [assembly.calls_of_error.1]; rfl, ?_⟩
    intro others again next record knows byOthers retry
    apply retry.begins_at_assembly
    exact ungranted assembly (assembly.not_granted_of_refused _) (byOthers rfl)
  | @typeRefused assemblyCalls typeCalls scope refusal assembly type =>
    cases refused
    refine ⟨.defineTypeRef scope wrapper.typeName, ?_, ?_⟩
    · rw [type.calls_of_error.1, List.getLast?_concat]
      rfl
    · intro others again next record knows byOthers retry
      have scopeGranted := assembly.granted_among (before others) fun answered member =>
        now others (List.mem_append_left typeCalls member)
      apply retry.begins_at_type knows scopeGranted
      apply ungranted type _ (byOthers rfl)
      intro token granted
      rcases granted_append_iff.mp granted with forAssembly | forType
      · cases assembly.call_eq_of_granted forAssembly
      · exact type.not_granted_of_refused _ token forType
  | @memberAsked assemblyCalls typeCalls scope parent assembly type answer =>
    cases answer with
    | ok token => cases refused
    | error refusal =>
      cases refused
      refine ⟨.defineMemberRef parent wrapper.methodName wrapper.signature, ?_, ?_⟩
      · rw [List.getLast?_concat]
        rfl
      · intro others again next record knows _ retry
        have scopeGranted := assembly.granted_among (before others) fun answered member =>
          now others (List.mem_append_left _ (List.mem_append_left typeCalls member))
        have parentGranted := type.granted_among (before others) fun answered member =>
          now others (List.mem_append_left _ (List.mem_append_right assemblyCalls member))
        obtain ⟨answer, one⟩ := retry.begins_at_member knows scopeGranted parentGranted
        exact ⟨answer, [], one⟩

end Emits

/-! ## Refused requests -/

/-- What a refused request leaves behind: the references and the replacements as they were, a memory
of every row that was granted, and the refused row for the next request to begin with, unless that
row or the reference is granted before. -/
structure ModuleRecord.Refuses (before after : ModuleRecord S) (past : List Request)
    (request : Request) (error : EmissionError) : Prop where
  wrapperRefs_eq : after.wrapperRefs = before.wrapperRefs
  replacements_eq : after.replacements = before.replacements
  knows : after.Knows (Request.hostCalls (past ++ [request]))
  resumes : ∃ row, request.calls.getLast? = some ⟨row, .error error.refusal, ""⟩ ∧
    ∀ later resumed, after.Reaches later resumed →
      (∀ token, ¬ Request.Gave later request.wrapper.key token) →
      (row.isShared = true → ∀ token, ¬ Granted (Request.hostCalls later) row token) →
      ∀ world, ∃ answer rest,
        (Emission.request ⟨resumed, world⟩ request.wrapper).calls = ⟨row, answer, ""⟩ :: rest

namespace ModuleRecord

variable {record : ModuleRecord S} {past : List Request} {moduleId : ModuleId} {assembly : String}
  {metadata : Metadata S} {wrapper : Wrapper} {world : World S} {error : EmissionError}
  {after : Emission S}

theorem Reaches.refuses (reached : (fresh moduleId assembly metadata).Reaches past record)
    (refused : Emission.wrapperRef wrapper ⟨record, world⟩ = .error error after) :
    record.Refuses after.record past (Emission.request ⟨record, world⟩ wrapper) error := by
  have follows := reached.next wrapper world
  have asked := reached.ask wrapper world
  rw [refused, endState] at follows asked
  have outcome : (Emission.request ⟨record, world⟩ wrapper).outcome = .error error := by
    rw [Emission.request, refused]
    rfl
  have missing := follows.1.missing_of_error outcome
  have settled : after.settled = record.withoutRows := by
    cases known : record.wrapperRef? wrapper with
    | some token =>
      rw [Emission.wrapperRef_of_known known] at refused
      cases refused
    | none =>
      rw [Emission.wrapperRef_of_unknown known] at refused
      rcases Emission.emitWrapper_cases wrapper ⟨record, world⟩ with kept | emitted
      · obtain ⟨_, _, failed, kept⟩ := kept
        rw [failed] at refused
        cases refused
        exact kept
      · obtain ⟨_, _, succeeded, _⟩ := emitted
        rw [succeeded] at refused
        cases refused
  obtain ⟨row, isLast, resumes⟩ := (follows.1.emits_of_missing missing).resumes outcome
  constructor
  case wrapperRefs_eq => exact congrArg (·.wrapperRefs) settled
  case replacements_eq => exact congrArg (·.replacements) settled
  case knows => exact follows.2.1.rows
  case resumes =>
    refine ⟨row, isLast, ?_⟩
    intro later resumed again notGiven notGranted behind
    have whole := asked.trans again
    have retry := (whole.next wrapper behind).1
    have stillMissing : ∀ token, ¬ Request.Gave
        (past ++ [Emission.request ⟨record, world⟩ wrapper] ++ later) wrapper.key token := by
      intro token gave
      rcases Request.gave_append_iff.mp gave with soFar | since
      · rcases Request.gave_append_iff.mp soFar with before | now
        · exact missing token before
        · rw [Request.gave_singleton_iff, outcome] at now
          cases now.2
      · exact notGiven token since
    have rows := whole.recalls_of_fresh.rows
    have emits := retry.emits_of_missing stillMissing
    rw [Request.hostCalls_append, Request.hostCalls_append, Request.hostCalls_singleton]
      at rows emits
    exact resumes rows notGranted emits

/-- The calls that a request makes follow from the rows that were granted to the earlier requests on
the record, whatever the host answers to each of them. No row is granted twice, and a request that
is refused is taken up again where it was refused. -/
theorem requests_determined
    (reached : (fresh moduleId assembly metadata).Reaches past record) :
    (∀ earlier request later, past = earlier ++ request :: later → request.Follows earlier) ∧
    record.Recalls past ∧ Request.RowsOnce past ∧
    ∀ wrapper world,
      (Emission.request ⟨record, world⟩ wrapper).Follows past ∧
      (⟨record, world⟩ : Emission S).Makes (Emission.wrapperRef wrapper)
        (Emission.wrapperRef wrapper) (Emission.request ⟨record, world⟩ wrapper).calls ∧
      ∀ error after, Emission.wrapperRef wrapper ⟨record, world⟩ = .error error after →
        record.Refuses after.record past (Emission.request ⟨record, world⟩ wrapper) error := by
  refine ⟨?_, reached.recalls_of_fresh, reached.rowsOnce, ?_⟩
  · intro earlier request later split
    exact reached.follows split
  · intro wrapper world
    obtain ⟨follows, _, makes⟩ := reached.next wrapper world
    exact ⟨follows, makes, fun error after refused => reached.refuses refused⟩

end ModuleRecord

/-! A host that refuses the first type reference it is asked for, and grants every other row. -/

namespace HesitantHost

def metadata : Metadata Bool :=
  { Metadata.refusing with
    defineAssemblyRef := fun _ => pure ⟨0x23000001⟩
    defineTypeRef := fun scope _ asked =>
      if asked then .ok ⟨0x01000002⟩ asked
      else .error (.notFound "DefineTypeRefByName" scope) true
    defineMemberRef := fun _ _ _ => pure ⟨0x0A000002⟩ }

def wrapper : Wrapper :=
  ⟨⟨"Wrap", ⟨1, 0, 0, 0⟩, "", none⟩, "Wrap.Task", "Run", [0], ⟨"Run"⟩⟩

def emission : Emission Bool where
  record := ModuleRecord.fresh ⟨7⟩ "App" metadata
  world := ⟨false, #[]⟩

/-- The emission behind the request that is refused. -/
def refused : Emission Bool :=
  endState (Emission.wrapperRef wrapper emission)

end HesitantHost

theorem ModuleRecord.requests_determined_hesitantHost :
    ∃ first second answer rest,
      (fresh ⟨7⟩ "App" HesitantHost.metadata).Reaches [first] HesitantHost.refused.record ∧
      first.calls =
        [⟨.defineAssemblyRef HesitantHost.wrapper.assembly, .ok ⟨0x23000001⟩, ""⟩,
          ⟨.defineTypeRef ⟨0x23000001⟩ "Wrap.Task",
            .error (.notFound "DefineTypeRefByName" ⟨0x23000001⟩), ""⟩] ∧
      first.Follows [] ∧ second.Follows [first] ∧
      Emission.request HesitantHost.refused HesitantHost.wrapper = second ∧
      second.calls = ⟨.defineTypeRef ⟨0x23000001⟩ "Wrap.Task", answer, ""⟩ :: rest := by
  have nothingAsked :
      (fresh ⟨7⟩ "App" HesitantHost.metadata).Reaches [] HesitantHost.emission.record := .start
  have asked := nothingAsked.ask HesitantHost.wrapper HesitantHost.emission.world
  obtain ⟨_, _, _, first⟩ := requests_determined nothingAsked
  obtain ⟨followsNothing, _, refuses⟩ := first HesitantHost.wrapper HesitantHost.emission.world
  obtain ⟨_, _, _, second⟩ := requests_determined asked
  obtain ⟨followsFirst, _, _⟩ := second HesitantHost.wrapper HesitantHost.refused.world
  obtain ⟨row, isLast, resumes⟩ := (refuses _ HesitantHost.refused rfl).resumes
  cases isLast
  obtain ⟨answer, rest, calls⟩ := resumes [] _ .start (by simp [Request.Gave])
    (by simp [Request.hostCalls]) HesitantHost.refused.world
  exact ⟨_, _, answer, rest, asked, rfl, followsNothing, followsFirst, rfl, calls⟩

end Detour
