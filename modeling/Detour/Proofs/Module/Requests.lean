import Detour.Proofs.Module.Stages

/-!
# Requests for references

A record that is asked for the reference to a wrapper makes the calls that are still missing, and
what is missing follows from the earlier requests on that record. The record is only a memory of
them: it holds the shared rows that they were granted and the references that they gave.
-/

namespace Detour

open Detour.Host
open Detour.Rule

variable {S : Type}

/-- A request for the reference to a wrapper, with the calls that it made and what it came to. -/
structure Request where
  wrapper : Wrapper
  calls : List AnsweredCall
  outcome : Except EmissionError Token

namespace Request

/-- The calls of all the requests, in order. -/
def hostCalls (requests : List Request) : List AnsweredCall :=
  requests.flatMap (·.calls)

/-- Some request for the key came to the token. -/
def Gave (requests : List Request) (key : WrapperKey) (token : Token) : Prop :=
  ∃ request ∈ requests, request.wrapper.key = key ∧ request.outcome = .ok token

/-- How a request goes on from the earlier ones: a reference that was given is given again, without
any call, and any other is emitted. -/
inductive Follows (past : List Request) : Request → Prop where
  | remembered {wrapper : Wrapper} {token : Token} (gave : Gave past wrapper.key token) :
    Follows past ⟨wrapper, [], .ok token⟩
  | emitted {wrapper : Wrapper} {made : List AnsweredCall} {outcome : Except EmissionError Token}
    (missing : ∀ token, ¬ Gave past wrapper.key token)
    (emits : Emits (hostCalls past) wrapper made outcome) :
    Follows past ⟨wrapper, made, outcome⟩

variable {past later : List Request} {request : Request} {key : WrapperKey} {token : Token}

theorem Follows.emits_of_missing (follows : request.Follows past)
    (missing : ∀ token, ¬ Gave past request.wrapper.key token) :
    Emits (hostCalls past) request.wrapper request.calls request.outcome := by
  cases follows with
  | remembered gave => exact absurd gave (missing _)
  | emitted _ emits => exact emits

theorem Follows.gave_or_emits (follows : request.Follows past)
    (given : request.outcome = .ok token) :
    Gave past request.wrapper.key token ∨
      Emits (hostCalls past) request.wrapper request.calls request.outcome := by
  cases follows with
  | remembered gave =>
    cases given
    exact Or.inl gave
  | emitted _ emits => exact Or.inr emits

theorem Follows.missing_of_error {error : EmissionError} (follows : request.Follows past)
    (refused : request.outcome = .error error) :
    ∀ token, ¬ Gave past request.wrapper.key token := by
  cases follows with
  | remembered gave => cases refused
  | emitted missing _ => exact missing

theorem hostCalls_append (first second : List Request) :
    hostCalls (first ++ second) = hostCalls first ++ hostCalls second :=
  List.flatMap_append

theorem hostCalls_singleton (request : Request) : hostCalls [request] = request.calls := by
  simp only [hostCalls, List.flatMap_cons, List.flatMap_nil, List.append_nil]

theorem gave_append_iff :
    Gave (past ++ later) key token ↔ Gave past key token ∨ Gave later key token := by
  constructor
  · rintro ⟨request, member, named, gave⟩
    rcases List.mem_append.mp member with before | behind
    · exact Or.inl ⟨request, before, named, gave⟩
    · exact Or.inr ⟨request, behind, named, gave⟩
  · rintro (⟨request, member, named, gave⟩ | ⟨request, member, named, gave⟩)
    · exact ⟨request, List.mem_append_left later member, named, gave⟩
    · exact ⟨request, List.mem_append_right past member, named, gave⟩

theorem gave_singleton_iff :
    Gave [request] key token ↔ request.wrapper.key = key ∧ request.outcome = .ok token := by
  constructor
  · rintro ⟨other, member, named, gave⟩
    rw [← List.mem_singleton.mp member]
    exact ⟨named, gave⟩
  · rintro ⟨named, gave⟩
    exact ⟨request, List.mem_singleton.mpr rfl, named, gave⟩

end Request

/-! ## One request -/

/-- The record remembers what the requests were granted, and nothing else. -/
structure ModuleRecord.Recalls (record : ModuleRecord S) (past : List Request) : Prop where
  rows : record.Knows (Request.hostCalls past)
  references : ∀ key token,
    record.wrapperRefs.lookup key = some token ↔ Request.Gave past key token

namespace Emission

variable {emission : Emission S} {past : List Request} {wrapper : Wrapper}

/-- The request for the reference to a wrapper, with the calls that an account shows. -/
def request (emission : Emission S) (wrapper : Wrapper) : Request where
  wrapper
  calls := (endState (wrapperRef wrapper (emission.accounted []))).world.host.calls
  outcome := outcomeOf (wrapperRef wrapper emission)

theorem calls_request {made : List AnsweredCall}
    (makes : emission.Makes (wrapperRef wrapper) (wrapperRef wrapper) made) :
    (emission.request wrapper).calls = made := by
  rw [request, makes, List.nil_append]
  cases wrapperRef wrapper emission with
  | ok token after => rfl
  | error error after => rfl

theorem request_eq {made : List AnsweredCall} {outcome : Except EmissionError Token}
    (makes : emission.Makes (wrapperRef wrapper) (wrapperRef wrapper) made)
    (comes : outcomeOf (wrapperRef wrapper emission) = outcome) :
    emission.request wrapper = ⟨wrapper, made, outcome⟩ := by
  rw [← calls_request makes, ← comes]
  rfl

theorem makes_wrapperRef_of_known {token : Token}
    (known : emission.record.wrapperRef? wrapper = some token) :
    emission.Makes (wrapperRef wrapper) (wrapperRef wrapper) [] := by
  intro earlier
  have accountedKnown : (emission.accounted earlier).record.wrapperRef? wrapper = some token :=
    known
  rw [wrapperRef_of_known known, wrapperRef_of_known accountedKnown, List.append_nil]
  rfl

theorem makes_wrapperRef_of_unknown {made : List AnsweredCall}
    (unknown : emission.record.wrapperRef? wrapper = none)
    (makes : emission.Makes (emitWrapper wrapper) (emitWrapper wrapper) made) :
    emission.Makes (wrapperRef wrapper) (wrapperRef wrapper) made := by
  intro earlier
  have accountedUnknown : (emission.accounted earlier).record.wrapperRef? wrapper = none :=
    unknown
  rw [wrapperRef_of_unknown unknown, wrapperRef_of_unknown accountedUnknown, makes]

/-- The references behind an emission are the earlier ones and the one that it came to. -/
theorem lookup_emitWrapper_iff (unknown : emission.record.wrapperRef? wrapper = none)
    (key : WrapperKey) (token : Token) :
    (endState (emitWrapper wrapper emission)).record.wrapperRefs.lookup key = some token ↔
      emission.record.wrapperRefs.lookup key = some token ∨
        wrapper.key = key ∧ outcomeOf (emitWrapper wrapper emission) = .ok token := by
  rcases emitWrapper_cases wrapper emission with refused | emitted
  · obtain ⟨error, after, failed, kept⟩ := refused
    have sameRefs : after.record.wrapperRefs = emission.record.wrapperRefs :=
      congrArg (·.wrapperRefs) kept
    rw [failed, endState, sameRefs]
    simp [outcomeOf]
  · obtain ⟨given, after, succeeded, remembered⟩ := emitted
    have refs : after.record.wrapperRefs = (wrapper.key, given) :: emission.record.wrapperRefs :=
      congrArg (·.wrapperRefs) remembered
    rw [succeeded, endState, outcomeOf, refs, Except.ok.injEq]
    by_cases same : key = wrapper.key
    · subst same
      have absent : emission.record.wrapperRefs.lookup wrapper.key = none := unknown
      rw [List.lookup_cons_self, absent]
      simp
    · rw [List.lookup_cons, beq_false_of_ne same]
      simp [Ne.symm same]

/-- A request goes on from the earlier ones, and the record recalls it too. -/
theorem follows_request (emission : Emission S) (recalls : emission.record.Recalls past)
    (wrapper : Wrapper) :
    (emission.request wrapper).Follows past ∧
      (endState (wrapperRef wrapper emission)).record.Recalls (past ++ [emission.request wrapper]) ∧
      emission.Makes (wrapperRef wrapper) (wrapperRef wrapper)
        (emission.request wrapper).calls := by
  cases held : emission.record.wrapperRef? wrapper with
  | some token =>
    have gave : Request.Gave past wrapper.key token := (recalls.references _ _).mp held
    have makes := makes_wrapperRef_of_known held
    have isRequest : emission.request wrapper = ⟨wrapper, [], .ok token⟩ := by
      apply request_eq makes
      rw [wrapperRef_of_known held]
      rfl
    rw [isRequest, wrapperRef_of_known held]
    refine ⟨.remembered gave, ⟨?_, ?_⟩, makes⟩
    · rw [Request.hostCalls_append, Request.hostCalls_singleton, List.append_nil]
      exact recalls.rows
    · intro key other
      rw [Request.gave_append_iff, Request.gave_singleton_iff, ← recalls.references key other]
      constructor
      · intro known
        exact Or.inl known
      · rintro (known | ⟨rfl, same⟩)
        · exact known
        · cases same
          exact held
  | none =>
    have missing : ∀ token, ¬ Request.Gave past wrapper.key token := by
      intro token gave
      have known := (recalls.references _ _).mpr gave
      rw [ModuleRecord.wrapperRef?, known] at held
      cases held
    obtain ⟨made, outcome, emits, performs⟩ := emits_emitWrapper wrapper recalls.rows
    have makes := makes_wrapperRef_of_unknown held performs.makes
    have isRequest : emission.request wrapper = ⟨wrapper, made, outcome⟩ := by
      apply request_eq makes
      rw [wrapperRef_of_unknown held]
      exact performs.outcome_eq
    rw [isRequest, wrapperRef_of_unknown held]
    refine ⟨.emitted missing emits, ⟨?_, ?_⟩, makes⟩
    · rw [Request.hostCalls_append, Request.hostCalls_singleton]
      exact performs.knows
    · intro key token
      rw [lookup_emitWrapper_iff held, Request.gave_append_iff, Request.gave_singleton_iff,
        recalls.references key token, performs.outcome_eq]

end Emission

/-! ## Runs of requests -/

/-- Requests on a record lead to another one. Between them the world may become any other, and
replacements may be enabled. -/
inductive ModuleRecord.Reaches (before : ModuleRecord S) :
    List Request → ModuleRecord S → Prop where
  | start : Reaches before [] before
  | ask {past : List Request} {middle : ModuleRecord S} (reaches : Reaches before past middle)
      (wrapper : Wrapper) (world : World S) :
      Reaches before (past ++ [Emission.request ⟨middle, world⟩ wrapper])
        (endState (Emission.wrapperRef wrapper ⟨middle, world⟩)).record
  | enable {past : List Request} {middle : ModuleRecord S} (reaches : Reaches before past middle)
      (replacement : Replacement) : Reaches before past (middle.enable replacement)

namespace ModuleRecord

variable {before middle after record : ModuleRecord S} {past later : List Request}
  {moduleId : ModuleId} {assembly : String} {metadata : Metadata S}

theorem Reaches.trans (first : before.Reaches past middle) (second : middle.Reaches later after) :
    before.Reaches (past ++ later) after := by
  induction second with
  | start =>
    rw [List.append_nil]
    exact first
  | ask _ wrapper world ih =>
    rw [← List.append_assoc]
    exact ih.ask wrapper world
  | enable _ replacement ih => exact ih.enable replacement

theorem recalls_fresh (moduleId : ModuleId) (assembly : String) (metadata : Metadata S) :
    (fresh moduleId assembly metadata).Recalls [] where
  rows call token shared := by
    cases call with
    | defineAssemblyRef | defineTypeRef => simp [row?, fresh, Request.hostCalls]
    | memberRef | methodDef | typeRef | typeDef | defineMemberRef => cases shared
  references key token := by simp [fresh, Request.Gave]

theorem Reaches.recalls (recalls : before.Recalls past) (reaches : before.Reaches later after) :
    after.Recalls (past ++ later) := by
  induction reaches with
  | start =>
    rw [List.append_nil]
    exact recalls
  | ask reaches wrapper world ih =>
    rw [← List.append_assoc]
    exact (Emission.follows_request ⟨_, world⟩ ih wrapper).2.1
  | enable reaches replacement ih => exact ⟨ih.rows, ih.references⟩

theorem Reaches.recalls_of_fresh
    (reached : (fresh moduleId assembly metadata).Reaches past record) : record.Recalls past := by
  have recalls := Reaches.recalls (recalls_fresh moduleId assembly metadata) reached
  rw [List.nil_append] at recalls
  exact recalls

/-- The next request goes on from those of the run. -/
theorem Reaches.next (reached : (fresh moduleId assembly metadata).Reaches past record)
    (wrapper : Wrapper) (world : World S) :
    (Emission.request ⟨record, world⟩ wrapper).Follows past ∧
      (endState (Emission.wrapperRef wrapper ⟨record, world⟩)).record.Recalls
        (past ++ [Emission.request ⟨record, world⟩ wrapper]) ∧
      (⟨record, world⟩ : Emission S).Makes (Emission.wrapperRef wrapper)
        (Emission.wrapperRef wrapper) (Emission.request ⟨record, world⟩ wrapper).calls :=
  Emission.follows_request ⟨record, world⟩ reached.recalls_of_fresh wrapper

/-- Each request of a run goes on from those before it. -/
theorem Reaches.follows (reached : (fresh moduleId assembly metadata).Reaches past record)
    {earlier behind : List Request} {request : Request}
    (split : past = earlier ++ request :: behind) : request.Follows earlier := by
  induction reached generalizing behind with
  | start =>
    have impossible := congrArg List.length split
    simp at impossible
  | ask reaches wrapper world ih =>
    rcases List.eq_nil_or_concat behind with isLast | ⟨shorter, last, isLater⟩
    · rw [isLast] at split
      obtain ⟨samePast, sameRequest⟩ := List.append_inj' split rfl
      rw [← samePast, ← List.head_eq_of_cons_eq sameRequest]
      exact (reaches.next wrapper world).1
    · rw [isLater, List.concat_eq_append, ← List.cons_append, ← List.append_assoc] at split
      exact ih (List.append_inj' split rfl).1
  | enable reaches replacement ih => exact ih split

theorem Reaches.follows_of_mem (reached : (fresh moduleId assembly metadata).Reaches past record)
    {request : Request} (member : request ∈ past) :
    ∃ earlier behind, past = earlier ++ request :: behind ∧ request.Follows earlier := by
  obtain ⟨earlier, behind, split⟩ := List.append_of_mem member
  exact ⟨earlier, behind, split, reached.follows split⟩

end ModuleRecord

end Detour
