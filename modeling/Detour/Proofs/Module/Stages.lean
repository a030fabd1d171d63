import Detour.Proofs.Host.Account
import Detour.Proofs.Module.Emission

/-!
# Stages of an emission

A reference is emitted in three stages: the row of its assembly, the row of its type, and the row of
the member itself. The first two are shared with other wrappers, and a record that remembers such a
row does not ask for it. So the calls of an emission, and what comes of them, follow from the calls
that were granted before it.
-/

namespace Detour

open Detour.Assembly
open Detour.Host
open Detour.Rule

variable {S : Type}

/-! ## Shared rows -/

/-- Whether a call defines a row that wrappers may share. -/
def Host.MetadataCall.isShared : MetadataCall → Bool
  | .defineAssemblyRef _ | .defineTypeRef _ _ => true
  | .memberRef _ | .methodDef _ | .typeRef _ | .typeDef _ | .defineMemberRef _ _ _ => false

namespace Host

/-- One of the calls is the given one, and was answered with the token. -/
def Granted (calls : List AnsweredCall) (call : MetadataCall) (token : Token) : Prop :=
  ∃ answered ∈ calls, answered.call = call ∧ answered.answer = .ok token

variable {calls later : List AnsweredCall} {answered : AnsweredCall} {call : MetadataCall}
  {token : Token}

@[simp] theorem not_granted_nil (call : MetadataCall) (token : Token) :
    ¬ Granted [] call token := by
  simp [Granted]

theorem granted_singleton_iff :
    Granted [answered] call token ↔ answered.call = call ∧ answered.answer = .ok token := by
  constructor
  · rintro ⟨other, member, granted⟩
    rw [List.mem_singleton.mp member] at granted
    exact granted
  · intro granted
    exact ⟨answered, List.mem_singleton.mpr rfl, granted⟩

theorem granted_append_iff :
    Granted (calls ++ later) call token ↔ Granted calls call token ∨ Granted later call token := by
  simp only [Granted, List.mem_append, or_and_right, exists_or]

theorem Granted.mono (granted : Granted calls call token) (among : calls ⊆ later) :
    Granted later call token := by
  obtain ⟨answered, member, isGranted⟩ := granted
  exact ⟨answered, among member, isGranted⟩

end Host

namespace ModuleRecord

/-- The remembered token of a shared row. -/
def row? (record : ModuleRecord S) : MetadataCall → Option Token
  | .defineAssemblyRef assembly => record.assemblyRefs.lookup assembly
  | .defineTypeRef scope typeName => record.typeRefs.lookup (scope, typeName)
  | .memberRef _ | .methodDef _ | .typeRef _ | .typeDef _ | .defineMemberRef _ _ _ => none

/-- The record that remembers the token of one more shared row. -/
def rememberRow (record : ModuleRecord S) (call : MetadataCall) (token : Token) : ModuleRecord S :=
  match call with
  | .defineAssemblyRef assembly =>
    { record with assemblyRefs := (assembly, token) :: record.assemblyRefs }
  | .defineTypeRef scope typeName =>
    { record with typeRefs := ((scope, typeName), token) :: record.typeRefs }
  | .memberRef _ | .methodDef _ | .typeRef _ | .typeDef _ | .defineMemberRef _ _ _ => record

theorem row?_accounted (record : ModuleRecord S) (call : MetadataCall) :
    record.accounted.row? call = record.row? call := by
  cases call <;> rfl

theorem rememberRow_accounted (record : ModuleRecord S) (call : MetadataCall) (token : Token) :
    record.accounted.rememberRow call token = (record.rememberRow call token).accounted := by
  cases call <;> rfl

theorem row?_rememberRow_self (record : ModuleRecord S) {call : MetadataCall} (token : Token)
    (shared : call.isShared = true) : (record.rememberRow call token).row? call = some token := by
  cases call with
  | defineAssemblyRef assembly => exact List.lookup_cons_self
  | defineTypeRef scope typeName => exact List.lookup_cons_self
  | memberRef | methodDef | typeRef | typeDef | defineMemberRef => cases shared

theorem row?_rememberRow_of_ne (record : ModuleRecord S) {call other : MetadataCall}
    (token : Token) (different : other ≠ call) :
    (record.rememberRow call token).row? other = record.row? other := by
  cases call with
  | defineAssemblyRef assembly =>
    cases other with
    | defineAssemblyRef another =>
      have otherAssembly : another ≠ assembly := fun same => different (by rw [same])
      simp only [rememberRow, row?, List.lookup_cons, beq_false_of_ne otherAssembly]
    | memberRef | methodDef | typeRef | typeDef | defineTypeRef | defineMemberRef => rfl
  | defineTypeRef scope typeName =>
    cases other with
    | defineTypeRef anotherScope anotherName =>
      have otherType : (anotherScope, anotherName) ≠ (scope, typeName) := by
        intro same
        cases same
        exact different rfl
      simp only [rememberRow, row?, List.lookup_cons, beq_false_of_ne otherType]
    | memberRef | methodDef | typeRef | typeDef | defineAssemblyRef | defineMemberRef => rfl
  | memberRef | methodDef | typeRef | typeDef | defineMemberRef => rfl

/-- The shared rows that the record remembers are those that were granted in `calls`. -/
def Knows (record : ModuleRecord S) (calls : List AnsweredCall) : Prop :=
  ∀ call token, call.isShared = true →
    (record.row? call = some token ↔ Granted calls call token)

variable {record : ModuleRecord S} {calls : List AnsweredCall}

/-- No two tokens were granted for the same row. -/
theorem Knows.token_unique (knows : record.Knows calls) {call : MetadataCall}
    {first second : Token} (shared : call.isShared = true)
    (firstGranted : Granted calls call first) (secondGranted : Granted calls call second) :
    first = second := by
  have firstKnown := (knows call first shared).mpr firstGranted
  have secondKnown := (knows call second shared).mpr secondGranted
  exact Option.some.inj (firstKnown.symm.trans secondKnown)

theorem Knows.grant (knows : record.Knows calls) {call : MetadataCall} (token : Token)
    (shared : call.isShared = true) (ungranted : ∀ other, ¬ Granted calls call other) :
    (record.rememberRow call token).Knows (calls ++ [⟨call, .ok token, ""⟩]) := by
  intro asked answer askedShared
  rw [granted_append_iff, granted_singleton_iff]
  by_cases same : asked = call
  · subst same
    rw [row?_rememberRow_self record token shared]
    constructor
    · intro known
      cases known
      exact Or.inr ⟨rfl, rfl⟩
    · rintro (before | ⟨_, now⟩)
      · exact absurd before (ungranted answer)
      · cases now
        rfl
  · rw [row?_rememberRow_of_ne record token same, knows asked answer askedShared]
    constructor
    · intro before
      exact Or.inl before
    · rintro (before | ⟨now, _⟩)
      · exact before
      · exact absurd now.symm same

/-- A call that granted no shared row changes nothing that is to be known. -/
theorem Knows.append_other (knows : record.Knows calls) {answered : AnsweredCall}
    (other : answered.call.isShared = true → ∀ token, answered.answer ≠ .ok token) :
    record.Knows (calls ++ [answered]) := by
  intro call token shared
  rw [knows call token shared, granted_append_iff, granted_singleton_iff]
  constructor
  · intro before
    exact Or.inl before
  · rintro (before | ⟨rfl, now⟩)
    · exact before
    · exact absurd now (other shared token)

end ModuleRecord

/-! ## Stages -/

/-- The calls made for one row, and the answer for it: a row that was granted earlier is not asked
for again, and any other is. -/
inductive Stage (earlier : List AnsweredCall) (call : MetadataCall) :
    List AnsweredCall → Except Refusal Token → Prop where
  | remembered {token : Token} (granted : Granted earlier call token) :
    Stage earlier call [] (.ok token)
  | asked (ungranted : ∀ token, ¬ Granted earlier call token) (answer : Except Refusal Token) :
    Stage earlier call [⟨call, answer, ""⟩] answer

namespace Stage

variable {earlier made : List AnsweredCall} {call : MetadataCall} {answer : Except Refusal Token}

theorem call_eq_of_mem (stage : Stage earlier call made answer) {answered : AnsweredCall}
    (member : answered ∈ made) : answered = ⟨call, answer, ""⟩ := by
  cases stage with
  | remembered granted => cases member
  | asked ungranted => exact List.mem_singleton.mp member

/-- A stage is granted no row but its own. -/
theorem call_eq_of_granted (stage : Stage earlier call made answer) {other : MetadataCall}
    {token : Token} (granted : Granted made other token) : call = other := by
  obtain ⟨answered, member, isOther, _⟩ := granted
  rw [stage.call_eq_of_mem member] at isOther
  exact isOther

/-- The calls for other rows do not matter. -/
theorem of_append {others : List AnsweredCall} (other : ∀ token, ¬ Granted others call token)
    (stage : Stage (earlier ++ others) call made answer) : Stage earlier call made answer := by
  cases stage with
  | remembered granted =>
    rcases granted_append_iff.mp granted with before | now
    · exact .remembered before
    · exact absurd now (other _)
  | asked ungranted =>
    exact .asked (fun token before => ungranted token (granted_append_iff.mpr (.inl before))) answer

theorem granted_among {whole : List AnsweredCall} {token : Token}
    (stage : Stage earlier call made (.ok token)) (before : earlier ⊆ whole)
    (now : made ⊆ whole) : Granted whole call token := by
  cases stage with
  | remembered granted => exact granted.mono before
  | asked ungranted => exact ⟨_, now List.mem_cons_self, rfl, rfl⟩

theorem calls_of_error {refusal : Refusal} (stage : Stage earlier call made (.error refusal)) :
    made = [⟨call, .error refusal, ""⟩] ∧ ∀ token, ¬ Granted earlier call token := by
  cases stage with
  | asked ungranted => exact ⟨rfl, ungranted⟩

theorem not_granted_of_refused {refusal : Refusal}
    (stage : Stage earlier call made (.error refusal)) (row : MetadataCall) (token : Token) :
    ¬ Granted made row token := by
  rw [stage.calls_of_error.1, granted_singleton_iff]
  rintro ⟨_, granted⟩
  cases granted

/-- A row that was granted is remembered with the one token that it was granted with. -/
theorem eq_of_granted {record : ModuleRecord S} {token : Token}
    (stage : Stage earlier call made answer) (knows : record.Knows earlier)
    (shared : call.isShared = true) (granted : Granted earlier call token) :
    made = [] ∧ answer = .ok token := by
  cases stage with
  | remembered before => exact ⟨rfl, by rw [knows.token_unique shared before granted]⟩
  | asked ungranted => exact absurd granted (ungranted token)

theorem ungranted_of_mem (stage : Stage earlier call made answer) {answered : AnsweredCall}
    (member : answered ∈ made) : ∀ token, ¬ Granted earlier call token := by
  cases stage with
  | remembered granted => cases member
  | asked ungranted => exact ungranted

theorem calls_of_ungranted (stage : Stage earlier call made answer)
    (ungranted : ∀ token, ¬ Granted earlier call token) : made = [⟨call, answer, ""⟩] := by
  cases stage with
  | remembered granted => exact absurd granted (ungranted _)
  | asked => rfl

end Stage

namespace Emission

open Detour.EStateM

/-- Whoever knows the shared rows of the calls `earlier` takes a step, which makes the calls `made`,
and then knows the rows of all of them. -/
structure Performs (emission : Emission S) (step : Emitting S Token)
    (accountedStep : Emitting (Accounted S) Token) (earlier made : List AnsweredCall)
    (outcome : Except EmissionError Token) : Prop where
  outcome_eq : outcomeOf (step emission) = outcome
  knows : (endState (step emission)).record.Knows (earlier ++ made)
  makes : emission.Makes step accountedStep made

section Sequences

variable {emission middle : Emission S} {first : Emitting S Token}
  {accountedFirst : Emitting (Accounted S) Token} {continuation : Token → Emitting S Token}
  {accountedContinuation : Token → Emitting (Accounted S) Token}
  {earlier made later : List AnsweredCall} {token : Token}

theorem Performs.bind {outcome : Except EmissionError Token}
    (performs : emission.Performs first accountedFirst earlier made (.ok token))
    (succeeds : first emission = .ok token middle)
    (continues : middle.Performs (continuation token) (accountedContinuation token)
      (earlier ++ made) later outcome) :
    emission.Performs (first >>= continuation) (accountedFirst >>= accountedContinuation) earlier
      (made ++ later) outcome where
  outcome_eq := by
    rw [bind_of_ok succeeds]
    exact continues.outcome_eq
  knows := by
    rw [bind_of_ok succeeds, ← List.append_assoc]
    exact continues.knows
  makes := performs.makes.bind succeeds continues.makes

theorem Performs.bind_of_error {error : EmissionError}
    (performs : emission.Performs first accountedFirst earlier made (.error error))
    (fails : first emission = .error error middle) :
    emission.Performs (first >>= continuation) (accountedFirst >>= accountedContinuation) earlier
      made (.error error) where
  outcome_eq := by
    rw [EStateM.bind_of_error fails]
    rfl
  knows := by
    have knows := performs.knows
    rw [fails] at knows
    rw [EStateM.bind_of_error fails]
    exact knows
  makes := performs.makes.bind_of_error fails

end Sequences

/-- The token of a shared row, asked for on first use. -/
def sharedRow (refuse : Refusal → EmissionError) (call : MetadataCall)
    (request : Metadata S → EStateM Refusal S Token) : Emitting S Token := do
  let record := (← get).record
  match record.row? call with
  | some token => return token
  | none =>
    let token ← onHost refuse (request record.metadata)
    modify fun emission => { emission with record := emission.record.rememberRow call token }
    return token

theorem assemblyRef_eq_sharedRow (assembly : AssemblyName) :
    assemblyRef (S := S) assembly = sharedRow (.assemblyRef assembly.render)
      (.defineAssemblyRef assembly) (·.defineAssemblyRef assembly) :=
  rfl

theorem typeRef_eq_sharedRow (scope : Token) (typeName : String) :
    typeRef (S := S) scope typeName = sharedRow (.typeRef typeName)
      (.defineTypeRef scope typeName) (·.defineTypeRef scope typeName) :=
  rfl

section SharedRow

variable {refuse : Refusal → EmissionError} {call : MetadataCall} {token : Token}
  {request : Metadata S → EStateM Refusal S Token}
  {accountedRequest : Metadata (Accounted S) → EStateM Refusal (Accounted S) Token}
  {emission behind : Emission S} {made : List AnsweredCall}

theorem sharedRow_of_known (known : emission.record.row? call = some token) :
    sharedRow refuse call request emission = .ok token emission := by
  have found : (get : Emitting S (Emission S)) emission = .ok emission emission := rfl
  unfold sharedRow
  rw [bind_of_ok found]
  rw [known]
  rfl

theorem sharedRow_of_unknown (unknown : emission.record.row? call = none) :
    sharedRow refuse call request emission =
      (onHost refuse (request emission.record.metadata) >>= fun token => do
        modify fun emission => { emission with record := emission.record.rememberRow call token }
        return token) emission := by
  have found : (get : Emitting S (Emission S)) emission = .ok emission emission := rfl
  unfold sharedRow
  rw [bind_of_ok found]
  rw [unknown]

theorem sharedRow_of_granted (unknown : emission.record.row? call = none)
    (granted : onHost refuse (request emission.record.metadata) emission = .ok token behind) :
    sharedRow refuse call request emission =
      .ok token { behind with record := behind.record.rememberRow call token } := by
  rw [sharedRow_of_unknown unknown, bind_of_ok granted]
  rfl

theorem sharedRow_of_refused {error : EmissionError} (unknown : emission.record.row? call = none)
    (refused : onHost refuse (request emission.record.metadata) emission = .error error behind) :
    sharedRow refuse call request emission = .error error behind := by
  rw [sharedRow_of_unknown unknown, bind_of_error refused]

theorem makes_sharedRow_of_known (known : emission.record.row? call = some token) :
    emission.Makes (sharedRow refuse call request) (sharedRow refuse call accountedRequest) [] := by
  intro earlier
  have accountedKnown : (emission.accounted earlier).record.row? call = some token :=
    (emission.record.row?_accounted call).trans known
  rw [sharedRow_of_known known, sharedRow_of_known accountedKnown, mapState, List.append_nil]

theorem makes_sharedRow_of_unknown (unknown : emission.record.row? call = none)
    (makes : emission.Makes (onHost refuse (request emission.record.metadata))
      (onHost refuse (accountedRequest emission.record.metadata.accounted)) made) :
    emission.Makes (sharedRow refuse call request) (sharedRow refuse call accountedRequest)
      made := by
  intro earlier
  have accountedUnknown : (emission.accounted earlier).record.row? call = none :=
    (emission.record.row?_accounted call).trans unknown
  have accountedRuns := makes earlier
  cases asked : onHost refuse (request emission.record.metadata) emission with
  | ok token behind =>
    rw [asked, mapState] at accountedRuns
    rw [sharedRow_of_granted unknown asked, sharedRow_of_granted accountedUnknown accountedRuns,
      mapState]
    simp only [accounted, ModuleRecord.rememberRow_accounted]
  | error error behind =>
    rw [asked, mapState] at accountedRuns
    rw [sharedRow_of_refused unknown asked, sharedRow_of_refused accountedUnknown accountedRuns,
      mapState]

/-- A row that was not granted is asked for, and known if it is granted now. -/
theorem ask_sharedRow (refuse : Refusal → EmissionError) (call : MetadataCall)
    (request : Metadata S → EStateM Refusal S Token)
    (accountedRequest : Metadata (Accounted S) → EStateM Refusal (Accounted S) Token)
    {earlier : List AnsweredCall} (knows : emission.record.Knows earlier)
    (shared : call.isShared = true) (unknown : emission.record.row? call = none)
    (ungranted : ∀ token, ¬ Granted earlier call token)
    (notes : accountedRequest emission.record.metadata.accounted =
      noted call (request emission.record.metadata)) :
    ∃ answer,
      emission.Performs (sharedRow refuse call request) (sharedRow refuse call accountedRequest)
        earlier [⟨call, answer, ""⟩] (answer.mapError refuse) := by
  obtain ⟨answer, outcome, sameRecord, makes⟩ :=
    makes_onHost refuse call (request emission.record.metadata) emission
  rw [← notes] at makes
  cases asked : onHost refuse (request emission.record.metadata) emission with
  | ok token behind =>
    rw [asked] at outcome sameRecord
    have kept : behind.record = emission.record := sameRecord
    cases answer with
    | error refusal => cases outcome
    | ok granted =>
      cases outcome
      refine ⟨.ok token, ?_, ?_, makes_sharedRow_of_unknown unknown makes⟩
      · rw [sharedRow_of_granted unknown asked]
        rfl
      · rw [sharedRow_of_granted unknown asked, endState, kept]
        exact knows.grant token shared ungranted
  | error error behind =>
    rw [asked] at outcome sameRecord
    have kept : behind.record = emission.record := sameRecord
    cases answer with
    | ok granted => cases outcome
    | error refusal =>
      refine ⟨.error refusal, ?_, ?_, makes_sharedRow_of_unknown unknown makes⟩
      · rw [sharedRow_of_refused unknown asked]
        exact outcome
      · rw [sharedRow_of_refused unknown asked, endState, kept]
        apply knows.append_other
        intro _ token same
        cases same

/-- Whoever knows the shared rows asks for one that is missing, and then knows it too. -/
theorem stage_sharedRow (refuse : Refusal → EmissionError) (call : MetadataCall)
    (request : Metadata S → EStateM Refusal S Token)
    (accountedRequest : Metadata (Accounted S) → EStateM Refusal (Accounted S) Token)
    {earlier : List AnsweredCall} (knows : emission.record.Knows earlier)
    (shared : call.isShared = true)
    (notes : accountedRequest emission.record.metadata.accounted =
      noted call (request emission.record.metadata)) :
    ∃ made answer, Stage earlier call made answer ∧
      emission.Performs (sharedRow refuse call request) (sharedRow refuse call accountedRequest)
        earlier made (answer.mapError refuse) := by
  cases held : emission.record.row? call with
  | some token =>
    have granted := (knows call token shared).mp held
    refine ⟨[], .ok token, .remembered granted, ?_, ?_, makes_sharedRow_of_known held⟩
    · rw [sharedRow_of_known held]
      rfl
    · rw [sharedRow_of_known held, List.append_nil]
      exact knows
  | none =>
    have ungranted : ∀ token, ¬ Granted earlier call token := by
      intro token granted
      have known := (knows call token shared).mpr granted
      rw [held] at known
      cases known
    obtain ⟨answer, performs⟩ :=
      ask_sharedRow refuse call request accountedRequest knows shared held ungranted notes
    exact ⟨[⟨call, answer, ""⟩], answer, .asked ungranted answer, performs⟩

theorem stage_assemblyRef (assembly : AssemblyName) {earlier : List AnsweredCall}
    (knows : emission.record.Knows earlier) :
    ∃ made answer, Stage earlier (.defineAssemblyRef assembly) made answer ∧
      emission.Performs (assemblyRef assembly) (assemblyRef assembly) earlier made
        (answer.mapError (.assemblyRef assembly.render)) := by
  rw [assemblyRef_eq_sharedRow, assemblyRef_eq_sharedRow]
  exact stage_sharedRow (.assemblyRef assembly.render) (.defineAssemblyRef assembly)
    (·.defineAssemblyRef assembly) (·.defineAssemblyRef assembly) knows rfl rfl

theorem stage_typeRef (scope : Token) (typeName : String) {earlier : List AnsweredCall}
    (knows : emission.record.Knows earlier) :
    ∃ made answer, Stage earlier (.defineTypeRef scope typeName) made answer ∧
      emission.Performs (typeRef scope typeName) (typeRef scope typeName) earlier made
        (answer.mapError (.typeRef typeName)) := by
  rw [typeRef_eq_sharedRow, typeRef_eq_sharedRow]
  exact stage_sharedRow (.typeRef typeName) (.defineTypeRef scope typeName)
    (·.defineTypeRef scope typeName) (·.defineTypeRef scope typeName) knows rfl rfl

end SharedRow

end Emission

/-! ## Emitting a reference -/

/-- The calls that emit the reference to a wrapper, and what comes of them: its assembly, its type
and the member itself, up to the first row that is refused. -/
inductive Emits (earlier : List AnsweredCall) (wrapper : Wrapper) :
    List AnsweredCall → Except EmissionError Token → Prop where
  | assemblyRefused {assemblyCalls : List AnsweredCall} {refusal : Refusal}
      (assembly : Stage earlier (.defineAssemblyRef wrapper.assembly) assemblyCalls
        (.error refusal)) :
      Emits earlier wrapper assemblyCalls (.error (.assemblyRef wrapper.assembly.render refusal))
  | typeRefused {assemblyCalls typeCalls : List AnsweredCall} {scope : Token} {refusal : Refusal}
      (assembly : Stage earlier (.defineAssemblyRef wrapper.assembly) assemblyCalls (.ok scope))
      (type : Stage earlier (.defineTypeRef scope wrapper.typeName) typeCalls (.error refusal)) :
      Emits earlier wrapper (assemblyCalls ++ typeCalls)
        (.error (.typeRef wrapper.typeName refusal))
  | memberAsked {assemblyCalls typeCalls : List AnsweredCall} {scope parent : Token}
      (assembly : Stage earlier (.defineAssemblyRef wrapper.assembly) assemblyCalls (.ok scope))
      (type : Stage earlier (.defineTypeRef scope wrapper.typeName) typeCalls (.ok parent))
      (answer : Except Refusal Token) :
      Emits earlier wrapper
        (assemblyCalls ++ typeCalls ++
          [⟨.defineMemberRef parent wrapper.methodName wrapper.signature, answer, ""⟩])
        (answer.mapError (.memberRef wrapper.typeName wrapper.methodName))

namespace Emission

open Detour.EStateM

variable {emission behind : Emission S} {earlier : List AnsweredCall}

/-- The last stage of an emission. -/
def emitMember (wrapper : Wrapper) (parent : Token) : Emitting S Token := do
  let record := (← get).record
  let token ← onHost (.memberRef wrapper.typeName wrapper.methodName)
    (record.metadata.defineMemberRef parent wrapper.methodName wrapper.signature)
  modify fun emission =>
    { emission with
      record.wrapperRefs := (wrapper.key, token) :: emission.record.wrapperRefs
      world := emission.world.log (.wrapperEmitted record.moduleId wrapper.key token) }
  return token

theorem emitWrapper_eq (wrapper : Wrapper) :
    emitWrapper (S := S) wrapper =
      assemblyRef wrapper.assembly >>= fun scope =>
        typeRef scope wrapper.typeName >>= fun parent => emitMember wrapper parent :=
  rfl

theorem emitMember_of_granted {wrapper : Wrapper} {parent token : Token}
    (granted : onHost (.memberRef wrapper.typeName wrapper.methodName)
      (emission.record.metadata.defineMemberRef parent wrapper.methodName wrapper.signature)
      emission = .ok token behind) :
    emitMember wrapper parent emission = .ok token
      { behind with
        record.wrapperRefs := (wrapper.key, token) :: behind.record.wrapperRefs
        world :=
          behind.world.log (.wrapperEmitted emission.record.moduleId wrapper.key token) } := by
  have found : (get : Emitting S (Emission S)) emission = .ok emission emission := rfl
  unfold emitMember
  rw [bind_of_ok found, bind_of_ok granted]
  rfl

theorem emitMember_of_refused {wrapper : Wrapper} {parent : Token} {error : EmissionError}
    (refused : onHost (.memberRef wrapper.typeName wrapper.methodName)
      (emission.record.metadata.defineMemberRef parent wrapper.methodName wrapper.signature)
      emission = .error error behind) :
    emitMember wrapper parent emission = .error error behind := by
  have found : (get : Emitting S (Emission S)) emission = .ok emission emission := rfl
  unfold emitMember
  rw [bind_of_ok found, bind_of_error refused]

theorem stage_emitMember (wrapper : Wrapper) (parent : Token)
    (knows : emission.record.Knows earlier) :
    ∃ answer : Except Refusal Token,
      emission.Performs (emitMember wrapper parent) (emitMember wrapper parent) earlier
        [⟨.defineMemberRef parent wrapper.methodName wrapper.signature, answer, ""⟩]
        (answer.mapError (.memberRef wrapper.typeName wrapper.methodName)) := by
  let request :=
    emission.record.metadata.defineMemberRef parent wrapper.methodName wrapper.signature
  obtain ⟨answer, outcome, sameRecord, makes⟩ :=
    makes_onHost (.memberRef wrapper.typeName wrapper.methodName)
      (.defineMemberRef parent wrapper.methodName wrapper.signature) request emission
  have unshared : emission.record.Knows
      (earlier ++
        [⟨.defineMemberRef parent wrapper.methodName wrapper.signature, answer, ""⟩]) := by
    apply knows.append_other
    intro shared
    cases shared
  cases asked : onHost (.memberRef wrapper.typeName wrapper.methodName) request emission with
  | ok token behind =>
    rw [asked] at outcome sameRecord
    refine ⟨answer, ?_, ?_, ?_⟩
    · rw [emitMember_of_granted asked]
      exact outcome
    · rw [emitMember_of_granted asked]
      rw [← show behind.record = emission.record from sameRecord] at unshared
      exact unshared
    · intro calls
      have accountedRuns := makes calls
      rw [asked, mapState] at accountedRuns
      rw [emitMember_of_granted asked, emitMember_of_granted accountedRuns]
      rfl
  | error error behind =>
    rw [asked] at outcome sameRecord
    refine ⟨answer, ?_, ?_, ?_⟩
    · rw [emitMember_of_refused asked]
      exact outcome
    · rw [emitMember_of_refused asked]
      rw [← show behind.record = emission.record from sameRecord] at unshared
      exact unshared
    · intro calls
      have accountedRuns := makes calls
      rw [asked, mapState] at accountedRuns
      rw [emitMember_of_refused asked, emitMember_of_refused accountedRuns]
      rfl

/-- What emitting a reference asks for follows from what was granted before. -/
theorem emits_emitWrapper (wrapper : Wrapper) (knows : emission.record.Knows earlier) :
    ∃ made outcome, Emits earlier wrapper made outcome ∧
      emission.Performs (emitWrapper wrapper) (emitWrapper wrapper) earlier made outcome := by
  rw [emitWrapper_eq, emitWrapper_eq]
  obtain ⟨assemblyCalls, assemblyAnswer, assemblyStage, assemblyPerforms⟩ :=
    stage_assemblyRef wrapper.assembly knows
  cases assemblyAnswer with
  | error refusal =>
    have fails := eq_error_of_outcomeOf assemblyPerforms.outcome_eq
    exact ⟨_, _, .assemblyRefused assemblyStage, assemblyPerforms.bind_of_error fails⟩
  | ok scope =>
    have scopeGiven := eq_ok_of_outcomeOf assemblyPerforms.outcome_eq
    obtain ⟨typeCalls, typeAnswer, typeStage, typePerforms⟩ :=
      stage_typeRef scope wrapper.typeName assemblyPerforms.knows
    -- The call for the assembly says nothing about the type.
    have typeStage :
        Stage earlier (.defineTypeRef scope wrapper.typeName) typeCalls typeAnswer := by
      apply typeStage.of_append
      intro token granted
      cases assemblyStage.call_eq_of_granted granted
    cases typeAnswer with
    | error refusal =>
      have fails := eq_error_of_outcomeOf typePerforms.outcome_eq
      exact ⟨_, _, .typeRefused assemblyStage typeStage,
        assemblyPerforms.bind scopeGiven (typePerforms.bind_of_error fails)⟩
    | ok parent =>
      have parentGiven := eq_ok_of_outcomeOf typePerforms.outcome_eq
      obtain ⟨answer, memberPerforms⟩ := stage_emitMember wrapper parent typePerforms.knows
      refine ⟨_, _, .memberAsked assemblyStage typeStage answer, ?_⟩
      rw [List.append_assoc]
      exact assemblyPerforms.bind scopeGiven (typePerforms.bind parentGiven memberPerforms)

end Emission

end Detour
