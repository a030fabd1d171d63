import Detour.Proofs.Agent.Loading
import Detour.Proofs.CallSite.TwoScans
import Detour.Proofs.Module.Stages

/-!
# Two emissions

If the calls to the metadata of a module come to the same from related states of the host, then a
load does so as well: over related hosts it emits the same references, meets the same refusals,
comes to the same outcome and enters the same record.
-/

namespace Detour

open Detour.Host
open Detour.Rule

variable {S : Type}

namespace Host

/-- States are alike if they are related, and refusals if they are the same in related states. -/
def Likeness.ofHosts (related : S → S → Prop) : Likeness S where
  names := Eq
  names_refl _ := rfl
  hosts := related
  refusals := EStateM.SameFault related

/-- From related states every call to the metadata comes to the same. -/
structure Metadata.Respects (related : S → S → Prop) (metadata : Metadata S) : Prop where
  reads : (Likeness.ofHosts related).ReadsOf metadata
  defineAssemblyRef : ∀ assembly, EStateM.Respects related (metadata.defineAssemblyRef assembly)
  defineTypeRef : ∀ scope typeName,
    EStateM.Respects related (metadata.defineTypeRef scope typeName)
  defineMemberRef : ∀ parent methodName signature,
    EStateM.Respects related (metadata.defineMemberRef parent methodName signature)

end Host

theorem CallSite.ScansAlike.buffers_eq {related : S → S → Prop} {scan other : CallSite.Scan S}
    (alike : CallSite.ScansAlike (.ofHosts related) scan other) : scan.buffers = other.buffers := by
  have sameMethod : scan.buffers.methodName = other.buffers.methodName := alike.methodNames
  have sameType : scan.buffers.typeName = other.buffers.typeName := alike.typeNames
  calc
    scan.buffers = ⟨scan.buffers.methodName, scan.buffers.typeName⟩ := rfl
    _ = ⟨other.buffers.methodName, other.buffers.typeName⟩ := by rw [sameMethod, sameType]
    _ = other.buffers := rfl

/-! ## References -/

/-- Emissions into the same record, over related hosts. -/
structure EmissionsAlike (related : S → S → Prop) (metadata : Metadata S)
    (emission other : Emission S) : Prop where
  record_eq : emission.record = other.record
  metadata_eq : other.record.metadata = metadata
  hosts : related emission.world.host other.world.host

theorem EmissionsAlike.log {related : S → S → Prop} {metadata : Metadata S}
    {emission other : Emission S} (alike : EmissionsAlike related metadata emission other)
    (event otherEvent : Event) :
    EmissionsAlike related metadata ⟨emission.record, emission.world.log event⟩
      ⟨other.record, other.world.log otherEvent⟩ :=
  ⟨alike.record_eq, alike.metadata_eq, alike.hosts⟩

namespace Emission

variable {related : S → S → Prop} {metadata : Metadata S}

theorem respects_onHost (refuse : Refusal → EmissionError) {call : EStateM Refusal S Token}
    (respects : EStateM.Respects related call) :
    EStateM.Respects (EmissionsAlike related metadata) (onHost refuse call) := by
  intro emission other alike
  have runs := respects emission.world.host other.world.host alike.hosts
  cases answered : call emission.world.host with
  | ok token host =>
    obtain ⟨otherHost, otherAnswered, relatedHosts⟩ := runs.exists_ok answered
    simp only [onHost, World.onHost, answered, otherAnswered]
    exact .ok token ⟨alike.record_eq, alike.metadata_eq, relatedHosts⟩
  | error refusal host =>
    obtain ⟨otherRefusal, otherHost, otherAnswered, sameRefusal, relatedHosts⟩ :=
      runs.exists_error answered
    simp only [onHost, World.onHost, answered, otherAnswered]
    exact .error ⟨congrArg refuse sameRefusal, alike.record_eq, alike.metadata_eq, relatedHosts⟩

theorem respects_rememberRow (call : MetadataCall) (token : Token) :
    EStateM.Respects (EmissionsAlike related metadata)
      (do
        modify fun emission => { emission with record := emission.record.rememberRow call token }
        return token : Emitting S Token) := by
  intro emission other alike
  have sameMetadata : (other.record.rememberRow call token).metadata = metadata := by
    rw [← alike.metadata_eq]
    cases call <;> rfl
  have sameRecord : emission.record.rememberRow call token =
      other.record.rememberRow call token := by rw [alike.record_eq]
  exact .ok token ⟨sameRecord, sameMetadata, alike.hosts⟩

/-- A shared row is remembered in both records or in neither. -/
theorem respects_sharedRow (refuse : Refusal → EmissionError) (call : MetadataCall)
    {request : Metadata S → EStateM Refusal S Token}
    (respects : EStateM.Respects related (request metadata)) :
    EStateM.Respects (EmissionsAlike related metadata) (sharedRow refuse call request) := by
  intro emission other alike
  cases known : other.record.row? call with
  | some token =>
    have alsoKnown : emission.record.row? call = some token := by rw [alike.record_eq, known]
    rw [sharedRow_of_known known, sharedRow_of_known alsoKnown]
    exact .ok token alike
  | none =>
    have alsoUnknown : emission.record.row? call = none := by rw [alike.record_eq, known]
    rw [sharedRow_of_unknown known, sharedRow_of_unknown alsoUnknown, alike.record_eq,
      alike.metadata_eq]
    have asks : EStateM.Respects (EmissionsAlike related metadata)
        (onHost refuse (request metadata)) := respects_onHost refuse respects
    exact EStateM.respects_bind asks (respects_rememberRow call) emission other alike

theorem respects_emitMember (wrapper : Wrapper) (parent : Token)
    (respects : EStateM.Respects related
      (metadata.defineMemberRef parent wrapper.methodName wrapper.signature)) :
    EStateM.Respects (EmissionsAlike related metadata) (emitMember wrapper parent) := by
  intro emission other alike
  have asks := respects_onHost (.memberRef wrapper.typeName wrapper.methodName) respects emission
    other alike
  have same : emission.record.metadata = metadata := by rw [alike.record_eq, alike.metadata_eq]
  rw [← same] at asks
  cases asked : onHost (.memberRef wrapper.typeName wrapper.methodName)
      (emission.record.metadata.defineMemberRef parent wrapper.methodName wrapper.signature)
      emission with
  | ok token behind =>
    obtain ⟨otherBehind, otherAsked, alikeBehind⟩ := asks.exists_ok asked
    rw [alike.record_eq] at otherAsked
    rw [emitMember_of_granted asked, emitMember_of_granted otherAsked]
    have sameRecord : { behind.record with
        wrapperRefs := (wrapper.key, token) :: behind.record.wrapperRefs } =
          { otherBehind.record with
            wrapperRefs := (wrapper.key, token) :: otherBehind.record.wrapperRefs } := by
      rw [alikeBehind.record_eq]
    exact .ok token ⟨sameRecord, same ▸ alikeBehind.metadata_eq, alikeBehind.hosts⟩
  | error error behind =>
    obtain ⟨otherError, otherBehind, otherAsked, sameError, alikeBehind⟩ :=
      asks.exists_error asked
    rw [alike.record_eq] at otherAsked
    rw [emitMember_of_refused asked, emitMember_of_refused otherAsked]
    exact .error ⟨sameError, same ▸ alikeBehind⟩

theorem respects_emitWrapper (respects : metadata.Respects related) (wrapper : Wrapper) :
    EStateM.Respects (EmissionsAlike related metadata) (emitWrapper wrapper) := by
  have assemblies : EStateM.Respects (EmissionsAlike related metadata)
      (assemblyRef wrapper.assembly) := by
    rw [assemblyRef_eq_sharedRow]
    exact respects_sharedRow _ _ (respects.defineAssemblyRef wrapper.assembly)
  have types : ∀ scope, EStateM.Respects (EmissionsAlike related metadata)
      (typeRef scope wrapper.typeName) := by
    intro scope
    rw [typeRef_eq_sharedRow]
    exact respects_sharedRow _ _ (respects.defineTypeRef scope wrapper.typeName)
  rw [emitWrapper_eq]
  apply EStateM.respects_bind assemblies
  intro scope
  apply EStateM.respects_bind (types scope)
  intro parent
  exact respects_emitMember wrapper parent (respects.defineMemberRef _ _ _)

theorem respects_wrapperRef (respects : metadata.Respects related) (wrapper : Wrapper) :
    EStateM.Respects (EmissionsAlike related metadata) (wrapperRef wrapper) := by
  intro emission other alike
  cases known : other.record.wrapperRef? wrapper with
  | some token =>
    have alsoKnown : emission.record.wrapperRef? wrapper = some token := by
      rw [alike.record_eq, known]
    rw [wrapperRef_of_known known, wrapperRef_of_known alsoKnown]
    exact .ok token alike
  | none =>
    have alsoUnknown : emission.record.wrapperRef? wrapper = none := by
      rw [alike.record_eq, known]
    rw [wrapperRef_of_unknown known, wrapperRef_of_unknown alsoUnknown]
    exact respects_emitWrapper respects wrapper emission other alike

end Emission

/-! ## Loads -/

namespace ModuleTable

variable {related : S → S → Prop} {metadata : Metadata S}

/-- The same candidates are refused for the same reasons, and the same ones are enabled. -/
theorem alike_prepare (respects : metadata.Respects related) (candidates : List Replacement)
    {emission other : Emission S} (alike : EmissionsAlike related metadata emission other) :
    (prepare candidates emission).1 = (prepare candidates other).1 ∧
      EmissionsAlike related metadata (prepare candidates emission).2
        (prepare candidates other).2 := by
  induction candidates generalizing emission other with
  | nil => exact ⟨rfl, alike⟩
  | cons replacement rest ih =>
    have runs := Emission.respects_wrapperRef respects replacement.wrapper emission other alike
    unfold prepare
    cases outcome : Emission.wrapperRef replacement.wrapper emission with
    | ok token behind =>
      obtain ⟨otherBehind, otherOutcome, alikeBehind⟩ := runs.exists_ok outcome
      rw [otherOutcome]
      have sameRecord : behind.record.enable replacement =
          otherBehind.record.enable replacement := by rw [alikeBehind.record_eq]
      exact ih ⟨sameRecord, alikeBehind.metadata_eq, alikeBehind.hosts⟩
    | error error behind =>
      obtain ⟨otherError, otherBehind, otherOutcome, sameError, alikeBehind⟩ :=
        runs.exists_error outcome
      rw [otherOutcome]
      obtain ⟨sameErrors, alikeRest⟩ := ih (alikeBehind.log _ _)
      refine ⟨?_, alikeRest⟩
      change error :: _ = otherError :: _
      rw [sameErrors, sameError]

/-- What a load of the module shares with another load of it: the outcome, the entry of the module,
and what is related of the host. -/
structure LoadsAlike (related : S → S → Prop) (moduleId : ModuleId)
    (loaded other : LoadOutcome × ModuleTable S × World S) : Prop where
  outcome_eq : loaded.1 = other.1
  entry_eq : loaded.2.1[moduleId]? = other.2.1[moduleId]?
  hosts : related loaded.2.2.host other.2.2.host

theorem alike_publish {table otherTable : ModuleTable S} {emission other : Emission S}
    (alike : EmissionsAlike related metadata emission other) (outcome : LoadOutcome) :
    LoadsAlike related other.record.moduleId (outcome, table.publish emission)
      (outcome, otherTable.publish other) where
  outcome_eq := rfl
  entry_eq := by
    simp only [publish_fst, getElem?_replace, alike.record_eq, if_pos]
  hosts := by
    simp only [host_publish]
    exact alike.hosts

theorem alike_load {notice : LoadNotice S} (respects : notice.metadata.Respects related)
    (catalog : Catalog) {table otherTable : ModuleTable S} {world other : World S}
    (sameEntry : table[notice.moduleId]? = otherTable[notice.moduleId]?)
    (hosts : related world.host other.host) :
    LoadsAlike related notice.moduleId (table.load catalog notice world)
      (otherTable.load catalog notice other) := by
  unfold load
  cases instrumentable : notice.flags.isInstrumentable with
  | false => exact ⟨rfl, sameEntry, hosts⟩
  | true =>
    rw [if_neg (by decide : ¬ (!true) = true), if_neg (by decide : ¬ (!true) = true)]
    by_cases nobody : (catalog.candidates notice.assembly).isEmpty = true
    · simp only [if_pos nobody]
      exact ⟨rfl, sameEntry, hosts⟩
    · simp only [if_neg nobody]
      let candidates := catalog.candidates notice.assembly
      let event := Event.emissionStarted notice.moduleId notice.assembly candidates.length
      let record := ModuleRecord.fresh notice.moduleId notice.assembly notice.metadata
      have begins : EmissionsAlike related notice.metadata ⟨record, world.log event⟩
          ⟨record, other.log event⟩ := ⟨rfl, rfl, hosts⟩
      have prepared := alike_prepare respects candidates begins
      have grown := grows_prepare candidates ⟨record, other.log event⟩
      cases filled : prepare candidates ⟨record, world.log event⟩ with
      | mk errors emission =>
        cases otherFilled : prepare candidates ⟨record, other.log event⟩ with
        | mk otherErrors otherEmission =>
          rw [filled, otherFilled] at prepared
          rw [otherFilled] at grown
          dsimp only at prepared grown
          obtain ⟨sameErrors, alike⟩ := prepared
          obtain ⟨_, _, _, grows⟩ := grown
          have sameModule : otherEmission.record.moduleId = notice.moduleId := grows.moduleId_eq
          simp only [sameErrors, alike.record_eq]
          by_cases nothing : otherEmission.record.replacements.isEmpty = true
          · simp only [if_pos nothing]
            exact ⟨rfl, sameEntry, alike.hosts⟩
          · simp only [if_neg nothing]
            rw [← sameModule]
            exact alike_publish alike _

end ModuleTable

end Detour
