import Detour.Proofs.Agent.TwoSessions
import Mathlib.Logic.Function.Basic

/-!
# Handles

A host gives out many handles to metadata. Every handle has a state of its own, which no call
through another handle sees or changes. The body of a method is there while the method is compiled;
it has a state of its own as well.
-/

namespace Detour

open Detour.Host

variable {ι T U α : Type}

namespace Host

/-- The states of all handles, and that of the body. -/
@[ext]
structure Hosts (ι T U : Type) where
  handles : ι → T
  body : U

end Host

/-! ## The body -/

section Body

namespace Host

def Hosts.setBody (hosts : Hosts ι T U) (body : U) : Hosts ι T U :=
  { hosts with body }

/-- Related hosts agree on the body, and stay related if it gets the same state in both. -/
structure SeesBody (related : Hosts ι T U → Hosts ι T U → Prop) : Prop where
  body_eq : ∀ hosts other, related hosts other → hosts.body = other.body
  setBody : ∀ hosts other body, related hosts other →
    related (hosts.setBody body) (other.setBody body)

end Host

def Session.setBody (session : Session (Hosts ι T U)) (body : U) : Session (Hosts ι T U) :=
  { session with world.host := session.world.host.setBody body }

def callBody (call : EStateM Refusal U α) : EStateM Refusal (Session (Hosts ι T U)) α :=
  fun session => mapState session.setBody (call session.world.host.body)

/-- The body of the method that is compiled. Its calls act on nothing else. -/
def BodyHandle.inSession (handle : BodyHandle U) : BodyHandle (Session (Hosts ι T U)) where
  read := callBody handle.read
  write bytes := callBody (handle.write bytes)

theorem keeps_callBody (call : EStateM Refusal U α) :
    EStateM.Keeps Session.agent (callBody call : EStateM Refusal (Session (Hosts ι T U)) α) := by
  intro session
  unfold callBody
  cases call session.world.host.body with
  | ok value body => rfl
  | error refusal body => rfl

theorem BodyHandle.keepsAgent_inSession (handle : BodyHandle U) :
    (handle.inSession : BodyHandle (Session (Hosts ι T U))).KeepsAgent :=
  ⟨keeps_callBody handle.read, fun bytes => keeps_callBody (handle.write bytes)⟩

variable {related : Hosts ι T U → Hosts ι T U → Prop} {moduleId : ModuleId}

theorem SessionsAlike.setBody {session other : Session (Hosts ι T U)} (sees : SeesBody related)
    (alike : SessionsAlike related moduleId session other) (body : U) :
    SessionsAlike related moduleId (session.setBody body) (other.setBody body) :=
  alike.withWorlds (sees.setBody _ _ body alike.hosts)

theorem respects_callBody (sees : SeesBody related) (call : EStateM Refusal U α) :
    EStateM.Respects (SessionsAlike related moduleId) (callBody call) := by
  intro session other alike
  have sameBody := sees.body_eq _ _ alike.hosts
  unfold callBody
  rw [sameBody]
  cases call other.world.host.body with
  | ok value body => exact .ok value (alike.setBody sees body)
  | error refusal body => exact .error ⟨rfl, alike.setBody sees body⟩

theorem BodyHandle.respects_inSession (sees : SeesBody related) (handle : BodyHandle U) :
    BodyHandle.Respects (SessionsAlike related moduleId) handle.inSession :=
  ⟨respects_callBody sees handle.read, fun bytes => respects_callBody sees (handle.write bytes)⟩

end Body

/-! ## Metadata -/

section Handles

variable [DecidableEq ι]

namespace Host

def Hosts.setHandle (hosts : Hosts ι T U) (handle : ι) (state : T) : Hosts ι T U :=
  { hosts with handles := Function.update hosts.handles handle state }

theorem Hosts.handles_setHandle_of_ne (hosts : Hosts ι T U) {handle other : ι}
    (isOther : other ≠ handle) (state : T) :
    (hosts.setHandle handle state).handles other = hosts.handles other := by
  simp [setHandle, isOther]

/-- Related hosts agree on the handle, and stay related if it gets the same state in both. -/
structure SeesHandle (related : Hosts ι T U → Hosts ι T U → Prop) (handle : ι) : Prop where
  handle_eq : ∀ hosts other, related hosts other → hosts.handles handle = other.handles handle
  setHandle : ∀ hosts other state, related hosts other →
    related (hosts.setHandle handle state) (other.setHandle handle state)

def NameRead.through (handle : ι) (read : NameRead T α) : NameRead (Hosts ι T U) α := fun slot =>
  mapState (fun left => ⟨left.name, slot.host.setHandle handle left.host⟩)
    (read ⟨slot.name, slot.host.handles handle⟩)

def requestThrough (handle : ι) (request : EStateM Refusal T α) :
    EStateM Refusal (Hosts ι T U) α := fun hosts =>
  mapState (hosts.setHandle handle) (request (hosts.handles handle))

/-- The metadata behind a handle. -/
def Metadata.through (handle : ι) (metadata : Metadata T) : Metadata (Hosts ι T U) where
  memberRef token := NameRead.through handle (metadata.memberRef token)
  methodDef token := NameRead.through handle (metadata.methodDef token)
  typeRef token := NameRead.through handle (metadata.typeRef token)
  typeDef token := NameRead.through handle (metadata.typeDef token)
  defineAssemblyRef assembly := requestThrough handle (metadata.defineAssemblyRef assembly)
  defineTypeRef scope typeName := requestThrough handle (metadata.defineTypeRef scope typeName)
  defineMemberRef parent methodName signature :=
    requestThrough handle (metadata.defineMemberRef parent methodName signature)

variable {related : Hosts ι T U → Hosts ι T U → Prop} {handle : ι}

theorem SeesHandle.reads (sees : SeesHandle related handle) (read : NameRead T α) :
    (Likeness.ofHosts related).Reads (NameRead.through handle read) := by
  rintro ⟨name, hosts⟩ ⟨otherName, other⟩ ⟨sameName, relatedHosts⟩
  have sameState := sees.handle_eq hosts other relatedHosts
  have sameName : name = otherName := sameName
  unfold NameRead.through
  dsimp only
  rw [sameName, sameState]
  cases read ⟨otherName, other.handles handle⟩ with
  | ok value left => exact .ok value ⟨rfl, sees.setHandle hosts other left.host relatedHosts⟩
  | error refusal left => exact .error ⟨rfl, sees.setHandle hosts other left.host relatedHosts⟩

theorem SeesHandle.requests (sees : SeesHandle related handle) (request : EStateM Refusal T α) :
    EStateM.Respects related (requestThrough handle request) := by
  intro hosts other relatedHosts
  have sameState := sees.handle_eq hosts other relatedHosts
  unfold requestThrough
  rw [sameState]
  cases request (other.handles handle) with
  | ok value state => exact .ok value (sees.setHandle hosts other state relatedHosts)
  | error refusal state => exact .error ⟨rfl, sees.setHandle hosts other state relatedHosts⟩

/-- What is called through a handle comes to the same from hosts whose relation sees the handle. -/
theorem SeesHandle.respects_through (sees : SeesHandle related handle) (metadata : Metadata T) :
    (metadata.through handle).Respects related where
  reads := ⟨fun token => sees.reads (metadata.memberRef token),
    fun token => sees.reads (metadata.methodDef token),
    fun token => sees.reads (metadata.typeRef token),
    fun token => sees.reads (metadata.typeDef token)⟩
  defineAssemblyRef assembly := sees.requests (metadata.defineAssemblyRef assembly)
  defineTypeRef scope typeName := sees.requests (metadata.defineTypeRef scope typeName)
  defineMemberRef parent methodName signature :=
    sees.requests (metadata.defineMemberRef parent methodName signature)

end Host

def LoadNotice.through (handle : ι) (notice : LoadNotice T) : LoadNotice (Hosts ι T U) :=
  ⟨notice.moduleId, notice.assembly, notice.flags, notice.metadata.through handle⟩

def ModuleRecord.through (handle : ι) (record : ModuleRecord T) : ModuleRecord (Hosts ι T U) :=
  ⟨record.moduleId, record.assembly, record.metadata.through handle, record.replacements,
    record.wrapperRefs, record.assemblyRefs, record.typeRefs⟩

end Handles

end Detour
