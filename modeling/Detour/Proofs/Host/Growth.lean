import Detour.Proofs.CallSite.FullResolution
import Detour.Proofs.CallSite.Purity
import Detour.Proofs.Module.TwoEmissions

/-!
# Growing hosts

While a process runs, rows are appended to the metadata of its modules. What a read has answered
before, it answers again when the host has grown; a read that was refused may be answered now. For a
pure host growth is no more than that: every read that succeeds gives the same answer again.
-/

namespace Detour.Host

variable {S α : Type}

/-- When one state of the host has grown out of another. -/
structure Growth (S : Type) where
  grows : S → S → Prop
  refl : ∀ host, grows host host
  trans : ∀ {host middle other}, grows host middle → grows middle other → grows host other

/-! ## Reads -/

/-- Buffers that hold the same name, the second one beside the grown host. -/
structure Growth.Slots (growth : Growth S) (slot other : NameSlot S) : Prop where
  name_eq : slot.name = other.name
  hosts : growth.grows slot.host other.host

/-- What the read answers, the other one answers on every grown host. -/
def NameRead.IsFollowedBy (growth : Growth S) (read other : NameRead S α) : Prop :=
  EStateM.Follows growth.Slots (fun _ => growth.Slots) read other

/-- What the reads of the module answer, those of the other handle answer on every grown host. -/
structure Metadata.IsFollowedBy (growth : Growth S) (metadata other : Metadata S) : Prop where
  memberRef : ∀ token, (metadata.memberRef token).IsFollowedBy growth (other.memberRef token)
  methodDef : ∀ token, (metadata.methodDef token).IsFollowedBy growth (other.methodDef token)
  typeRef : ∀ token, (metadata.typeRef token).IsFollowedBy growth (other.typeRef token)
  typeDef : ∀ token, (metadata.typeDef token).IsFollowedBy growth (other.typeDef token)

/-- What the reads of the module answer, they answer again on every grown host. -/
def Metadata.StableUnder (growth : Growth S) (metadata : Metadata S) : Prop :=
  metadata.IsFollowedBy growth metadata

def NameRead.meanwhile (advance : S → S) (read : NameRead S α) : NameRead S α := fun slot =>
  read { slot with host := advance slot.host }

/-- The module on a host that does not stand still: something happens to it before every read. -/
def Metadata.meanwhile (advance : S → S) (metadata : Metadata S) : Metadata S :=
  { metadata with
    memberRef := fun token => (metadata.memberRef token).meanwhile advance
    methodDef := fun token => (metadata.methodDef token).meanwhile advance
    typeRef := fun token => (metadata.typeRef token).meanwhile advance
    typeDef := fun token => (metadata.typeDef token).meanwhile advance }

theorem NameRead.IsFollowedBy.meanwhile {growth : Growth S} {read other : NameRead S α}
    {advance : S → S} (follows : read.IsFollowedBy growth other)
    (advances : ∀ host, growth.grows host (advance host)) :
    read.IsFollowedBy growth (other.meanwhile advance) := by
  intro slot otherSlot value behind slots answered
  have later : growth.Slots slot { otherSlot with host := advance otherSlot.host } :=
    ⟨slots.name_eq, growth.trans slots.hosts (advances otherSlot.host)⟩
  exact follows slot _ value behind later answered

/-- Growth before every read does not matter. -/
theorem Metadata.IsFollowedBy.meanwhile {growth : Growth S} {metadata other : Metadata S}
    {advance : S → S} (follows : metadata.IsFollowedBy growth other)
    (advances : ∀ host, growth.grows host (advance host)) :
    metadata.IsFollowedBy growth (other.meanwhile advance) where
  memberRef token := (follows.memberRef token).meanwhile advances
  methodDef token := (follows.methodDef token).meanwhile advances
  typeRef token := (follows.typeRef token).meanwhile advances
  typeDef token := (follows.typeDef token).meanwhile advances

/-! ## Pure hosts -/

/-- Wherever the read succeeds on the host, it gives the same answer on the other host. -/
def NameRead.Extends (host other : S) (read : NameRead S α) : Prop :=
  ∀ held value name, read ⟨held, host⟩ = .ok value ⟨name, host⟩ →
    read ⟨held, other⟩ = .ok value ⟨name, other⟩

/-- Every read that succeeds on the host gives the same answer on the other host. -/
def Metadata.Extends (metadata : Metadata S) (host other : S) : Prop :=
  metadata.AllReads (NameRead.Extends host other)

/-- Growth as the reads of a module can see it. -/
def Metadata.growth (metadata : Metadata S) : Growth S where
  grows := metadata.Extends
  refl host := ⟨fun _ _ _ _ read => read, fun _ _ _ _ read => read, fun _ _ _ _ read => read,
    fun _ _ _ _ read => read⟩
  trans first second := by
    refine ⟨fun token held value name read => ?_, fun token held value name read => ?_,
      fun token held value name read => ?_, fun token held value name read => ?_⟩
    · exact second.memberRef token held value name (first.memberRef token held value name read)
    · exact second.methodDef token held value name (first.methodDef token held value name read)
    · exact second.typeRef token held value name (first.typeRef token held value name read)
    · exact second.typeDef token held value name (first.typeDef token held value name read)

theorem NameRead.IsPure.isFollowedBy {growth : Growth S} {read : NameRead S α}
    (isPure : IsPure read)
    (extended : ∀ host other, growth.grows host other → read.Extends host other) :
    read.IsFollowedBy growth read := by
  rintro ⟨held, host⟩ ⟨otherHeld, other⟩ value after ⟨sameName, grown⟩ answered
  have sameHeld : held = otherHeld := sameName
  rcases isPure host with ⟨answer, name, answers⟩ | ⟨refusal, refuses⟩
  · cases (answers held).symm.trans answered
    have answersAgain := extended host other grown held value name answered
    rw [← sameHeld]
    exact ⟨⟨name, other⟩, answersAgain, rfl, grown⟩
  · obtain ⟨left, refused⟩ := refuses held
    cases refused.symm.trans answered

/-- A pure module is stable under all growth that its reads can see. -/
theorem Metadata.IsPure.stableUnder_growth {metadata : Metadata S} (isPure : metadata.IsPure) :
    metadata.StableUnder metadata.growth where
  memberRef token := (isPure.memberRef token).isFollowedBy fun _ _ grown => grown.memberRef token
  methodDef token := (isPure.methodDef token).isFollowedBy fun _ _ grown => grown.methodDef token
  typeRef token := (isPure.typeRef token).isFollowedBy fun _ _ grown => grown.typeRef token
  typeDef token := (isPure.typeDef token).isFollowedBy fun _ _ grown => grown.typeDef token

/-! ## Calls that only append -/

/-- Behind every call, even if it was refused, the host has grown. -/
def Metadata.OnlyAppends (growth : Growth S) (metadata : Metadata S) : Prop :=
  ∀ (call : MetadataCall) (held : String) (host : S),
    growth.grows host (call.hostAfter metadata held host)

/-- Two runs over one host, in the same state, that has grown out of a given one. -/
def Growth.OutOf (growth : Growth S) (origin host other : S) : Prop :=
  host = other ∧ growth.grows origin host

variable {growth : Growth S} {origin : S}

theorem respects_of_appends {call : EStateM Refusal S α}
    (appends : ∀ host, growth.grows host (endState (call host))) :
    EStateM.Respects (growth.OutOf origin) call := by
  rintro host other ⟨rfl, grown⟩
  have grownBehind := appends host
  cases answered : call host with
  | ok value after =>
    rw [answered] at grownBehind
    exact .ok value ⟨rfl, growth.trans grown grownBehind⟩
  | error refusal after =>
    rw [answered] at grownBehind
    exact .error ⟨rfl, rfl, growth.trans grown grownBehind⟩

theorem reads_of_appends {read : NameRead S α}
    (appends : ∀ held host, growth.grows host (endState (read ⟨held, host⟩)).host) :
    (Likeness.ofHosts (growth.OutOf origin)).Reads read := by
  rintro ⟨held, host⟩ ⟨otherHeld, other⟩ ⟨sameName, sameHost, grown⟩
  cases (sameName : held = otherHeld)
  cases (sameHost : host = other)
  have grownBehind := appends held host
  cases answered : read ⟨held, host⟩ with
  | ok value after =>
    rw [answered] at grownBehind
    exact .ok value ⟨rfl, rfl, growth.trans grown grownBehind⟩
  | error refusal after =>
    rw [answered] at grownBehind
    exact .error ⟨rfl, rfl, growth.trans grown grownBehind⟩

/-- Calls that only append never leave what has grown out of a state. -/
theorem Metadata.OnlyAppends.respects {metadata : Metadata S}
    (appends : metadata.OnlyAppends growth) (origin : S) :
    metadata.Respects (growth.OutOf origin) where
  reads := {
    memberRef token := reads_of_appends fun held => appends (.memberRef token) held
    methodDef token := reads_of_appends fun held => appends (.methodDef token) held
    typeRef token := reads_of_appends fun held => appends (.typeRef token) held
    typeDef token := reads_of_appends fun held => appends (.typeDef token) held }
  defineAssemblyRef assembly := respects_of_appends (appends (.defineAssemblyRef assembly) "")
  defineTypeRef scope typeName :=
    respects_of_appends (appends (.defineTypeRef scope typeName) "")
  defineMemberRef parent methodName signature :=
    respects_of_appends (appends (.defineMemberRef parent methodName signature) "")

end Detour.Host
