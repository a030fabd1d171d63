import Detour.Proofs.CallSite.TwoScans

/-!
# Resolution without short cuts

Resolution stops as soon as a name is not the expected one. Full resolution expects no name: it
makes every read, and gives the operand's own name beside the method behind it. Resolution is a
short cut to it. Whatever the host answers, it makes a part of the same reads, gives what full
resolution gives if both names are the expected one, and meets no refusal of its own.

If a successful read replaces what was in the buffer, whatever that was, then neither of the two
depends on the names that earlier reads left behind.
-/

namespace Detour

open Detour.Host

variable {S α : Type}

namespace CallSite

/-- What a call operand names once every read is made. -/
structure FullIdentity where
  /-- The name in the operand's own row. -/
  ownName : String
  /-- The method behind the operand. A definition as the parent has a name of its own. -/
  callee : MethodIdentity
  deriving DecidableEq, Repr

def heldMethodName : Scanning S String := do
  return (← get).buffers.methodName

/-- The method behind a referenced member, whatever its name. Parents of some kinds name no concrete
type. -/
def identifyParent (metadata : Metadata S) (parent : Token) :
    Scanning S (Option MethodIdentity) :=
  match parent.kind with
  | .typeRef => resolveType (metadata.typeRef parent)
  | .typeDef => resolveType (metadata.typeDef parent)
  | .methodDef => do return some (← identify metadata parent)
  | _ => return none

/-- What a referenced member names, whatever its name. -/
def identifyReference (metadata : Metadata S) (reference : Token) :
    Scanning S (Option FullIdentity) := do
  let parent ← Scan.readName .methodName (metadata.memberRef reference)
  let ownName ← heldMethodName
  let callee ← identifyParent metadata parent
  return callee.map (FullIdentity.mk ownName)

/-- What a method that the module defines names, whatever its name. -/
def identifyDefinition (metadata : Metadata S) (definition : Token) :
    Scanning S (Option FullIdentity) := do
  let callee ← identify metadata definition
  return some ⟨callee.methodName, callee⟩

/-- Full resolution of a call operand. -/
def identifyCallee (metadata : Metadata S) (operand : Token) :
    Scanning S (Option FullIdentity) :=
  match operand.kind with
  | .memberRef => identifyReference metadata operand
  | .methodDef => identifyDefinition metadata operand
  | _ => return none

/-! ## Short cuts -/

/-- The callee, if the operand's own name and the callee's name are the expected one. -/
def FullIdentity.named? (identity : FullIdentity) (expected : String) : Option MethodIdentity :=
  if identity.ownName = expected ∧ identity.callee.methodName = expected then
    some identity.callee
  else
    none

/-- An outcome that a full resolution can be cut short to. -/
structure IsShortcut (expected : String) (full : Except Refusal (Option FullIdentity))
    (short : Except Refusal (Option MethodIdentity)) : Prop where
  identified : ∀ identity, full = .ok (some identity) → short = .ok (identity.named? expected)
  unidentified : full = .ok none → short = .ok none
  refused : ∀ refusal, short = .error refusal → full = .error refusal
  found : ∀ callee, short = .ok (some callee) →
    callee.methodName = expected ∧ full = .ok (some ⟨expected, callee⟩)

namespace IsShortcut

variable {expected : String} {full : Except Refusal (Option FullIdentity)}

theorem of_refused (expected : String) (refusal : Refusal) :
    IsShortcut expected (.error refusal) (.error refusal) where
  identified := fun _ impossible => by cases impossible
  unidentified := fun impossible => by cases impossible
  refused := fun _ same => by
    cases same
    rfl
  found := fun _ impossible => by cases impossible

/-- A resolution may stop as soon as it is clear that full resolution finds another name. -/
theorem of_otherName
    (other : ∀ identity, full = .ok (some identity) → identity.named? expected = none) :
    IsShortcut expected full (.ok none) where
  identified := fun identity identified => by rw [other identity identified]
  unidentified := fun _ => rfl
  refused := fun _ impossible => by cases impossible
  found := fun _ impossible => by cases impossible

theorem of_unidentified (expected : String) : IsShortcut expected (.ok none) (.ok none) :=
  of_otherName fun _ impossible => by cases impossible

theorem of_found {callee : MethodIdentity} (named : callee.methodName = expected) :
    IsShortcut expected (.ok (some ⟨expected, callee⟩)) (.ok (some callee)) where
  identified := fun identity same => by
    cases same
    rw [FullIdentity.named?, if_pos ⟨rfl, named⟩]
  unidentified := fun impossible => by cases impossible
  refused := fun _ impossible => by cases impossible
  found := fun other same => by
    cases same
    exact ⟨named, rfl⟩

end IsShortcut

/-! ## Steps -/

/-- A read of the declaring type gives it beside the method name that is held. -/
theorem resolveType_cases (readType : NameRead S Unit) (scan : Scan S) :
    (∃ typeName after, resolveType readType scan =
        .ok (some ⟨typeName, scan.buffers.methodName⟩) after) ∨
      ∃ refusal after, resolveType readType scan = .error refusal after := by
  cases answered : readType ⟨scan.buffers.get .typeName, scan.world.host⟩ with
  | ok value slot =>
    have read := Scan.readName_of_ok answered
    refine .inl ⟨slot.name, scan.setSlot .typeName slot, ?_⟩
    rw [resolveType, EStateM.bind_of_ok read]
    rfl
  | error refusal slot =>
    have read := Scan.readName_of_error answered
    exact .inr ⟨refusal, scan.setSlot .typeName slot, EStateM.bind_of_error read _⟩

/-! ## Resolution is a short cut -/

variable {metadata : Metadata S} {expected : String} {scan : Scan S}

/-- The step, with a name of its own beside every callee that it gives. -/
def owning (own : MethodIdentity → String) (step : Scanning S (Option MethodIdentity)) :
    Scanning S (Option FullIdentity) := do
  let found ← step
  return found.map fun callee => ⟨own callee, callee⟩

theorem owning_run_ok {own : MethodIdentity → String} {step : Scanning S (Option MethodIdentity)}
    {found : Option MethodIdentity} {after : Scan S} (gives : step scan = .ok found after) :
    owning own step scan = .ok (found.map fun callee => ⟨own callee, callee⟩) after :=
  EStateM.bind_of_ok gives _

theorem owning_run_error {own : MethodIdentity → String}
    {step : Scanning S (Option MethodIdentity)} {refusal : Refusal} {after : Scan S}
    (refuses : step scan = .error refusal after) :
    owning own step scan = .error refusal after :=
  EStateM.bind_of_error refuses _

/-- Full resolution of a definition reads the type of its owner, whatever the definition's name. -/
theorem owning_identify (own : MethodIdentity → String) (metadata : Metadata S)
    (definition : Token) :
    owning own (do return some (← identify metadata definition)) =
      Scan.readName .methodName (metadata.methodDef definition) >>= fun owner =>
        owning own (resolveType (metadata.typeDef owner)) := by
  simp only [owning, identify, resolveType, bind_assoc]

/-- A definition as the operand has one name only. -/
theorem identifyDefinition_eq_owning (metadata : Metadata S) (definition : Token) :
    identifyDefinition metadata definition =
      owning MethodIdentity.methodName (do return some (← identify metadata definition)) := by
  simp only [identifyDefinition, owning, bind_assoc, pure_bind, Option.map_some]

/-- Once the method name is the expected one, only the type is left to read. -/
theorem isShortcut_resolveType {own : MethodIdentity → String} (readType : NameRead S Unit)
    (ownName : ∀ callee : MethodIdentity, callee.methodName = expected → own callee = expected)
    (named : scan.buffers.methodName = expected) :
    IsShortcut expected (outcomeOf (owning own (resolveType readType) scan))
      (outcomeOf (resolveType readType scan)) := by
  rcases resolveType_cases readType scan with read | refused
  · obtain ⟨typeName, after, read⟩ := read
    have own_eq := ownName ⟨typeName, scan.buffers.methodName⟩ named
    rw [owning_run_ok read, read]
    simp only [outcomeOf, Option.map_some, own_eq]
    exact IsShortcut.of_found named
  · obtain ⟨refusal, after, refused⟩ := refused
    rw [owning_run_error refused, refused]
    exact IsShortcut.of_refused expected refusal

/-- Under another method name the type cannot bring the expected one back. -/
theorem isShortcut_none_of_otherName {own : MethodIdentity → String} (readType : NameRead S Unit)
    (other : scan.buffers.methodName ≠ expected) :
    IsShortcut expected (outcomeOf (owning own (resolveType readType) scan)) (.ok none) := by
  apply IsShortcut.of_otherName
  intro identity identified
  rcases resolveType_cases readType scan with read | refused
  · obtain ⟨typeName, after, read⟩ := read
    rw [owning_run_ok read] at identified
    cases identified
    exact if_neg fun both => other both.2
  · obtain ⟨refusal, after, refused⟩ := refused
    rw [owning_run_error refused] at identified
    cases identified

theorem isShortcut_resolveDefinition {own : MethodIdentity → String} (definition : Token)
    (ownName : ∀ callee : MethodIdentity, callee.methodName = expected → own callee = expected) :
    IsShortcut expected
      (outcomeOf (owning own (do return some (← identify metadata definition)) scan))
      (outcomeOf (resolveDefinition metadata definition expected scan)) := by
  rw [owning_identify, resolveDefinition]
  cases read : Scan.readName .methodName (metadata.methodDef definition) scan with
  | ok owner middle =>
    rw [EStateM.bind_of_ok read, EStateM.bind_of_ok read, ifNamed_run]
    by_cases named : middle.buffers.methodName = expected
    · rw [if_pos named]
      exact isShortcut_resolveType (metadata.typeDef owner) ownName named
    · rw [if_neg named]
      exact isShortcut_none_of_otherName (metadata.typeDef owner) named
  | error refusal middle =>
    rw [EStateM.bind_of_error read, EStateM.bind_of_error read]
    exact IsShortcut.of_refused expected refusal

/-- A parent decides the callee, once the operand's own name is the expected one. -/
theorem isShortcut_resolveParent (parent : Token) (named : scan.buffers.methodName = expected) :
    IsShortcut expected
      (outcomeOf (owning (fun _ => expected) (identifyParent metadata parent) scan))
      (outcomeOf (resolveParent metadata parent expected scan)) := by
  have ownName : ∀ callee : MethodIdentity, callee.methodName = expected → expected = expected :=
    fun _ _ => rfl
  unfold identifyParent resolveParent
  cases parent.kind with
  | typeRef => exact isShortcut_resolveType (metadata.typeRef parent) ownName named
  | typeDef => exact isShortcut_resolveType (metadata.typeDef parent) ownName named
  | methodDef => exact isShortcut_resolveDefinition parent ownName
  | _ => exact IsShortcut.of_unidentified expected

theorem isShortcut_resolveReference (reference : Token) :
    IsShortcut expected (outcomeOf (identifyReference metadata reference scan))
      (outcomeOf (resolveReference metadata reference expected scan)) := by
  unfold identifyReference resolveReference
  cases read : Scan.readName .methodName (metadata.memberRef reference) scan with
  | error refusal middle =>
    rw [EStateM.bind_of_error read, EStateM.bind_of_error read]
    exact IsShortcut.of_refused expected refusal
  | ok parent middle =>
    rw [EStateM.bind_of_ok read, EStateM.bind_of_ok read, ifNamed_run]
    change IsShortcut expected (outcomeOf (owning (fun _ => middle.buffers.methodName)
      (identifyParent metadata parent) middle)) _
    by_cases named : middle.buffers.methodName = expected
    · rw [if_pos named, named]
      exact isShortcut_resolveParent parent named
    · rw [if_neg named]
      apply IsShortcut.of_otherName
      intro identity identified
      have succeeded := eq_ok_of_outcomeOf identified
      obtain ⟨found, _, _, given⟩ := EStateM.bind_eq_ok_iff.mp succeeded
      have mapped := (EStateM.pure_eq_ok_iff.mp given).1
      obtain ⟨callee, _, rfl⟩ := Option.map_eq_some_iff.mp mapped
      exact if_neg fun both => named both.1

theorem isShortcut_resolve (operand : Token) :
    IsShortcut expected (outcomeOf (identifyCallee metadata operand scan))
      (outcomeOf (resolve metadata operand expected scan)) := by
  unfold identifyCallee resolve
  cases operand.kind with
  | memberRef => exact isShortcut_resolveReference operand
  | methodDef =>
    change IsShortcut expected (outcomeOf (identifyDefinition metadata operand scan))
      (outcomeOf (resolveDefinition metadata operand expected scan))
    rw [identifyDefinition_eq_owning]
    exact isShortcut_resolveDefinition operand fun _ named => named
  | _ => exact IsShortcut.of_unidentified expected

/-! ## What the buffers held -/

end CallSite

namespace Host

/-- A successful read replaces what the buffer held, and would have done the same whatever that
was. -/
def NameRead.Overwrites (read : NameRead S α) : Prop :=
  ∀ host held other value slot, read ⟨held, host⟩ = .ok value slot →
    read ⟨other, host⟩ = .ok value slot

/-- A refused read would have been refused the same whatever the buffer held. -/
def NameRead.RefusesAlike (read : NameRead S α) : Prop :=
  ∀ host held other refusal left, read ⟨held, host⟩ = .error refusal left →
    ∃ otherLeft, read ⟨other, host⟩ = .error refusal otherLeft

/-- Hosts in the same state are alike, whatever their buffers hold. -/
def Likeness.ofRefusals (alike : Refusal → Refusal → Prop) : Likeness S where
  names _ _ := True
  names_refl _ := trivial
  hosts := Eq
  refusals refusal _ otherRefusal _ := alike refusal otherRefusal

/-- A handle all of whose reads have a property. -/
structure Metadata.AllReads (metadata : Metadata S) (holds : ∀ {α : Type}, NameRead S α → Prop) :
    Prop where
  memberRef : ∀ token, holds (metadata.memberRef token)
  methodDef : ∀ token, holds (metadata.methodDef token)
  typeRef : ∀ token, holds (metadata.typeRef token)
  typeDef : ∀ token, holds (metadata.typeDef token)

theorem NameRead.Overwrites.reads {read : NameRead S α} (overwrites : Overwrites read) :
    (Likeness.ofRefusals fun _ _ => True).Reads read := by
  rintro ⟨held, host⟩ ⟨other, sameHost⟩ ⟨_, rfl⟩
  cases answered : read ⟨held, host⟩ with
  | ok value slot =>
    rw [overwrites host held other value slot answered]
    exact .ok value ⟨rfl, rfl⟩
  | error refusal left =>
    cases otherAnswered : read ⟨other, host⟩ with
    | ok value slot =>
      have both := overwrites host other held value slot otherAnswered
      cases answered.symm.trans both
    | error otherRefusal otherLeft => exact .error trivial

theorem NameRead.Overwrites.reads_of_refusesAlike {read : NameRead S α}
    (overwrites : Overwrites read) (refusesAlike : RefusesAlike read) :
    (Likeness.ofRefusals Eq).Reads read := by
  rintro ⟨held, host⟩ ⟨other, sameHost⟩ ⟨_, rfl⟩
  cases answered : read ⟨held, host⟩ with
  | ok value slot =>
    rw [overwrites host held other value slot answered]
    exact .ok value ⟨rfl, rfl⟩
  | error refusal left =>
    obtain ⟨otherLeft, otherAnswered⟩ := refusesAlike host held other refusal left answered
    rw [otherAnswered]
    exact .error rfl

end Host

namespace CallSite

section TwoScans

variable {likeness : Likeness S} {metadata : Metadata S}

theorem alike_identifyParent (reads : likeness.ReadsOf metadata) (parent : Token) :
    StepsAlike likeness (NamedAlike likeness) (ScansAlike likeness)
      (identifyParent metadata parent) := by
  unfold identifyParent
  split
  · exact alike_resolveType (reads.typeRef parent)
  · exact alike_resolveType (reads.typeDef parent)
  · have definition := alike_identify reads parent
    refine EStateM.runsAlike_bind (definition.mono ?_ ?_) fun callee =>
      EStateM.runsAlike_pure (some callee)
    · exact fun _ _ alike => alike.scansAlike
    · exact fun _ _ alike => alike.scansAlike
  · intro scan other alike
    exact .ok none alike.scansAlike

theorem alike_identifyReference (reads : likeness.ReadsOf metadata) (reference : Token) :
    StepsAlike likeness (ScansAlike likeness) (ScansAlike likeness)
      (identifyReference metadata reference) := by
  apply EStateM.runsAlike_bind (alike_readMethodName (reads.memberRef reference))
  intro parent scan other alike
  have parents : StepsAlike likeness (NamedAlike likeness) (ScansAlike likeness)
      (owning (fun _ => other.buffers.methodName) (identifyParent metadata parent)) :=
    EStateM.runsAlike_bind (alike_identifyParent reads parent) fun _ => EStateM.runsAlike_pure _
  have runs := parents scan other alike
  change EStateM.Alike _ _ (owning (fun _ => scan.buffers.methodName) _ scan)
    (owning (fun _ => other.buffers.methodName) _ other)
  rw [alike.methodNames]
  exact runs

/-- From alike scans a call operand names the same once every read is made. -/
theorem alike_identifyCallee (reads : likeness.ReadsOf metadata) (operand : Token) :
    StepsAlike likeness (ScansAlike likeness) (ScansAlike likeness)
      (identifyCallee metadata operand) := by
  unfold identifyCallee
  split
  · exact alike_identifyReference reads operand
  · have definition := alike_identify reads operand
    refine EStateM.runsAlike_bind (definition.mono ?_ ?_) fun callee => EStateM.runsAlike_pure _
    · exact fun _ _ alike => alike
    · exact fun _ _ alike => alike.scansAlike
  · exact EStateM.runsAlike_pure none

end TwoScans

/-! ## Agreement -/

/-- A call operand that is a definition is what `identify` says it is. -/
theorem outcomeOf_identifyCallee_of_methodDef {metadata : Metadata S} {operand : Token}
    (definition : operand.kind = .methodDef) (scan : Scan S) :
    outcomeOf (identifyCallee metadata operand scan) =
      (outcomeOf (identify metadata operand scan)).map fun callee =>
        some ⟨callee.methodName, callee⟩ := by
  rw [identifyCallee, definition]
  dsimp only [identifyDefinition]
  cases identified : identify metadata operand scan with
  | ok callee after =>
    rw [EStateM.bind_of_ok identified]
    rfl
  | error refusal after =>
    rw [EStateM.bind_of_error identified]
    rfl

/-- An outcome that the identification of a definition can be cut short to. -/
structure IsDefinitionShortcut (expected : String) (full : Except Refusal MethodIdentity)
    (short : Except Refusal (Option MethodIdentity)) : Prop where
  identified : ∀ callee, full = .ok callee →
    short = .ok (if callee.methodName = expected then some callee else none)
  refused : ∀ refusal, short = .error refusal → full = .error refusal
  found : ∀ callee, short = .ok (some callee) →
    callee.methodName = expected ∧ full = .ok callee

theorem FullIdentity.named?_of_oneName (callee : MethodIdentity) (expected : String) :
    FullIdentity.named? ⟨callee.methodName, callee⟩ expected =
      if callee.methodName = expected then some callee else none := by
  unfold FullIdentity.named?
  simp only [and_self]

theorem IsShortcut.isDefinitionShortcut {expected : String} {full : Except Refusal MethodIdentity}
    {short : Except Refusal (Option MethodIdentity)}
    (shortcut : IsShortcut expected
      (full.map fun callee => some ⟨callee.methodName, callee⟩) short) :
    IsDefinitionShortcut expected full short where
  identified := by
    intro callee given
    rw [given] at shortcut
    rw [← FullIdentity.named?_of_oneName]
    exact shortcut.identified _ rfl
  refused := by
    intro refusal refused
    have mapped := shortcut.refused refusal refused
    cases full with
    | ok callee => cases mapped
    | error other =>
      cases mapped
      rfl
  found := by
    intro callee found
    obtain ⟨named, mapped⟩ := shortcut.found callee found
    obtain ⟨inner, given, same⟩ := Except.map_eq_ok_iff.mp mapped
    cases same
    exact ⟨named, given⟩

/-- Resolution is a short cut to full resolution, and to `identify` if the operand is a definition.
If successful reads overwrite the buffers, what either finds does not depend on the names that were
held, and if refused reads ignore the buffers as well, neither do the refusals. -/
theorem resolve_agrees_with_fullResolution (metadata : Metadata S)
    (overwrites : metadata.AllReads NameRead.Overwrites) (operand : Token) (expected : String)
    (world : World S) :
    (∀ held : HeldNames,
      IsShortcut expected (outcomeOf (identifyCallee metadata operand ⟨held, world⟩))
        (outcomeOf (resolve metadata operand expected ⟨held, world⟩))) ∧
    (operand.kind = .methodDef → ∀ held : HeldNames,
      IsDefinitionShortcut expected (outcomeOf (identify metadata operand ⟨held, world⟩))
        (outcomeOf (resolve metadata operand expected ⟨held, world⟩))) ∧
    (∀ (held other : HeldNames) (found : Option MethodIdentity),
      outcomeOf (resolve metadata operand expected ⟨held, world⟩) = .ok found ↔
        outcomeOf (resolve metadata operand expected ⟨other, world⟩) = .ok found) ∧
    (∀ (held other : HeldNames) (identity : Option FullIdentity),
      outcomeOf (identifyCallee metadata operand ⟨held, world⟩) = .ok identity ↔
        outcomeOf (identifyCallee metadata operand ⟨other, world⟩) = .ok identity) ∧
    (metadata.AllReads NameRead.RefusesAlike → ∀ held other : HeldNames,
      outcomeOf (resolve metadata operand expected ⟨held, world⟩) =
          outcomeOf (resolve metadata operand expected ⟨other, world⟩) ∧
        outcomeOf (identifyCallee metadata operand ⟨held, world⟩) =
          outcomeOf (identifyCallee metadata operand ⟨other, world⟩)) := by
  have reads : (Likeness.ofRefusals fun _ _ => True).ReadsOf metadata :=
    { memberRef := fun token => (overwrites.memberRef token).reads
      methodDef := fun token => (overwrites.methodDef token).reads
      typeRef := fun token => (overwrites.typeRef token).reads
      typeDef := fun token => (overwrites.typeDef token).reads }
  refine ⟨?shortcut, ?definition, ?resolved, ?identified, ?refused⟩
  case shortcut =>
    intro held
    exact isShortcut_resolve operand
  case definition =>
    intro definition held
    have shortcut : IsShortcut expected (outcomeOf (identifyCallee metadata operand ⟨held, world⟩))
        (outcomeOf (resolve metadata operand expected ⟨held, world⟩)) := isShortcut_resolve operand
    rw [outcomeOf_identifyCallee_of_methodDef definition] at shortcut
    exact shortcut.isDefinitionShortcut
  case resolved =>
    intro held other found
    have alike := alike_resolve reads operand expected ⟨held, world⟩ ⟨other, world⟩
      ⟨trivial, trivial, rfl⟩
    exact alike.outcomeOf_eq_ok_iff found
  case identified =>
    intro held other identity
    have alike := alike_identifyCallee reads operand ⟨held, world⟩ ⟨other, world⟩
      ⟨trivial, trivial, rfl⟩
    exact alike.outcomeOf_eq_ok_iff identity
  case refused =>
    intro refusesAlike held other
    have readsAll : (Likeness.ofRefusals Eq).ReadsOf metadata :=
      { memberRef := fun token =>
          (overwrites.memberRef token).reads_of_refusesAlike (refusesAlike.memberRef token)
        methodDef := fun token =>
          (overwrites.methodDef token).reads_of_refusesAlike (refusesAlike.methodDef token)
        typeRef := fun token =>
          (overwrites.typeRef token).reads_of_refusesAlike (refusesAlike.typeRef token)
        typeDef := fun token =>
          (overwrites.typeDef token).reads_of_refusesAlike (refusesAlike.typeDef token) }
    have alikeScans : ScansAlike (Likeness.ofRefusals Eq) ⟨held, world⟩ ⟨other, world⟩ :=
      ⟨trivial, trivial, rfl⟩
    have resolved := alike_resolve readsAll operand expected _ _ alikeScans
    have identified := alike_identifyCallee readsAll operand _ _ alikeScans
    constructor
    · exact resolved.outcomeOf_eq fun _ _ _ _ same => same
    · exact identified.outcomeOf_eq fun _ _ _ _ same => same

namespace VarargCall

/-- The operand `Run` of the call has a definition as its parent, which is named `Stop`. The second
reference has the parent that no type is found for. -/
def metadata : Metadata Unit :=
  { Metadata.refusing with
    memberRef := fun token slot =>
      .ok (if token = ⟨0x0A000002⟩ then ⟨0x01000001⟩ else ⟨0x06000001⟩) ⟨"Run", slot.host⟩
    methodDef := fun _ slot => .ok ⟨0x02000002⟩ ⟨"Stop", slot.host⟩
    typeRef := fun token slot =>
      .error (.notFound "GetTypeRefProps" token) ⟨slot.name ++ "?", slot.host⟩
    typeDef := fun _ slot => .ok () ⟨"App", slot.host⟩ }

theorem metadata_overwrites : metadata.AllReads NameRead.Overwrites where
  memberRef _ := fun _ _ _ _ _ answered => answered
  methodDef _ := fun _ _ _ _ _ answered => answered
  typeRef _ := fun _ _ _ _ _ impossible => by cases impossible
  typeDef _ := fun _ _ _ _ _ answered => answered

theorem metadata_refusesAlike : metadata.AllReads NameRead.RefusesAlike where
  memberRef _ := fun _ _ _ _ _ impossible => by cases impossible
  methodDef _ := fun _ _ _ _ _ impossible => by cases impossible
  typeRef _ := fun _ _ other _ _ refused => by
    cases refused
    exact ⟨_, rfl⟩
  typeDef _ := fun _ _ _ _ _ impossible => by cases impossible

end VarargCall

theorem resolve_agrees_with_fullResolution_varargCall :
    VarargCall.metadata.AllReads NameRead.Overwrites ∧
    VarargCall.metadata.AllReads NameRead.RefusesAlike ∧
    outcomeOf (identifyCallee VarargCall.metadata ⟨0x0A000001⟩ ⟨.empty, ⟨(), #[]⟩⟩) =
      .ok (some ⟨"Run", ⟨"App", "Stop"⟩⟩) ∧
    (∀ held, outcomeOf (resolve VarargCall.metadata ⟨0x0A000001⟩ "Run" ⟨held, ⟨(), #[]⟩⟩) =
      .ok none) ∧
    (∀ held, outcomeOf (resolve VarargCall.metadata ⟨0x06000001⟩ "Stop" ⟨held, ⟨(), #[]⟩⟩) =
      .ok (some ⟨"App", "Stop"⟩)) ∧
    ∀ held, outcomeOf (resolve VarargCall.metadata ⟨0x0A000002⟩ "Run" ⟨held, ⟨(), #[]⟩⟩) =
      .error (.notFound "GetTypeRefProps" ⟨0x01000001⟩) := by
  have overwrites := VarargCall.metadata_overwrites
  have refusesAlike := VarargCall.metadata_refusesAlike
  obtain ⟨cutShort, -, ignoresBuffers, -⟩ := resolve_agrees_with_fullResolution
    VarargCall.metadata overwrites ⟨0x0A000001⟩ "Run" ⟨(), #[]⟩
  obtain ⟨-, definitionCutShort, -⟩ := resolve_agrees_with_fullResolution
    VarargCall.metadata overwrites ⟨0x06000001⟩ "Stop" ⟨(), #[]⟩
  obtain ⟨-, -, -, -, sameRefusal⟩ := resolve_agrees_with_fullResolution
    VarargCall.metadata overwrites ⟨0x0A000002⟩ "Run" ⟨(), #[]⟩
  refine ⟨overwrites, refusesAlike, rfl, ?_, ?_, ?_⟩
  · intro held
    have unresolved := (cutShort .empty).identified ⟨"Run", ⟨"App", "Stop"⟩⟩ rfl
    exact (ignoresBuffers .empty held none).mp unresolved
  · intro held
    exact (definitionCutShort rfl held).identified ⟨"App", "Stop"⟩ rfl
  · intro held
    rw [(sameRefusal refusesAlike held .empty).1]
    rfl

end CallSite

end Detour
