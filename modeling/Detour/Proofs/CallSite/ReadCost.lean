import Detour.Proofs.CallSite.TwoScans
import Detour.Proofs.Host.Account

/-!
# The cost of a scan

A scan asks the host as little as it can. Instructions that call nothing cost nothing, and a call of
another method costs one read, that of its own name. Only behind the expected name is the declaring
type read. Which reads a pass makes is described instruction by instruction, with the answers that
decide how it goes on: the first refusal ends the description, and the pass with it.
-/

namespace Detour

open Detour.Body
open Detour.Host
open Detour.Rule

variable {S : Type}

namespace Host.MetadataCall

/-- The call reads the name of a method. -/
def ReadsMethodName : MetadataCall → Prop
  | memberRef _ | methodDef _ => True
  | _ => False

/-- The call reads the name of a type. -/
def ReadsTypeName : MetadataCall → Prop
  | typeRef _ | typeDef _ => True
  | _ => False

end Host.MetadataCall

namespace CallSite

/-! ## The reads of a call -/

/-- The read of a declaring type, with the refusal that ends the scan, if there is one. -/
inductive TypeReads (call : MetadataCall) : List AnsweredCall → Option Refusal → Prop where
  | answered (token : Token) (name : String) : TypeReads call [⟨call, .ok token, name⟩] none
  | refused (refusal : Refusal) (name : String) :
      TypeReads call [⟨call, .error refusal, name⟩] (some refusal)

/-- The reads of a method that the module defines: its name, and the type of its owner if the name
is the expected one. -/
inductive DefinitionReads (expected : String) (definition : Token) :
    List AnsweredCall → Option Refusal → Prop where
  | refused (refusal : Refusal) (name : String) :
      DefinitionReads expected definition [⟨.methodDef definition, .error refusal, name⟩]
        (some refusal)
  | otherName (owner : Token) {name : String} (other : name ≠ expected) :
      DefinitionReads expected definition [⟨.methodDef definition, .ok owner, name⟩] none
  | named (owner : Token) {reads : List AnsweredCall} {ending : Option Refusal}
      (typeReads : TypeReads (.typeDef owner) reads ending) :
      DefinitionReads expected definition
        (⟨.methodDef definition, .ok owner, expected⟩ :: reads) ending

/-- The reads of a parent, by its kind. -/
inductive ParentReads (expected : String) (parent : Token) :
    List AnsweredCall → Option Refusal → Prop where
  | typeRef {reads : List AnsweredCall} {ending : Option Refusal} (kind : parent.kind = .typeRef)
      (typeReads : TypeReads (.typeRef parent) reads ending) :
      ParentReads expected parent reads ending
  | typeDef {reads : List AnsweredCall} {ending : Option Refusal} (kind : parent.kind = .typeDef)
      (typeReads : TypeReads (.typeDef parent) reads ending) :
      ParentReads expected parent reads ending
  | methodDef {reads : List AnsweredCall} {ending : Option Refusal}
      (kind : parent.kind = .methodDef)
      (definitionReads : DefinitionReads expected parent reads ending) :
      ParentReads expected parent reads ending
  | otherKind (notTypeRef : parent.kind ≠ .typeRef) (notTypeDef : parent.kind ≠ .typeDef)
      (notMethodDef : parent.kind ≠ .methodDef) : ParentReads expected parent [] none

/-- The reads of a call operand: its own name, and what is behind it if that is the expected one. -/
inductive OperandReads (expected : String) (operand : Token) :
    List AnsweredCall → Option Refusal → Prop where
  | refused (kind : operand.kind = .memberRef) (refusal : Refusal) (name : String) :
      OperandReads expected operand [⟨.memberRef operand, .error refusal, name⟩] (some refusal)
  | otherName (kind : operand.kind = .memberRef) (parent : Token) {name : String}
      (other : name ≠ expected) :
      OperandReads expected operand [⟨.memberRef operand, .ok parent, name⟩] none
  | named (kind : operand.kind = .memberRef) (parent : Token) {reads : List AnsweredCall}
      {ending : Option Refusal} (parentReads : ParentReads expected parent reads ending) :
      OperandReads expected operand (⟨.memberRef operand, .ok parent, expected⟩ :: reads) ending
  | definition (kind : operand.kind = .methodDef) {reads : List AnsweredCall}
      {ending : Option Refusal} (definitionReads : DefinitionReads expected operand reads ending) :
      OperandReads expected operand reads ending

/-- The reads of a pass for each instruction that it comes to, in order. -/
inductive ScanReads (expected : String) :
    List Instruction → List (List AnsweredCall) → Option Refusal → Prop where
  | done : ScanReads expected [] [] none
  | noCall {instruction : Instruction} {rest : List Instruction} {costs : List (List AnsweredCall)}
      {ending : Option Refusal} (noCallee : instruction.callee? = none)
      (others : ScanReads expected rest costs ending) :
      ScanReads expected (instruction :: rest) ([] :: costs) ending
  | call {instruction : Instruction} {rest : List Instruction} {operand : Token}
      {reads : List AnsweredCall} {costs : List (List AnsweredCall)} {ending : Option Refusal}
      (callee : instruction.callee? = some operand)
      (operandReads : OperandReads expected operand reads none)
      (others : ScanReads expected rest costs ending) :
      ScanReads expected (instruction :: rest) (reads :: costs) ending
  | refused {instruction : Instruction} {rest : List Instruction} {operand : Token}
      {reads : List AnsweredCall} {refusal : Refusal} (callee : instruction.callee? = some operand)
      (operandReads : OperandReads expected operand reads (some refusal)) :
      ScanReads expected (instruction :: rest) [reads] (some refusal)

/-! ## Consequences -/

/-- At most `limit` reads. If one of them reads a type, then every method name that is read beside
it is answered, and is the expected one. -/
structure IsCheap (expected : String) (limit : Nat) (reads : List AnsweredCall) : Prop where
  length_le : reads.length ≤ limit
  named : ∀ typeRead ∈ reads, typeRead.call.ReadsTypeName → ∀ answered ∈ reads,
    answered.call.ReadsMethodName →
      (∃ token, answered.answer = .ok token) ∧ answered.name = expected

section Costs

variable {expected : String} {limit : Nat} {reads : List AnsweredCall} {ending : Option Refusal}

theorem isCheap_nil (expected : String) (limit : Nat) : IsCheap expected limit [] where
  length_le := Nat.zero_le limit
  named := by
    intro typeRead member
    cases member

theorem IsCheap.mono {larger : Nat} (cheap : IsCheap expected limit reads) (le : limit ≤ larger) :
    IsCheap expected larger reads :=
  ⟨Nat.le_trans cheap.length_le le, cheap.named⟩

/-- A read of one name alone is cheap, whatever the name. -/
theorem isCheap_singleton {answered : AnsweredCall}
    (oneKind : ¬ answered.call.ReadsTypeName ∨ ¬ answered.call.ReadsMethodName) :
    IsCheap expected 1 [answered] where
  length_le := Nat.le_refl 1
  named := by
    intro typeRead typeMember readsType other member readsMethod
    rw [List.mem_singleton.mp typeMember] at readsType
    rw [List.mem_singleton.mp member] at readsMethod
    rcases oneKind with notType | notMethod
    · exact absurd readsType notType
    · exact absurd readsMethod notMethod

/-- The expected name may be read in front of cheap reads. -/
theorem IsCheap.cons (cheap : IsCheap expected limit reads) {call : MetadataCall} (token : Token)
    (notType : ¬ call.ReadsTypeName) :
    IsCheap expected (limit + 1) (⟨call, .ok token, expected⟩ :: reads) where
  length_le := Nat.succ_le_succ cheap.length_le
  named := by
    intro typeRead typeMember readsType answered member readsMethod
    rcases List.mem_cons.mp typeMember with rfl | typeBehind
    · exact absurd readsType notType
    · rcases List.mem_cons.mp member with rfl | behind
      · exact ⟨⟨token, rfl⟩, rfl⟩
      · exact cheap.named typeRead typeBehind readsType answered behind readsMethod

theorem TypeReads.isCheap {call : MetadataCall} (typeReads : TypeReads call reads ending)
    (notMethod : ¬ call.ReadsMethodName) : IsCheap expected 1 reads := by
  cases typeReads with
  | answered token name => exact isCheap_singleton (.inr notMethod)
  | refused refusal name => exact isCheap_singleton (.inr notMethod)

theorem DefinitionReads.isCheap {definition : Token}
    (definitionReads : DefinitionReads expected definition reads ending) :
    IsCheap expected 2 reads := by
  cases definitionReads with
  | refused refusal name =>
    exact (isCheap_singleton (.inl id)).mono (by decide)
  | otherName owner other =>
    exact (isCheap_singleton (.inl id)).mono (by decide)
  | named owner typeReads => exact (typeReads.isCheap id).cons owner id

theorem ParentReads.isCheap {parent : Token}
    (parentReads : ParentReads expected parent reads ending) : IsCheap expected 2 reads := by
  cases parentReads with
  | typeRef kind typeReads => exact (typeReads.isCheap id).mono (by decide)
  | typeDef kind typeReads => exact (typeReads.isCheap id).mono (by decide)
  | methodDef kind definitionReads => exact definitionReads.isCheap
  | otherKind => exact isCheap_nil expected 2

theorem OperandReads.isCheap {operand : Token}
    (operandReads : OperandReads expected operand reads ending) : IsCheap expected 3 reads := by
  cases operandReads with
  | refused kind refusal name =>
    exact (isCheap_singleton (.inl id)).mono (by decide)
  | otherName kind parent other =>
    exact (isCheap_singleton (.inl id)).mono (by decide)
  | named kind parent parentReads => exact parentReads.isCheap.cons parent id
  | definition kind definitionReads => exact definitionReads.isCheap.mono (by decide)

theorem ScanReads.isCheap {instructions : List Instruction} {costs : List (List AnsweredCall)}
    (scanReads : ScanReads expected instructions costs ending) :
    ∀ reads ∈ costs, IsCheap expected 3 reads := by
  induction scanReads with
  | done =>
    intro reads member
    cases member
  | noCall noCallee others ih =>
    intro reads member
    rcases List.mem_cons.mp member with rfl | behind
    · exact isCheap_nil expected 3
    · exact ih reads behind
  | call callee operandReads others ih =>
    intro reads member
    rcases List.mem_cons.mp member with rfl | behind
    · exact operandReads.isCheap
    · exact ih reads behind
  | refused callee operandReads =>
    intro reads member
    rw [List.mem_singleton.mp member]
    exact operandReads.isCheap

end Costs

/-! ## Scans over an account -/

namespace Scan

variable {α : Type}

/-- The scan on the host with an account of the given calls. -/
def accounted (scan : Scan S) (calls : List AnsweredCall) : Scan (Accounted S) :=
  ⟨scan.buffers, scan.world.accounted calls⟩

/-- On the host with an account the step comes to the same, and the account grows by `made`. -/
abbrev Makes (scan : Scan S) (step : Scanning S α) (accountedStep : Scanning (Accounted S) α)
    (made : List AnsweredCall) : Prop :=
  Host.Makes accounted scan step accountedStep made

/-- A read is one call, noted down with the name that it leaves in its buffer. -/
theorem makes_readName (buffer : NameBuffer) (call : MetadataCall) (tokenOf : α → Token)
    (read : NameRead S α) (scan : Scan S) :
    (∃ value after, readName buffer read scan = .ok value after ∧
      scan.Makes (readName buffer read) (readName buffer (read.noted call tokenOf))
        [⟨call, .ok (tokenOf value), after.buffers.get buffer⟩]) ∨
    ∃ refusal after, readName buffer read scan = .error refusal after ∧
      scan.Makes (readName buffer read) (readName buffer (read.noted call tokenOf))
        [⟨call, .error refusal, after.buffers.get buffer⟩] := by
  have left (slot : NameSlot S) : (scan.setSlot buffer slot).buffers.get buffer = slot.name :=
    scan.buffers.get_set_self buffer slot.name
  cases answered : read ⟨scan.buffers.get buffer, scan.world.host⟩ with
  | ok value slot =>
    refine .inl ⟨value, scan.setSlot buffer slot, readName_of_ok answered, ?_⟩
    intro earlier
    have notedRead : read.noted call tokenOf
        ⟨(scan.accounted earlier).buffers.get buffer, (scan.accounted earlier).world.host⟩ =
          .ok value
            ⟨slot.name, slot.host, earlier ++ [⟨call, .ok (tokenOf value), slot.name⟩]⟩ := by
      simp only [accounted, World.accounted, NameRead.noted, answered]
    rw [readName_of_ok answered, mapState, left]
    exact readName_of_ok notedRead
  | error refusal slot =>
    refine .inr ⟨refusal, scan.setSlot buffer slot, readName_of_error answered, ?_⟩
    intro earlier
    have notedRead : read.noted call tokenOf
        ⟨(scan.accounted earlier).buffers.get buffer, (scan.accounted earlier).world.host⟩ =
          .error refusal
            ⟨slot.name, slot.host, earlier ++ [⟨call, .error refusal, slot.name⟩]⟩ := by
      simp only [accounted, World.accounted, NameRead.noted, answered]
    rw [readName_of_error answered, mapState, left]
    exact readName_of_error notedRead

variable {scan : Scan S} {made : List AnsweredCall}

theorem makes_ifNamed {step : Scanning S (Option α)}
    {accountedStep : Scanning (Accounted S) (Option α)} {expected : String}
    (named : scan.buffers.methodName = expected) (makes : scan.Makes step accountedStep made) :
    scan.Makes (do if ← holdsMethodName expected then step else return none)
      (do if ← holdsMethodName expected then accountedStep else return none) made := by
  intro earlier
  have accountedNamed : (scan.accounted earlier).buffers.methodName = expected := named
  rw [ifNamed_run, ifNamed_run, if_pos named, if_pos accountedNamed]
  exact makes earlier

theorem makes_ifNamed_of_otherName {step : Scanning S (Option α)}
    {accountedStep : Scanning (Accounted S) (Option α)} {expected : String}
    (other : scan.buffers.methodName ≠ expected) :
    scan.Makes (do if ← holdsMethodName expected then step else return none)
      (do if ← holdsMethodName expected then accountedStep else return none) [] := by
  intro earlier
  have accountedOther : (scan.accounted earlier).buffers.methodName ≠ expected := other
  rw [ifNamed_run, ifNamed_run, if_neg other, if_neg accountedOther, List.append_nil]
  rfl

end Scan

/-! ## Steps of a resolution -/

/-- The refusal that an outcome is, if it is one. -/
def refusal? {α : Type} : Except Refusal α → Option Refusal
  | .ok _ => none
  | .error refusal => some refusal

@[simp] theorem refusal?_map {α β : Type} (f : α → β) (outcome : Except Refusal α) :
    refusal? (outcome.map f) = refusal? outcome := by
  cases outcome with
  | ok value => rfl
  | error refusal => rfl

section Steps

variable (metadata : Metadata S) (scan : Scan S) (expected : String)

theorem makes_resolveType (call : MetadataCall) (tokenOf : Unit → Token)
    (readType : NameRead S Unit) :
    ∃ reads, scan.Makes (resolveType readType) (resolveType (readType.noted call tokenOf))
        reads ∧
      TypeReads call reads (refusal? (outcomeOf (resolveType readType scan))) := by
  rcases Scan.makes_readName .typeName call tokenOf readType scan with answered | refused
  · obtain ⟨value, middle, read, makes⟩ := answered
    have found : resolveType readType scan =
        .ok (some ⟨middle.buffers.typeName, middle.buffers.methodName⟩) middle := by
      rw [resolveType, EStateM.bind_of_ok read]
      rfl
    refine ⟨_, makes.bind read (makes_nil_of_ok rfl fun _ => rfl), ?_⟩
    rw [found]
    exact .answered _ _
  · obtain ⟨refusal, middle, read, makes⟩ := refused
    refine ⟨_, makes.bind_of_error read, ?_⟩
    rw [resolveType, EStateM.bind_of_error read]
    exact .refused refusal _

theorem makes_resolveDefinition (definition : Token) :
    ∃ reads, scan.Makes (resolveDefinition metadata definition expected)
        (resolveDefinition metadata.accounted definition expected) reads ∧
      DefinitionReads expected definition reads
        (refusal? (outcomeOf (resolveDefinition metadata definition expected scan))) := by
  rcases Scan.makes_readName .methodName (.methodDef definition) id (metadata.methodDef definition)
    scan with answered | refused
  · obtain ⟨owner, middle, read, makes⟩ := answered
    rw [resolveDefinition, EStateM.bind_of_ok read, ifNamed_run]
    by_cases named : middle.buffers.methodName = expected
    · obtain ⟨reads, makesType, typeReads⟩ := makes_resolveType middle (.typeDef owner)
        (fun _ => owner) (metadata.typeDef owner)
      rw [show middle.buffers.get .methodName = expected from named] at makes
      rw [if_pos named]
      exact ⟨_, makes.bind read (Scan.makes_ifNamed named makesType), .named owner typeReads⟩
    · rw [if_neg named]
      exact ⟨_, makes.bind read (Scan.makes_ifNamed_of_otherName named), .otherName owner named⟩
  · obtain ⟨refusal, middle, read, makes⟩ := refused
    rw [resolveDefinition, EStateM.bind_of_error read]
    exact ⟨_, makes.bind_of_error read, .refused refusal _⟩

theorem makes_resolveParent (parent : Token) :
    ∃ reads, scan.Makes (resolveParent metadata parent expected)
        (resolveParent metadata.accounted parent expected) reads ∧
      ParentReads expected parent reads
        (refusal? (outcomeOf (resolveParent metadata parent expected scan))) := by
  unfold resolveParent
  cases kind : parent.kind
  case typeRef =>
    obtain ⟨reads, makes, typeReads⟩ := makes_resolveType scan (.typeRef parent)
      (fun _ => parent) (metadata.typeRef parent)
    exact ⟨reads, makes, .typeRef kind typeReads⟩
  case typeDef =>
    obtain ⟨reads, makes, typeReads⟩ := makes_resolveType scan (.typeDef parent)
      (fun _ => parent) (metadata.typeDef parent)
    exact ⟨reads, makes, .typeDef kind typeReads⟩
  case methodDef =>
    obtain ⟨reads, makes, definitionReads⟩ := makes_resolveDefinition metadata scan expected parent
    exact ⟨reads, makes, .methodDef kind definitionReads⟩
  all_goals
    exact ⟨[], makes_nil_of_ok rfl fun _ => rfl,
      .otherKind (by simp [kind]) (by simp [kind]) (by simp [kind])⟩

theorem makes_resolve {operand : Token}
    (candidate : operand.kind = .memberRef ∨ operand.kind = .methodDef) :
    ∃ reads, scan.Makes (resolve metadata operand expected)
        (resolve metadata.accounted operand expected) reads ∧
      OperandReads expected operand reads
        (refusal? (outcomeOf (resolve metadata operand expected scan))) := by
  unfold resolve
  rcases candidate with kind | kind
  · rw [kind]
    dsimp only
    rcases Scan.makes_readName .methodName (.memberRef operand) id (metadata.memberRef operand) scan
      with answered | refused
    · obtain ⟨parent, middle, read, makes⟩ := answered
      rw [resolveReference, EStateM.bind_of_ok read, ifNamed_run]
      by_cases named : middle.buffers.methodName = expected
      · obtain ⟨reads, makesParent, parentReads⟩ :=
          makes_resolveParent metadata middle expected parent
        rw [show middle.buffers.get .methodName = expected from named] at makes
        rw [if_pos named]
        exact ⟨_, makes.bind read (Scan.makes_ifNamed named makesParent),
          .named kind parent parentReads⟩
      · rw [if_neg named]
        exact ⟨_, makes.bind read (Scan.makes_ifNamed_of_otherName named),
          .otherName kind parent named⟩
    · obtain ⟨refusal, middle, read, makes⟩ := refused
      rw [resolveReference, EStateM.bind_of_error read]
      exact ⟨_, makes.bind_of_error read, .refused kind refusal _⟩
  · rw [kind]
    dsimp only
    obtain ⟨reads, makes, definitionReads⟩ := makes_resolveDefinition metadata scan expected operand
    exact ⟨reads, makes, .definition kind definitionReads⟩

end Steps

/-! ## Passes -/

/-- The pass on the host with an account of the given calls. -/
def Pass.accounted (pass : Pass S) (calls : List AnsweredCall) : Pass (Accounted S) :=
  ⟨pass.result, pass.instructions, pass.scan.accounted calls⟩

/-- On the host with an account a pass comes to the same, and what it adds to the account is what
its instructions cost. -/
theorem exists_costs_redirectNamed (metadata : Metadata S) (methodName : String)
    (typeName : Option String) (wrapperRef : Token) (instructions : List Instruction)
    (scan : Scan S) :
    ∃ costs, (∀ earlier,
        redirectNamed metadata.accounted methodName typeName wrapperRef instructions
            (scan.accounted earlier) =
          (redirectNamed metadata methodName typeName wrapperRef instructions scan).accounted
            (earlier ++ costs.flatten)) ∧
      ScanReads methodName instructions costs (refusal?
        (redirectNamed metadata methodName typeName wrapperRef instructions scan).result) := by
  induction instructions generalizing scan with
  | nil =>
    refine ⟨[], fun earlier => ?_, .done⟩
    rw [List.flatten_nil, List.append_nil]
    rfl
  | cons instruction rest ih =>
    cases callee : instruction.callee? with
    | none =>
      obtain ⟨costs, same, scanReads⟩ := ih scan
      rw [redirectNamed_of_noCallee callee]
      refine ⟨[] :: costs, fun earlier => ?_, .noCall callee scanReads⟩
      rw [redirectNamed_of_noCallee callee, same]
      rfl
    | some operand =>
      obtain ⟨-, -, candidate⟩ := Instruction.callee?_eq_some_iff.mp callee
      obtain ⟨reads, makes, operandReads⟩ :=
        makes_resolve metadata scan methodName candidate
      cases resolved : resolve metadata operand methodName scan with
      | error refusal after =>
        have accountedResolved (earlier : List AnsweredCall) :
            resolve metadata.accounted operand methodName (scan.accounted earlier) =
              .error refusal (after.accounted (earlier ++ reads)) := by
          rw [makes, resolved, mapState]
        rw [resolved] at operandReads
        rw [redirectNamed_of_refused callee resolved]
        refine ⟨[reads], fun earlier => ?_, .refused callee operandReads⟩
        rw [redirectNamed_of_refused callee (accountedResolved earlier), List.flatten_cons,
          List.flatten_nil, List.append_nil]
        rfl
      | ok found after =>
        have accountedResolved (earlier : List AnsweredCall) :
            resolve metadata.accounted operand methodName (scan.accounted earlier) =
              .ok found (after.accounted (earlier ++ reads)) := by
          rw [makes, resolved, mapState]
        rw [resolved] at operandReads
        by_cases isTarget : ∃ target, found = some target ∧
            typeIsExpected typeName target.typeName = true
        · obtain ⟨target, rfl, isExpected⟩ := isTarget
          obtain ⟨costs, same, scanReads⟩ := ih (after.log
            (.callRedirected instruction.offset target.typeName target.methodName wrapperRef))
          rw [redirectNamed_of_expected callee resolved isExpected]
          refine ⟨reads :: costs, fun earlier => ?_, .call callee operandReads ?_⟩
          · have logged := same (earlier ++ reads)
            rw [redirectNamed_of_expected callee (accountedResolved earlier) isExpected,
              List.flatten_cons, ← List.append_assoc]
            exact congrArg (Pass.redirecting (instruction.redirect wrapperRef)) logged
          · rw [Pass.redirecting, refusal?_map]
            exact scanReads
        · have other : ∀ target, found = some target →
              ¬ typeIsExpected typeName target.typeName = true :=
            fun target isFound isExpected => isTarget ⟨target, isFound, isExpected⟩
          obtain ⟨costs, same, scanReads⟩ := ih after
          rw [redirectNamed_of_other callee resolved other]
          refine ⟨reads :: costs, fun earlier => ?_, .call callee operandReads scanReads⟩
          rw [redirectNamed_of_other callee (accountedResolved earlier) other, same,
            List.flatten_cons, List.append_assoc]
          rfl

/-- What a pass costs, on every host and for every target. The calls that it adds to the account are
those of its instructions, in order. A target that leaves the method name open costs nothing.
Else each instruction makes just the reads of its kind, up to the first one that is refused; no
instruction makes more than three, and a type is read only beside the expected name. -/
theorem reads_of_redirectCalls (metadata : Metadata S) (target : MethodPattern)
    (wrapperRef : Token) (instructions : List Instruction) (scan : Scan S) :
    ∃ costs, (∀ earlier,
        redirectCalls metadata.accounted target wrapperRef instructions
            (scan.accounted earlier) =
          (redirectCalls metadata target wrapperRef instructions scan).accounted
            (earlier ++ costs.flatten)) ∧
      (target.methodName? = none → costs = []) ∧
      ∀ expected, target.methodName? = some expected →
        ScanReads expected instructions costs
            (refusal? (redirectCalls metadata target wrapperRef instructions scan).result) ∧
          ∀ reads ∈ costs, IsCheap expected 3 reads := by
  unfold redirectCalls
  cases named : target.methodName? with
  | none =>
    refine ⟨[], fun earlier => ?_, fun _ => rfl, nofun⟩
    rw [List.flatten_nil, List.append_nil]
    rfl
  | some methodName =>
    obtain ⟨costs, same, scanReads⟩ := exists_costs_redirectNamed metadata methodName
      target.typeName? wrapperRef instructions scan
    refine ⟨costs, same, nofun, ?_⟩
    rintro expected ⟨rfl⟩
    exact ⟨scanReads, scanReads.isCheap⟩

namespace MixedCalls

/-- Of the three references one has another name, one names a call with variable arguments, whose
parent is a definition, and one is refused. -/
def metadata : Metadata Unit :=
  { Metadata.refusing with
    memberRef := fun token slot =>
      if token = ⟨0x0A000001⟩ then .ok ⟨0x01000001⟩ ⟨"Stop", slot.host⟩
      else if token = ⟨0x0A000002⟩ then .ok ⟨0x06000001⟩ ⟨"Run", slot.host⟩
      else .error (.notFound "GetMemberRefProps" token) slot
    methodDef := fun _ slot => .ok ⟨0x02000002⟩ ⟨"Run", slot.host⟩
    typeRef := fun _ slot => .ok () ⟨"Lib", slot.host⟩
    typeDef := fun _ slot => .ok () ⟨"App", slot.host⟩ }

def target : MethodPattern := ⟨none, some "App", some "Run"⟩

def instructions : List Instruction :=
  [⟨0, Opcode.call, .token ⟨0x0A000001⟩⟩, ⟨5, 0x14, .none⟩,
    ⟨6, Opcode.callvirt, .token ⟨0x0A000002⟩⟩, ⟨11, Opcode.call, .token ⟨0x0A000003⟩⟩,
    ⟨16, 0x2A, .none⟩]

end MixedCalls

open MixedCalls in
theorem reads_of_redirectCalls_mixedCalls :
    target.methodName? = some "Run" ∧
    ∃ costs, costs.flatten =
        [⟨.memberRef ⟨0x0A000001⟩, .ok ⟨0x01000001⟩, "Stop"⟩,
          ⟨.memberRef ⟨0x0A000002⟩, .ok ⟨0x06000001⟩, "Run"⟩,
          ⟨.methodDef ⟨0x06000001⟩, .ok ⟨0x02000002⟩, "Run"⟩,
          ⟨.typeDef ⟨0x02000002⟩, .ok ⟨0x02000002⟩, "App"⟩,
          ⟨.memberRef ⟨0x0A000003⟩, .error (.notFound "GetMemberRefProps" ⟨0x0A000003⟩), "Run"⟩] ∧
      ScanReads "Run" instructions costs
        (some (.notFound "GetMemberRefProps" ⟨0x0A000003⟩)) ∧
      ∀ reads ∈ costs, IsCheap "Run" 3 reads := by
  obtain ⟨costs, same, -, reads⟩ := reads_of_redirectCalls metadata target ⟨0x0A000009⟩
    instructions ⟨.empty, ⟨(), #[]⟩⟩
  obtain ⟨scanReads, cheap⟩ := reads "Run" rfl
  have calls := congrArg (·.scan.world.host.calls) (same [])
  exact ⟨rfl, costs, calls.symm, scanReads, cheap⟩

end CallSite

end Detour
