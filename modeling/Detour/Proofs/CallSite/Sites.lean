import Detour.Proofs.CallSite.Purity

/-!
# The sites of a target

If the host is pure, a pass has a plain description that does not speak of buffers or of scans.
Every call of the body either is a site of the target, or is none, or cannot be resolved, and that
is decided by the call alone. A pass that succeeds has redirected the sites and nothing else. A pass
that is refused has done the same in front of the first call that cannot be resolved, and has left
everything from that call on as it was.
-/

namespace Detour.CallSite

open Detour.Body
open Detour.Host
open Detour.Rule

variable {S : Type}

/-! ## Sites -/

/-- What a call operand resolves to if nothing was read before. -/
def resolveAfresh (metadata : Metadata S) (host : S) (methodName : String) (operand : Token) :
    Except Refusal (Option MethodIdentity) :=
  outcomeOf (resolve metadata operand methodName ⟨HeldNames.empty, ⟨host, #[]⟩⟩)

/-- A target leaves the declaring type open or states it. -/
def AdmitsType (target : MethodPattern) (typeName : String) : Prop :=
  target.typeName = none ∨ target.typeName = some "" ∨ target.typeName = some typeName

/-- The instruction is a call of a method with the name and with a type that the target admits. -/
def IsSite (metadata : Metadata S) (host : S) (target : MethodPattern) (methodName : String)
    (instruction : Instruction) : Prop :=
  ∃ operand callee, instruction.callee? = some operand ∧
    resolveAfresh metadata host methodName operand = .ok (some callee) ∧
    AdmitsType target callee.typeName

/-- The instruction is a call whose resolution is refused. -/
def IsRefusedSite (metadata : Metadata S) (host : S) (methodName : String)
    (instruction : Instruction) (refusal : Refusal) : Prop :=
  ∃ operand, instruction.callee? = some operand ∧
    resolveAfresh metadata host methodName operand = .error refusal

theorem typeIsExpected_iff (target : MethodPattern) (typeName : String) :
    typeIsExpected target.typeName? typeName = true ↔ AdmitsType target typeName := by
  unfold AdmitsType
  cases stated : target.typeName? with
  | none =>
    rcases MethodPattern.stated?_eq_none_iff.mp stated with absent | empty
    · simp [typeIsExpected, absent]
    · simp [typeIsExpected, empty]
  | some name =>
    obtain ⟨named, nonempty⟩ := MethodPattern.stated?_eq_some_iff.mp stated
    simp [typeIsExpected, named, nonempty]

/-- Whether the instruction is a site, found by resolving its callee. -/
def isSite (metadata : Metadata S) (host : S) (target : MethodPattern) (methodName : String)
    (instruction : Instruction) : Bool :=
  match instruction.callee? with
  | none => false
  | some operand =>
    match resolveAfresh metadata host methodName operand with
    | .ok (some callee) => typeIsExpected target.typeName? callee.typeName
    | _ => false

theorem isSite_iff (metadata : Metadata S) (host : S) (target : MethodPattern)
    (methodName : String) (instruction : Instruction) :
    isSite metadata host target methodName instruction = true ↔
      IsSite metadata host target methodName instruction := by
  unfold isSite IsSite
  cases callee : instruction.callee? with
  | none => simp
  | some operand =>
    cases resolved : resolveAfresh metadata host methodName operand with
    | error refusal => simp [resolved]
    | ok found =>
      cases found with
      | none => simp [resolved]
      | some callee => simp [resolved, typeIsExpected_iff]

instance (metadata : Metadata S) (host : S) (target : MethodPattern) (methodName : String) :
    DecidablePred (IsSite metadata host target methodName) := fun instruction =>
  decidable_of_iff _ (isSite_iff metadata host target methodName instruction)

/-- The instruction as a pass leaves it: a site calls the wrapper, in the same place. -/
def redirectSite (metadata : Metadata S) (host : S) (target : MethodPattern) (methodName : String)
    (wrapperRef : Token) (instruction : Instruction) : Instruction :=
  if IsSite metadata host target methodName instruction then
    ⟨instruction.offset, Opcode.call, .token wrapperRef⟩
  else
    instruction

section Passes

variable {metadata : Metadata S} {host : S} {target : MethodPattern} {methodName : String}
  {wrapperRef operand : Token} {instruction : Instruction} {scan : Scan S}

/-! ## Single instructions -/

/-- From every scan of the host a call resolves to what it resolves to if nothing was read. -/
theorem resolve_eq_resolveAfresh (isPure : metadata.IsPure) (methodName : String)
    (operand : Token) (sameHost : scan.world.host = host) :
    (∃ found left, resolve metadata operand methodName scan =
        .ok found { scan with buffers := left } ∧
      resolveAfresh metadata host methodName operand = .ok found) ∨
    ∃ refusal left, resolve metadata operand methodName scan =
        .error refusal { scan with buffers := left } ∧
      resolveAfresh metadata host methodName operand = .error refusal := by
  have settled := settled_resolve isPure operand methodName host
  rcases settled with answered | refused
  · obtain ⟨found, answers⟩ := answered
    have here := answers scan sameHost
    have afresh := answers ⟨HeldNames.empty, ⟨host, #[]⟩⟩ rfl
    rcases here with ⟨left, here⟩
    rcases afresh with ⟨_, afresh⟩
    refine .inl ⟨found, left, here, ?_⟩
    rw [resolveAfresh, afresh]
    rfl
  · obtain ⟨refusal, refuses⟩ := refused
    have here := refuses scan sameHost
    have afresh := refuses ⟨HeldNames.empty, ⟨host, #[]⟩⟩ rfl
    rcases here with ⟨left, here⟩
    rcases afresh with ⟨_, afresh⟩
    refine .inr ⟨refusal, left, here, ?_⟩
    rw [resolveAfresh, afresh]
    rfl

theorem not_isRefusedSite_of_noCallee (callee : instruction.callee? = none) (refusal : Refusal) :
    ¬ IsRefusedSite metadata host methodName instruction refusal := by
  simp [IsRefusedSite, callee]

theorem not_isRefusedSite_of_resolved {found : Option MethodIdentity}
    (callee : instruction.callee? = some operand)
    (resolved : resolveAfresh metadata host methodName operand = .ok found) (refusal : Refusal) :
    ¬ IsRefusedSite metadata host methodName instruction refusal := by
  simp [IsRefusedSite, callee, resolved]

theorem not_isSite_of_noCallee (callee : instruction.callee? = none) :
    ¬ IsSite metadata host target methodName instruction := by
  simp [IsSite, callee]

theorem not_isSite_of_unresolved (callee : instruction.callee? = some operand)
    (resolved : resolveAfresh metadata host methodName operand = .ok none) :
    ¬ IsSite metadata host target methodName instruction := by
  simp [IsSite, callee, resolved]

theorem isSite_iff_of_resolved {found : MethodIdentity} (target : MethodPattern)
    (callee : instruction.callee? = some operand)
    (resolved : resolveAfresh metadata host methodName operand = .ok (some found)) :
    IsSite metadata host target methodName instruction ↔
      typeIsExpected target.typeName? found.typeName = true := by
  simp [IsSite, callee, resolved, typeIsExpected_iff]

/-- The pass counts the instruction if it is a site, and leaves it as `redirectSite` has it. -/
def BeginsWith (metadata : Metadata S) (host : S) (target : MethodPattern) (methodName : String)
    (wrapperRef : Token) (instruction : Instruction) (pass rest : Pass S) : Prop :=
  pass.instructions =
      redirectSite metadata host target methodName wrapperRef instruction :: rest.instructions ∧
    pass.result = rest.result.map
      (· + if IsSite metadata host target methodName instruction then 1 else 0)

theorem beginsWith_keeping (notSite : ¬ IsSite metadata host target methodName instruction)
    (pass : Pass S) :
    BeginsWith metadata host target methodName wrapperRef instruction (pass.keeping instruction)
      pass := by
  have uncounted : pass.result = pass.result.map fun count => count := by
    cases pass.result with
    | ok count => rfl
    | error refusal => rfl
  simpa [BeginsWith, redirectSite, Pass.keeping, notSite] using uncounted

theorem beginsWith_redirecting (isSite : IsSite metadata host target methodName instruction)
    (pass : Pass S) :
    BeginsWith metadata host target methodName wrapperRef instruction
      (pass.redirecting (instruction.redirect wrapperRef)) pass := by
  simp [BeginsWith, redirectSite, Pass.redirecting, Instruction.redirect, isSite]

/-- What a pass does at its first instruction: it ends at a refused call, or it goes on behind the
instruction, over the same host. -/
theorem redirectNamed_site (isPure : metadata.IsPure) (sameHost : scan.world.host = host)
    (target : MethodPattern) (methodName : String) (wrapperRef : Token)
    (instruction : Instruction) (rest : List Instruction) :
    (∃ refusal after, IsRefusedSite metadata host methodName instruction refusal ∧
      redirectNamed metadata methodName target.typeName? wrapperRef (instruction :: rest) scan =
        ⟨.error refusal, instruction :: rest, after⟩) ∨
    (∀ refusal, ¬ IsRefusedSite metadata host methodName instruction refusal) ∧
      ∃ after : Scan S, after.world.host = host ∧
        BeginsWith metadata host target methodName wrapperRef instruction
          (redirectNamed metadata methodName target.typeName? wrapperRef (instruction :: rest) scan)
          (redirectNamed metadata methodName target.typeName? wrapperRef rest after) := by
  cases callee : instruction.callee? with
  | none =>
    have notSite : ¬ IsSite metadata host target methodName instruction :=
      not_isSite_of_noCallee callee
    rw [redirectNamed_of_noCallee callee]
    exact .inr ⟨not_isRefusedSite_of_noCallee callee, scan, sameHost, beginsWith_keeping notSite _⟩
  | some operand =>
    rcases resolve_eq_resolveAfresh isPure methodName operand sameHost with answered | refused
    · obtain ⟨found, left, resolved, afresh⟩ := answered
      have notRefused := not_isRefusedSite_of_resolved callee afresh
      refine .inr ⟨notRefused, ?_⟩
      cases found with
      | none =>
        rw [redirectNamed_of_unresolved callee resolved]
        have notSite : ¬ IsSite metadata host target methodName instruction :=
          not_isSite_of_unresolved callee afresh
        exact ⟨{ scan with buffers := left }, sameHost, beginsWith_keeping notSite _⟩
      | some found =>
        have site := isSite_iff_of_resolved target callee afresh
        by_cases expected : typeIsExpected target.typeName? found.typeName = true
        · rw [redirectNamed_of_expected callee resolved expected]
          have isSite := site.mpr expected
          exact ⟨Scan.log { scan with buffers := left } _, sameHost,
            beginsWith_redirecting isSite _⟩
        · have notSite := mt site.mp expected
          rw [redirectNamed_of_unexpected callee resolved expected]
          exact ⟨{ scan with buffers := left }, sameHost, beginsWith_keeping notSite _⟩
    · obtain ⟨refusal, left, resolved, afresh⟩ := refused
      have isRefused : IsRefusedSite metadata host methodName instruction refusal :=
        ⟨operand, callee, afresh⟩
      exact .inl ⟨refusal, _, isRefused, redirectNamed_of_refused callee resolved⟩

/-! ## Whole passes -/

/-- None of the instructions is a call whose resolution is refused. -/
def Resolvable (metadata : Metadata S) (host : S) (methodName : String)
    (instructions : List Instruction) : Prop :=
  ∀ instruction ∈ instructions, ∀ refusal,
    ¬ IsRefusedSite metadata host methodName instruction refusal

theorem Resolvable.nil : Resolvable metadata host methodName [] := by
  simp [Resolvable]

theorem Resolvable.cons {rest : List Instruction}
    (notRefused : ∀ refusal, ¬ IsRefusedSite metadata host methodName instruction refusal)
    (resolvable : Resolvable metadata host methodName rest) :
    Resolvable metadata host methodName (instruction :: rest) := by
  intro other member
  rcases List.mem_cons.mp member with same | member
  · rw [same]
    exact notRefused
  · exact resolvable other member

/-- The pass came through: it has redirected the sites, and counts them. -/
structure Pass.Redirects (metadata : Metadata S) (host : S) (target : MethodPattern)
    (methodName : String) (wrapperRef : Token) (instructions : List Instruction) (pass : Pass S) :
    Prop where
  resolvable : Resolvable metadata host methodName instructions
  result_eq : pass.result =
    .ok (instructions.countP fun instruction => IsSite metadata host target methodName instruction)
  instructions_eq : pass.instructions =
    instructions.map (redirectSite metadata host target methodName wrapperRef)

/-- The pass was refused: it has redirected the sites in front of the first refused call. -/
structure Pass.Stops (metadata : Metadata S) (host : S) (target : MethodPattern)
    (methodName : String) (wrapperRef : Token) (instructions earlier : List Instruction)
    (site : Instruction) (later : List Instruction) (refusal : Refusal) (pass : Pass S) :
    Prop where
  split : instructions = earlier ++ site :: later
  resolvable : Resolvable metadata host methodName earlier
  isRefused : IsRefusedSite metadata host methodName site refusal
  result_eq : pass.result = .error refusal
  instructions_eq : pass.instructions =
    earlier.map (redirectSite metadata host target methodName wrapperRef) ++ site :: later

theorem Pass.Redirects.cons {rest : List Instruction} {pass passOfRest : Pass S}
    (notRefused : ∀ refusal, ¬ IsRefusedSite metadata host methodName instruction refusal)
    (begins : BeginsWith metadata host target methodName wrapperRef instruction pass passOfRest)
    (redirects : Redirects metadata host target methodName wrapperRef rest passOfRest) :
    Redirects metadata host target methodName wrapperRef (instruction :: rest) pass where
  resolvable := redirects.resolvable.cons notRefused
  result_eq := by
    rw [begins.2, redirects.result_eq, List.countP_cons]
    simp [Except.map]
  instructions_eq := by
    rw [begins.1, redirects.instructions_eq, List.map_cons]

theorem Pass.Stops.cons {rest earlier later : List Instruction} {site : Instruction}
    {refusal : Refusal} {pass passOfRest : Pass S}
    (notRefused : ∀ refusal, ¬ IsRefusedSite metadata host methodName instruction refusal)
    (begins : BeginsWith metadata host target methodName wrapperRef instruction pass passOfRest)
    (stops : Stops metadata host target methodName wrapperRef rest earlier site later refusal
      passOfRest) :
    Stops metadata host target methodName wrapperRef (instruction :: rest) (instruction :: earlier)
      site later refusal pass where
  split := by rw [stops.split, List.cons_append]
  resolvable := stops.resolvable.cons notRefused
  isRefused := stops.isRefused
  result_eq := by
    rw [begins.2, stops.result_eq]
    rfl
  instructions_eq := by
    rw [begins.1, stops.instructions_eq, List.map_cons, List.cons_append]

/-- A pass of a pure host comes through, or stops at the first refused call. -/
theorem redirectNamed_sites (isPure : metadata.IsPure) (sameHost : scan.world.host = host)
    (target : MethodPattern) (methodName : String) (wrapperRef : Token)
    (instructions : List Instruction) :
    Pass.Redirects metadata host target methodName wrapperRef instructions
        (redirectNamed metadata methodName target.typeName? wrapperRef instructions scan) ∨
      ∃ earlier site later refusal,
        Pass.Stops metadata host target methodName wrapperRef instructions earlier site later
          refusal
          (redirectNamed metadata methodName target.typeName? wrapperRef instructions scan) := by
  induction instructions generalizing scan with
  | nil => exact .inl ⟨Resolvable.nil, rfl, rfl⟩
  | cons instruction rest ih =>
    have step := redirectNamed_site isPure sameHost target methodName wrapperRef instruction rest
    rcases step with refused | passed
    · obtain ⟨refusal, after, isRefused, ends⟩ := refused
      rw [ends]
      exact .inr ⟨[], instruction, rest, refusal, rfl, Resolvable.nil, isRefused, rfl, rfl⟩
    · obtain ⟨notRefused, after, sameHostBehind, begins⟩ := passed
      have behind := ih sameHostBehind
      rcases behind with redirects | stops
      · exact .inl (redirects.cons notRefused begins)
      · obtain ⟨earlier, site, later, refusal, stops⟩ := stops
        exact .inr ⟨instruction :: earlier, site, later, refusal, stops.cons notRefused begins⟩

/-- Instructions keep their places, whether they are redirected or not. -/
theorem offset_redirectSite (instruction : Instruction) :
    (redirectSite metadata host target methodName wrapperRef instruction).offset =
      instruction.offset := by
  unfold redirectSite
  split
  · rfl
  · rfl

theorem map_offset_redirectSite (instructions : List Instruction) :
    (instructions.map (redirectSite metadata host target methodName wrapperRef)).map
      Instruction.offset = instructions.map Instruction.offset := by
  simp [offset_redirectSite]

theorem Pass.Redirects.map_offset_eq {instructions : List Instruction} {pass : Pass S}
    (redirects : Redirects metadata host target methodName wrapperRef instructions pass) :
    pass.instructions.map Instruction.offset = instructions.map Instruction.offset := by
  rw [redirects.instructions_eq, map_offset_redirectSite]

theorem Pass.Stops.map_offset_eq {instructions earlier later : List Instruction}
    {site : Instruction} {refusal : Refusal} {pass : Pass S}
    (stops : Stops metadata host target methodName wrapperRef instructions earlier site later
      refusal pass) :
    pass.instructions.map Instruction.offset = instructions.map Instruction.offset := by
  rw [stops.instructions_eq, stops.split, List.map_append, List.map_append,
    map_offset_redirectSite]

/-- If there is no site, then there is nothing to change. -/
theorem map_redirectSite_of_noSite {instructions : List Instruction}
    (noSite : instructions.countP (fun instruction =>
      IsSite metadata host target methodName instruction) = 0) :
    instructions.map (redirectSite metadata host target methodName wrapperRef) = instructions := by
  have none := List.countP_eq_zero.mp noSite
  have unchanged : ∀ instruction ∈ instructions,
      redirectSite metadata host target methodName wrapperRef instruction = id instruction := by
    intro instruction member
    have notSite := none instruction member
    simp only [decide_eq_true_eq] at notSite
    rw [redirectSite, if_neg notSite, id]
  rw [List.map_congr_left unchanged, List.map_id]

end Passes

/-- A pass for a target that names its method, over a body of a pure host. Whatever it comes to, the
header, the trailer and the places of the instructions stay. If all calls can be resolved, and only
then, it succeeds: it has redirected exactly the sites, and counts them. Otherwise it ends with the
refusal of the first call that cannot be resolved. -/
theorem redirectCalls_redirects_sites {metadata : Metadata S} (isPure : metadata.IsPure)
    {target : MethodPattern} {methodName : String} (stated : target.methodName = some methodName)
    (nonempty : methodName ≠ "") (wrapperRef : Token) (body : MethodBody) (scan : Scan S) :
    let host := scan.world.host
    let pass := redirectCalls metadata target wrapperRef body.instructions scan
    let redirected : MethodBody := { body with instructions := pass.instructions }
    (redirected.header = body.header ∧ redirected.trailer = body.trailer ∧
      redirected.instructions.length = body.instructions.length ∧
      redirected.instructions.map Instruction.offset =
        body.instructions.map Instruction.offset) ∧
    ((∃ count, pass.result = .ok count) ↔
      Resolvable metadata host methodName body.instructions) ∧
    (∀ count, pass.result = .ok count →
      (∀ (position : Nat) (instruction : Instruction),
        body.instructions[position]? = some instruction →
          redirected.instructions[position]? =
            some (redirectSite metadata host target methodName wrapperRef instruction)) ∧
      count = body.instructions.countP (fun instruction =>
        IsSite metadata host target methodName instruction) ∧
      (count = 0 → redirected = body)) ∧
    ∀ refusal, pass.result = .error refusal →
      ∃ earlier site later, body.instructions = earlier ++ site :: later ∧
        Resolvable metadata host methodName earlier ∧
        IsRefusedSite metadata host methodName site refusal ∧
        redirected.instructions =
          earlier.map (redirectSite metadata host target methodName wrapperRef) ++
            site :: later := by
  intro host pass redirected
  have named : target.methodName? = some methodName :=
    MethodPattern.stated?_eq_some_iff.mpr ⟨stated, nonempty⟩
  have passes := redirectNamed_sites isPure (show scan.world.host = host from rfl) target methodName
    wrapperRef body.instructions
  have pass_eq : redirectNamed metadata methodName target.typeName? wrapperRef body.instructions
      scan = pass := by simp only [pass, redirectCalls, named]
  rw [pass_eq] at passes
  rcases passes with redirects | stops
  · have sameOffsets := redirects.map_offset_eq
    have sameLength : pass.instructions.length = body.instructions.length := by
      rw [redirects.instructions_eq, List.length_map]
    refine ⟨⟨rfl, rfl, sameLength, sameOffsets⟩, ?_, ?_, ?_⟩
    · exact iff_of_true ⟨_, redirects.result_eq⟩ redirects.resolvable
    · intro count counted
      cases redirects.result_eq.symm.trans counted
      refine ⟨?_, rfl, ?_⟩
      · intro position instruction found
        simp only [redirected, redirects.instructions_eq, List.getElem?_map, found,
          Option.map_some]
      · intro noSite
        simp only [redirected, redirects.instructions_eq, map_redirectSite_of_noSite noSite]
    · intro refusal refused
      cases redirects.result_eq.symm.trans refused
  · obtain ⟨earlier, site, later, other, stops⟩ := stops
    have sameOffsets := stops.map_offset_eq
    have sameLength : pass.instructions.length = body.instructions.length := by
      simpa using congrArg List.length sameOffsets
    refine ⟨⟨rfl, rfl, sameLength, sameOffsets⟩, ?_, ?_, ?_⟩
    · have failed : ¬ ∃ count, pass.result = .ok count := by
        simp [stops.result_eq]
      have refusedSite : ¬ Resolvable metadata host methodName body.instructions := by
        intro resolvable
        have member : site ∈ body.instructions := by simp [stops.split]
        exact resolvable site member other stops.isRefused
      exact iff_of_false failed refusedSite
    · intro count counted
      cases stops.result_eq.symm.trans counted
    · intro refusal refused
      cases stops.result_eq.symm.trans refused
      exact ⟨earlier, site, later, stops.split, stops.resolvable, stops.isRefused,
        stops.instructions_eq⟩

namespace ThreeCallees

/-- The first row of the member references is `Run`, the second `Stop`, and there is no third. -/
def metadata : Metadata Unit :=
  { Metadata.refusing with
    memberRef := fun token slot =>
      if token = ⟨0x0A000001⟩ then .ok ⟨0x01000001⟩ ⟨"Run", slot.host⟩
      else if token = ⟨0x0A000002⟩ then .ok ⟨0x01000001⟩ ⟨"Stop", slot.host⟩
      else .error (.notFound "GetMemberRefProps" token) slot
    methodDef := fun _ slot => .ok ⟨0x02000002⟩ ⟨"Main", slot.host⟩
    typeRef := fun _ slot => .ok () ⟨"Lib.Task", slot.host⟩
    typeDef := fun _ slot => .ok () ⟨"App", slot.host⟩ }

theorem metadata_isPure : metadata.IsPure where
  memberRef token host := by
    by_cases first : token = ⟨0x0A000001⟩
    · left
      simp [metadata, first]
    · by_cases second : token = ⟨0x0A000002⟩
      · left
        simp [metadata, second]
      · right
        simp [metadata, first, second]
  methodDef _ _ := .inl ⟨_, _, fun _ => rfl⟩
  typeRef _ _ := .inl ⟨_, _, fun _ => rfl⟩
  typeDef _ _ := .inl ⟨_, _, fun _ => rfl⟩

def target : MethodPattern := ⟨none, some "", some "Run"⟩

def resolvable : MethodBody where
  header := .tiny
  instructions :=
    [⟨0, Opcode.callvirt, .token ⟨0x0A000001⟩⟩, ⟨5, Opcode.call, .token ⟨0x0A000002⟩⟩,
      ⟨10, Opcode.call, .token ⟨0x0A000001⟩⟩]
  trailer := []

def refused : MethodBody where
  header := .tiny
  instructions :=
    [⟨0, Opcode.callvirt, .token ⟨0x0A000001⟩⟩, ⟨5, Opcode.call, .token ⟨0x0A000003⟩⟩,
      ⟨10, Opcode.call, .token ⟨0x0A000001⟩⟩]
  trailer := []

end ThreeCallees

theorem redirectCalls_redirects_sites_threeCallees :
    ThreeCallees.metadata.IsPure ∧
    ThreeCallees.target.methodName = some "Run" ∧ "Run" ≠ "" ∧
    (∀ held : HeldNames,
      let pass := redirectCalls ThreeCallees.metadata ThreeCallees.target ⟨0x0A000009⟩
        ThreeCallees.resolvable.instructions ⟨held, ⟨(), #[]⟩⟩
      pass.result = .ok 2 ∧
        pass.instructions[1]? = some ⟨5, Opcode.call, .token ⟨0x0A000002⟩⟩ ∧
        pass.instructions[2]? = some ⟨10, Opcode.call, .token ⟨0x0A000009⟩⟩) ∧
    ∃ earlier site later,
      ThreeCallees.refused.instructions = earlier ++ site :: later ∧
      IsRefusedSite ThreeCallees.metadata () "Run" site
        (.notFound "GetMemberRefProps" ⟨0x0A000003⟩) := by
  have isPure := ThreeCallees.metadata_isPure
  have stated : ThreeCallees.target.methodName = some "Run" := rfl
  have nonempty : "Run" ≠ "" := by decide
  refine ⟨isPure, stated, nonempty, ?_, ?_⟩
  · intro held
    obtain ⟨-, -, redirected, -⟩ := redirectCalls_redirects_sites isPure stated nonempty
      ⟨0x0A000009⟩ ThreeCallees.resolvable ⟨held, ⟨(), #[]⟩⟩
    obtain ⟨places, -, -⟩ := redirected 2 rfl
    exact ⟨rfl, places 1 _ rfl, places 2 _ rfl⟩
  · obtain ⟨-, -, -, stops⟩ := redirectCalls_redirects_sites isPure stated nonempty
      ⟨0x0A000009⟩ ThreeCallees.refused ⟨HeldNames.empty, ⟨(), #[]⟩⟩
    obtain ⟨earlier, site, later, split, -, isRefused, -⟩ := stops _ rfl
    exact ⟨earlier, site, later, split, isRefused⟩

end Detour.CallSite
