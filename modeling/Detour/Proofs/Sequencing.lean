/-!
# Sequenced steps

A sequence of steps that can fail succeeds exactly if every step does. The laws take a successful
sequence apart, so that the programs built from it need not be unfolded further. What every step of
a sequence keeps of the state, the sequence keeps, wherever it fails. Where an invariant decides
whether each step succeeds, the sequence succeeds if all of them do. If from related states every
step comes to the same, then so does the sequence; and if only the successes of one sequence are to
be met by another one, then it is enough to meet them step by step.
-/

namespace Detour

variable {ε σ τ α β γ : Type}

namespace Except

theorem bind_eq_ok_iff {first : Except ε α} {continuation : α → Except ε β} {value : β} :
    first >>= continuation = .ok value ↔
      ∃ inner, first = .ok inner ∧ continuation inner = .ok value := by
  cases first with
  | error fault =>
    constructor
    · intro impossible
      cases impossible
    · intro impossible
      obtain ⟨_, impossible, _⟩ := impossible
      cases impossible
  | ok inner =>
    constructor
    · intro continued
      exact ⟨inner, rfl, continued⟩
    · intro continued
      obtain ⟨_, same, continued⟩ := continued
      cases same
      exact continued

theorem bind_of_ok {first : Except ε α} {inner : α} (succeeds : first = .ok inner)
    (continuation : α → Except ε β) : first >>= continuation = continuation inner := by
  rw [succeeds]
  rfl

theorem bind_of_error {first : Except ε α} {fault : ε} (fails : first = .error fault)
    (continuation : α → Except ε β) : first >>= continuation = .error fault := by
  rw [fails]
  rfl

theorem pure_eq_ok_iff {value result : α} :
    (pure value : Except ε α) = .ok result ↔ value = result := by
  change Except.ok value = _ ↔ _
  rw [Except.ok.injEq]

theorem map_eq_ok_iff {outcome : Except ε α} {change : α → β} {value : β} :
    outcome.map change = .ok value ↔ ∃ inner, outcome = .ok inner ∧ change inner = value := by
  cases outcome with
  | error fault => simp [Except.map]
  | ok inner => simp [Except.map]

end Except

namespace StateT

theorem bind_eq_ok_iff {first : StateT σ (Except ε) α} {continuation : α → StateT σ (Except ε) β}
    {before after : σ} {value : β} :
    (first >>= continuation) before = .ok (value, after) ↔
      ∃ inner middle, first before = .ok (inner, middle) ∧
        continuation inner middle = .ok (value, after) := by
  change first before >>= (fun outcome => continuation outcome.1 outcome.2) = _ ↔ _
  rw [Except.bind_eq_ok_iff, Prod.exists]

theorem pure_eq_ok_iff {value result : α} {before after : σ} :
    (pure value : StateT σ (Except ε) α) before = .ok (result, after) ↔
      value = result ∧ after = before := by
  change (pure (value, before) : Except ε _) = _ ↔ _
  rw [Except.pure_eq_ok_iff, Prod.mk.injEq, @eq_comm _ before]

end StateT

/-- The state behind a step, whether it succeeded or not. -/
def endState : EStateM.Result ε σ α → σ
  | .ok _ state => state
  | .error _ state => state

/-- The result with a change of the state behind it. -/
def mapState (change : σ → τ) : EStateM.Result ε σ α → EStateM.Result ε τ α
  | .ok value state => .ok value (change state)
  | .error fault state => .error fault (change state)

/-- What a step comes to, without the state behind it. -/
def outcomeOf : EStateM.Result ε σ α → Except ε α
  | .ok value _ => .ok value
  | .error fault _ => .error fault

theorem eq_ok_of_outcomeOf {result : EStateM.Result ε σ α} {value : α}
    (succeeded : outcomeOf result = .ok value) : result = .ok value (endState result) := by
  cases result with
  | ok other state =>
    cases succeeded
    rfl
  | error fault state => cases succeeded

theorem eq_error_of_outcomeOf {result : EStateM.Result ε σ α} {fault : ε}
    (failed : outcomeOf result = .error fault) : result = .error fault (endState result) := by
  cases result with
  | ok value state => cases failed
  | error other state =>
    cases failed
    rfl

namespace EStateM

theorem bind_eq_ok_iff {first : EStateM ε σ α} {continuation : α → EStateM ε σ β} {value : β}
    {before after : σ} :
    (first >>= continuation) before = .ok value after ↔
      ∃ inner middle, first before = .ok inner middle ∧
        continuation inner middle = .ok value after := by
  change (match first before with
    | .ok inner middle => continuation inner middle
    | .error fault middle => .error fault middle) = _ ↔ _
  cases first before with
  | error fault middle =>
    constructor
    · intro impossible
      cases impossible
    · intro impossible
      obtain ⟨_, _, impossible, _⟩ := impossible
      cases impossible
  | ok inner middle =>
    constructor
    · intro continued
      exact ⟨inner, middle, rfl, continued⟩
    · intro continued
      obtain ⟨_, _, same, continued⟩ := continued
      cases same
      exact continued

theorem bind_of_ok {first : EStateM ε σ α} {inner : α} {before middle : σ}
    (succeeds : first before = .ok inner middle) (continuation : α → EStateM ε σ β) :
    (first >>= continuation) before = continuation inner middle := by
  change (match first before with
    | .ok inner middle => continuation inner middle
    | .error fault middle => .error fault middle) = _
  rw [succeeds]

theorem bind_of_error {first : EStateM ε σ α} {fault : ε} {before middle : σ}
    (fails : first before = .error fault middle) (continuation : α → EStateM ε σ β) :
    (first >>= continuation) before = .error fault middle := by
  change (match first before with
    | .ok inner middle => continuation inner middle
    | .error fault middle => .error fault middle) = _
  rw [fails]

/-- A sequence fails where its first part fails, or else where the rest does. -/
theorem bind_eq_error_iff {first : EStateM ε σ α} {continuation : α → EStateM ε σ β} {fault : ε}
    {before after : σ} :
    (first >>= continuation) before = .error fault after ↔
      first before = .error fault after ∨
        ∃ inner middle, first before = .ok inner middle ∧
          continuation inner middle = .error fault after := by
  cases outcome : first before with
  | error other middle =>
    rw [bind_of_error outcome]
    simp
  | ok inner middle =>
    rw [bind_of_ok outcome]
    constructor
    · intro fails
      exact .inr ⟨inner, middle, rfl, fails⟩
    · rintro (impossible | ⟨_, _, same, fails⟩)
      · cases impossible
      · cases same
        exact fails

theorem pure_eq_ok_iff {value result : α} {before after : σ} :
    (pure value : EStateM ε σ α) before = .ok result after ↔ value = result ∧ before = after := by
  change EStateM.Result.ok value before = _ ↔ _
  rw [EStateM.Result.ok.injEq]

/-- Sequences that differ only in what follows a success differ only there. -/
theorem bind_congr {first : EStateM ε σ α} {continuation other : α → EStateM ε σ β} {before : σ}
    (agree : ∀ inner middle, first before = .ok inner middle →
      continuation inner middle = other inner middle) :
    (first >>= continuation) before = (first >>= other) before := by
  cases outcome : first before with
  | error fault middle => rw [bind_of_error outcome, bind_of_error outcome]
  | ok inner middle =>
    rw [bind_of_ok outcome, bind_of_ok outcome]
    exact agree inner middle outcome

/-- A step that leaves a view of the state as it is, even if it fails. -/
def Keeps (view : σ → γ) (step : EStateM ε σ α) : Prop :=
  ∀ before, view (endState (step before)) = view before

variable {view : σ → γ}

theorem keeps_pure (value : α) : Keeps view (pure value : EStateM ε σ α) :=
  fun _ => rfl

theorem keeps_bind {first : EStateM ε σ α} {continuation : α → EStateM ε σ β}
    (firstKeeps : Keeps view first) (continues : ∀ value, Keeps view (continuation value)) :
    Keeps view (first >>= continuation) := by
  intro before
  have kept := firstKeeps before
  cases outcome : first before with
  | error fault middle =>
    rw [bind_of_error outcome]
    rw [outcome] at kept
    exact kept
  | ok inner middle =>
    rw [bind_of_ok outcome]
    rw [outcome] at kept
    exact (continues inner middle).trans kept

/-- Where the invariant holds, the step succeeds exactly if it is accepted, and the invariant holds
again behind it. -/
def Decided (holds : σ → Prop) (accepted : Bool) (step : EStateM ε σ α) : Prop :=
  ∀ before, holds before →
    (outcomeOf (step before)).isOk = accepted ∧ holds (endState (step before))

theorem Decided.bind {holds : σ → Prop} {accepted acceptedRest : Bool} {first : EStateM ε σ α}
    {continuation : α → EStateM ε σ β} (decided : Decided holds accepted first)
    (continues : ∀ value, Decided holds acceptedRest (continuation value)) :
    Decided holds (accepted && acceptedRest) (first >>= continuation) := by
  intro before holdsBefore
  have firstDecided := decided before holdsBefore
  cases outcome : first before with
  | error fault middle =>
    rw [bind_of_error outcome]
    rw [outcome] at firstDecided
    obtain ⟨rfl, holdsBehind⟩ := firstDecided
    exact ⟨rfl, holdsBehind⟩
  | ok inner middle =>
    rw [bind_of_ok outcome]
    rw [outcome] at firstDecided
    obtain ⟨rfl, holdsBehind⟩ := firstDecided
    exact continues inner middle holdsBehind

/-! ## Two runs -/

/-- Two runs have come to the same value in related states, or to related faults. -/
inductive Alike (faults : ε → σ → ε → σ → Prop) (states : σ → σ → Prop) :
    EStateM.Result ε σ α → EStateM.Result ε σ α → Prop where
  | ok (value : α) {state other : σ} (related : states state other) :
      Alike faults states (.ok value state) (.ok value other)
  | error {fault otherFault : ε} {state other : σ}
      (related : faults fault state otherFault other) :
      Alike faults states (.error fault state) (.error otherFault other)

/-- Two runs of the step from states that are related in front of it come to the same, and the
states behind it are related again. -/
def RunsAlike (faults : ε → σ → ε → σ → Prop) (before after : σ → σ → Prop)
    (step : EStateM ε σ α) : Prop :=
  ∀ state other, before state other → Alike faults after (step state) (step other)

variable {faults : ε → σ → ε → σ → Prop} {before middle after : σ → σ → Prop}

theorem Alike.mono {weaker : σ → σ → Prop} {result otherResult : EStateM.Result ε σ α}
    (alike : Alike faults after result otherResult)
    (weaken : ∀ state other, after state other → weaker state other) :
    Alike faults weaker result otherResult := by
  cases alike with
  | ok value related => exact .ok value (weaken _ _ related)
  | error related => exact .error related

theorem Alike.mapState {faultsBehind : ε → τ → ε → τ → Prop} {behind : τ → τ → Prop}
    {result otherResult : EStateM.Result ε σ α} {change otherChange : σ → τ}
    (alike : Alike faults after result otherResult)
    (changes : ∀ state other, after state other → behind (change state) (otherChange other))
    (changesFaults : ∀ fault state otherFault other, faults fault state otherFault other →
      faultsBehind fault (change state) otherFault (otherChange other)) :
    Alike faultsBehind behind (mapState change result) (mapState otherChange otherResult) := by
  cases alike with
  | ok value related => exact .ok value (changes _ _ related)
  | error related => exact .error (changesFaults _ _ _ _ related)

theorem RunsAlike.mono {stronger weaker : σ → σ → Prop} {step : EStateM ε σ α}
    (alike : RunsAlike faults before after step)
    (strengthen : ∀ state other, stronger state other → before state other)
    (weaken : ∀ state other, after state other → weaker state other) :
    RunsAlike faults stronger weaker step := by
  intro state other related
  have runs := alike state other (strengthen state other related)
  exact runs.mono weaken

theorem runsAlike_pure (value : α) :
    RunsAlike faults before before (pure value : EStateM ε σ α) :=
  fun _ _ related => .ok value related

theorem Alike.exists_ok {result otherResult : EStateM.Result ε σ α} {value : α} {state : σ}
    (alike : Alike faults after result otherResult) (succeeded : result = .ok value state) :
    ∃ other, otherResult = .ok value other ∧ after state other := by
  cases alike with
  | ok same related =>
    cases succeeded
    exact ⟨_, rfl, related⟩
  | error related => cases succeeded

theorem Alike.exists_error {result otherResult : EStateM.Result ε σ α} {fault : ε} {state : σ}
    (alike : Alike faults after result otherResult) (failed : result = .error fault state) :
    ∃ otherFault other, otherResult = .error otherFault other ∧
      faults fault state otherFault other := by
  cases alike with
  | ok same related => cases failed
  | error related =>
    cases failed
    exact ⟨_, _, rfl, related⟩

theorem runsAlike_bind {first : EStateM ε σ α} {continuation : α → EStateM ε σ β}
    (firstAlike : RunsAlike faults before middle first)
    (continues : ∀ value, RunsAlike faults middle after (continuation value)) :
    RunsAlike faults before after (first >>= continuation) := by
  intro state other related
  have firstRuns := firstAlike state other related
  cases run : first state with
  | ok value behind =>
    obtain ⟨otherBehind, otherRun, relatedBehind⟩ := firstRuns.exists_ok run
    rw [bind_of_ok run, bind_of_ok otherRun]
    exact continues value behind otherBehind relatedBehind
  | error fault behind =>
    obtain ⟨otherFault, otherBehind, otherRun, relatedFaults⟩ := firstRuns.exists_error run
    rw [bind_of_error run, bind_of_error otherRun]
    exact .error relatedFaults

theorem RunsAlike.of_modify {change : σ → σ}
    (changes : ∀ state other, before state other → after (change state) (change other)) :
    RunsAlike faults before after (modify change : EStateM ε σ PUnit) :=
  fun state other related => .ok PUnit.unit (changes state other related)

/-- Runs that come to the same value do so on either side. -/
theorem Alike.outcomeOf_eq_ok_iff {result otherResult : EStateM.Result ε σ α}
    (alike : Alike faults after result otherResult) (value : α) :
    outcomeOf result = .ok value ↔ outcomeOf otherResult = .ok value := by
  cases alike with
  | ok same related => exact Iff.rfl
  | error related => simp [outcomeOf]

theorem Alike.outcomeOf_eq {result otherResult : EStateM.Result ε σ α}
    (alike : Alike faults after result otherResult)
    (faultsAgree : ∀ fault state otherFault other, faults fault state otherFault other →
      fault = otherFault) : outcomeOf result = outcomeOf otherResult := by
  cases alike with
  | ok same related => rfl
  | error related =>
    rw [outcomeOf, outcomeOf, faultsAgree _ _ _ _ related]

theorem Alike.endStates {result otherResult : EStateM.Result ε σ α}
    (alike : Alike faults after result otherResult)
    (statesAgree : ∀ fault state otherFault other, faults fault state otherFault other →
      after state other) : after (endState result) (endState otherResult) := by
  cases alike with
  | ok value related => exact related
  | error related => exact statesAgree _ _ _ _ related

/-! ## One relation -/

/-- Two runs have met the same fault in related states. -/
def SameFault (related : σ → σ → Prop) (fault : ε) (state : σ) (otherFault : ε) (other : σ) :
    Prop :=
  fault = otherFault ∧ related state other

/-- From related states the step comes to the same, value or fault, in related states. -/
abbrev Respects (related : σ → σ → Prop) (step : EStateM ε σ α) : Prop :=
  RunsAlike (SameFault related) related related step

theorem respects_bind {related : σ → σ → Prop} {first : EStateM ε σ α}
    {continuation : α → EStateM ε σ β} (firstRespects : Respects related first)
    (continues : ∀ value, Respects related (continuation value)) :
    Respects related (first >>= continuation) :=
  runsAlike_bind firstRespects continues

/-! ## One run behind another -/

/-- Where the first step succeeds, the other one succeeds from every related state with the same
value. Where the first step fails, nothing is asked of the other one. -/
def Follows (before : σ → σ → Prop) (after : α → σ → σ → Prop) (step other : EStateM ε σ α) :
    Prop :=
  ∀ state otherState value behind, before state otherState → step state = .ok value behind →
    ∃ otherBehind, other otherState = .ok value otherBehind ∧ after value behind otherBehind

theorem follows_pure {related : σ → σ → Prop} (value : α) :
    Follows related (fun _ => related) (pure value : EStateM ε σ α) (pure value) := by
  intro state otherState result behind relatedStates returned
  cases returned
  exact ⟨otherState, rfl, relatedStates⟩

theorem follows_bind {before : σ → σ → Prop} {middle : α → σ → σ → Prop}
    {after : β → σ → σ → Prop} {first otherFirst : EStateM ε σ α}
    {continuation otherContinuation : α → EStateM ε σ β}
    (firstFollows : Follows before middle first otherFirst)
    (continues : ∀ value,
      Follows (middle value) after (continuation value) (otherContinuation value)) :
    Follows before after (first >>= continuation) (otherFirst >>= otherContinuation) := by
  intro state otherState value behind relatedStates ran
  obtain ⟨inner, between, firstRan, continued⟩ := bind_eq_ok_iff.mp ran
  obtain ⟨otherBetween, otherRan, relatedBetween⟩ :=
    firstFollows state otherState inner between relatedStates firstRan
  rw [bind_of_ok otherRan]
  exact continues inner between otherBetween value behind relatedBetween continued

end EStateM

end Detour
