import Detour.Agent.Profiler
import Detour.Proofs.Agent.Writes

/-!
# Histories of callbacks

The host delivers callbacks in any order and number, and between them the world may become any
other. While a method is compiled, the calls to its body may let further callbacks in: the history
has them behind the compilation, and all that the compilation does to the agent is done by them. A
view of the agent that every other callback either decides or leaves alone is given by the last
callback of the history that decides it.
-/

namespace Detour

open Detour.Host

variable {S α : Type}

/-! ## Callbacks -/

/-- A callback of the host with its arguments. -/
inductive Callback (S : Type) where
  | processStarted (process : String)
  | shutdown
  | moduleLoaded (notice : LoadNotice S) (status : HResult)
  | moduleUnloaded (moduleId : ModuleId) (status : HResult)
  | compilationStarted (moduleId : ModuleId) (function : Token) (handle : BodyHandle (Session S))
      (isSafeToBlock : Bool)

namespace Callback

/-- The status that the agent answers with, if there is one, and the session behind the callback. -/
def deliver : Callback S → StateM (Session S) (Option HResult)
  | processStarted process => some <$> (agentProfiler S).processStarted process
  | shutdown => (fun _ => none) <$> (agentProfiler S).shutdown
  | moduleLoaded notice status => some <$> (agentProfiler S).moduleLoaded notice status
  | moduleUnloaded moduleId status => some <$> (agentProfiler S).moduleUnloaded moduleId status
  | compilationStarted moduleId function handle isSafeToBlock =>
    some <$> (agentProfiler S).compilationStarted moduleId function handle isSafeToBlock

def isCompilation : Callback S → Bool
  | compilationStarted .. => true
  | processStarted _ | shutdown | moduleLoaded _ _ | moduleUnloaded _ _ => false

end Callback

/-- A callback that was delivered, with the session in front of it. -/
structure Delivery (S : Type) where
  callback : Callback S
  before : Session S

/-- The status that the agent has answered with. -/
def Delivery.status? (delivery : Delivery S) : Option HResult :=
  (delivery.callback.deliver delivery.before).1

/-! ## Journeys -/

namespace Session

/-- A relation between sessions that can be composed, and that takes no notice of the world. -/
structure IsJourney (leads : Session S → Session S → Prop) : Prop where
  refl : ∀ session, leads session session
  trans : ∀ {before middle after}, leads before middle → leads middle after → leads before after
  worlds : ∀ (session : Session S) (world : World S), leads session { session with world }

section Journeys

variable {leads : Session S → Session S → Prop} {metadata? : Option (Metadata S)}
  {handle : BodyHandle (Session S)} {before after : Session S}

theorem IsJourney.step (journey : IsJourney leads) {effect : Effect}
    (reads : ∀ before, leads before (endState (handle.read before)))
    (writes : ∀ bytes before, leads before (endState (handle.write bytes before)))
    (step : Step metadata? handle effect before after) : leads before after := by
  cases step with
  | metadata known call held agent host events => exact journey.worlds _ _
  | log event => exact journey.worlds _ _
  | readBody => exact reads before
  | @writeBody bytes _ _ taken =>
    have wrote := writes bytes before
    rw [taken] at wrote
    exact wrote
  | @refusedWrite bytes _ _ _ refused =>
    have wrote := writes bytes before
    rw [refused] at wrote
    exact wrote

theorem IsJourney.runs (journey : IsJourney leads) {effects : List Effect}
    (reads : ∀ before, leads before (endState (handle.read before)))
    (writes : ∀ bytes before, leads before (endState (handle.write bytes before)))
    (runs : Runs metadata? handle effects before after) : leads before after := by
  induction runs with
  | done session => exact journey.refl session
  | step effect rest ih => exact journey.trans (journey.step reads writes effect) ih

/-- A compilation leads where the calls to the body lead. -/
theorem IsJourney.compile (journey : IsJourney leads)
    (reads : ∀ before, leads before (endState (handle.read before)))
    (writes : ∀ bytes before, leads before (endState (handle.write bytes before)))
    (moduleId : ModuleId) (function : Token) (session : Session S) :
    leads session (endState (Session.compile moduleId function handle session)) := by
  obtain ⟨ready, last, ⟨effects, _, observing⟩, ending, _⟩ :=
    writesLast_sessionCompile moduleId function handle session
  have toReady := journey.runs reads writes observing
  have toEnd := journey.runs reads writes ending
  exact journey.trans toReady toEnd

theorem IsJourney.onCompilationStarted (journey : IsJourney leads)
    (reads : ∀ before, leads before (endState (handle.read before)))
    (writes : ∀ bytes before, leads before (endState (handle.write bytes before)))
    (moduleId : ModuleId) (function : Token) (session : Session S) :
    leads session (onCompilationStarted moduleId function handle session).2 := by
  have compiles := journey.compile reads writes moduleId function session
  unfold Session.onCompilationStarted
  by_cases attached : session.agent.isAttached = true
  · rw [if_pos attached]
    cases outcome : Session.compile moduleId function handle session with
    | ok value after =>
      rw [outcome] at compiles
      exact compiles
    | error error after =>
      rw [outcome] at compiles
      exact journey.trans compiles (journey.worlds _ _)
  · rw [if_neg attached]
    exact journey.refl session

end Journeys

/-! ## Runs -/

/-- The deliveries of a history lead from one session to another. -/
inductive Lived : Session S → List (Delivery S) → Session S → Prop where
  | start (session : Session S) : Lived session [] session
  | meanwhile {before session : Session S} {history : List (Delivery S)}
      (lived : Lived before history session) (world : World S) :
      Lived before history { session with world }
  | deliver {before session : Session S} {history : List (Delivery S)}
      (lived : Lived before history session) (callback : Callback S)
      (isOther : callback.isCompilation = false) :
      Lived before (history ++ [⟨callback, session⟩]) (callback.deliver session).2
  | compile {before session : Session S} {history inside : List (Delivery S)}
      (lived : Lived before history session) (callback : Callback S)
      (isCompilation : callback.isCompilation = true)
      (nested : Lived session inside (callback.deliver session).2) :
      Lived before (history ++ ⟨callback, session⟩ :: inside) (callback.deliver session).2

variable {before middle after session : Session S} {first second history : List (Delivery S)}

theorem Lived.append (lived : Lived before first middle) (later : Lived middle second after) :
    Lived before (first ++ second) after := by
  induction later with
  | start =>
    rw [List.append_nil]
    exact lived
  | meanwhile _ world ih => exact (ih lived).meanwhile world
  | deliver _ callback isOther ih =>
    rw [← List.append_assoc]
    exact (ih lived).deliver callback isOther
  | compile _ callback isCompilation nested ih =>
    rw [← List.append_assoc]
    exact (ih lived).compile callback isCompilation nested

/-- Whatever the calls to a body do, they do it by callbacks. -/
structure LetsIn (handle : BodyHandle (Session S)) : Prop where
  read : ∀ before, ∃ inside, Lived before inside (endState (handle.read before))
  write : ∀ bytes before, ∃ inside, Lived before inside (endState (handle.write bytes before))

theorem isJourney_lived :
    IsJourney fun before after : Session S => ∃ inside, Lived before inside after where
  refl session := ⟨[], .start session⟩
  trans first second := by
    obtain ⟨earlier, livedFirst⟩ := first
    obtain ⟨later, livedSecond⟩ := second
    exact ⟨earlier ++ later, livedFirst.append livedSecond⟩
  worlds session world := ⟨[], (Lived.start session).meanwhile world⟩

/-- What a compilation does amounts to the callbacks that the body lets in. -/
theorem exists_lived_onCompilationStarted {handle : BodyHandle (Session S)}
    (letsIn : LetsIn handle) (moduleId : ModuleId) (function : Token) (session : Session S) :
    ∃ inside, Lived session inside (onCompilationStarted moduleId function handle session).2 :=
  isJourney_lived.onCompilationStarted letsIn.read letsIn.write moduleId function session

/-- After a history any callback may come next. -/
theorem Lived.exists_next (lived : Lived before history session) (callback : Callback S)
    (letsIn : ∀ moduleId function handle isSafeToBlock,
      callback = .compilationStarted moduleId function handle isSafeToBlock → LetsIn handle) :
    ∃ inside, Lived before (history ++ ⟨callback, session⟩ :: inside)
      (callback.deliver session).2 := by
  cases callback with
  | compilationStarted moduleId function handle isSafeToBlock =>
    obtain ⟨inside, nested⟩ := exists_lived_onCompilationStarted
      (letsIn moduleId function handle isSafeToBlock rfl) moduleId function session
    exact ⟨inside, lived.compile _ rfl nested⟩
  | processStarted | shutdown | moduleLoaded | moduleUnloaded =>
    exact ⟨[], lived.deliver _ rfl⟩

end Session

/-! ## The last decision -/

/-- The last decision that the deliveries of a history take. -/
def latest (decision : Delivery S → Option α) (history : List (Delivery S)) : Option α :=
  history.reverse.findSome? decision

section Latest

variable {decision : Delivery S → Option α} {history first second : List (Delivery S)} {value : α}

theorem latest_append :
    latest decision (first ++ second) = (latest decision second).or (latest decision first) := by
  rw [latest, List.reverse_append, List.findSome?_append]
  rfl

theorem latest_singleton (delivery : Delivery S) :
    latest decision [delivery] = decision delivery := by
  simp [latest]

theorem latest_eq_some_iff :
    latest decision history = some value ↔
      ∃ earlier delivery later, history = earlier ++ delivery :: later ∧
        decision delivery = some value ∧ ∀ other ∈ later, decision other = none := by
  rw [latest, List.findSome?_eq_some_iff]
  constructor
  · rintro ⟨behind, delivery, before, split, decided, undecided⟩
    refine ⟨before.reverse, delivery, behind.reverse, ?_, decided, ?_⟩
    · rw [← List.reverse_reverse history, split]
      simp
    · intro other member
      exact undecided other (List.mem_reverse.mp member)
  · rintro ⟨earlier, delivery, later, split, decided, undecided⟩
    refine ⟨later.reverse, delivery, earlier.reverse, ?_, decided, ?_⟩
    · rw [split]
      simp
    · intro other member
      exact undecided other (List.mem_reverse.mp member)

/-- The last decision has a property exactly if some decision has it and all later ones have it. -/
theorem exists_latest_iff (holds : α → Prop) :
    (∃ value, latest decision history = some value ∧ holds value) ↔
      ∃ earlier delivery later, history = earlier ++ delivery :: later ∧
        (∃ value, decision delivery = some value ∧ holds value) ∧
        ∀ other ∈ later, ∀ value, decision other = some value → holds value := by
  constructor
  · rintro ⟨value, last, isHeld⟩
    obtain ⟨earlier, delivery, later, split, decided, undecided⟩ := latest_eq_some_iff.mp last
    refine ⟨earlier, delivery, later, split, ⟨value, decided, isHeld⟩, ?_⟩
    intro other member another decidedLater
    rw [undecided other member] at decidedLater
    cases decidedLater
  · rintro ⟨earlier, delivery, later, rfl, ⟨value, decided, isHeld⟩, laterHeld⟩
    have split : latest decision (earlier ++ delivery :: later) =
        ((latest decision later).or (some value)).or (latest decision earlier) := by
      rw [← List.singleton_append, ← List.append_assoc, latest_append, latest_append,
        latest_singleton, decided]
      simp
    rw [split]
    cases last : latest decision later with
    | none => exact ⟨value, rfl, isHeld⟩
    | some newer =>
      obtain ⟨_, other, _, isLater, decidedLater, _⟩ := latest_eq_some_iff.mp last
      refine ⟨newer, rfl, laterHeld other ?_ newer decidedLater⟩
      rw [isLater]
      exact List.mem_append_right _ List.mem_cons_self

end Latest

/-- If every callback but a compilation either decides a view of the agent or leaves it alone, then
the view is what the history has decided last. -/
theorem Session.Lived.view_eq {before session : Session S} {history : List (Delivery S)}
    (view : Agent S → α) (decision : Delivery S → Option α)
    (decides : ∀ callback session, callback.isCompilation = false →
      view (callback.deliver session).2.agent =
        (decision ⟨callback, session⟩).getD (view session.agent))
    (silent : ∀ callback session, callback.isCompilation = true →
      decision ⟨callback, session⟩ = none)
    (lived : Lived before history session) :
    view session.agent = (latest decision history).getD (view before.agent) := by
  induction lived with
  | start => rfl
  | meanwhile _ world ih => exact ih
  | @deliver before session history _ callback isOther ih =>
    rw [decides callback session isOther, ih, latest_append, latest_singleton]
    cases decision ⟨callback, session⟩ with
    | none => rfl
    | some value => rfl
  | @compile before session history inside _ callback isCompilation _ ih nestedIh =>
    have unmoved : latest decision (history ++ [⟨callback, session⟩]) =
        latest decision history := by
      rw [latest_append, latest_singleton, silent callback session isCompilation, Option.none_or]
    rw [nestedIh, ih, List.append_cons, latest_append, unmoved]
    cases latest decision inside with
    | none => rfl
    | some value => rfl

end Detour
