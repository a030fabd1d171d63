import Detour.Proofs.Agent.Callbacks

/-!
# Events

An agent is driven by operations of its own and by callbacks of the host; both are events, and every
event gives an answer. Events come in any order and number, and between them the world may become
any other. While a method is compiled, the calls to its body may let further events in: a run has
them behind the compilation. What all events but compilations keep of the agent, the run keeps.
-/

namespace Detour

open Detour.Host

variable {S : Type}

/-! ## Single events -/

/-- An operation of the agent or a callback of the host, with its arguments. -/
inductive AgentEvent (S : Type) where
  | attach (process : String)
  | detach
  | load (notice : LoadNotice S)
  | unload (moduleId : ModuleId)
  | insert (record : ModuleRecord S)
  | compile (moduleId : ModuleId) (function : Token) (handle : BodyHandle (Session S))
  | callback (callback : Callback S)

inductive AgentAnswer (S : Type) where
  | attached (accepted : Bool)
  | detached
  | loaded (outcome : LoadOutcome)
  | unloaded (wasTracked : Bool)
  | inserted (replaced : Option (ModuleRecord S))
  | compiled (outcome : Except Error CompileOutcome)
  | status (status? : Option HResult)

namespace AgentEvent

/-- The answer to the event, and the session behind it. -/
def deliver : AgentEvent S → StateM (Session S) (AgentAnswer S)
  | attach process => .attached <$> Session.attach process
  | detach => (fun _ => .detached) <$> Session.detach
  | load notice => .loaded <$> Session.loadModule notice
  | unload moduleId => .unloaded <$> Session.unloadModule moduleId
  | insert record => .inserted <$> Session.insertRecord record
  | compile moduleId function handle => fun session =>
    let result := Session.compile moduleId function handle session
    (.compiled (outcomeOf result), endState result)
  | callback call => .status <$> call.deliver

def isCompilation : AgentEvent S → Bool
  | compile .. => true
  | callback call => call.isCompilation
  | attach _ | detach | load _ | unload _ | insert _ => false

/-- Whether a record that was made by hand is entered. -/
def isInsertion : AgentEvent S → Bool
  | insert _ => true
  | attach _ | detach | load _ | unload _ | compile .. | callback _ => false

end AgentEvent

/-! ## Runs -/

namespace Session

/-- The events lead from one session to another. -/
inductive Ran : Session S → List (AgentEvent S) → Session S → Prop where
  | start (session : Session S) : Ran session [] session
  | meanwhile {before session : Session S} {events : List (AgentEvent S)}
      (ran : Ran before events session) (world : World S) :
      Ran before events { session with world }
  | deliver {before session : Session S} {events : List (AgentEvent S)}
      (ran : Ran before events session) (event : AgentEvent S)
      (isOther : event.isCompilation = false) :
      Ran before (events ++ [event]) (event.deliver session).2
  | compile {before session : Session S} {events inside : List (AgentEvent S)}
      (ran : Ran before events session) (event : AgentEvent S)
      (isCompilation : event.isCompilation = true)
      (nested : Ran session inside (event.deliver session).2) :
      Ran before (events ++ event :: inside) (event.deliver session).2

variable {before middle after session : Session S} {first second events : List (AgentEvent S)}

theorem Ran.append (ran : Ran before first middle) (later : Ran middle second after) :
    Ran before (first ++ second) after := by
  induction later with
  | start => simpa using ran
  | meanwhile _ world ih => exact (ih ran).meanwhile world
  | deliver _ event isOther ih =>
    rw [← List.append_assoc]
    exact (ih ran).deliver event isOther
  | compile _ event isCompilation nested ih =>
    rw [← List.append_assoc]
    exact (ih ran).compile event isCompilation nested

theorem isJourney_ran :
    IsJourney fun before after : Session S => ∃ inside, Ran before inside after where
  refl session := ⟨[], .start session⟩
  trans first second := by
    obtain ⟨earlier, ranFirst⟩ := first
    obtain ⟨later, ranSecond⟩ := second
    exact ⟨earlier ++ later, ranFirst.append ranSecond⟩
  worlds session world := ⟨[], (Ran.start session).meanwhile world⟩

/-- Whatever the calls to a body do to the agent, they do it by events. -/
structure Admits (handle : BodyHandle (Session S)) : Prop where
  read : ∀ before, ∃ inside, Ran before inside (endState (handle.read before))
  write : ∀ bytes before, ∃ inside, Ran before inside (endState (handle.write bytes before))

/-- Behind a run any event may come next. -/
theorem Ran.exists_next (ran : Ran before events session) (event : AgentEvent S)
    (admits : ∀ moduleId function handle, event = .compile moduleId function handle ∨
      (∃ isSafeToBlock, event =
        .callback (.compilationStarted moduleId function handle isSafeToBlock)) → Admits handle) :
    ∃ inside, Ran before (events ++ event :: inside) (event.deliver session).2 := by
  cases event with
  | attach | detach | load | unload | insert => exact ⟨[], ran.deliver _ rfl⟩
  | compile moduleId function handle =>
    have admitted := admits moduleId function handle (.inl rfl)
    have leads := isJourney_ran.compile admitted.read admitted.write moduleId function session
    obtain ⟨inside, nested⟩ := leads
    exact ⟨inside, ran.compile _ rfl nested⟩
  | callback callback =>
    cases callback with
    | processStarted | shutdown | moduleLoaded | moduleUnloaded => exact ⟨[], ran.deliver _ rfl⟩
    | compilationStarted moduleId function handle isSafeToBlock =>
      have admitted := admits moduleId function handle (.inr ⟨isSafeToBlock, rfl⟩)
      have leads := isJourney_ran.onCompilationStarted admitted.read admitted.write moduleId
        function session
      obtain ⟨inside, nested⟩ := leads
      exact ⟨inside, ran.compile _ rfl nested⟩

/-- What every event but a compilation keeps of the agent, a run of such events keeps: a compilation
does nothing to the agent but by the events that it lets in. -/
theorem Ran.keeps {holds : Agent S → Prop} {isAllowed : AgentEvent S → Prop}
    (ran : Ran before events session) (allowed : ∀ event ∈ events, isAllowed event)
    (initially : holds before.agent)
    (keeps : ∀ event session, event.isCompilation = false → isAllowed event →
      holds session.agent → holds (event.deliver session).2.agent) :
    holds session.agent := by
  induction ran with
  | start => exact initially
  | meanwhile _ world ih => exact ih allowed initially
  | @deliver before session events _ event isOther ih =>
    have earlier : ∀ other ∈ events, isAllowed other := fun other member =>
      allowed other (List.mem_append_left _ member)
    have last : isAllowed event := allowed event (by simp)
    exact keeps event session isOther last (ih earlier initially)
  | @compile before session events inside _ event _ _ ih nestedIh =>
    have earlier : ∀ other ∈ events, isAllowed other := fun other member =>
      allowed other (List.mem_append_left _ member)
    have nested : ∀ other ∈ inside, isAllowed other := fun other member =>
      allowed other (by simp [member])
    exact nestedIh nested (ih earlier initially)

end Session

end Detour
