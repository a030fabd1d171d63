import Detour.Proofs.Agent.Handles
import Detour.Proofs.Host.Account

/-!
# Events in a process with many handles

The modules of a process are loaded with handles, and a method is compiled with its body. Events
come one after the other, and each gives its answer together with the body that it leaves. All that
an event about a module sees is the record of the module and the handles that the module was loaded
with: in sessions that agree on these it gives the same answer.
-/

namespace Detour

open Detour.Host
open Detour.Rule

variable {ι T U : Type}

/-! ## Single events -/

/-- An operation of the agent or a callback of the host. Metadata comes with the handle to it, and a
method to compile with its body. -/
inductive ProcessEvent (ι T U : Type) where
  | attach (process : String)
  | detach
  | processStarted (process : String)
  | shutdown
  | load (handle : ι) (notice : LoadNotice T)
  | moduleLoaded (handle : ι) (notice : LoadNotice T) (status : HResult)
  | unload (moduleId : ModuleId)
  | moduleUnloaded (moduleId : ModuleId) (status : HResult)
  | insert (handle : ι) (record : ModuleRecord T)
  | compile (moduleId : ModuleId) (function : Token) (handle : BodyHandle U) (body : U)
  | compilationStarted (moduleId : ModuleId) (function : Token) (handle : BodyHandle U) (body : U)
      (isSafeToBlock : Bool)

/-- The answer to an event, and the body that it leaves if it came with one. -/
structure ProcessAnswer (ι T U : Type) where
  answer : AgentAnswer (Hosts ι T U)
  body? : Option U

namespace ProcessEvent

def moduleId? : ProcessEvent ι T U → Option ModuleId
  | attach _ | detach | processStarted _ | shutdown => none
  | load _ notice | moduleLoaded _ notice _ => some notice.moduleId
  | unload moduleId | moduleUnloaded moduleId _ => some moduleId
  | insert _ record => some record.moduleId
  | compile moduleId _ _ _ | compilationStarted moduleId _ _ _ _ => some moduleId

/-- The handle that the event brings along. -/
def handle? : ProcessEvent ι T U → Option ι
  | load handle _ | moduleLoaded handle _ _ | insert handle _ => some handle
  | attach _ | detach | processStarted _ | shutdown | unload _ | moduleUnloaded _ _ | compile ..
  | compilationStarted .. => none

def body? : ProcessEvent ι T U → Option U
  | compile _ _ _ body | compilationStarted _ _ _ body _ => some body
  | attach _ | detach | processStarted _ | shutdown | load _ _ | moduleLoaded .. | unload _
  | moduleUnloaded _ _ | insert _ _ => none

/-- Whether the event is about the module, or about none. -/
def concerns (moduleId : ModuleId) (event : ProcessEvent ι T U) : Bool :=
  match event.moduleId? with
  | none => true
  | some ofModule => ofModule = moduleId

/-- The answers to the events that concern the module. -/
def answersFor (moduleId : ModuleId) (answers : List (ProcessEvent ι T U × ProcessAnswer ι T U)) :
    List (ProcessEvent ι T U × ProcessAnswer ι T U) :=
  answers.filter fun (event, _) => event.concerns moduleId

variable {event : ProcessEvent ι T U} {moduleId ofModule : ModuleId}

theorem answersFor_cons_of_concerned {answer : ProcessAnswer ι T U}
    {answers : List (ProcessEvent ι T U × ProcessAnswer ι T U)}
    (isConcerned : event.concerns moduleId = true) :
    answersFor moduleId ((event, answer) :: answers) =
      (event, answer) :: answersFor moduleId answers :=
  List.filter_cons_of_pos (by exact isConcerned)

theorem answersFor_cons_of_unconcerned {answer : ProcessAnswer ι T U}
    {answers : List (ProcessEvent ι T U × ProcessAnswer ι T U)}
    (isUnconcerned : ¬ event.concerns moduleId = true) :
    answersFor moduleId ((event, answer) :: answers) = answersFor moduleId answers :=
  List.filter_cons_of_neg (by exact isUnconcerned)

theorem concerns_of_moduleId (isAbout : event.moduleId? = some ofModule) :
    event.concerns ofModule = true := by
  simp [concerns, isAbout]

theorem moduleId_eq_of_concerns (isConcerned : event.concerns moduleId = true)
    (isAbout : event.moduleId? = some ofModule) : ofModule = moduleId := by
  simpa [concerns, isAbout] using isConcerned

theorem exists_moduleId_of_not_concerns (isUnconcerned : ¬ event.concerns moduleId = true) :
    ∃ ofModule, event.moduleId? = some ofModule ∧ moduleId ≠ ofModule := by
  cases isAbout : event.moduleId? with
  | none => simp [concerns, isAbout] at isUnconcerned
  | some ofModule =>
    refine ⟨ofModule, rfl, ?_⟩
    intro same
    rw [same] at isUnconcerned
    exact isUnconcerned (concerns_of_moduleId isAbout)

/-- Only events about modules bring handles along. -/
theorem exists_moduleId_of_handle {handle : ι} (brings : event.handle? = some handle) :
    ∃ moduleId, event.moduleId? = some moduleId := by
  cases event with
  | load _ notice | moduleLoaded _ notice _ => exact ⟨notice.moduleId, rfl⟩
  | insert _ record => exact ⟨record.moduleId, rfl⟩
  | attach | detach | processStarted | shutdown | unload | moduleUnloaded | compile
  | compilationStarted => cases brings

/-- One of the events loads the module with the handle. -/
def Opens (events : List (ProcessEvent ι T U)) (moduleId : ModuleId) (handle : ι) : Prop :=
  ∃ event ∈ events, event.moduleId? = some moduleId ∧ event.handle? = some handle

/-- The event, with a handle that keeps an account of the calls through it. -/
def accounted : ProcessEvent ι T U → ProcessEvent ι (Accounted T) U
  | attach process => attach process
  | detach => detach
  | processStarted process => processStarted process
  | shutdown => shutdown
  | load handle notice => load handle notice.accounted
  | moduleLoaded handle notice status => moduleLoaded handle notice.accounted status
  | unload moduleId => unload moduleId
  | moduleUnloaded moduleId status => moduleUnloaded moduleId status
  | insert handle record => insert handle record.accounted
  | compile moduleId function handle body => compile moduleId function handle body
  | compilationStarted moduleId function handle body isSafeToBlock =>
    compilationStarted moduleId function handle body isSafeToBlock

theorem moduleId?_accounted (event : ProcessEvent ι T U) :
    event.accounted.moduleId? = event.moduleId? := by
  cases event with
  | attach | detach | processStarted | shutdown | load | moduleLoaded | unload | moduleUnloaded
  | insert | compile | compilationStarted => rfl

theorem handle?_accounted (event : ProcessEvent ι T U) :
    event.accounted.handle? = event.handle? := by
  cases event with
  | attach | detach | processStarted | shutdown | load | moduleLoaded | unload | moduleUnloaded
  | insert | compile | compilationStarted => rfl

theorem concerns_accounted (moduleId : ModuleId) (event : ProcessEvent ι T U) :
    event.accounted.concerns moduleId = event.concerns moduleId := by
  rw [concerns, concerns, moduleId?_accounted]

theorem opens_accounted_iff {events : List (ProcessEvent ι T U)} {handle : ι} :
    Opens (events.map accounted) moduleId handle ↔ Opens events moduleId handle := by
  simp [Opens, moduleId?_accounted, handle?_accounted]

theorem filter_map_accounted (events : List (ProcessEvent ι T U)) (moduleId : ModuleId) :
    (events.map accounted).filter (·.concerns moduleId) =
      (events.filter (·.concerns moduleId)).map accounted := by
  rw [List.filter_map]
  simp only [Function.comp_def, concerns_accounted]

/-! ## Deliveries -/

variable [DecidableEq ι]

def toAgentEvent : ProcessEvent ι T U → AgentEvent (Hosts ι T U)
  | attach process => .attach process
  | detach => .detach
  | processStarted process => .callback (.processStarted process)
  | shutdown => .callback .shutdown
  | load handle notice => .load (notice.through handle)
  | moduleLoaded handle notice status => .callback (.moduleLoaded (notice.through handle) status)
  | unload moduleId => .unload moduleId
  | moduleUnloaded moduleId status => .callback (.moduleUnloaded moduleId status)
  | insert handle record => .insert (record.through handle)
  | compile moduleId function handle _ => .compile moduleId function handle.inSession
  | compilationStarted moduleId function handle _ isSafeToBlock =>
    .callback (.compilationStarted moduleId function handle.inSession isSafeToBlock)

/-- A body is there for the time of the event that comes with it. -/
def deliver (event : ProcessEvent ι T U) : StateM (Session (Hosts ι T U)) (ProcessAnswer ι T U) :=
  fun session =>
    let body := session.world.host.body
    let delivered := event.toAgentEvent.deliver (session.setBody (event.body?.getD body))
    (⟨delivered.1, event.body?.map fun _ => delivered.2.world.host.body⟩, delivered.2.setBody body)

/-- Every event with the answer to it, and the session behind the last one. -/
def run : List (ProcessEvent ι T U) →
    StateM (Session (Hosts ι T U)) (List (ProcessEvent ι T U × ProcessAnswer ι T U))
  | [] => pure []
  | event :: rest => do
    let answer ← event.deliver
    let answers ← run rest
    return (event, answer) :: answers

/-- The calls through the handle, earlier ones included, if it keeps an account. -/
def callsThrough (handle : ι) (events : List (ProcessEvent ι T U))
    (session : Session (Hosts ι (Accounted T) U)) : List AnsweredCall :=
  ((run (events.map accounted) session).2.world.host.handles handle).calls

theorem run_cons (event : ProcessEvent ι T U) (rest : List (ProcessEvent ι T U))
    (session : Session (Hosts ι T U)) :
    run (event :: rest) session =
      ((event, (event.deliver session).1) :: (run rest (event.deliver session).2).1,
        (run rest (event.deliver session).2).2) :=
  rfl

/-! ## What an event uses -/

theorem moduleId?_toAgentEvent (event : ProcessEvent ι T U) :
    event.toAgentEvent.moduleId? = event.moduleId? := by
  cases event with
  | attach | detach | processStarted | shutdown | load | moduleLoaded | unload | moduleUnloaded
  | insert | compile | compilationStarted => rfl

theorem exists_handle_of_metadata {event : ProcessEvent ι T U} {metadata : Metadata (Hosts ι T U)}
    (brings : event.toAgentEvent.metadata? = some metadata) :
    ∃ handle behind, event.handle? = some handle ∧ metadata = Metadata.through handle behind := by
  cases event with
  | load handle notice | moduleLoaded handle notice status =>
    cases brings
    exact ⟨handle, notice.metadata, rfl, rfl⟩
  | insert handle record =>
    cases brings
    exact ⟨handle, record.metadata, rfl, rfl⟩
  | attach | detach | processStarted | shutdown | unload | moduleUnloaded | compile
  | compilationStarted => cases brings

theorem keepsAgent_toAgentEvent (event : ProcessEvent ι T U) : event.toAgentEvent.KeepsAgent := by
  cases event with
  | compile _ _ handle _ | compilationStarted _ _ handle _ _ => exact handle.keepsAgent_inSession
  | attach | detach | processStarted | shutdown | load | moduleLoaded | unload | moduleUnloaded
  | insert => trivial

variable {related : Hosts ι T U → Hosts ι T U → Prop}

theorem respects_toAgentEvent {event : ProcessEvent ι T U} (seesBody : SeesBody related)
    (sees : ∀ handle, event.handle? = some handle → SeesHandle related handle) :
    event.toAgentEvent.Respects related := by
  cases event with
  | load handle notice | moduleLoaded handle notice _ =>
    exact (sees handle rfl).respects_through notice.metadata
  | compile _ _ handle _ | compilationStarted _ _ handle _ _ =>
    exact handle.respects_inSession seesBody
  | attach | detach | processStarted | shutdown | unload | moduleUnloaded | insert => trivial

end ProcessEvent

/-! ## Handles of a module -/

section Owned

variable {owns : ModuleId → ι → Prop}

/-- A module comes only with its own handles. -/
def ProcessEvent.UsesOwn (owns : ModuleId → ι → Prop) (event : ProcessEvent ι T U) : Prop :=
  ∀ moduleId handle, event.moduleId? = some moduleId → event.handle? = some handle →
    owns moduleId handle

theorem ProcessEvent.usesOwn_opens {events : List (ProcessEvent ι T U)}
    {event : ProcessEvent ι T U} (member : event ∈ events) : event.UsesOwn (Opens events) :=
  fun _ _ isAbout brings => ⟨event, member, isAbout, brings⟩

variable [DecidableEq ι]

/-- The records of a module use only its own handles. -/
def Session.UsesOwn (owns : ModuleId → ι → Prop) (session : Session (Hosts ι T U)) : Prop :=
  ∀ moduleId record, session.agent.record? moduleId = some record →
    ∃ handle metadata, owns moduleId handle ∧ record.metadata = Metadata.through handle metadata

theorem Session.UsesOwn.mono {weaker : ModuleId → ι → Prop} {session : Session (Hosts ι T U)}
    (usesOwn : session.UsesOwn owns)
    (weaken : ∀ moduleId handle, owns moduleId handle → weaker moduleId handle) :
    session.UsesOwn weaker := by
  intro moduleId record found
  obtain ⟨handle, metadata, owned, isBehind⟩ := usesOwn moduleId record found
  exact ⟨handle, metadata, weaken moduleId handle owned, isBehind⟩

theorem Session.usesOwn_create (settings : Settings) (catalog : Catalog)
    (world : World (Hosts ι T U)) : UsesOwn owns ⟨Agent.create settings catalog, world⟩ := by
  intro moduleId record found
  simp [Agent.record?, Agent.create] at found

variable {event : ProcessEvent ι T U} {session other : Session (Hosts ι T U)}
  {related : Hosts ι T U → Hosts ι T U → Prop} {moduleId : ModuleId}

theorem changes_processEvent (event : ProcessEvent ι T U) (session : Session (Hosts ι T U)) :
    session.agent.Changes event.moduleId? event.toAgentEvent.metadata?
      (event.deliver session).2.agent := by
  rw [← event.moduleId?_toAgentEvent]
  exact changes_deliver event.keepsAgent_toAgentEvent
    (session.setBody (event.body?.getD session.world.host.body))

theorem Session.UsesOwn.deliver (usesOwn : session.UsesOwn owns) (eventUses : event.UsesOwn owns) :
    (event.deliver session).2.UsesOwn owns := by
  intro moduleId record found
  rcases (changes_processEvent event session).known moduleId record found with known | entered
  · exact usesOwn moduleId record known
  · obtain ⟨sameModule, brought⟩ := entered
    obtain ⟨handle, metadata, brings, isBehind⟩ := ProcessEvent.exists_handle_of_metadata brought
    exact ⟨handle, metadata, eventUses moduleId handle sameModule brings, isBehind⟩

/-- An event that concerns a module gives the same answer in sessions that are alike, if their
relation sees the handles of the module. -/
theorem alike_processEvent (isConcerned : event.concerns moduleId = true)
    (eventUses : event.UsesOwn owns) (otherUses : other.UsesOwn owns) (seesBody : SeesBody related)
    (sees : ∀ handle, owns moduleId handle → SeesHandle related handle)
    (alike : SessionsAlike related moduleId session other) :
    AnswersAlike related moduleId (event.deliver session) (event.deliver other) := by
  have isOf : ∀ ofModule, event.moduleId? = some ofModule → ofModule = moduleId :=
    fun _ isAbout => ProcessEvent.moduleId_eq_of_concerns isConcerned isAbout
  have respects : event.toAgentEvent.Respects related := by
    apply ProcessEvent.respects_toAgentEvent seesBody
    intro handle brings
    obtain ⟨ofModule, isAbout⟩ := ProcessEvent.exists_moduleId_of_handle brings
    have owned := eventUses ofModule handle isAbout brings
    rw [isOf ofModule isAbout] at owned
    exact sees handle owned
  have known : ∀ record, other.agent.record? moduleId = some record →
      record.metadata.Respects related := by
    intro record found
    obtain ⟨handle, metadata, owned, isBehind⟩ := otherUses moduleId record found
    rw [isBehind]
    exact (sees handle owned).respects_through metadata
  have sameBody := seesBody.body_eq _ _ alike.hosts
  -- Both sessions get the same body for the time of the event, and the one they had back behind it.
  let body := event.body?.getD other.world.host.body
  have delivered : AnswersAlike related moduleId
      (event.toAgentEvent.deliver (session.setBody body))
      (event.toAgentEvent.deliver (other.setBody body)) := by
    apply alike_deliver (alike.setBody seesBody body) _ respects known
    rw [event.moduleId?_toAgentEvent]
    exact isOf
  have sameBodyBehind := seesBody.body_eq _ _ delivered.sessions.hosts
  constructor
  case answer_eq =>
    unfold ProcessEvent.deliver
    dsimp only
    rw [sameBody]
    change ProcessAnswer.mk (event.toAgentEvent.deliver (session.setBody body)).1 _ = _
    rw [delivered.answer_eq, sameBodyBehind]
  case sessions =>
    unfold ProcessEvent.deliver
    dsimp only
    rw [sameBody]
    exact delivered.sessions.setBody seesBody other.world.host.body

end Owned

end Detour
