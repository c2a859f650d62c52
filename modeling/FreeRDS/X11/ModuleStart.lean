import FreeRDS.Manager.System

/-! # Starting the X11 module

`x11_rds_module_start` starts the X server, waits for its pipe, and starts the channel server and the window manager.
When a step fails it returns `NULL`, and what it has started so far is left to it: the session that called it only
returns `false`.
-/

namespace FreeRDS.X11

open Manager List

/-! ## Processes -/

/-- The `PROCESS_INFORMATION`s of a module. -/
inductive Child
  | x11 | cs | wm
  deriving DecidableEq, Repr

structure ProcessInformation where
  dwProcessId : UInt32 := 0
  hProcess : Bool := false
  hThread : Bool := false
  deriving DecidableEq, Repr

inductive Signal
  | term | kill
  deriving DecidableEq, Repr

/-- What `CreateProcess` was called with, and the process it has made. -/
structure Process where
  pid : UInt32
  commandLine : String
  userToken : Option UserToken
  environment : Option EnvBlock
  deriving DecidableEq, Repr

/-- The module and what it has done to the system: the processes it has started, the signals it has sent, and the
processes that `x11_rds_stop_process` was called for. -/
structure World where
  info : Child → ProcessInformation
  envBlock : Option EnvBlock
  monitorThread : Bool := false
  started : List Process := []
  signals : List (UInt32 × Signal) := []
  stopped : List UInt32 := []

structure Outcomes where
  displayNum : UInt32
  /-- What is set in the environment on the way, from `/etc/environment` and from that of the manager. -/
  environment : EnvBlock
  startwm : Option String
  createX11 : Option UInt32
  waitNamedPipe : Bool
  createCS : Option UInt32
  createWM : Option UInt32
  createThread : Bool
  /-- Whether the calls of `waitpid` for a child, one after the other, find that it has ended. -/
  waitpid : Child → Nat → Bool

/-- `clean_up_process`. -/
def cleanUpProcess (info : ProcessInformation) : ProcessInformation :=
  { info with hProcess := false, hThread := false }

def World.setInfo (world : World) (child : Child) (info : ProcessInformation) : World :=
  { world with info := Function.update world.info child info }

def kill (pid : UInt32) (signal : Signal) (world : World) : World :=
  { world with signals := world.signals ++ [(pid, signal)] }

/-- Up to `wait` more calls of `waitpid`, from the call number `call` on. -/
def poll (waitpid : Nat → Bool) : Nat → Nat → Bool
  | 0, _ => false
  | wait + 1, call => waitpid call || poll waitpid wait (call + 1)

def x11RdsStopProcess (outcomes : Outcomes) (child : Child) (world : World) : World :=
  let pid := (world.info child).dwProcessId
  let world := { world with stopped := world.stopped ++ [pid] }
  let world :=
    if outcomes.waitpid child 0 then world
    else
      let world := kill pid .term world
      if poll (outcomes.waitpid child) 10 1 then world else kill pid .kill world
  world.setInfo child (cleanUpProcess (world.info child))

/-- `CreateProcess` and `CreateProcessAsUserA`, with the process information set to zero before. -/
def createProcess (child : Child) (answer : Option UInt32) (commandLine : String) (userToken : Option UserToken)
    (world : World) : Bool × World :=
  match answer with
  | none => (false, world.setInfo child {})
  | some pid =>
    (true, { world.setInfo child ⟨pid, true, true⟩ with
      started := world.started ++ [⟨pid, commandLine, userToken, world.envBlock⟩] })

/-- `SetEnvironmentVariableEBA`, one call after the other. -/
def setEnvironment (entries : EnvBlock) (world : World) : World :=
  let set block entry := setEnvironmentVariableEBA block (Prod.fst entry) (Prod.snd entry)
  { world with envBlock := entries.foldl set world.envBlock }

/-- `freerds_named_pipe_get_endpoint_name`. -/
def endpointName (id : UInt32) (endpoint : String) : String :=
  "\\\\.\\pipe\\FreeRDS_" ++ toString id.toInt32 ++ "_" ++ endpoint

variable (outcomes : Outcomes) (context : ModuleContext)

def xrdsCommandLine : String :=
  "Xrds :" ++ toString outcomes.displayNum.toInt32 ++ " -geometry " ++ toString context.desktopWidth.toInt32 ++ "x" ++
    toString context.desktopHeight.toInt32 ++ " -depth 24 -dpi 96"

def windowManager : String :=
  match context.userToken with
  | none => "simple_greeter"
  | some _ => outcomes.startwm.getD "startwm.sh"

def startServer (world : World) : Bool × World :=
  createProcess .x11 outcomes.createX11 (xrdsCommandLine outcomes context) context.userToken
    (setEnvironment (("DISPLAY", ":" ++ toString outcomes.displayNum.toInt32) :: outcomes.environment) world)

def startChannels (world : World) : Bool × World :=
  createProcess .cs outcomes.createCS "freerds-channels" none
    (setEnvironment [("FREERDS_SID", toString context.sessionId)] world)

def startWindowManager (world : World) : Bool × World :=
  createProcess .wm outcomes.createWM (windowManager outcomes context) context.userToken world

def x11RdsModuleStart (world : World) : Option String × World :=
  let (status, world) := startServer outcomes context world
  if !status then (none, world)
  -- Here the X server goes on running.
  else if !outcomes.waitNamedPipe then (none, world)
  else
    let (status, world) := startChannels outcomes context world
    if !status then (none, x11RdsStopProcess outcomes .x11 world)
    else
      let (status, world) := startWindowManager outcomes context world
      if !status then (none, x11RdsStopProcess outcomes .cs (x11RdsStopProcess outcomes .x11 world))
      else (some (endpointName outcomes.displayNum "X11"), { world with monitorThread := outcomes.createThread })

/-- `Session::startModule` with the X11 module, whose entry point is called if the session gets that far. -/
structure Start where
  returned : Option (Option String)
  result : Bool × List SessionEvent × Session
  world : World

/-- Whether `Session::startModule` gets to the call of the module. -/
def callsModule (config : Config) (session : Session) : Bool :=
  !session.sessionStarted &&
    (config.properties.getPropertyString ("module." ++ session.moduleConfigName ++ ".modulename")).any config.hasModule

def World.new (context : ModuleContext) : World where
  info _ := {}
  envBlock := context.envBlock

variable (config : Config) (answers : Answers) (now : Int) (session : Session)

def startModule (outcomes : Outcomes) : Start :=
  let context := session.newModuleContext
  if callsModule config session then
    let (pName, world) := x11RdsModuleStart outcomes context (.new context)
    ⟨some pName, session.startModule config { answers with start := fun _ _ => pName } now, world⟩
  else ⟨none, session.startModule config answers now, .new context⟩

/-! ## What the steps do to the processes -/

def World.pid (world : World) (child : Child) : UInt32 := (world.info child).dwProcessId

section

variable (outcomes : Outcomes) (child : Child) (world : World)

@[simp] theorem stop_started : (x11RdsStopProcess outcomes child world).started = world.started := by
  unfold x11RdsStopProcess
  split_ifs <;> rfl

@[simp] theorem stop_monitorThread : (x11RdsStopProcess outcomes child world).monitorThread = world.monitorThread := by
  unfold x11RdsStopProcess
  split_ifs <;> rfl

@[simp] theorem stop_stopped : (x11RdsStopProcess outcomes child world).stopped = world.stopped ++ [world.pid child] := by
  unfold x11RdsStopProcess
  split_ifs <;> rfl

@[simp] theorem stop_pid (other : Child) : (x11RdsStopProcess outcomes child world).pid other = world.pid other := by
  unfold x11RdsStopProcess
  by_cases h : other = child
  · subst h
    split_ifs <;> simp [World.setInfo, World.pid, cleanUpProcess, kill]
  · split_ifs <;> simp [World.setInfo, World.pid, kill, h]

end

/-- The processes that were started are the `children`, and nothing watches them. -/
structure World.Owns (world : World) (children : List Child) : Prop where
  started : world.started.map Process.pid = children.map world.pid
  unwatched : world.monitorThread = false

/-- Every process that was started has been told to stop, and nothing watches them. -/
structure World.NoOrphans (world : World) : Prop where
  stopped : ∀ process ∈ world.started, process.pid ∈ world.stopped
  unwatched : world.monitorThread = false

namespace World.Owns

variable {world : World} {children : List Child} {child : Child}

theorem new (context : ModuleContext) : (World.new context).Owns [] := ⟨rfl, rfl⟩

theorem setEnvironment (h : world.Owns children) (entries : EnvBlock) : (setEnvironment entries world).Owns children :=
  ⟨h.started, h.unwatched⟩

theorem setInfo_pid (h : child ∉ children) (info : ProcessInformation) :
    children.map (world.setInfo child info).pid = children.map world.pid := by
  apply map_congr_left
  intro other hmem
  have hne : other ≠ child := fun heq => h (heq ▸ hmem)
  simp [World.pid, World.setInfo, hne]

theorem createProcess (h : world.Owns children) (hnew : child ∉ children) (answer : Option UInt32)
    (commandLine : String) (userToken : Option UserToken) :
    (X11.createProcess child answer commandLine userToken world).2.Owns
      (if answer.isSome then children ++ [child] else children) := by
  cases answer with
  | none => exact ⟨h.started.trans (setInfo_pid hnew {}).symm, h.unwatched⟩
  | some pid =>
    refine ⟨?_, h.unwatched⟩
    have hpid : (world.setInfo child ⟨pid, true, true⟩).pid child = pid := by simp [World.pid, World.setInfo]
    change (world.started ++ [_]).map Process.pid =
      (children ++ [child]).map (world.setInfo child ⟨pid, true, true⟩).pid
    rw [map_append, map_append, setInfo_pid hnew, h.started, map_singleton, map_singleton, hpid]

theorem stop (h : world.Owns children) (outcomes : Outcomes) (child : Child) :
    (x11RdsStopProcess outcomes child world).Owns children := by
  constructor
  · rw [stop_started, h.started]
    exact map_congr_left fun other _ => (stop_pid outcomes child world other).symm
  · rw [stop_monitorThread, h.unwatched]

theorem noOrphans (h : world.Owns children) (hstopped : ∀ child ∈ children, world.pid child ∈ world.stopped) :
    world.NoOrphans := by
  refine ⟨fun process hmem => ?_, h.unwatched⟩
  have hpid : process.pid ∈ children.map world.pid := h.started ▸ mem_map_of_mem hmem
  obtain ⟨child, hchild, heq⟩ := mem_map.mp hpid
  exact heq ▸ hstopped child hchild

end World.Owns

/-! ## Failed starts -/

theorem createProcess_fst (child : Child) (answer : Option UInt32) (commandLine : String)
    (userToken : Option UserToken) (world : World) :
    (createProcess child answer commandLine userToken world).1 = answer.isSome := by
  cases answer <;> rfl

section

variable (outcomes : Outcomes) (context : ModuleContext) (world : World)

@[simp] theorem startServer_fst : (startServer outcomes context world).1 = outcomes.createX11.isSome :=
  createProcess_fst _ _ _ _ _

@[simp] theorem startChannels_fst : (startChannels outcomes context world).1 = outcomes.createCS.isSome :=
  createProcess_fst _ _ _ _ _

@[simp] theorem startWindowManager_fst :
    (startWindowManager outcomes context world).1 = outcomes.createWM.isSome :=
  createProcess_fst _ _ _ _ _

end

section

variable (outcomes : Outcomes) (context : ModuleContext)

theorem owns_startServer :
    (startServer outcomes context (.new context)).2.Owns (if outcomes.createX11.isSome then [.x11] else []) :=
  ((World.Owns.new context).setEnvironment _).createProcess not_mem_nil _ _ _

theorem owns_startChannels {world : World} (h : world.Owns [.x11]) :
    (startChannels outcomes context world).2.Owns (if outcomes.createCS.isSome then [.x11, .cs] else [.x11]) :=
  (h.setEnvironment _).createProcess (by decide) _ _ _

theorem owns_startWindowManager {world : World} (h : world.Owns [.x11, .cs]) :
    (startWindowManager outcomes context world).2.Owns
      (if outcomes.createWM.isSome then [.x11, .cs, .wm] else [.x11, .cs]) :=
  h.createProcess (by decide) _ _ _

theorem start_of_no_server (h : outcomes.createX11.isSome = false) :
    (x11RdsModuleStart outcomes context (.new context)).2.NoOrphans := by
  have howns := owns_startServer outcomes context
  simp only [x11RdsModuleStart, startServer_fst, h] at howns ⊢
  exact howns.noOrphans fun _ hmem => (not_mem_nil hmem).elim

theorem start_of_no_pipe (h : outcomes.createX11.isSome) (hpipe : outcomes.waitNamedPipe = false) :
    (x11RdsModuleStart outcomes context (.new context)).1 = none ∧
      ¬(x11RdsModuleStart outcomes context (.new context)).2.NoOrphans := by
  obtain ⟨pid, hpid⟩ := Option.isSome_iff_exists.mp h
  simp only [x11RdsModuleStart, startServer, createProcess, hpid, hpipe]
  refine ⟨rfl, fun hworld => ?_⟩
  -- The X server is the only process, and `x11_rds_stop_process` was never called.
  have hstopped := hworld.stopped _ (.head _)
  cases hstopped

theorem start_of_pipe (h : outcomes.createX11.isSome) (hpipe : outcomes.waitNamedPipe = true)
    (hnone : (x11RdsModuleStart outcomes context (.new context)).1 = none) :
    (x11RdsModuleStart outcomes context (.new context)).2.NoOrphans := by
  have hsrv := owns_startServer outcomes context
  rw [if_pos h] at hsrv
  have hchannels := owns_startChannels outcomes context hsrv
  simp only [x11RdsModuleStart, startServer_fst, startChannels_fst, startWindowManager_fst, h, hpipe,
    Bool.not_true, Bool.false_eq_true, if_false] at hnone ⊢
  cases hcs : outcomes.createCS.isSome with
  | false =>
    rw [if_neg (by simp [hcs])] at hchannels
    refine (hchannels.stop outcomes .x11).noOrphans fun child hmem => ?_
    obtain rfl := mem_singleton.mp hmem
    simp
  | true =>
    rw [if_pos hcs] at hchannels
    have howns := owns_startWindowManager outcomes context hchannels
    cases hwm : outcomes.createWM.isSome with
    | false =>
      rw [if_neg (by simp [hwm])] at howns
      refine ((howns.stop outcomes .x11).stop outcomes .cs).noOrphans fun child hmem => ?_
      simp only [mem_cons, not_mem_nil, or_false] at hmem
      rcases hmem with rfl | rfl <;> simp
    | true => simp [hcs, hwm] at hnone

end

/-! ## The session's start -/

theorem startModule_of_no_pipeName :
    (session.startModule config { answers with start := fun _ _ => none } now).1 = false := by
  unfold Session.startModule
  split
  · rfl
  · split
    · rfl
    · split <;> rfl

/--
When the module gives no pipe name, `Session::startModule` answers false and the processes of the module have
been stopped, except where the X server runs and its pipe does not appear.
-/
theorem startModule_noOrphans_iff (outcomes : Outcomes) :
    ((startModule config answers now session outcomes).returned = some none →
      (startModule config answers now session outcomes).result.1 = false ∧
        (startModule config answers now session outcomes).world.NoOrphans) ↔
      ¬(callsModule config session ∧ outcomes.createX11.isSome ∧ outcomes.waitNamedPipe = false) := by
  unfold startModule
  cases hcalls : callsModule config session with
  | false => simp
  | true =>
    simp only [if_true, true_and, Option.some.injEq]
    constructor
    · rintro hall ⟨hsrv, hpipe⟩
      obtain ⟨hnone, horphan⟩ := start_of_no_pipe outcomes session.newModuleContext hsrv hpipe
      exact horphan (hall hnone).2
    · intro hcond hnone
      refine ⟨?_, ?_⟩
      · rw [hnone]
        exact startModule_of_no_pipeName config answers now session
      · cases hsrv : outcomes.createX11.isSome with
        | false => exact start_of_no_server outcomes _ hsrv
        | true =>
          have hpipe : outcomes.waitNamedPipe = true := by
            rw [← Bool.not_eq_false]
            exact fun hfalse => hcond ⟨hsrv, hfalse⟩
          exact start_of_pipe outcomes _ hsrv hpipe hnone

/-- The X server starts, and within five seconds its pipe has not appeared. -/
def slowServer : Outcomes where
  displayNum := 10
  environment := []
  startwm := none
  createX11 := some 4711
  waitNamedPipe := false
  createCS := some 4712
  createWM := some 4713
  createThread := true
  waitpid _ _ := false

theorem startModule_leaves_server :
    let run := startModule Sample.config Sample.answers 0 { sessionId := 1, moduleConfigName := "X11" } slowServer
    run.returned = some none ∧ run.result.1 = false ∧ ¬run.world.NoOrphans := by
  refine ⟨by decide, by decide, fun hworld => ?_⟩
  have hstopped := hworld.stopped _ (.head _)
  cases hstopped

end FreeRDS.X11
