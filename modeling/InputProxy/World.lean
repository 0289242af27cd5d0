-- The session, the world around it and the history of a run. A run asks the
-- world one question for each call that leaves the program, and the answers
-- are free: a law for every `World.answers` is a law for every run.
import InputProxy.Program
import InputProxy.Device

open programs

namespace input_proxy

/-! ## The devices and the control object -/

/-- `struct input_proxy_source_device`. The `id` names the object behind the pointer. -/
structure SourceDevice where
  id : Nat
  evdev : Libevdev

/-- `struct input_proxy_virtual_device`. Behind its uinput handle stand the state that
the kernel keeps, which a query reads, and the state that evdev readers have received,
which follows at each `SYN_REPORT`. -/
structure VirtualDevice where
  id : Nat
  capabilities : Capabilities
  kernel : DeviceState
  committed : DeviceState

/-- The kernel takes one written event. -/
def VirtualDevice.write (d : VirtualDevice) (e : InputEvent) : VirtualDevice :=
  let kernel := d.kernel.apply d.capabilities e
  { d with
    kernel
    committed := if e.type = EV_SYN ∧ e.code = SYN_REPORT then kernel else d.committed }

structure RuntimeControl where
  dispatch_active : Bool
  disable_pending : Bool

inductive RuntimeControlFailure
  | SYSTEM_BUS_UNAVAILABLE
  | CONNECTION_REJECTED
  | NAME_DENIED
  | NAME_OWNED
  | INVALID_IDENTIFIER
  | INITIALIZATION_FAILED
deriving DecidableEq, Repr

/-- `struct input_proxy_runtime_control_state`. -/
structure RuntimeControlState where
  paused : Bool
  source_available : Bool
  activity_while_running : Bool
  activity_while_paused : Bool

inductive Property
  | PAUSED
  | SOURCE_AVAILABLE
  | ACTIVITY_WHILE_RUNNING
  | ACTIVITY_WHILE_PAUSED
deriving DecidableEq, Repr

/-- `struct input_proxy_runtime_control_changes`: `some` stands for a set bit of
`properties` together with the value of the member. -/
structure Changes where
  paused : Option Bool := none
  source_available : Option Bool := none
  activity_while_running : Option Bool := none
  activity_while_paused : Option Bool := none

/-! ## The session -/

/-- `struct timespec`, for times that `time_t` can hold. -/
structure Timespec where
  tv_sec : Int
  tv_nsec : Int
deriving DecidableEq, Repr, Inhabited

/-- `struct input_proxy_session`. -/
structure Session where
  instance_name : String
  source_device : Option SourceDevice
  virtual_device : Option VirtualDevice
  runtime_control : Option RuntimeControl
  runtime_state : RuntimeControlState
  running_activity_deadline : Timespec
  paused_activity_deadline : Timespec
  runtime_control_retry_deadline : Timespec
  activity_timeout_ms : Nat
  detection_throttle_ms : Nat
  running_motion_activity : Bool
  paused_motion_activity : Bool
  activity_tracking_available : Bool
  runtime_control_retry_active : Bool
  running_activity_timer_active : Bool
  paused_activity_timer_active : Bool
  fatal_result : Result
  source_opened_successfully : Bool
  libinput_status_definitive : Bool
  shutdown_requested : Bool

/-- `struct input_proxy_session_config`, as far as a run reads it. -/
structure SessionConfig where
  instance_name : String
  activity_timeout_ms : Nat
  detection_throttle_ms : Nat
  running_motion_activity : Bool
  paused_motion_activity : Bool
  start_paused : Bool

/-- The session that `input_proxy_session_create` hands out: zeroed memory, the
configuration, and the runtime state of a session that has no source yet. -/
def new_session (config : SessionConfig) : Session where
  instance_name := config.instance_name
  source_device := none
  virtual_device := none
  runtime_control := none
  runtime_state := ⟨config.start_paused, false, false, false⟩
  running_activity_deadline := ⟨0, 0⟩
  paused_activity_deadline := ⟨0, 0⟩
  runtime_control_retry_deadline := ⟨0, 0⟩
  activity_timeout_ms := config.activity_timeout_ms
  detection_throttle_ms := config.detection_throttle_ms
  running_motion_activity := config.running_motion_activity
  paused_motion_activity := config.paused_motion_activity
  activity_tracking_available := false
  runtime_control_retry_active := false
  running_activity_timer_active := false
  paused_activity_timer_active := false
  fatal_result := .SUCCESS
  source_opened_successfully := false
  libinput_status_definitive := false
  shutdown_requested := false

/-! ## The history of a run -/

/-- Why an event is written to the virtual device. -/
inductive Cause
  | forward
  | synchronize
  | neutralize
deriving DecidableEq, Repr

/-- Where the session is looked at: between two steps, at a dispatch of D-Bus
messages, and at the head of the inner loop. -/
inductive Point
  | step
  | dispatch
  | loop_head
deriving DecidableEq, Repr

/-- The two activity modes. -/
inductive Mode
  | running
  | paused
deriving DecidableEq, Repr

/-- What a run leaves in its history. -/
inductive Action
  /-- The session at one of the points above. -/
  | observed (point : Point) (session : Session)
  /-- A loop tested `shutdown_requested`. -/
  | tested (shutdown : Bool)
  /-- A source open that failed, and the clock read after a denied reacquisition. -/
  | attempted (result : Result)
  | sampled (now : Option Timespec)
  | opened (source : Nat)
  | closed (source : Nat)
  | created (virtual : Nat)
  | create_failed (result : Result)
  | destroyed (virtual : Nat)
  /-- The answer of `input_proxy_virtual_device_is_compatible`. -/
  | compared (virtual : Nat) (compatible : Bool)
  /-- A read that gave an event, with `paused` as it was, and one that gave none. -/
  | delivered (paused : Bool) (event : InputEvent)
  | read_failed (result : Result)
  /-- An event offered to the virtual device, and whether the write succeeded. -/
  | written (cause : Cause) (paused : Bool) (event : InputEvent) (ok : Bool)
  /-- A complete capture of the source state, with the session it was taken in. -/
  | captured (session : Session) (events : List InputEvent)
  | checked (result : Result)
  | synchronized (result : Result)
  | neutralized (before after : Option VirtualDevice) (result : Result)
  /-- A Pause or Resume call, from its dispatch to its reply. -/
  | called (paused : Bool)
  | requested (paused : Bool)
  | correcting (paused : Bool) (session : Session)
  | failed (result : Result)
  | committed (paused : Bool)
  | replied (paused : Bool) (result : Result)
  /-- The source is lost, and the session as it was then. -/
  | lost (session : Session)
  /-- The final cleanup begins. -/
  | cleanup
  /-- Activity: an eligible event, a started and an expired timer, a timer check. -/
  | active (now : Timespec)
  | timer_set (mode : Mode) (now : Timespec)
  | timer_expired (mode : Mode)
  | ticked (now : Timespec)
  /-- A property notification, with the state that the getters read its values from, a
  scheduled retry and a recreation of the control. -/
  | emitted (state : RuntimeControlState) (properties : List Property) (ok : Bool)
  | retry_scheduled (now : Timespec)
  | recreating (session : Session) (now : Timespec)

/-! ## The world -/

/-- What libevdev reports for one read. -/
inductive ReadStatus
  | success (event : SourceEvent)
  | sync (event : SourceEvent)
  | errno (errno : Errno)

/-- `enum input_proxy_libinput_status`. -/
inductive LibinputStatus
  | INDETERMINATE
  | NOT_IGNORED
  | IGNORED
deriving DecidableEq, Repr

/-- The sign of what `sd_bus_process` returns. -/
inductive Processed
  | more
  | idle
  | failed
deriving DecidableEq, Repr

/-- What `sd_bus_wait` returns. -/
inductive Waited
  | ready
  | interrupted
  | failed
deriving DecidableEq, Repr

/-- What the world answers to one call. A call reads the fields that it needs. -/
structure Answer where
  /-- SIGINT or SIGTERM arrived before this read of `shutdown_requested`. -/
  signal : Bool := false
  /-- `clock_gettime(CLOCK_MONOTONIC)`. -/
  clock : Option Timespec := some ⟨0, 0⟩
  /-- The memory that the call asks for is there. -/
  memory : Bool := true
  /-- `open` of the source, and `libevdev_new_from_fd` on it. -/
  open_errno : Option Errno := none
  evdev : Option Libevdev := none
  /-- `libevdev_next_event`. -/
  read : ReadStatus := .errno .EAGAIN
  /-- A state query succeeds. -/
  query : Bool := true
  /-- `ioctl(EVIOCGVERSION)`. -/
  version_errno : Option Errno := none
  libinput : LibinputStatus := .INDETERMINATE
  /-- `libevdev_uinput_create_from_device`, and the values of the fresh device. -/
  uinput_errno : Option Errno := none
  fresh : DeviceState := default
  /-- `libevdev_uinput_write_event`. -/
  write : Bool := true
  /-- `sd_bus_service_name_is_valid`, and the calls that set up the control object. -/
  service_name_is_valid : String → Bool := fun _ => true
  bus_errno : Option Errno := none
  object_errno : Option Errno := none
  name_errno : Option Errno := none
  /-- `sd_bus_process`: the method call that it dispatches, if any, and its result. -/
  call : Option Bool := none
  processed : Processed := .idle
  waited : Waited := .ready
  /-- `sd_bus_emit_properties_changed_strv`. -/
  emit : Bool := true

structure World where
  session : Session
  history : List Action
  answers : Nat → Answer
  asked : Nat

/-- A new session, before its run. -/
def World.start (config : SessionConfig) (answers : Nat → Answer) : World :=
  ⟨new_session config, [], answers, 0⟩

abbrev M := Program World

/-- The session as it is now. -/
def session : M Session := do return (← Program.get).session

def modify_session (f : Session → Session) : M Unit :=
  Program.modify fun w => { w with session := f w.session }

/-- Add to the history. -/
def record (action : Action) : M Unit :=
  Program.modify fun w => { w with history := action :: w.history }

def observe (point : Point) : M Unit := do record (.observed point (← session))

/-- The next answer of the world. -/
def ask : M Answer := do
  let w ← Program.get
  Program.modify fun w => { w with asked := w.asked + 1 }
  return w.answers w.asked

/-- A name for a new device that no older device of the run has. -/
def new_id : M Nat := do return (← Program.get).history.length

end input_proxy
