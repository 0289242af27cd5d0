-- The proxy session (src/proxy_session.c): activity, Pause and Resume, the
-- acquisition of the source, the synchronization and the main loop.
import InputProxy.VirtualDevice
import InputProxy.RuntimeControl

open programs

namespace input_proxy

def RECONNECT_SETTLING_WINDOW_SECONDS : Int := 2
def RUNTIME_CONTROL_RETRY_MS : Nat := 5000
def NANOSECONDS_PER_MILLISECOND : Nat := 1000000
def MICROSECONDS_PER_SECOND : Nat := 1000000
def EVENT_UNAVAILABLE_DELAY_NS : Nat := 10000000
def SOURCE_RETRY_DELAY_NS : Nat := 100000000

/-! ## Time -/

def session_event_is_activity (event : InputEvent) (motion_activity_enabled : Bool) : Bool :=
  if event.type = EV_SYN then false
  else if event.type = EV_REL then motion_activity_enabled
  else if event.type = EV_ABS then
    if event.code = ABS_MT_TRACKING_ID then true
    else if event.code = ABS_MT_SLOT then false
    else motion_activity_enabled
  else true

def monotonic_now : M (Option Timespec) := do return (← ask).clock

def deadline_expired (deadline now : Timespec) : Bool :=
  now.tv_sec > deadline.tv_sec ||
    (now.tv_sec == deadline.tv_sec && now.tv_nsec ≥ deadline.tv_nsec)

/-- The number of values of `uint64_t`. -/
def UINT64_VALUES : Nat := 0x10000000000000000

/-- `set_deadline`, with the products and quotients of `uint64_t`. -/
def set_deadline (now : Timespec) (duration_ms : Nat) : Timespec :=
  let duration_ns := duration_ms * NANOSECONDS_PER_MILLISECOND % UINT64_VALUES
  let seconds : Nat := duration_ns / 1000000000
  let nanoseconds : Nat := duration_ns % 1000000000
  let tv_sec : Int := now.tv_sec + seconds
  let tv_nsec : Int := now.tv_nsec + nanoseconds
  if tv_nsec ≥ 1000000000 then ⟨tv_sec + 1, tv_nsec - 1000000000⟩ else ⟨tv_sec, tv_nsec⟩

/-! ## Runtime control and activity -/

def discard_activity_tracking : M Unit := do
  modify_session fun s =>
    { s with
      activity_tracking_available := false
      running_activity_timer_active := false
      paused_activity_timer_active := false }
  runtime_control_apply_changes false
    { activity_while_running := some false, activity_while_paused := some false }

def schedule_runtime_control_retry : M Unit := do
  match ← monotonic_now with
  | none => modify_session fun s => { s with runtime_control_retry_active := false }
  | some now =>
    modify_session fun s =>
      { s with
        runtime_control_retry_deadline := set_deadline now RUNTIME_CONTROL_RETRY_MS
        runtime_control_retry_active := true }
    record (.retry_scheduled now)

def update_control_availability : M Unit := do
  let s ← session
  if s.runtime_control.isNone then
    if s.activity_tracking_available then
      discard_activity_tracking
      schedule_runtime_control_retry
  else if !s.activity_tracking_available then
    modify_session fun s => { s with activity_tracking_available := true }
  observe .step

/-- The recreation, once its deadline has passed. -/
def recover_runtime_control (now : Timespec) : M Unit := do
  let s ← session
  let a ← ask
  match runtime_control_derive_service_name a.service_name_is_valid 256 s.instance_name with
  | .error _ => modify_session fun s => { s with runtime_control_retry_active := false }
  | .ok _ =>
    record (.recreating s now)
    match ← create_runtime_control with
    | .error failure =>
      modify_session fun s => { s with runtime_control := none }
      if failure = .INVALID_IDENTIFIER then
        modify_session fun s => { s with runtime_control_retry_active := false }
      else schedule_runtime_control_retry
    | .ok control =>
      modify_session fun s =>
        { s with
          runtime_control := some control
          runtime_control_retry_active := false
          activity_tracking_available := true }

def process_runtime_control_recovery : M Unit := do
  update_control_availability
  let s ← session
  if !s.runtime_control_retry_active then return
  else
    match ← monotonic_now with
    | none => return
    | some now =>
      if !deadline_expired s.runtime_control_retry_deadline now then return
      else
        recover_runtime_control now
        observe .step

/-- An eligible event while paused: it starts the throttle, or falls into it. -/
def process_paused_activity (now : Timespec) : M Unit := do
  let s ← session
  if s.paused_activity_timer_active then return
  else
    let duration_ms := s.detection_throttle_ms
    modify_session fun s => { s with paused_activity_timer_active := duration_ms != 0 }
    if duration_ms ≠ 0 then
      modify_session fun s => { s with paused_activity_deadline := set_deadline now duration_ms }
      record (.timer_set .paused now)
    runtime_control_apply_changes true { activity_while_paused := some (duration_ms != 0) }
    update_control_availability

/-- An eligible event while unpaused: it restarts the hold interval. -/
def process_running_activity (now : Timespec) : M Unit := do
  let duration_ms := (← session).activity_timeout_ms
  modify_session fun s => { s with running_activity_timer_active := duration_ms != 0 }
  if duration_ms ≠ 0 then
    modify_session fun s => { s with running_activity_deadline := set_deadline now duration_ms }
    record (.timer_set .running now)
  runtime_control_apply_changes true { activity_while_running := some (duration_ms != 0) }
  update_control_availability

def process_physical_activity : M Unit := do
  update_control_availability
  if !(← session).activity_tracking_available then return
  else
    match ← monotonic_now with
    | none => return
    | some now =>
      record (.active now)
      if (← session).runtime_state.paused then process_paused_activity now
      else process_running_activity now

/-- The expiry of the timers at `now`: what it stops, and what it clears. -/
def expire_activity_timers (now : Timespec) : M Unit := do
  let s ← session
  let running := s.running_activity_timer_active && deadline_expired s.running_activity_deadline now
  let paused := s.paused_activity_timer_active && deadline_expired s.paused_activity_deadline now
  if running then
    modify_session fun s => { s with running_activity_timer_active := false }
    record (.timer_expired .running)
  if paused then
    modify_session fun s => { s with paused_activity_timer_active := false }
    record (.timer_expired .paused)
  if running || paused then
    runtime_control_apply_changes true
      { activity_while_running := if running then some false else none
        activity_while_paused := if paused then some false else none }
    update_control_availability

def session_process_activity_timers : M Unit := do
  update_control_availability
  if !(← session).activity_tracking_available then return
  else
    match ← monotonic_now with
    | none => return
    | some now =>
      record (.ticked now)
      expire_activity_timers now

def set_source_available (source_available : Bool) : M Unit := do
  runtime_control_apply_changes true { source_available := some source_available }
  update_control_availability

/-! ## Devices -/

def cleanup_active_devices : M Unit := do
  record .cleanup
  virtual_device_destroy
  modify_session fun s => { s with virtual_device := none }
  source_device_close
  modify_session fun s => { s with source_device := none }
  set_source_available false

def close_source_device : M Unit := do
  source_device_close
  modify_session fun s => { s with source_device := none }
  set_source_available false

/-- `input_proxy_session_synchronize_state`, without its final diagnostic. -/
def synchronize_state : M Result := do
  let s ← session
  if s.source_device.isNone || s.virtual_device.isNone then return .ERROR_INVALID_ARGUMENT
  else
    match ← source_device_capture_state with
    | .error result => return result
    | .ok events =>
      record (.captured s events)
      let result ← write_events .synchronize events
      if result ≠ .SUCCESS then return result
      else
        let result ← virtual_device_write_event .synchronize synchronization_boundary
        if result ≠ .SUCCESS then return result
        else
          let result ← source_device_check_available
          record (.checked result)
          return result

def session_synchronize_state : M Result := do
  let result ← synchronize_state
  record (.synchronized result)
  return result

/-! ## Pause and Resume -/

/-- The correction that a change of the pause state needs while the source is there. -/
def correct_state (paused : Bool) : M Result := do
  let s ← session
  if s.runtime_state.source_available then
    record (.correcting paused s)
    if paused then virtual_device_neutralize else session_synchronize_state
  else return .SUCCESS

/-- The commit of a change of the pause state. -/
def commit_paused (paused : Bool) : M Unit := do
  modify_session fun s =>
    if paused then { s with running_activity_timer_active := false }
    else { s with paused_activity_timer_active := false }
  record (.committed paused)
  runtime_control_apply_changes true
    { paused := some paused
      activity_while_running := if paused then some false else none
      activity_while_paused := if paused then none else some false }
  update_control_availability

def session_request_paused (paused : Bool) : M Result := do
  if (← session).runtime_state.paused = paused then return .SUCCESS
  else
    record (.requested paused)
    let result ← correct_state paused
    if result ≠ .SUCCESS then
      modify_session fun s => { s with fatal_result := result }
      record (.failed result)
      return result
    else
      commit_paused paused
      return .SUCCESS

/-! ## Waits -/

/-- The conversion to `uint64_t`. -/
def to_uint64 (x : Int) : Nat := (x % UINT64_VALUES).toNat

/-- The time from `now` to the deadline in microseconds, rounded up. -/
def remaining_usec (deadline now : Timespec) : Nat :=
  let seconds := deadline.tv_sec - now.tv_sec
  let nanoseconds := deadline.tv_nsec - now.tv_nsec
  let (seconds, nanoseconds) :=
    if nanoseconds < 0 then (seconds - 1, nanoseconds + 1000000000) else (seconds, nanoseconds)
  (to_uint64 seconds * MICROSECONDS_PER_SECOND + (to_uint64 nanoseconds + 999) / 1000) %
    UINT64_VALUES

def deadline_wait_timeout_usec (deadline : Option Timespec) (maximum_usec : Nat) : M Nat := do
  match deadline with
  | none => return maximum_usec
  | some deadline =>
    match ← monotonic_now with
    | none => return maximum_usec
    | some now =>
      if deadline_expired deadline now then return 0
      else
        let remaining := remaining_usec deadline now
        return if remaining < maximum_usec then remaining else maximum_usec

def runtime_wait_timeout_usec (maximum_usec : Nat) : M Nat := do
  session_process_activity_timers
  let s ← session
  let deadline :=
    if s.running_activity_timer_active then some s.running_activity_deadline
    else if s.paused_activity_timer_active then some s.paused_activity_deadline
    else none
  let timeout_usec ← deadline_wait_timeout_usec deadline maximum_usec
  if s.runtime_control_retry_active then
    deadline_wait_timeout_usec (some s.runtime_control_retry_deadline) timeout_usec
  else return timeout_usec

def wait_with_activity_timer (fuel maximum_usec : Nat) : M Unit := do
  let timeout_usec ← runtime_wait_timeout_usec maximum_usec
  runtime_control_wait session_request_paused fuel timeout_usec
  update_control_availability
  session_process_activity_timers
  process_runtime_control_recovery

def wait_for_event (fuel : Nat) : M Unit :=
  wait_with_activity_timer fuel (EVENT_UNAVAILABLE_DELAY_NS / 1000)

def wait_for_source (fuel : Nat) : M Unit :=
  wait_with_activity_timer fuel (SOURCE_RETRY_DELAY_NS / 1000)

/-! ## The acquisition of the source -/

/-- A read of `shutdown_requested`, which a signal handler sets at any time. -/
def shutdown_requested : M Bool := do
  let a ← ask
  modify_session fun s => { s with shutdown_requested := s.shutdown_requested || a.signal }
  return (← session).shutdown_requested

/-- The condition of a loop. -/
def loop_ends : M Bool := do
  let shutdown ← shutdown_requested
  record (.tested shutdown)
  return shutdown

/-- What both loops do first. -/
def service_runtime_control (fuel : Nat) : M Unit := do
  runtime_control_process session_request_paused fuel
  update_control_availability
  process_runtime_control_recovery
  session_process_activity_timers

/-- `reconnect_settling_expired`, at the clock read `now`: no clock, no more waiting. -/
def reconnect_settling_expired (deadline : Timespec) (now : Option Timespec) : Bool :=
  match now with
  | none => true
  | some now => deadline_expired deadline now

/-- The deadline that the first denial of a reacquisition sets. -/
def permission_deadline (now : Timespec) : Timespec :=
  { now with tv_sec := now.tv_sec + RECONNECT_SETTLING_WINDOW_SECONDS }

/-- What a denied reacquisition does at the clock read `now`: `.inl` is the deadline to go
on waiting under, `.inr` the result to end with. -/
def settle (deadline now : Option Timespec) : Option Timespec ⊕ Result :=
  match deadline with
  | none =>
    match now with
    | none => .inr .ERROR_SOURCE_PERMISSION_DENIED
    | some now => .inl (some (permission_deadline now))
  | some deadline =>
    if reconnect_settling_expired deadline now then .inr .ERROR_SOURCE_PERMISSION_DENIED
    else .inl (some deadline)

def settle_permission (deadline : Option Timespec) : M (Option Timespec ⊕ Result) := do
  let now ← monotonic_now
  record (.sampled now)
  return settle deadline now

/-- The libinput warning, which only changes whether it is printed again. -/
def report_libinput_status : M Unit := do
  if !(← session).libinput_status_definitive then
    let a ← ask
    if a.query && a.libinput != .INDETERMINATE then
      modify_session fun s => { s with libinput_status_definitive := true }

/-- Forwarding is about to begin, unless the session is paused. -/
def synchronize_unless_paused : M Result := do
  if (← session).runtime_state.paused then return .SUCCESS
  else session_synchronize_state

/-- The source is open: keep the virtual device, or make a new one. -/
def activate_source : M Result := do
  modify_session fun s => { s with source_opened_successfully := true }
  set_source_available true
  report_libinput_status
  if ← virtual_device_is_compatible then synchronize_unless_paused
  else
    virtual_device_destroy
    modify_session fun s => { s with virtual_device := none }
    let result ← virtual_device_create
    if result ≠ .SUCCESS then
      close_source_device
      return result
    else synchronize_unless_paused

/-- One turn of the loop of `create_active_devices`. The loop carries the permission
deadline of a settling period. -/
def acquire_source (fuel : Nat) (deadline : Option Timespec) :
    M (Option Timespec ⊕ Result) := do
  if ← loop_ends then return .inr .SUCCESS
  else
    service_runtime_control fuel
    let s ← session
    if s.fatal_result ≠ .SUCCESS then return .inr s.fatal_result
    else
      let result ← source_device_open
      if result = .ERROR_SOURCE_UNAVAILABLE then
        wait_for_source fuel
        return .inl deadline
      else if result = .ERROR_SOURCE_PERMISSION_DENIED ∧ s.source_opened_successfully then
        match ← settle_permission deadline with
        | .inr result => return .inr result
        | .inl deadline =>
          wait_for_source fuel
          return .inl deadline
      else if result ≠ .SUCCESS then return .inr result
      else return .inr (← activate_source)

def create_active_devices (fuel : Nat) : M Result :=
  Program.loop (acquire_source fuel) fuel none

/-! ## Events -/

def process_read_event (event : InputEvent) : M Result := do
  if (← session).runtime_state.paused then return .SUCCESS
  else virtual_device_write_event .forward event

/-- One turn of the recovery loop. -/
def recover_event (_ : Unit) : M (Unit ⊕ Result) := do
  match ← source_device_read_sync_event with
  | .error .EVENT_UNAVAILABLE => return .inr .SUCCESS
  | .error result => return .inr result
  | .ok event =>
    let result ← process_read_event event
    if result ≠ .SUCCESS then return .inr result
    else return .inl ()

def recover_synchronization (fuel : Nat) : M Result := Program.loop recover_event fuel ()

def session_process_event (fuel : Nat) : M Result := do
  let s ← session
  if s.source_device.isNone || s.virtual_device.isNone then return .ERROR_INVALID_ARGUMENT
  else
    match ← source_device_read_event with
    | .error .EVENT_SYNC_REQUIRED => recover_synchronization fuel
    | .error result => return result
    | .ok event =>
      let s ← session
      if session_event_is_activity event
          (if s.runtime_state.paused then s.paused_motion_activity
            else s.running_motion_activity) then
        process_physical_activity
      process_read_event event

/-! ## The main loop -/

/-- One turn of the inner loop, which carries `result`. -/
def forward_events (fuel : Nat) (result : Result) : M (Result ⊕ Result) := do
  if ← loop_ends then return .inr result
  else
    observe .loop_head
    service_runtime_control fuel
    let s ← session
    if s.fatal_result ≠ .SUCCESS then return .inr s.fatal_result
    else
      let result ← session_process_event fuel
      if result = .EVENT_UNAVAILABLE then
        wait_for_event fuel
        return .inl result
      else if result = .SUCCESS then return .inl result
      else return .inr result

/-- Source loss: neutralize, close, and go on waiting if that succeeded. -/
def lose_source : M Result := do
  set_source_available false
  record (.lost (← session))
  let result ← virtual_device_neutralize
  close_source_device
  return result

/-- One turn of the outer loop, which carries `result`. -/
def run_devices (fuel : Nat) (result : Result) : M (Result ⊕ Result) := do
  if ← loop_ends then return .inr result
  else
    let result ← create_active_devices fuel
    if result ≠ .SUCCESS then return .inr result
    else if ← shutdown_requested then return .inr result
    else
      let result ← Program.loop (forward_events fuel) fuel result
      if (← shutdown_requested) && (result = .SUCCESS ∨ result = .EVENT_UNAVAILABLE) then
        return .inr .SUCCESS
      else if result = .ERROR_SOURCE_DISCONNECTED then
        let result ← lose_source
        if result ≠ .SUCCESS then return .inr result
        else return .inl result
      else return .inr result

/-- The control object of a new run, or the first retry of its creation. -/
def start_runtime_control : M Unit := do
  match ← create_runtime_control with
  | .ok control =>
    modify_session fun s =>
      { s with runtime_control := some control, activity_tracking_available := true }
  | .error failure =>
    modify_session fun s =>
      { s with runtime_control := none, activity_tracking_available := false }
    if failure ≠ .INVALID_IDENTIFIER then schedule_runtime_control_retry

def session_run (fuel : Nat) : M Result := do
  start_runtime_control
  let result ← Program.loop (run_devices fuel) fuel .SUCCESS
  cleanup_active_devices
  destroy_runtime_control
  return result

end input_proxy
