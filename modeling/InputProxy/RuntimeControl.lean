-- The D-Bus control object (src/runtime_control.c): its creation, the commit
-- and notification of property changes, dispatch and wait.
import InputProxy.World

open programs

namespace input_proxy

def DBUS_SERVICE_PREFIX : String := "net.controlforge.InputProxy1.Instance."

/-- The size of the name buffer in the control object. -/
def SERVICE_NAME_SIZE : Nat := DBUS_SERVICE_PREFIX.utf8ByteSize + 1 + 79

def runtime_control_derive_service_name (is_valid : String → Bool) (service_name_size : Nat)
    (instance_name : String) : Except Errno String :=
  let service_name := DBUS_SERVICE_PREFIX ++ instance_name
  if service_name.utf8ByteSize ≥ service_name_size then .error .ENOBUFS
  else if is_valid service_name then .ok service_name
  else .error .EINVAL

def runtime_control_classify_connection_failure (error_number : Errno) : RuntimeControlFailure :=
  if error_number = .EACCES ∨ error_number = .EPERM then .CONNECTION_REJECTED
  else .SYSTEM_BUS_UNAVAILABLE

def runtime_control_classify_name_failure (error_number : Errno) : RuntimeControlFailure :=
  if error_number = .EEXIST ∨ error_number = .EALREADY then .NAME_OWNED
  else if error_number = .EACCES ∨ error_number = .EPERM then .NAME_DENIED
  else .INITIALIZATION_FAILED

/-- The stages of a creation, each with its failure. -/
def Answer.control (a : Answer) (instance_name : String) :
    Except RuntimeControlFailure RuntimeControl :=
  if !a.memory then .error .INITIALIZATION_FAILED
  else
    match runtime_control_derive_service_name a.service_name_is_valid SERVICE_NAME_SIZE
      instance_name with
    | .error _ => .error .INVALID_IDENTIFIER
    | .ok _ =>
      match a.bus_errno, a.object_errno, a.name_errno with
      | some errno, _, _ => .error (runtime_control_classify_connection_failure errno)
      | none, some _, _ => .error .INITIALIZATION_FAILED
      | none, none, some errno => .error (runtime_control_classify_name_failure errno)
      | none, none, none => .ok ⟨false, false⟩

/-- `input_proxy_runtime_control_create` and `_recreate`, which differ in what they print. -/
def create_runtime_control : M (Except RuntimeControlFailure RuntimeControl) := do
  return (← ask).control (← session).instance_name

/-! ## Property changes -/

/-- `COMMIT_BOOLEAN`: the value of a member after the commit. -/
def commit_boolean (value : Bool) (change : Option Bool) : Bool := change.getD value

def RuntimeControlState.commit (state : RuntimeControlState) (changes : Changes) :
    RuntimeControlState where
  paused := commit_boolean state.paused changes.paused
  source_available := commit_boolean state.source_available changes.source_available
  activity_while_running :=
    commit_boolean state.activity_while_running changes.activity_while_running
  activity_while_paused :=
    commit_boolean state.activity_while_paused changes.activity_while_paused

/-- The properties whose value the commit changes, in the order of the notification. -/
def changed_properties (state : RuntimeControlState) (changes : Changes) : List Property :=
  let after := state.commit changes
  (if after.paused = state.paused then [] else [.PAUSED]) ++
    (if after.source_available = state.source_available then [] else [.SOURCE_AVAILABLE]) ++
    (if after.activity_while_running = state.activity_while_running then []
      else [.ACTIVITY_WHILE_RUNNING]) ++
    (if after.activity_while_paused = state.activity_while_paused then []
      else [.ACTIVITY_WHILE_PAUSED])

/-- Add a notification to the history. `sd_bus_emit_properties_changed_strv` calls the getters for
its values, and they read the state as it is then. -/
def record_emitted (properties : List Property) (ok : Bool) : M Unit := do
  record (.emitted (← session).runtime_state properties ok)

/-- One notification. A failed one ends the control object, at once or, during a
dispatch, right after it. -/
def emit_properties_changed (control : RuntimeControl) (properties : List Property) : M Unit := do
  let ok := (← ask).emit
  record_emitted properties ok
  if !ok then
    if control.dispatch_active then
      modify_session fun s =>
        { s with runtime_control := some { control with disable_pending := true } }
    else
      modify_session fun s => { s with runtime_control := none }

/-- `control` tells whether the caller passes the control object, or NULL. -/
def runtime_control_apply_changes (control : Bool) (changes : Changes) : M Unit := do
  let s ← session
  let changed := changed_properties s.runtime_state changes
  modify_session fun s => { s with runtime_state := s.runtime_state.commit changes }
  if changed = [] ∨ !control then return
  else
    match s.runtime_control with
    | none => return
    | some control => emit_properties_changed control changed

/-! ## Dispatch -/

/-- `request_paused_method`: the handler decides, and the reply carries its result. -/
def request_paused_method (pause_handler : Bool → M Result) (paused : Bool) : M Unit := do
  record (.called paused)
  let result ← pause_handler paused
  record (.replied paused result)

def destroy_runtime_control : M Unit :=
  modify_session fun s => { s with runtime_control := none }

/-- What follows `sd_bus_process`: a notification or a call that failed ends the control
object, and a call that did something is made again. -/
def finish_dispatch (processed : Processed) : M (Unit ⊕ Unit) := do
  modify_session fun s =>
    { s with runtime_control := s.runtime_control.map ({ · with dispatch_active := false }) }
  if (← session).runtime_control.any (·.disable_pending) then
    destroy_runtime_control
    return .inr ()
  else
    match processed with
    | .more => return .inl ()
    | .idle => return .inr ()
    | .failed =>
      destroy_runtime_control
      return .inr ()

/-- One turn of the dispatch loop: one `sd_bus_process`. -/
def dispatch_messages (pause_handler : Bool → M Result) (_ : Unit) : M (Unit ⊕ Unit) := do
  modify_session fun s =>
    { s with runtime_control := s.runtime_control.map ({ · with dispatch_active := true }) }
  observe .dispatch
  let a ← ask
  match a.call with
  | some paused => request_paused_method pause_handler paused
  | none => pure ()
  finish_dispatch a.processed

def runtime_control_process (pause_handler : Bool → M Result) (fuel : Nat) : M Unit := do
  if (← session).runtime_control.isNone then return
  else Program.loop (dispatch_messages pause_handler) fuel ()

/-- `input_proxy_runtime_control_wait`. Without a control object it only sleeps. -/
def runtime_control_wait (pause_handler : Bool → M Result) (fuel : Nat)
    (_timeout_usec : Nat) : M Unit := do
  if (← session).runtime_control.isNone then return
  else
    match (← ask).waited with
    | .interrupted => return
    | .failed => destroy_runtime_control
    | .ready => runtime_control_process pause_handler fuel

end input_proxy
