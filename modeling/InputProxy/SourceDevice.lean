-- The source device (src/source_device.c): open, close, the two reads, and
-- the capture of the current state. A pointer to a device is the field of the
-- session that holds it, since every call passes that field.
import InputProxy.World

open programs

namespace input_proxy

def source_device_open_failed (errno : Errno) : Result :=
  if errno = .ENOENT ∨ errno = .ENOTDIR then .ERROR_SOURCE_UNAVAILABLE
  else if errno = .EACCES then .ERROR_SOURCE_PERMISSION_DENIED
  else .ERROR_SOURCE_OPEN_FAILED

/-- The result of the calls that open a source: `open`, `calloc`, `libevdev_new_from_fd`. -/
def Answer.source (a : Answer) : Except Result Libevdev :=
  match a.open_errno with
  | some errno => .error (source_device_open_failed errno)
  | none =>
    if !a.memory then .error .ERROR_OUT_OF_MEMORY
    else
      match a.evdev with
      | none => .error .ERROR_SOURCE_OPEN_FAILED
      | some evdev => .ok evdev

def source_device_open : M Result := do
  modify_session fun s => { s with source_device := none }
  match (← ask).source with
  | .error result =>
    record (.attempted result)
    return result
  | .ok evdev =>
    let id ← new_id
    modify_session fun s => { s with source_device := some { id, evdev } }
    record (.opened id)
    return .SUCCESS

/-- `input_proxy_source_device_close`, for the pointer of the session. The callers
then set the pointer to NULL. -/
def source_device_close : M Unit := do
  match (← session).source_device with
  | none => return
  | some source => record (.closed source.id)

/-! ## Reads -/

inductive ReadFlag
  | NORMAL
  | SYNC
deriving DecidableEq, Repr

/-- The result of a read: in synchronization mode libevdev's SYNC status carries an
event too, and in normal mode it asks for the recovery. -/
def ReadStatus.result (flag : ReadFlag) : ReadStatus → Except Result SourceEvent
  | .success event => .ok event
  | .sync event => if flag = .SYNC then .ok event else .error .EVENT_SYNC_REQUIRED
  | .errno error =>
    if error = .EAGAIN then .error .EVENT_UNAVAILABLE
    else if error.device_gone then .error .ERROR_SOURCE_DISCONNECTED
    else .error .ERROR_EVENT_READ_FAILED

/-- A read of the source. A delivered event advances libevdev's view. -/
def source_device_next_event (flag : ReadFlag) : M (Except Result InputEvent) := do
  let s ← session
  match s.source_device with
  | none => return .error .ERROR_INVALID_ARGUMENT
  | some source =>
    match (← ask).read.result flag with
    | .error result =>
      record (.read_failed result)
      return .error result
    | .ok event =>
      modify_session fun s =>
        { s with source_device := some { source with evdev := source.evdev.advance event } }
      record (.delivered s.runtime_state.paused event.event)
      return .ok event.event

def source_device_read_event : M (Except Result InputEvent) := source_device_next_event .NORMAL

def source_device_read_sync_event : M (Except Result InputEvent) := source_device_next_event .SYNC

/-! ## The capture of the current state -/

def append_state_event (state : List InputEvent) (type code : Nat) (value : Int) :
    M (Except Result (List InputEvent)) := do
  if !(← ask).memory then return .error .ERROR_OUT_OF_MEMORY
  return .ok (state ++ [⟨type, code, value⟩])

/-- One query of the capture, and the append of its value. -/
def append_value (state : List InputEvent) (type code : Nat) (value : Int) :
    M (Except Result (List InputEvent)) := do
  if !(← ask).query then return .error .ERROR_EVENT_READ_FAILED
  append_state_event state type code value

def capture_event_type (evdev : Libevdev) (state : List InputEvent) (type maximum_code : Nat) :
    M (Except Result (List InputEvent)) :=
  Program.walk (fun state code =>
      append_value state type code (evdev.state.value evdev.capabilities type code))
    (evdev.capabilities.codes type maximum_code) state

/-- The absolute codes that the capture does not skip. -/
def absolute_codes (c : Capabilities) (type_b_multitouch : Bool) : List Nat :=
  (c.codes EV_ABS ABS_MAX).filter fun code =>
    !(type_b_multitouch && (code == ABS_MT_SLOT || is_multitouch_axis code))

def capture_absolute_state (evdev : Libevdev) (state : List InputEvent)
    (type_b_multitouch : Bool) : M (Except Result (List InputEvent)) :=
  Program.walk (fun state code =>
      append_value state EV_ABS code (evdev.state.value evdev.capabilities EV_ABS code))
    (absolute_codes evdev.capabilities type_b_multitouch) state

/-- The multitouch axes of a slot that the capture reads for an active contact. -/
def contact_axes (c : Capabilities) : List Nat :=
  ((List.range (ABS_MT_TOOL_Y + 1)).drop ABS_MT_TOUCH_MAJOR).filter fun code =>
    code != ABS_MT_TRACKING_ID && c.has_event_code EV_ABS code

/-- The capture of one slot. An inactive slot gives its tracking identifier only. -/
def capture_slot (evdev : Libevdev) (state : List InputEvent) (slot : Nat) :
    M (Except Result (List InputEvent)) := do
  match ← append_state_event state EV_ABS ABS_MT_SLOT slot with
  | .error result => return .error result
  | .ok state =>
    let value := evdev.state.slot_value slot ABS_MT_TRACKING_ID
    match ← append_value state EV_ABS ABS_MT_TRACKING_ID value with
    | .error result => return .error result
    | .ok state =>
      if value < 0 then return .ok state
      else
        Program.walk (fun state code =>
            append_value state EV_ABS code (evdev.state.slot_value slot code))
          (contact_axes evdev.capabilities) state

def capture_multitouch_state (evdev : Libevdev) (state : List InputEvent) :
    M (Except Result (List InputEvent)) := do
  if !(← ask).query then return .error .ERROR_EVENT_READ_FAILED
  let current_slot := evdev.state.value evdev.capabilities EV_ABS ABS_MT_SLOT
  if evdev.capabilities.get_num_slots ≤ 0 then return .error .ERROR_EVENT_READ_FAILED
  match ← Program.walk (capture_slot evdev) (List.range evdev.capabilities.slots) state with
  | .error result => return .error result
  | .ok state => append_state_event state EV_ABS ABS_MT_SLOT current_slot

/-- The captured events, or the failure that leaves the list empty. -/
def source_device_capture_state : M (Except Result (List InputEvent)) := do
  match (← session).source_device with
  | none => return .error .ERROR_INVALID_ARGUMENT
  | some source =>
    let evdev := source.evdev
    match ← capture_event_type evdev [] EV_KEY KEY_MAX with
    | .error result => return .error result
    | .ok state =>
      match ← capture_event_type evdev state EV_SW SW_MAX with
      | .error result => return .error result
      | .ok state =>
        let type_b_multitouch := evdev.capabilities.type_b_multitouch
        match ← capture_absolute_state evdev state type_b_multitouch with
        | .error result => return .error result
        | .ok state =>
          if type_b_multitouch then capture_multitouch_state evdev state
          else return .ok state

def source_device_check_available : M Result := do
  match (← session).source_device with
  | none => return .ERROR_INVALID_ARGUMENT
  | some _ =>
    match (← ask).version_errno with
    | none => return .SUCCESS
    | some errno =>
      if errno.device_gone then return .ERROR_SOURCE_DISCONNECTED
      else return .ERROR_EVENT_READ_FAILED

end input_proxy
