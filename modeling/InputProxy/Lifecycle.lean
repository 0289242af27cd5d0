-- The lifecycle of a session as a transition system: the phases of
-- ARCHITECTURE.md, and what each step can do to the session and its history.
-- The laws of the runs are laws of these steps.
import InputProxy.ProxySession

open programs

namespace input_proxy

/-- The session and its history at one moment of a run. -/
structure Moment where
  session : Session
  history : List Action

def World.moment (w : World) : Moment := ⟨w.session, w.history⟩

namespace Moment

def log (m : Moment) (a : Action) : Moment := { m with history := a :: m.history }

def put (m : Moment) (f : Session → Session) : Moment := { m with session := f m.session }

@[simp] theorem log_session (m : Moment) (a : Action) : (m.log a).session = m.session := rfl
@[simp] theorem log_history (m : Moment) (a : Action) : (m.log a).history = a :: m.history := rfl
@[simp] theorem put_session (m : Moment) (f : Session → Session) :
    (m.put f).session = f m.session := rfl
@[simp] theorem put_history (m : Moment) (f : Session → Session) :
    (m.put f).history = m.history := rfl

/-- One event written to the virtual device. -/
def wrote (m : Moment) (cause : Cause) (e : InputEvent) : Moment :=
  (m.put fun s => { s with virtual_device := s.virtual_device.map (·.write e) }).log
    (.written cause m.session.runtime_state.paused e true)

/-- A change of the pause state. -/
def commit (m : Moment) (paused : Bool) : Moment :=
  (m.put fun s =>
    if paused then
      { s with
        running_activity_timer_active := false
        runtime_state := { s.runtime_state with paused := true, activity_while_running := false } }
    else
      { s with
        paused_activity_timer_active := false
        runtime_state :=
          { s.runtime_state with paused := false, activity_while_paused := false } }).log
    (.committed paused)

/-- The source pointer is closed and set to NULL. -/
def close (m : Moment) : Moment :=
  (match m.session.source_device with
    | none => m
    | some source => m.log (.closed source.id)).put fun s =>
      { s with
        source_device := none
        runtime_state := { s.runtime_state with source_available := false } }

/-- The virtual device is destroyed and its pointer set to NULL. -/
def destroy (m : Moment) : Moment :=
  (match m.session.virtual_device with
    | none => m
    | some device => m.log (.destroyed device.id)).put fun s => { s with virtual_device := none }

/-- The view of the source after a delivered event. -/
def deliver (m : Moment) (e : SourceEvent) : Moment :=
  (m.put fun s =>
    { s with
      source_device := s.source_device.map fun source =>
        { source with evdev := source.evdev.advance e } }).log
    (.delivered m.session.runtime_state.paused e.event)

@[simp] theorem commit_session (m : Moment) (paused : Bool) :
    (m.commit paused).session =
      { m.session with
        running_activity_timer_active := !paused && m.session.running_activity_timer_active
        paused_activity_timer_active := paused && m.session.paused_activity_timer_active
        runtime_state :=
          { m.session.runtime_state with
            paused
            activity_while_running := !paused && m.session.runtime_state.activity_while_running
            activity_while_paused :=
              paused && m.session.runtime_state.activity_while_paused } } := by
  cases paused <;> rfl

@[simp] theorem close_session (m : Moment) :
    m.close.session =
      { m.session with
        source_device := none
        runtime_state := { m.session.runtime_state with source_available := false } } := by
  unfold close
  split <;> rfl

@[simp] theorem destroy_session (m : Moment) :
    m.destroy.session = { m.session with virtual_device := none } := by
  unfold destroy
  split <;> rfl

end Moment

/-! ## State corrections -/

/-- The events of a capture loop over `codes`. -/
def value_events (evdev : Libevdev) (type : Nat) (codes : List Nat) : List InputEvent :=
  codes.map fun code => ⟨type, code, evdev.state.value evdev.capabilities type code⟩

/-- The captured events of one slot. -/
def slot_events (evdev : Libevdev) (slot : Nat) : List InputEvent :=
  ⟨EV_ABS, ABS_MT_SLOT, slot⟩ ::
    ⟨EV_ABS, ABS_MT_TRACKING_ID, evdev.state.slot_value slot ABS_MT_TRACKING_ID⟩ ::
    if evdev.state.slot_value slot ABS_MT_TRACKING_ID < 0 then []
    else (contact_axes evdev.capabilities).map fun code =>
      ⟨EV_ABS, code, evdev.state.slot_value slot code⟩

def multitouch_events (evdev : Libevdev) : List InputEvent :=
  (List.range evdev.capabilities.slots).flatMap (slot_events evdev) ++
    [⟨EV_ABS, ABS_MT_SLOT, evdev.state.value evdev.capabilities EV_ABS ABS_MT_SLOT⟩]

/-- The list that a complete capture gives. -/
def capture_events (evdev : Libevdev) : List InputEvent :=
  value_events evdev EV_KEY (evdev.capabilities.codes EV_KEY KEY_MAX) ++
    value_events evdev EV_SW (evdev.capabilities.codes EV_SW SW_MAX) ++
    value_events evdev EV_ABS
      (absolute_codes evdev.capabilities evdev.capabilities.type_b_multitouch) ++
    if evdev.capabilities.type_b_multitouch then multitouch_events evdev else []

/-- The values that a complete query of the keys gives. -/
def key_values (d : VirtualDevice) : List (Nat × Int) :=
  (d.capabilities.codes EV_KEY KEY_MAX).map fun code => (code, d.kernel.key code)

/-- The tracking identifiers that a complete query of the slots gives. -/
def slot_tracking_ids (d : VirtualDevice) : List (Nat × Int) :=
  if d.capabilities.type_b_multitouch then
    (List.range d.capabilities.slots).map fun slot =>
      (slot, d.kernel.slot_value slot ABS_MT_TRACKING_ID)
  else []

/-- The releases, the ends of contacts, and the boundary if there are any. -/
def neutralizing_events (d : VirtualDevice) : List InputEvent :=
  key_releases (key_values d) ++ contact_ends (slot_tracking_ids d) ++
    if key_releases (key_values d) ≠ [] ∨ contact_ends (slot_tracking_ids d) ≠ [] then
      [synchronization_boundary]
    else []

/-- Writes, one after another, up to the first that fails. -/
inductive Wrote (cause : Cause) : List InputEvent → Moment → Result → Moment → Prop
  | nil (m) : Wrote cause [] m .SUCCESS m
  | fail (e es m) :
      Wrote cause (e :: es) m .ERROR_EVENT_WRITE_FAILED
        (m.log (.written cause m.session.runtime_state.paused e false))
  | cons {e es m r m'} (h : Wrote cause es (m.wrote cause e) r m') :
      Wrote cause (e :: es) m r m'

/-- What a neutralization can do: fail in a query, or write. -/
inductive Neutralize : Moment → Result → Moment → Prop
  | unread {m d r} (hd : m.session.virtual_device = some d)
      (hr : r = .ERROR_EVENT_READ_FAILED ∨ r = .ERROR_OUT_OF_MEMORY) :
      Neutralize m r (m.log (.neutralized (some d) (some d) r))
  | wrote {m d r m'} (hd : m.session.virtual_device = some d)
      (hw : Wrote .neutralize (neutralizing_events d) m r m') :
      Neutralize m r (m'.log (.neutralized (some d) m'.session.virtual_device r))

/-- What a synchronization can do: fail in the capture, fail in a write, or write
everything and then check that the source is still there. -/
inductive Synchronize : Moment → Result → Moment → Prop
  | uncaptured {m r} (hr : r = .ERROR_EVENT_READ_FAILED ∨ r = .ERROR_OUT_OF_MEMORY) :
      Synchronize m r (m.log (.synchronized r))
  | unwritten {m source r m'} (hs : m.session.source_device = some source)
      (hb : source.evdev.capabilities.type_b_multitouch → 0 < source.evdev.capabilities.slots)
      (hw : Wrote .synchronize (capture_events source.evdev ++ [synchronization_boundary])
        (m.log (.captured m.session (capture_events source.evdev))) r m')
      (hr : r ≠ .SUCCESS) : Synchronize m r (m'.log (.synchronized r))
  | checked {m source r m'} (hs : m.session.source_device = some source)
      (hb : source.evdev.capabilities.type_b_multitouch → 0 < source.evdev.capabilities.slots)
      (hw : Wrote .synchronize (capture_events source.evdev ++ [synchronization_boundary])
        (m.log (.captured m.session (capture_events source.evdev))) .SUCCESS m')
      (hr : r = .SUCCESS ∨ r = .ERROR_SOURCE_DISCONNECTED ∨ r = .ERROR_EVENT_READ_FAILED) :
      Synchronize m r ((m'.log (.checked r)).log (.synchronized r))

/-- The correction that a change to `paused` needs. -/
inductive Corrects (paused : Bool) : Moment → Result → Moment → Prop
  | none {m} (h : m.session.runtime_state.source_available = false) :
      Corrects paused m .SUCCESS m
  | pause {m r m'} (h : m.session.runtime_state.source_available = true) (hp : paused = true)
      (hn : Neutralize (m.log (.correcting paused m.session)) r m') : Corrects paused m r m'
  | resume {m r m'} (h : m.session.runtime_state.source_available = true) (hp : paused = false)
      (hn : Synchronize (m.log (.correcting paused m.session)) r m') : Corrects paused m r m'

/-! ## Steps of the control object and the activity tracking -/

/-- A step that leaves the devices, the pause state and the fatal result alone. -/
inductive ControlStep : Moment → Moment → Prop
  | observe (m) : ControlStep m (m.log (.observed .step m.session))
  | control (m) (c : Option RuntimeControl) :
      ControlStep m (m.put fun s => { s with runtime_control := c })
  | tracking (m) (available : Bool) :
      ControlStep m (m.put fun s => { s with activity_tracking_available := available })
  | discard (m) :
      ControlStep m (m.put fun s =>
        { s with
          activity_tracking_available := false
          running_activity_timer_active := false
          paused_activity_timer_active := false
          runtime_state :=
            { s.runtime_state with
              activity_while_running := false, activity_while_paused := false } })
  | retry (m) (active : Bool) (deadline : Timespec) :
      ControlStep m (m.put fun s =>
        { s with
          runtime_control_retry_active := active, runtime_control_retry_deadline := deadline })
  | retry_scheduled (m now) : ControlStep m (m.log (.retry_scheduled now))
  | recreating (m now) : ControlStep m (m.log (.recreating m.session now))
  | emitted (m properties ok) :
    ControlStep m (m.log (.emitted m.session.runtime_state properties ok))
  | eligible (m now) : ControlStep m (m.log (.active now))
  | ticked (m now) : ControlStep m (m.log (.ticked now))
  | diagnosed (m) : ControlStep m (m.put fun s => { s with libinput_status_definitive := true })
  | running_set (m now deadline) (hp : m.session.runtime_state.paused = false) :
      ControlStep m ((m.put fun s =>
        { s with
          running_activity_timer_active := true
          running_activity_deadline := deadline
          runtime_state := { s.runtime_state with activity_while_running := true } }).log
        (.timer_set .running now))
  | running_zero (m) (hp : m.session.runtime_state.paused = false) :
      ControlStep m (m.put fun s =>
        { s with
          running_activity_timer_active := false
          runtime_state := { s.runtime_state with activity_while_running := false } })
  | paused_set (m now deadline) (hp : m.session.runtime_state.paused = true) :
      ControlStep m ((m.put fun s =>
        { s with
          paused_activity_timer_active := true
          paused_activity_deadline := deadline
          runtime_state := { s.runtime_state with activity_while_paused := true } }).log
        (.timer_set .paused now))
  | paused_zero (m) (hp : m.session.runtime_state.paused = true) :
      ControlStep m (m.put fun s =>
        { s with
          paused_activity_timer_active := false
          runtime_state := { s.runtime_state with activity_while_paused := false } })
  | running_expired (m) (ht : m.session.running_activity_timer_active = true) :
      ControlStep m ((m.put fun s =>
        { s with
          running_activity_timer_active := false
          runtime_state := { s.runtime_state with activity_while_running := false } }).log
        (.timer_expired .running))
  | paused_expired (m) (ht : m.session.paused_activity_timer_active = true) :
      ControlStep m ((m.put fun s =>
        { s with
          paused_activity_timer_active := false
          runtime_state := { s.runtime_state with activity_while_paused := false } }).log
        (.timer_expired .paused))

/-! ## The phases and the steps -/

/-- The two loops that dispatch D-Bus messages: the wait for the source, under the
permission deadline of a settling period, and the inner loop. -/
inductive Loop
  | waiting (deadline : Option Timespec)
  | active

inductive Phase
  /-- At the head of a loop, or in its wait. -/
  | idle (loop : Loop)
  /-- A Pause or Resume call is being handled, and then answered. -/
  | handling (loop : Loop) (paused : Bool)
  | replying (loop : Loop) (paused : Bool) (result : Result)
  /-- The source is open, needs a new virtual device, has one, may be forwarded. -/
  | opened
  | creating
  | prepared
  | ready
  /-- An event was read, in the recovery or not. -/
  | delivered (recovering : Bool) (event : InputEvent)
  | recovering
  /-- The source is gone, and then counts as unavailable. -/
  | lost
  | losing
  /-- The run goes to its cleanup with this result, and is over. -/
  | ended (result : Result)
  | stopped (result : Result)

/-- A phase in which a run can be cut short: at the head of a loop. -/
def Phase.resting : Phase → Prop
  | .idle _ | .recovering | .stopped _ => True
  | _ => False

/-- Where an event leads to. -/
def Phase.after (recovering : Bool) : Phase := if recovering then .recovering else .idle .active

/-- A virtual device cannot be created. -/
def CreationFailure (r : Result) : Prop :=
  r = .ERROR_OUT_OF_MEMORY ∨ r = .ERROR_UINPUT_UNAVAILABLE ∨
    r = .ERROR_VIRTUAL_DEVICE_CREATE_FAILED

theorem CreationFailure.ne_success {r : Result} (h : CreationFailure r) : r ≠ .SUCCESS := by
  rcases h with rfl | rfl | rfl <;> decide

/-- One step of the session, with its guards as the code checks them. -/
inductive Step : Phase × Moment → Phase × Moment → Prop
  | control {ph m m'} (h : ControlStep m m') : Step (ph, m) (ph, m')
  | dispatch {l m} : Step (.idle l, m) (.idle l, m.log (.observed .dispatch m.session))
  | loop_head {m} :
      Step (.idle .active, m) (.idle .active, m.log (.observed .loop_head m.session))
  -- Pause and Resume
  | call {l m} (p : Bool) : Step (.idle l, m) (.handling l p, m.log (.called p))
  | unchanged {l p m} (hp : m.session.runtime_state.paused = p) :
      Step (.handling l p, m) (.replying l p .SUCCESS, m)
  | changed {l p m m'} (hp : m.session.runtime_state.paused ≠ p)
      (hc : Corrects p (m.log (.requested p)) .SUCCESS m') :
      Step (.handling l p, m) (.replying l p .SUCCESS, m'.commit p)
  | failed {l p m r m'} (hp : m.session.runtime_state.paused ≠ p)
      (hc : Corrects p (m.log (.requested p)) r m') (hr : r ≠ .SUCCESS) :
      Step (.handling l p, m)
        (.replying l p r, (m'.put fun s => { s with fatal_result := r }).log (.failed r))
  | reply {l p r m} : Step (.replying l p r, m) (.idle l, m.log (.replied p r))
  -- shutdown
  | go_on {l m} (hs : m.session.shutdown_requested = false) :
      Step (.idle l, m) (.idle l, m.log (.tested false))
  | shutdown {l m} :
      Step (.idle l, m)
        (.ended .SUCCESS, (m.put fun s => { s with shutdown_requested := true }).log (.tested true))
  | interrupted {m} :
      Step (.ready, m) (.ended .SUCCESS, m.put fun s => { s with shutdown_requested := true })
  | signal_lost {m} : Step (.lost, m) (.lost, m.put fun s => { s with shutdown_requested := true })
  | signal_ended {r m} :
      Step (.ended r, m) (.ended r, m.put fun s => { s with shutdown_requested := true })
  -- the wait for the source
  | give_up {t m} (hf : m.session.fatal_result ≠ .SUCCESS) :
      Step (.idle (.waiting t), m) (.ended m.session.fatal_result, m)
  | unavailable {t m} (hf : m.session.fatal_result = .SUCCESS) :
      Step (.idle (.waiting t), m)
        (.idle (.waiting t), (m.put fun s => { s with source_device := none }).log
          (.attempted .ERROR_SOURCE_UNAVAILABLE))
  | denied {t t' now m} (hf : m.session.fatal_result = .SUCCESS)
      (ho : m.session.source_opened_successfully = true) (hs : settle t now = .inl t') :
      Step (.idle (.waiting t), m)
        (.idle (.waiting t'), ((m.put fun s => { s with source_device := none }).log
          (.attempted .ERROR_SOURCE_PERMISSION_DENIED)).log (.sampled now))
  | denied_end {t r now m} (hf : m.session.fatal_result = .SUCCESS)
      (ho : m.session.source_opened_successfully = true) (hs : settle t now = .inr r) :
      Step (.idle (.waiting t), m)
        (.ended r, ((m.put fun s => { s with source_device := none }).log
          (.attempted .ERROR_SOURCE_PERMISSION_DENIED)).log (.sampled now))
  | open_failed {t r m} (hf : m.session.fatal_result = .SUCCESS) (hr : r ≠ .SUCCESS)
      (hu : r ≠ .ERROR_SOURCE_UNAVAILABLE)
      (hd : ¬ (r = .ERROR_SOURCE_PERMISSION_DENIED ∧
        m.session.source_opened_successfully = true)) :
      Step (.idle (.waiting t), m)
        (.ended r, (m.put fun s => { s with source_device := none }).log (.attempted r))
  | open_source {t m} (evdev : Libevdev) (hf : m.session.fatal_result = .SUCCESS) :
      Step (.idle (.waiting t), m)
        (.opened, (m.put fun s =>
          { s with
            source_device := some ⟨m.history.length, evdev⟩
            source_opened_successfully := true
            runtime_state := { s.runtime_state with source_available := true } }).log
          (.opened m.history.length))
  -- the virtual device
  | compatible {m d source} (hd : m.session.virtual_device = some d)
      (hs : m.session.source_device = some source)
      (hc : capabilities_equal d.capabilities source.evdev.capabilities = true) :
      Step (.opened, m) (.prepared, m.log (.compared d.id true))
  | incompatible {m d source} (hd : m.session.virtual_device = some d)
      (hs : m.session.source_device = some source)
      (hc : capabilities_equal d.capabilities source.evdev.capabilities = false) :
      Step (.opened, m) (.creating, (m.log (.compared d.id false)).destroy)
  | first {m} (hd : m.session.virtual_device = none) : Step (.opened, m) (.creating, m)
  | create {m source} (fresh : DeviceState) (hs : m.session.source_device = some source) :
      Step (.creating, m)
        (.prepared, (m.put fun s =>
          { s with
            virtual_device := some
              { id := m.history.length
                capabilities := create_template source.evdev.capabilities
                kernel := fresh_state fresh
                committed := fresh_state fresh } }).log (.created m.history.length))
  | create_failed {m r} (hr : CreationFailure r) :
      Step (.creating, m) (.ended r, (m.log (.create_failed r)).close)
  -- the start of forwarding
  | stay_paused {m} (hp : m.session.runtime_state.paused = true) :
      Step (.prepared, m) (.ready, m)
  | synchronized {m m'} (hp : m.session.runtime_state.paused = false)
      (hs : Synchronize m .SUCCESS m') : Step (.prepared, m) (.ready, m')
  | not_synchronized {m r m'} (hp : m.session.runtime_state.paused = false)
      (hs : Synchronize m r m') (hr : r ≠ .SUCCESS) : Step (.prepared, m) (.ended r, m')
  | activate {m} : Step (.ready, m) (.idle .active, m)
  -- the inner loop
  | fatal {m} (hf : m.session.fatal_result ≠ .SUCCESS)
      (hd : m.session.fatal_result ≠ .ERROR_SOURCE_DISCONNECTED) :
      Step (.idle .active, m) (.ended m.session.fatal_result, m)
  | fatal_lost {m} (hd : m.session.fatal_result = .ERROR_SOURCE_DISCONNECTED) :
      Step (.idle .active, m) (.lost, m)
  | read {m e} (hf : m.session.fatal_result = .SUCCESS) :
      Step (.idle .active, m) (.delivered false e.event, m.deliver e)
  | read_nothing {m} (hf : m.session.fatal_result = .SUCCESS) :
      Step (.idle .active, m) (.idle .active, m.log (.read_failed .EVENT_UNAVAILABLE))
  | read_dropped {m} (hf : m.session.fatal_result = .SUCCESS) :
      Step (.idle .active, m) (.recovering, m.log (.read_failed .EVENT_SYNC_REQUIRED))
  | read_lost {m} (hf : m.session.fatal_result = .SUCCESS) :
      Step (.idle .active, m) (.lost, m.log (.read_failed .ERROR_SOURCE_DISCONNECTED))
  | read_failed {m} (hf : m.session.fatal_result = .SUCCESS) :
      Step (.idle .active, m)
        (.ended .ERROR_EVENT_READ_FAILED, m.log (.read_failed .ERROR_EVENT_READ_FAILED))
  | recover {m e} : Step (.recovering, m) (.delivered true e.event, m.deliver e)
  | recovered {m} :
      Step (.recovering, m) (.idle .active, m.log (.read_failed .EVENT_UNAVAILABLE))
  | recover_lost {m} :
      Step (.recovering, m) (.lost, m.log (.read_failed .ERROR_SOURCE_DISCONNECTED))
  | recover_failed {m} :
      Step (.recovering, m)
        (.ended .ERROR_EVENT_READ_FAILED, m.log (.read_failed .ERROR_EVENT_READ_FAILED))
  | suppress {b e m} (hp : m.session.runtime_state.paused = true) :
      Step (.delivered b e, m) (.after b, m)
  | forward {b e m} (hp : m.session.runtime_state.paused = false) :
      Step (.delivered b e, m) (.after b, m.wrote .forward e)
  | forward_failed {b e m} (hp : m.session.runtime_state.paused = false) :
      Step (.delivered b e, m)
        (.ended .ERROR_EVENT_WRITE_FAILED, m.log (.written .forward false e false))
  -- the loss of the source
  | lose {m} :
      Step (.lost, m)
        (.losing, m.put fun s =>
          { s with runtime_state := { s.runtime_state with source_available := false } })
  | neutralized {m m'} (hn : Neutralize (m.log (.lost m.session)) .SUCCESS m') :
      Step (.losing, m) (.idle (.waiting none), m'.close)
  | not_neutralized {m r m'} (hn : Neutralize (m.log (.lost m.session)) r m')
      (hr : r ≠ .SUCCESS) : Step (.losing, m) (.ended r, m'.close)
  -- the end
  | clean {r m} : Step (.ended r, m) (.stopped r, (m.log .cleanup).destroy.close)

/-- A new session, before its run. -/
def start (config : SessionConfig) : Phase × Moment :=
  (.idle (.waiting none), ⟨new_session config, []⟩)

/-- What a session can come to. -/
def Reach (config : SessionConfig) (x : Phase × Moment) : Prop :=
  Relation.ReflTransGen Step (start config) x

end input_proxy
