-- The turns of the control object and the activity tracking. The steps of the
-- lifecycle say what these parts may do; a turn says exactly what one call
-- does to them, with the answers of the world that decide it.
import InputProxy.Histories

open programs Program

namespace input_proxy

/-! ## What the other calls leave alone -/

/-- The session without its devices, its result and the flags of its loops. -/
def Session.tracked (s : Session) : Session :=
  { s with
    source_device := none
    virtual_device := none
    fatal_result := .SUCCESS
    source_opened_successfully := false
    libinput_status_definitive := false
    shutdown_requested := false }

/-- A read of the source, while the pause state is that of `s`. -/
def Action.of_read (s : Session) : Action → Prop
  | .delivered paused _ => paused = s.runtime_state.paused
  | .read_failed _ => True
  | _ => False

/-- An entry that is no read, and is not about the tracked part. -/
def Action.outside : Action → Prop
  | .observed _ _ | .delivered _ _ | .read_failed _ | .committed _ | .active _ | .ticked _
  | .timer_set _ _ | .timer_expired _ | .emitted _ _ _ | .retry_scheduled _
  | .recreating _ _ => False
  | _ => True

/-- The tracked part stays, and the new entries are of this kind. -/
structure Beside (P : Action → Prop) (m m' : Moment) : Prop where
  tracked : m'.session.tracked = m.session.tracked
  adds : Adds P m m'

/-- A call that leaves the tracked part alone, and reads nothing. -/
abbrev Outside : Moment → Moment → Prop := Beside Action.outside

/-- One read. -/
structure Reads (a : Action) (m m' : Moment) : Prop where
  tracked : m'.session.tracked = m.session.tracked
  history : m'.history = a :: m.history
  of_read : a.of_read m.session

/-- An entry beside the tracked part. -/
def Action.besides (a : Action) : Prop := a.outside ∨ ∃ s, a.of_read s

theorem Beside.refl {P : Action → Prop} (m : Moment) : Beside P m m := ⟨rfl, Adds.refl⟩

theorem Beside.trans {P : Action → Prop} {m m1 m' : Moment} (h : Beside P m m1)
    (h' : Beside P m1 m') : Beside P m m' := ⟨h'.tracked.trans h.tracked, h.adds.trans h'.adds⟩

theorem Beside.aside {m m' : Moment} (h : Outside m m') : Beside Action.besides m m' :=
  ⟨h.tracked, h.adds.mono fun _ ha => .inl ha⟩

theorem Reads.aside {a : Action} {m m' : Moment} (h : Reads a m m') :
    Beside Action.besides m m' := by
  refine ⟨h.tracked, [a], h.history, fun b hb => ?_⟩
  obtain rfl := List.mem_singleton.mp hb
  exact .inr ⟨m.session, h.of_read⟩

/-- What the tracked part tells of a session stays. -/
theorem Beside.field {P : Action → Prop} {β : Type} {m m' : Moment} (h : Beside P m m')
    (f : Session → β) (hf : ∀ s : Session, f s.tracked = f s) : f m'.session = f m.session := by
  rw [← hf m'.session, h.tracked, hf]

/-- A recovery is going on: a read has asked for it, and since then no read has come to its
end and no forward has failed. -/
def recovering : List Action → Bool
  | [] => false
  | .read_failed result :: _ => result = .EVENT_SYNC_REQUIRED
  | .written .forward _ _ false :: _ => false
  | _ :: past => recovering past

/-- Only a read begins a recovery. -/
theorem recovering_append {new past : List Action} (h : ∀ a ∈ new, ∀ r, a ≠ .read_failed r)
    (hp : recovering past = false) : recovering (new ++ past) = false := by
  induction new with
  | nil => exact hp
  | cons a new ih =>
    obtain ⟨ha, hnew⟩ := List.forall_mem_cons.mp h
    have ih := ih hnew
    cases a with
    | read_failed result => exact absurd rfl (ha result)
    | written cause paused event ok =>
      cases cause <;> cases ok <;> first | exact ih | rfl
    | _ => exact ih

/-- The read delivered an event that the pause state counts as activity. -/
def Action.eligible (s : Session) : Action → Prop
  | .delivered _ event => session_event_is_activity event
      (if s.runtime_state.paused then s.paused_motion_activity else s.running_motion_activity) =
        true
  | _ => False

/-! ## The effects -/

@[simp] theorem World.moment_session (w : World) : w.moment.session = w.session := rfl

@[simp] theorem World.moment_history (w : World) : w.moment.history = w.history := rfl

namespace Moment

/-- `emit_properties_changed`. -/
def notify (m : Moment) (control : RuntimeControl) (changed : List Property) (ok : Bool) :
    Moment :=
  let emitted := m.log (.emitted m.session.runtime_state changed ok)
  if ok then emitted
  else
    emitted.put fun s =>
      { s with
        runtime_control :=
          if control.dispatch_active then some { control with disable_pending := true }
          else none }

/-- The commit of the properties alone. -/
def commit_changes (m : Moment) (changes : Changes) : Moment :=
  m.put fun s => { s with runtime_state := s.runtime_state.commit changes }

/-- `runtime_control_apply_changes`, from a caller that passes the control object. -/
def apply (m : Moment) (changes : Changes) (ok : Bool) : Moment :=
  let changed := changed_properties m.session.runtime_state changes
  match m.session.runtime_control with
  | none => m.commit_changes changes
  | some control =>
    if changed = [] then m.commit_changes changes
    else (m.commit_changes changes).notify control changed ok

/-- `schedule_runtime_control_retry`, at this clock read. -/
def schedule (m : Moment) (clock : Option Timespec) : Moment :=
  match clock with
  | none => m.put fun s => { s with runtime_control_retry_active := false }
  | some now =>
    (m.put fun s =>
      { s with
        runtime_control_retry_deadline := set_deadline now RUNTIME_CONTROL_RETRY_MS
        runtime_control_retry_active := true }).log (.retry_scheduled now)

/-- `discard_activity_tracking`. -/
def discard (m : Moment) : Moment :=
  m.put fun s =>
    { s with
      activity_tracking_available := false
      running_activity_timer_active := false
      paused_activity_timer_active := false
      runtime_state :=
        { s.runtime_state with
          activity_while_running := false, activity_while_paused := false } }

def observe (m : Moment) (point : Point) : Moment := m.log (.observed point m.session)

/-- `update_control_availability`. -/
def update (m : Moment) (clock : Option Timespec) : Moment :=
  let updated :=
    if m.session.runtime_control.isNone then
      if m.session.activity_tracking_available then m.discard.schedule clock else m
    else m.put fun s => { s with activity_tracking_available := true }
  updated.observe .step

/-- A change, as every caller makes it: the commit, the notification, the availability. -/
def change (m : Moment) (changes : Changes) (ok : Bool) (clock : Option Timespec) : Moment :=
  (m.apply changes ok).update clock

/-- The pause state is changed: what `commit_paused` does before it commits the properties. -/
def cancel (m : Moment) (paused : Bool) : Moment :=
  (m.put fun s =>
    if paused then { s with running_activity_timer_active := false }
    else { s with paused_activity_timer_active := false }).log (.committed paused)

/-- An eligible event while paused starts the throttle. -/
def throttle (m : Moment) (now : Timespec) : Moment :=
  let m := m.log (.active now)
  if m.session.detection_throttle_ms = 0 then
    m.put fun s => { s with paused_activity_timer_active := false }
  else
    (m.put fun s =>
      { s with
        paused_activity_timer_active := true
        paused_activity_deadline := set_deadline now s.detection_throttle_ms }).log
      (.timer_set .paused now)

/-- An eligible event while unpaused restarts the hold interval. -/
def hold (m : Moment) (now : Timespec) : Moment :=
  let m := m.log (.active now)
  if m.session.activity_timeout_ms = 0 then
    m.put fun s => { s with running_activity_timer_active := false }
  else
    (m.put fun s =>
      { s with
        running_activity_timer_active := true
        running_activity_deadline := set_deadline now s.activity_timeout_ms }).log
      (.timer_set .running now)

/-- The timer of a mode has expired at `now`. -/
def due (m : Moment) (now : Timespec) : Mode → Bool
  | .running => m.session.running_activity_timer_active &&
      deadline_expired m.session.running_activity_deadline now
  | .paused => m.session.paused_activity_timer_active &&
      deadline_expired m.session.paused_activity_deadline now

/-- The timer of a mode is stopped, if it is due. -/
def expire (m : Moment) (due : Bool) (mode : Mode) : Moment :=
  if due then
    (m.put fun s =>
      match mode with
      | .running => { s with running_activity_timer_active := false }
      | .paused => { s with paused_activity_timer_active := false }).log (.timer_expired mode)
  else m

/-- What a tick at `now` does to the timers. -/
def tick (m : Moment) (now : Timespec) : Moment :=
  ((m.log (.ticked now)).expire (m.due now .running) .running).expire (m.due now .paused) .paused

/-- The properties that a tick clears. -/
def cleared (m : Moment) (now : Timespec) : Changes where
  activity_while_running := if m.due now .running then some false else none
  activity_while_paused := if m.due now .paused then some false else none

end Moment

section timers

variable {m : Moment} {now : Timespec}

theorem Moment.throttle_zero (h : m.session.detection_throttle_ms = 0) :
    m.throttle now =
      (m.log (.active now)).put fun s => { s with paused_activity_timer_active := false } :=
  if_pos h

theorem Moment.throttle_set (h : m.session.detection_throttle_ms ≠ 0) :
    m.throttle now =
      ((m.log (.active now)).put fun s =>
        { s with
          paused_activity_timer_active := true
          paused_activity_deadline := set_deadline now s.detection_throttle_ms }).log
        (.timer_set .paused now) :=
  if_neg h

theorem Moment.hold_zero (h : m.session.activity_timeout_ms = 0) :
    m.hold now =
      (m.log (.active now)).put fun s => { s with running_activity_timer_active := false } :=
  if_pos h

theorem Moment.hold_set (h : m.session.activity_timeout_ms ≠ 0) :
    m.hold now =
      ((m.log (.active now)).put fun s =>
        { s with
          running_activity_timer_active := true
          running_activity_deadline := set_deadline now s.activity_timeout_ms }).log
        (.timer_set .running now) :=
  if_neg h

/-- An entry about the timers. -/
def Action.of_timers : Action → Prop
  | .active _ | .ticked _ | .timer_set _ _ | .timer_expired _ | .committed _ => True
  | _ => False

/-- Only the timers change. -/
structure Times (m m' : Moment) : Prop where
  session : ∃ running deadline paused deadline', m'.session =
    { m.session with
      running_activity_timer_active := running
      running_activity_deadline := deadline
      paused_activity_timer_active := paused
      paused_activity_deadline := deadline' }
  adds : Adds Action.of_timers m m'

theorem Times.tracking {m' : Moment} (h : Times m m') :
    m'.session.activity_tracking_available = m.session.activity_tracking_available := by
  obtain ⟨⟨_, _, _, _, hs⟩, _⟩ := h
  rw [hs]

theorem Times.control {m' : Moment} (h : Times m m') :
    m'.session.runtime_control = m.session.runtime_control := by
  obtain ⟨⟨_, _, _, _, hs⟩, _⟩ := h
  rw [hs]

theorem Times.runtime_state {m' : Moment} (h : Times m m') :
    m'.session.runtime_state = m.session.runtime_state := by
  obtain ⟨⟨_, _, _, _, hs⟩, _⟩ := h
  rw [hs]

theorem Times.log {a : Action} (h : a.of_timers) : Times m (m.log a) :=
  ⟨⟨_, _, _, _, rfl⟩, Adds.refl.log h⟩

theorem Times.trans {m1 m' : Moment} (h : Times m m1) (h' : Times m1 m') : Times m m' := by
  obtain ⟨⟨r, d, p, d', hs⟩, hadds⟩ := h
  obtain ⟨⟨r', e, p', e', hs'⟩, hadds'⟩ := h'
  refine ⟨⟨r', e, p', e', ?_⟩, hadds.trans hadds'⟩
  rw [hs', hs]

theorem Moment.throttle_times (m : Moment) (now : Timespec) : Times m (m.throttle now) := by
  have hactive : Adds Action.of_timers m (m.log (.active now)) := Adds.refl.log trivial
  by_cases h : m.session.detection_throttle_ms = 0
  · rw [Moment.throttle_zero h]
    exact ⟨⟨_, _, _, _, rfl⟩, hactive.put⟩
  · rw [Moment.throttle_set h]
    exact ⟨⟨_, _, _, _, rfl⟩, hactive.put.log trivial⟩

theorem Moment.hold_times (m : Moment) (now : Timespec) : Times m (m.hold now) := by
  have hactive : Adds Action.of_timers m (m.log (.active now)) := Adds.refl.log trivial
  by_cases h : m.session.activity_timeout_ms = 0
  · rw [Moment.hold_zero h]
    exact ⟨⟨_, _, _, _, rfl⟩, hactive.put⟩
  · rw [Moment.hold_set h]
    exact ⟨⟨_, _, _, _, rfl⟩, hactive.put.log trivial⟩

theorem Moment.expire_times (m : Moment) (due : Bool) (mode : Mode) :
    Times m (m.expire due mode) := by
  unfold Moment.expire
  split
  · cases mode <;> exact ⟨⟨_, _, _, _, rfl⟩, Adds.refl.put.log trivial⟩
  · exact ⟨⟨_, _, _, _, rfl⟩, Adds.refl⟩

theorem Moment.tick_times (m : Moment) (now : Timespec) : Times m (m.tick now) := by
  unfold Moment.tick
  have hticked : Times m (m.log (.ticked now)) := .log trivial
  exact (hticked.trans (Moment.expire_times ..)).trans (Moment.expire_times ..)

theorem Moment.cancel_session (m : Moment) (p : Bool) :
    (m.cancel p).session =
      { m.session with
        running_activity_timer_active := !p && m.session.running_activity_timer_active
        paused_activity_timer_active := p && m.session.paused_activity_timer_active } := by
  cases p <;> rfl

theorem Moment.cancel_history (m : Moment) (p : Bool) :
    (m.cancel p).history = .committed p :: m.history := rfl

end timers

/-! ## The laws of a change -/

section changes

variable {m : Moment} {changes : Changes} {ok : Bool}

/-- Without a control object, and without a changed property, nothing is notified. -/
theorem Moment.apply_silent
    (h : m.session.runtime_control = none ∨
      changed_properties m.session.runtime_state changes = []) :
    m.apply changes ok = m.commit_changes changes := by
  unfold Moment.apply
  rcases h with h | h
  · rw [h]
  · split
    · rfl
    · exact if_pos h

theorem Moment.apply_notified {control : RuntimeControl}
    (hc : m.session.runtime_control = some control)
    (h : changed_properties m.session.runtime_state changes ≠ []) :
    m.apply changes ok = (m.commit_changes changes).notify control
      (changed_properties m.session.runtime_state changes) ok := by
  unfold Moment.apply
  rw [hc]
  exact if_neg h

/-- A change commits the properties, and besides can only mark or end the control object. -/
theorem Moment.apply_session (m : Moment) (changes : Changes) (ok : Bool) :
    (m.apply changes ok).session =
      { m.session with
        runtime_state := m.session.runtime_state.commit changes
        runtime_control := (m.apply changes ok).session.runtime_control } := by
  unfold Moment.apply Moment.notify
  split
  · rfl
  · dsimp only
    split_ifs <;> rfl

theorem Moment.apply_control (h : (m.apply changes ok).session.runtime_control.isSome) :
    m.session.runtime_control.isSome := by
  unfold Moment.apply at h
  split at h
  · exact h
  · rename_i control hc
    rw [hc]
    rfl

theorem Moment.apply_adds (m : Moment) (changes : Changes) (ok : Bool) :
    Adds (fun a => ∃ state ps, a = .emitted state ps ok) m (m.apply changes ok) := by
  unfold Moment.apply Moment.notify
  split
  · exact Adds.refl.put
  · dsimp only
    split_ifs
    · exact Adds.refl.put
    · exact Adds.refl.put.log ⟨_, _, rfl⟩
    · exact (Adds.refl.put.log ⟨_, _, rfl⟩).put
    · exact (Adds.refl.put.log ⟨_, _, rfl⟩).put

end changes

section availability

variable {m : Moment} {clock : Option Timespec}

/-- The loss is noticed. -/
theorem Moment.update_lost (hc : m.session.runtime_control.isNone)
    (ht : m.session.activity_tracking_available = true) :
    m.update clock = (m.discard.schedule clock).observe .step := by
  unfold Moment.update
  rw [if_pos hc, if_pos ht]

theorem Moment.update_gone (hc : m.session.runtime_control.isNone)
    (ht : m.session.activity_tracking_available = false) : m.update clock = m.observe .step := by
  unfold Moment.update
  rw [if_pos hc, if_neg (by simp [ht])]

theorem Moment.update_live (hc : m.session.runtime_control.isSome) :
    m.update clock =
      (m.put fun s => { s with activity_tracking_available := true }).observe .step := by
  unfold Moment.update
  rw [if_neg (by simpa using Option.ne_none_iff_isSome.mpr hc)]

theorem Moment.update_control (m : Moment) :
    (m.update clock).session.runtime_control = m.session.runtime_control := by
  unfold Moment.update Moment.observe
  split
  · split
    · cases clock <;> rfl
    · rfl
  · rfl

/-- An update leaves alone what the tracking is not about. -/
theorem Moment.update_session (m : Moment) {β : Type} (f : Session → β)
    (hf : ∀ (s : Session) tracking retry deadline running paused r p,
      f { s with
          activity_tracking_available := tracking
          runtime_control_retry_active := retry
          runtime_control_retry_deadline := deadline
          running_activity_timer_active := running
          paused_activity_timer_active := paused
          runtime_state :=
            { s.runtime_state with activity_while_running := r, activity_while_paused := p } } =
        f s) : f (m.update clock).session = f m.session := by
  have hs := hf m.session
  unfold Moment.update Moment.observe
  split
  · split
    · cases clock <;> exact hs ..
    · rfl
  · exact hs ..

end availability

/-! ## The turns -/

/-- A creation of the control object can fail as an invalid identifier in this way. -/
def RefusedBy (a : Answer) (instance_name : String) : Prop :=
  a.control instance_name = .error .INVALID_IDENTIFIER ∨
    ∃ errno, runtime_control_derive_service_name a.service_name_is_valid 256 instance_name =
      .error errno

/-- One call, from moment to moment, but for the reads and what is done outside a dispatch. -/
inductive Call (answers : Nat → Answer) : Moment → Moment → Prop
  /-- A call that leaves them alone. -/
  | outside {m m'} (h : Outside m m') : Call answers m m'
  | updated (m k) : Call answers m (m.update (answers k).clock)
  /-- `set_source_available` and `commit_paused`. -/
  | available (m b j k) :
      Call answers m
        (m.change { source_available := some b } (answers j).emit (answers k).clock)
  | committed {m p} (j k) (hp : m.session.runtime_state.paused ≠ p) :
      Call answers m
        ((m.cancel p).change
          { paused := some p
            activity_while_running := if p then some false else none
            activity_while_paused := if p then none else some false }
          (answers j).emit (answers k).clock)
  /-- A tick: nothing is due, or a change clears what is. -/
  | idle {m} (i now) (hi : (answers i).clock = some now)
      (ht : m.session.activity_tracking_available = true)
      (hc : m.session.runtime_control.isSome)
      (hd : ∀ mode, m.due now mode = false) : Call answers m (m.log (.ticked now))
  | expired {m} (i now j k) (hi : (answers i).clock = some now)
      (ht : m.session.activity_tracking_available = true)
      (hc : m.session.runtime_control.isSome)
      (hd : ∃ mode, m.due now mode = true) :
      Call answers m ((m.tick now).change (m.cleared now) (answers j).emit (answers k).clock)
  /-- The recreation of the control object, once its deadline has passed. -/
  | underivable {m} (i now k) (hi : (answers i).clock = some now)
      (hr : m.session.runtime_control_retry_active = true)
      (hd : deadline_expired m.session.runtime_control_retry_deadline now = true)
      (hk : RefusedBy (answers k) m.session.instance_name) :
      Call answers m
        ((m.put fun s => { s with runtime_control_retry_active := false }).observe .step)
  | refused {m} (i now k) (hi : (answers i).clock = some now)
      (hr : m.session.runtime_control_retry_active = true)
      (hd : deadline_expired m.session.runtime_control_retry_deadline now = true)
      (hk : RefusedBy (answers k) m.session.instance_name) :
      Call answers m
        (((m.log (.recreating m.session now)).put fun s =>
          { s with runtime_control := none, runtime_control_retry_active := false }).observe .step)
  | not_recreated {m} (i now k) (hi : (answers i).clock = some now)
      (hr : m.session.runtime_control_retry_active = true)
      (hd : deadline_expired m.session.runtime_control_retry_deadline now = true) :
      Call answers m
        ((((m.log (.recreating m.session now)).put fun s =>
          { s with runtime_control := none }).schedule (answers k).clock).observe .step)
  | recreated {m} (i now) (hi : (answers i).clock = some now)
      (hr : m.session.runtime_control_retry_active = true)
      (hd : deadline_expired m.session.runtime_control_retry_deadline now = true) :
      Call answers m
        (((m.log (.recreating m.session now)).put fun s =>
          { s with
            runtime_control := some ⟨false, false⟩
            runtime_control_retry_active := false
            activity_tracking_available := true }).observe .step)
  /-- A dispatch of messages ends, and a failed one ends the control object. -/
  | finished (m) :
      Call answers m (m.put fun s =>
        { s with
          runtime_control :=
            (s.runtime_control.map ({ · with dispatch_active := false })).filter
              (!·.disable_pending) })
  | dropped (m) : Call answers m (m.put fun s => { s with runtime_control := none })

/-- What an eligible event does, which was just read: the availability is updated, and with
a control object and a clock the event falls into the throttle interval, starts one, or
restarts the hold interval. -/
inductive Physical (answers : Nat → Answer) (m : Moment) : Moment → Prop
  | lost (k) (hc : m.session.runtime_control = none) :
      Physical answers m (m.update (answers k).clock)
  | unsampled (i k) (hi : (answers i).clock = none) :
      Physical answers m (m.update (answers k).clock)
  | suppressed (i l now) (hi : (answers i).clock = some now)
      (hc : m.session.runtime_control.isSome)
      (hp : m.session.runtime_state.paused = true)
      (hr : m.session.paused_activity_timer_active = true) :
      Physical answers m ((m.update (answers l).clock).log (.active now))
  | throttled (i l now j k) (hi : (answers i).clock = some now)
      (hc : m.session.runtime_control.isSome)
      (hp : m.session.runtime_state.paused = true)
      (hr : m.session.paused_activity_timer_active = false) :
      Physical answers m
        (((m.update (answers l).clock).throttle now).change
          { activity_while_paused := some (m.session.detection_throttle_ms != 0) }
          (answers j).emit (answers k).clock)
  | held (i l now j k) (hi : (answers i).clock = some now)
      (hc : m.session.runtime_control.isSome)
      (hp : m.session.runtime_state.paused = false) :
      Physical answers m
        (((m.update (answers l).clock).hold now).change
          { activity_while_running := some (m.session.activity_timeout_ms != 0) }
          (answers j).emit (answers k).clock)

/-- Where a run has come to when it enters its first loop. -/
inductive Started (answers : Nat → Answer) (config : SessionConfig) : Moment → Prop
  | created :
      Started answers config ((Moment.mk (new_session config) []).put fun s =>
        { s with
          runtime_control := some ⟨false, false⟩
          activity_tracking_available := true })
  | refused (h : RefusedBy (answers 0) config.instance_name) :
      Started answers config ⟨new_session config, []⟩
  | failed (k) :
      Started answers config ((Moment.mk (new_session config) []).schedule (answers k).clock)

/-- No dispatch is going on. -/
def Moment.quiet (m : Moment) : Prop :=
  ∀ control ∈ m.session.runtime_control,
    control.dispatch_active = false ∧ control.disable_pending = false

/-- A call, a read, or the head of a loop or the start of a dispatch, outside a dispatch. -/
inductive Turn (answers : Nat → Answer) : Moment → Moment → Prop
  | call {m m'} (h : Call answers m m') : Turn answers m m'
  | looped {m} (hq : m.quiet) : Turn answers m (m.observe .loop_head)
  | dispatched {m} (hq : m.quiet) :
      Turn answers m
        ((m.put fun s =>
          { s with
            runtime_control :=
              s.runtime_control.map ({ · with dispatch_active := true }) }).observe .dispatch)
  /-- A read of the recovery, or one that gives no activity. -/
  | read {m m' a} (h : Reads a m m') (ha : recovering m.history = true ∨ ¬ a.eligible m.session) :
      Turn answers m m'
  | eligible {m m1 m' a} (h : Reads a m m1) (hr : recovering m.history = false)
      (ha : a.eligible m.session) (hp : Physical answers m1 m') : Turn answers m m'

/-- Paths of calls, and of turns. -/
abbrev Calls (answers : Nat → Answer) : Moment → Moment → Prop :=
  Relation.ReflTransGen (Call answers)

abbrev Turns (answers : Nat → Answer) : Moment → Moment → Prop :=
  Relation.ReflTransGen (Turn answers)

/-! ## Quiet -/

section quiet

variable {answers : Nat → Answer} {m m' : Moment}

theorem Moment.quiet.congr (h : m.quiet)
    (hc : m'.session.runtime_control = m.session.runtime_control) : m'.quiet := by
  unfold Moment.quiet
  rw [hc]
  exact h

theorem Moment.quiet_none (hc : m.session.runtime_control = none) : m.quiet := by
  unfold Moment.quiet
  rw [hc]
  simp

/-- The end of a dispatch leaves no mark. -/
theorem Moment.finish_quiet (m : Moment) :
    (m.put fun s =>
      { s with
        runtime_control :=
          (s.runtime_control.map ({ · with dispatch_active := false })).filter
            (!·.disable_pending) }).quiet := by
  intro control hc
  simp only [Moment.put_session, Option.mem_def, Option.filter_eq_some_iff, Option.map_eq_some_iff,
    Bool.not_eq_true'] at hc
  obtain ⟨⟨before, _, rfl⟩, hpending⟩ := hc
  exact ⟨rfl, hpending⟩

theorem Moment.quiet.update {clock : Option Timespec} (h : m.quiet) : (m.update clock).quiet :=
  Moment.quiet.congr h m.update_control

/-- Outside a dispatch a failed notification ends the control object at once. -/
theorem Moment.quiet.apply {changes : Changes} {ok : Bool} (h : m.quiet) :
    (m.apply changes ok).quiet := by
  unfold Moment.apply Moment.notify
  split
  · exact h
  · rename_i control hc
    have hd : control.dispatch_active = false := (h control (by simp [hc])).1
    simp only [hd, Bool.false_eq_true, if_false]
    split_ifs
    · exact h
    · exact h
    · exact Moment.quiet_none rfl

theorem Moment.quiet.change {changes : Changes} {ok : Bool} {clock : Option Timespec}
    (h : m.quiet) : (m.change changes ok clock).quiet :=
  h.apply.update

theorem Call.quiet (h : Call answers m m') (hq : m.quiet) : m'.quiet := by
  cases h with
  | outside ho => exact hq.congr (ho.field Session.runtime_control fun _ => rfl)
  | updated k => exact hq.update
  | available b j k => exact hq.change
  | @committed p j k hp =>
    have hcancel : (m.cancel p).quiet := hq.congr (by rw [Moment.cancel_session])
    exact hcancel.change
  | idle => exact hq
  | expired i now j k => exact Moment.quiet.change (hq.congr (m.tick_times now).control)
  | underivable => exact hq
  | refused => exact Moment.quiet_none rfl
  | not_recreated i now k =>
    refine Moment.quiet_none ?_
    unfold Moment.schedule
    split <;> rfl
  | recreated =>
    intro control hc
    obtain rfl : ⟨false, false⟩ = control := Option.some.inj hc
    exact ⟨rfl, rfl⟩
  | finished => exact m.finish_quiet
  | dropped => exact Moment.quiet_none rfl

theorem Physical.quiet (h : Physical answers m m') (hq : m.quiet) : m'.quiet := by
  cases h with
  | lost | unsampled => exact hq.update
  | suppressed i l now hi hc hp hr => exact Moment.quiet.update hq
  | throttled i l now j k =>
    exact Moment.quiet.change (hq.update.congr (Moment.throttle_times _ now).control)
  | held i l now j k =>
    exact Moment.quiet.change (hq.update.congr (Moment.hold_times _ now).control)

theorem Started.quiet {config : SessionConfig} (h : Started answers config m) : m.quiet := by
  cases h with
  | created =>
    intro control hc
    obtain rfl : ⟨false, false⟩ = control := Option.some.inj hc
    exact ⟨rfl, rfl⟩
  | refused => exact Moment.quiet_none rfl
  | failed k =>
    refine Moment.quiet_none ?_
    unfold Moment.schedule
    split <;> rfl

end quiet

/-! ## Calm -/

section calm

variable {answers : Nat → Answer} {m m' : Moment} {changes : Changes} {ok : Bool}
  {clock : Option Timespec}

/-- An entry that begins no recovery. -/
def Action.unread : Action → Prop
  | .read_failed _ => False
  | _ => True

/-- No dispatch is going on, and no recovery. -/
structure Moment.calm (m : Moment) : Prop where
  quiet : m.quiet
  settled : recovering m.history = false

/-- An entry of a change. -/
def Action.of_change : Action → Prop
  | .emitted _ _ _ | .retry_scheduled _ => True
  | .observed point _ => point = .step
  | _ => False

theorem Moment.schedule_adds : Adds Action.of_change m (m.schedule clock) := by
  unfold Moment.schedule
  cases clock with
  | none => exact Adds.refl.put
  | some now => exact Adds.refl.put.log trivial

theorem Moment.update_adds : Adds Action.of_change m (m.update clock) := by
  unfold Moment.update
  refine Adds.log ?_ rfl
  split_ifs
  · exact Adds.trans Adds.refl.put Moment.schedule_adds
  · exact Adds.refl
  · exact Adds.refl.put

theorem Moment.change_adds : Adds Action.of_change m (m.change changes ok clock) := by
  refine Adds.trans ((m.apply_adds changes ok).mono fun a ha => ?_) Moment.update_adds
  obtain ⟨state, ps, rfl⟩ := ha
  trivial

theorem Adds.unread (h : Adds Action.of_change m m') : Adds Action.unread m m' :=
  h.mono fun a ha => by cases a <;> trivial

theorem Times.unread (h : Times m m') : Adds Action.unread m m' :=
  h.adds.mono fun a ha => by cases a <;> trivial

theorem Call.unread (h : Call answers m m') : Adds Action.unread m m' := by
  cases h with
  | outside ho =>
    refine ho.adds.mono fun a ha => ?_
    cases a <;> trivial
  | updated k => exact Moment.update_adds.unread
  | available b j k => exact Moment.change_adds.unread
  | @committed p j k hp =>
    have hcancel : Adds Action.unread m (m.cancel p) := Adds.refl.put.log trivial
    exact hcancel.trans Moment.change_adds.unread
  | idle => exact Adds.refl.log trivial
  | expired i now j k => exact (m.tick_times now).unread.trans Moment.change_adds.unread
  | underivable => exact Adds.refl.put.log trivial
  | refused | recreated => exact (Adds.refl.log trivial).put.log trivial
  | not_recreated i now k =>
    have hlog : Adds Action.unread m (m.log (.recreating m.session now)) := Adds.refl.log trivial
    exact (Adds.trans hlog.put Moment.schedule_adds.unread).log trivial
  | finished | dropped => exact Adds.refl.put

theorem Physical.unread (h : Physical answers m m') : Adds Action.unread m m' := by
  cases h with
  | lost | unsampled => exact Moment.update_adds.unread
  | suppressed => exact Moment.update_adds.unread.log trivial
  | throttled i l now j k =>
    exact (Moment.update_adds.unread.trans (Moment.throttle_times _ now).unread).trans
      Moment.change_adds.unread
  | held i l now j k =>
    exact (Moment.update_adds.unread.trans (Moment.hold_times _ now).unread).trans
      Moment.change_adds.unread

theorem Adds.settled (h : Adds Action.unread m m') (hr : recovering m.history = false) :
    recovering m'.history = false := by
  obtain ⟨new, hnew, hall⟩ := h
  rw [hnew]
  refine recovering_append (fun a ha r heq => ?_) hr
  subst heq
  exact hall _ ha

theorem Call.calm (h : Call answers m m') (hm : m.calm) : m'.calm :=
  ⟨h.quiet hm.quiet, h.unread.settled hm.settled⟩

theorem Calls.settled (h : Calls answers m m') (hr : recovering m.history = false) :
    recovering m'.history = false :=
  invariant_of_step (fun m => recovering m.history = false)
    (fun _ _ hr h => h.unread.settled hr) hr h

theorem Calls.calm (h : Calls answers m m') (hm : m.calm) : m'.calm :=
  invariant_of_step Moment.calm (fun _ _ hm h => h.calm hm) hm h

theorem Started.calm {config : SessionConfig} (h : Started answers config m) : m.calm := by
  refine ⟨h.quiet, ?_⟩
  cases h with
  | created | refused => rfl
  | failed k =>
    have hnew : Adds Action.unread (Moment.mk (new_session config) [])
        ((Moment.mk (new_session config) []).schedule (answers k).clock) :=
      Moment.schedule_adds.unread
    exact hnew.settled rfl

end calm

end input_proxy
