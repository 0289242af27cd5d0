-- The activity timers of a session are one-shot timers. While one control
-- object lives and the pause state stays, the timer of the mode has the
-- deadline that the events and the ticks of this period give.
import InputProxy.EligibleReads
import InputProxy.OneShotTimers
import InputProxy.ActivityModes
import Mathlib.Algebra.Order.Group.Int

open programs Program

namespace input_proxy

/-! ## Periods -/

/-- The events and ticks of the period, the newest first. A period begins with a committed
pause state, or after the control object was seen to be missing. -/
def samples : List Action → List (Sample Int)
  | [] => []
  | .committed _ :: _ => []
  | .observed _ s :: past => if s.runtime_control.isNone then [] else samples past
  | .active now :: past => .event now.ns :: samples past
  | .ticked now :: past => .tick now.ns :: samples past
  | _ :: past => samples past

/-- The times at which the throttle was started in the period, the latest first. -/
def throttle_starts : List Action → List Int
  | [] => []
  | .committed _ :: _ => []
  | .observed _ s :: past => if s.runtime_control.isNone then [] else throttle_starts past
  | .timer_set .paused now :: past => now.ns :: throttle_starts past
  | _ :: past => throttle_starts past

def mode_of (paused : Bool) : Mode := if paused then .paused else .running

/-- The hold interval restarts at every event, the throttle does not. -/
def SessionConfig.timer (config : SessionConfig) : Mode → Timer Int
  | .running => ⟨milliseconds config.activity_timeout_ms, true⟩
  | .paused => ⟨milliseconds config.detection_throttle_ms, false⟩

def Session.deadline (s : Session) : Mode → Timespec
  | .running => s.running_activity_deadline
  | .paused => s.paused_activity_deadline

/-- The deadline of a mode, while its timer runs. -/
def Session.timer (s : Session) (mode : Mode) : Option Int :=
  if s.timer_active mode then some (s.deadline mode).ns else none

/-- The timer of the pause state is the one that the period gives, and the throttle was
started by the events that start it. -/
structure Timed (config : SessionConfig) (s : Session) (past : List Action) : Prop where
  timer : s.timer (mode_of s.runtime_state.paused) =
    (config.timer (mode_of s.runtime_state.paused)).run (samples past)
  starts : s.runtime_state.paused = true → config.detection_throttle_ms ≠ 0 →
    throttle_starts past = (config.timer .paused).fired (samples past)

/-- What an observation with a control object says about the timers. -/
def TimedEntry (config : SessionConfig) (a : Action) (past : List Action) : Prop :=
  match a with
  | .observed _ s => s.runtime_control.isSome →
    s.runtime_state.paused = paused_last config past ∧ Timed config s past
  | _ => True

/-! ## The invariant -/

/-- Nothing is timed. -/
structure Moment.idle (m : Moment) : Prop where
  samples : samples m.history = []
  starts : throttle_starts m.history = []
  timers : ∀ mode, m.session.timer_active mode = false

structure TimerInvariant (config : SessionConfig) (m : Moment) : Prop where
  settings : m.session.settings = (new_session config).settings
  paused : m.session.runtime_state.paused = paused_last config m.history
  live : m.session.runtime_control.isSome → m.session.activity_tracking_available = true
  retry : m.session.runtime_control_retry_active = true →
    m.session.activity_tracking_available = false
  untracked : m.session.activity_tracking_available = false → m.idle
  normal : ∀ mode, m.session.timer_active mode = true → (m.session.deadline mode).Normal
  other : ∀ mode, mode ≠ mode_of m.session.runtime_state.paused →
    m.session.timer_active mode = false
  timed : m.session.runtime_control.isSome → Timed config m.session m.history
  lawful : Always (TimedEntry config) m.history

section invariant

variable {config : SessionConfig} {m m' : Moment}

theorem Session.timer_inactive {s : Session} {mode : Mode} (h : s.timer_active mode = false) :
    s.timer mode = none := if_neg (by simp [h])

/-- Where nothing is timed, every period is as it should be. -/
theorem Moment.idle.timed (h : m.idle) : Timed config m.session m.history := by
  obtain ⟨hsamples, hstarts, htimers⟩ := h
  constructor
  · rw [hsamples, Session.timer_inactive (htimers _)]
    rfl
  · intro _ _
    rw [hsamples, hstarts]
    rfl

/-- An entry that times nothing. -/
def Action.untimed_entry : Action → Prop
  | .committed _ | .observed _ _ | .active _ | .ticked _ | .timer_set _ _ => False
  | _ => True

theorem untimed_append {new past : List Action} (h : ∀ a ∈ new, a.untimed_entry) :
    samples (new ++ past) = samples past ∧ throttle_starts (new ++ past) = throttle_starts past ∧
      paused_last config (new ++ past) = paused_last config past := by
  induction new with
  | nil => exact ⟨rfl, rfl, rfl⟩
  | cons a new ih =>
    obtain ⟨ha, hnew⟩ := List.forall_mem_cons.mp h
    obtain ⟨h1, h2, h3⟩ := ih hnew
    cases a with
    | committed | observed | active | ticked | timer_set => exact ha.elim
    | _ => exact ⟨h1, h2, h3⟩

/-- The fields that the timers are about. -/
structure SameTimers (s s' : Session) : Prop where
  settings : s'.settings = s.settings
  paused : s'.runtime_state.paused = s.runtime_state.paused
  active : ∀ mode, s'.timer_active mode = s.timer_active mode
  deadline : ∀ mode, s'.deadline mode = s.deadline mode

/-- The control object and its retry are not about the timers. -/
theorem SameTimers.control (s : Session) (control : Option RuntimeControl)
    (tracking retry : Bool) (deadline : Timespec) :
    SameTimers s
      { s with
        runtime_control := control
        activity_tracking_available := tracking
        runtime_control_retry_active := retry
        runtime_control_retry_deadline := deadline } :=
  ⟨rfl, rfl, fun mode => by cases mode <;> rfl, fun mode => by cases mode <;> rfl⟩

theorem SameTimers.timer {s s' : Session} (h : SameTimers s s') (mode : Mode) :
    s'.timer mode = s.timer mode := by
  unfold Session.timer
  rw [h.active, h.deadline]

theorem SameTimers.timed {s s' : Session} (h : SameTimers s s') {past : List Action}
    (ht : Timed config s past) : Timed config s' past := by
  constructor
  · rw [h.timer, h.paused]
    exact ht.timer
  · rw [h.paused]
    exact ht.starts

/-- Entries that time nothing, with the timers as they were. -/
theorem TimerInvariant.keep (h : TimerInvariant config m)
    (hadds : Adds Action.untimed_entry m m') (hs : SameTimers m.session m'.session)
    (hc : m'.session.runtime_control.isSome → m.session.runtime_control.isSome)
    (ht : m'.session.activity_tracking_available = m.session.activity_tracking_available)
    (hr : m'.session.runtime_control_retry_active = true →
      m.session.runtime_control_retry_active = true) :
    TimerInvariant config m' := by
  obtain ⟨new, hnew, hall⟩ := hadds
  obtain ⟨hsamples, hstarts, hpaused⟩ := @untimed_append config new m.history hall
  rw [← hnew] at hsamples hstarts hpaused
  refine ⟨hs.settings.trans h.settings, ?_, fun hsome => ?_, fun hretry => ?_, fun hfalse => ?_,
    fun mode hmode => ?_, fun mode hmode => ?_, fun hsome => ?_, ?_⟩
  · rw [hs.paused, h.paused, hpaused]
  · rw [ht]
    exact h.live (hc hsome)
  · rw [ht]
    exact h.retry (hr hretry)
  · rw [ht] at hfalse
    obtain ⟨h1, h2, h3⟩ := h.untracked hfalse
    exact ⟨hsamples.trans h1, hstarts.trans h2, fun mode => (hs.active mode).trans (h3 mode)⟩
  · rw [hs.deadline]
    exact h.normal mode ((hs.active mode).symm.trans hmode)
  · rw [hs.active]
    exact h.other mode (hs.paused ▸ hmode)
  · have htimed := hs.timed (h.timed (hc hsome))
    exact ⟨by rw [hsamples]; exact htimed.timer, by rw [hsamples, hstarts]; exact htimed.starts⟩
  · rw [hnew]
    refine always_append h.lawful fun l a r heq => ?_
    have ha := hall a (by rw [heq]; simp)
    cases a with
    | observed => exact ha.elim
    | _ => trivial

/-- The session is observed. Without a control object the period ends. -/
theorem TimerInvariant.observe (h : TimerInvariant config m) (point : Point) :
    TimerInvariant config (m.observe point) := by
  have hlawful : Always (TimedEntry config) (m.observe point).history :=
    ⟨fun hsome => ⟨h.paused, h.timed hsome⟩, h.lawful⟩
  cases hc : m.session.runtime_control with
  | none =>
    have hsamples : samples (m.observe point).history = [] := by
      simp [Moment.observe, samples, hc]
    have hstarts : throttle_starts (m.observe point).history = [] := by
      simp [Moment.observe, throttle_starts, hc]
    refine ⟨h.settings, h.paused, h.live, h.retry, fun hfalse => ?_, h.normal, h.other,
      fun hsome => ?_, hlawful⟩
    · exact ⟨hsamples, hstarts, (h.untracked hfalse).timers⟩
    · have hsome : m.session.runtime_control.isSome = true := hsome
      simp [hc] at hsome
  | some control =>
    have hsamples : samples (m.observe point).history = samples m.history := by
      simp [Moment.observe, samples, hc]
    have hstarts : throttle_starts (m.observe point).history = throttle_starts m.history := by
      simp [Moment.observe, throttle_starts, hc]
    refine ⟨h.settings, h.paused, h.live, h.retry, fun hfalse => ?_, h.normal, h.other,
      fun hsome => ?_, hlawful⟩
    · obtain ⟨h1, h2, h3⟩ := h.untracked hfalse
      exact ⟨hsamples.trans h1, hstarts.trans h2, h3⟩
    · have htimed := h.timed hsome
      exact ⟨hsamples ▸ htimed.timer, hsamples ▸ hstarts ▸ htimed.starts⟩

/-! ## Changes -/

/-- A discarded tracking times nothing, once the missing control object was observed. -/
theorem TimerInvariant.missing (h : TimerInvariant config m)
    (hc : m.session.runtime_control = none)
    {retry : Bool} {deadline : Timespec} {history : List Action}
    (hpaused : paused_last config history = paused_last config m.history)
    (hlawful : Always (TimedEntry config) history) :
    TimerInvariant config (Moment.observe ⟨{ m.discard.session with
      runtime_control_retry_active := retry, runtime_control_retry_deadline := deadline },
        history⟩ .step) := by
  have hnone : ¬ m.session.runtime_control.isSome := by simp [hc]
  have htimers : ∀ mode, m.discard.session.timer_active mode = false := fun mode => by
    cases mode <;> rfl
  refine ⟨h.settings, h.paused.trans hpaused.symm, fun hsome => absurd hsome hnone, fun _ => rfl,
    fun _ => ⟨?_, ?_, htimers⟩, fun mode hmode => ?_, fun mode _ => htimers mode,
    fun hsome => absurd hsome hnone, fun hsome => absurd hsome hnone, hlawful⟩
  · simp [Moment.observe, samples, Moment.discard, hc]
  · simp [Moment.observe, throttle_starts, Moment.discard, hc]
  · exact absurd ((htimers mode).symm.trans hmode) (by decide)

theorem TimerInvariant.update (h : TimerInvariant config m) (clock : Option Timespec) :
    TimerInvariant config (m.update clock) := by
  cases hc : m.session.runtime_control with
  | some control =>
    have hsome : m.session.runtime_control.isSome := by simp [hc]
    rw [Moment.update_live hsome]
    have htracked : m.session.activity_tracking_available = true := h.live hsome
    have hput : TimerInvariant config (m.put fun s =>
        { s with activity_tracking_available := true }) :=
      h.keep Adds.refl.put (SameTimers.control _ _ _ _ _) (fun hc => hc) htracked.symm
        fun hr => hr
    exact hput.observe .step
  | none =>
    have hnone : m.session.runtime_control.isNone := by simp [hc]
    cases ht : m.session.activity_tracking_available with
    | false =>
      rw [Moment.update_gone hnone ht]
      exact h.observe .step
    | true =>
      rw [Moment.update_lost hnone ht]
      cases clock with
      | none => exact h.missing hc rfl h.lawful
      | some now => exact h.missing hc rfl ⟨trivial, h.lawful⟩

/-- A commit, with its notification, in a pause state that the timers fit. -/
theorem TimerInvariant.apply (h : TimerInvariant config m) {changes : Changes}
    (hpaused : changes.paused = none) (ok : Bool) : TimerInvariant config (m.apply changes ok) := by
  have hs := m.apply_session changes ok
  refine h.keep ((m.apply_adds changes ok).mono fun a ha => ?_) ?_ Moment.apply_control
    (by rw [hs]) (by rw [hs]; exact fun hr => hr)
  · obtain ⟨state, ps, rfl⟩ := ha
    trivial
  · rw [hs]
    refine ⟨rfl, ?_, fun mode => by cases mode <;> rfl, fun mode => by cases mode <;> rfl⟩
    simp [RuntimeControlState.commit, commit_boolean, hpaused]

theorem TimerInvariant.change (h : TimerInvariant config m) {changes : Changes}
    (hpaused : changes.paused = none) (ok : Bool) (clock : Option Timespec) :
    TimerInvariant config (m.change changes ok clock) :=
  (h.apply hpaused ok).update clock

/-- A transition starts a period: the timer of the one mode is stopped, and that of the other
did not run. -/
theorem TimerInvariant.committed (h : TimerInvariant config m) {p : Bool}
    (hp : m.session.runtime_state.paused ≠ p) {changes : Changes}
    (hpaused : changes.paused = some p) (ok : Bool) (clock : Option Timespec) :
    TimerInvariant config ((m.cancel p).change changes ok clock) := by
  have hcancel := m.cancel_session p
  have hs := (m.cancel p).apply_session changes ok
  obtain ⟨new, hnew, hall⟩ := (m.cancel p).apply_adds changes ok
  have hentries : ∀ a ∈ new, a.untimed_entry := by
    intro a ha
    obtain ⟨state, ps, rfl⟩ := hall a ha
    trivial
  obtain ⟨hsamples, hstarts, hlast⟩ :=
    @untimed_append config new (m.cancel p).history hentries
  rw [← hnew, Moment.cancel_history] at hsamples hstarts hlast
  have htimers : ∀ mode, ((m.cancel p).apply changes ok).session.timer_active mode = false := by
    have hold : ∀ mode, mode ≠ mode_of m.session.runtime_state.paused →
        m.session.timer_active mode = false := h.other
    intro mode
    rw [hs, hcancel]
    cases mode with
    | running =>
      cases p with
      | true => rfl
      | false =>
        have hwas : m.session.runtime_state.paused = true := by simpa using hp
        exact hold .running (by simp [hwas, mode_of])
    | paused =>
      cases p with
      | false => rfl
      | true =>
        have hwas : m.session.runtime_state.paused = false := by simpa using hp
        exact hold .paused (by simp [hwas, mode_of])
  have hidle : ((m.cancel p).apply changes ok).idle := ⟨hsamples, hstarts, htimers⟩
  have happly : TimerInvariant config ((m.cancel p).apply changes ok) := by
    refine ⟨?_, ?_, fun hsome => ?_, ?_, fun _ => hidle, fun mode hmode => ?_,
      fun mode _ => htimers mode, fun _ => hidle.timed, ?_⟩
    · rw [hs, hcancel]
      exact h.settings
    · rw [hlast, hs]
      simp [RuntimeControlState.commit, commit_boolean, hpaused, paused_last]
    · have hlive := Moment.apply_control hsome
      rw [hcancel] at hlive
      rw [hs, hcancel]
      exact h.live hlive
    · rw [hs, hcancel]
      exact h.retry
    · exact absurd ((htimers mode).symm.trans hmode) (by decide)
    · rw [hnew, Moment.cancel_history]
      refine always_append ⟨trivial, h.lawful⟩ fun l a r heq => ?_
      have ha := hentries a (by rw [heq]; simp)
      cases a with
      | observed => exact ha.elim
      | _ => trivial
  exact happly.update clock

/-! ## Events and ticks -/

/-- Only the timers change, while there is a control object. -/
theorem TimerInvariant.retime (h : TimerInvariant config m)
    (hc : m.session.runtime_control.isSome) (ht : Times m m')
    (hlast : paused_last config m'.history = paused_last config m.history)
    (hlawful : Always (TimedEntry config) m'.history)
    (hnormal : ∀ mode, m'.session.timer_active mode = true → (m'.session.deadline mode).Normal)
    (hother : ∀ mode, mode ≠ mode_of m.session.runtime_state.paused →
      m'.session.timer_active mode = false)
    (htimed : Timed config m'.session m'.history) : TimerInvariant config m' := by
  have htracked := h.live hc
  have hstate := ht.runtime_state
  have htracking := ht.tracking
  obtain ⟨⟨_, _, _, _, hs⟩, _⟩ := ht
  refine ⟨?_, ?_, fun _ => htracking.trans htracked, fun hretry => ?_, fun hfalse => ?_, hnormal,
    ?_, fun _ => htimed, hlawful⟩
  · rw [hs]
    exact h.settings
  · rw [hstate, hlast]
    exact h.paused
  · rw [hs] at hretry
    rw [htracking]
    exact h.retry hretry
  · rw [htracking, htracked] at hfalse
    cases hfalse
  · rw [hstate]
    exact hother

/-- The durations are those of the configuration. -/
theorem TimerInvariant.durations (h : TimerInvariant config m) :
    m.session.activity_timeout_ms = config.activity_timeout_ms ∧
      m.session.detection_throttle_ms = config.detection_throttle_ms := by
  have hsettings := h.settings
  simp only [Session.settings, new_session, Prod.mk.injEq] at hsettings
  exact ⟨hsettings.1, hsettings.2.1⟩

theorem milliseconds_eq_zero {n : Nat} : milliseconds n = 0 ↔ n = 0 := by
  unfold milliseconds
  omega

theorem milliseconds_nonneg (n : Nat) : 0 ≤ milliseconds n := by
  unfold milliseconds
  omega

/-- An event inside the throttle interval changes nothing. -/
theorem TimerInvariant.suppress (h : TimerInvariant config m) (now : Timespec)
    (hc : m.session.runtime_control.isSome) (hp : m.session.runtime_state.paused = true)
    (hr : m.session.paused_activity_timer_active = true) :
    TimerInvariant config (m.log (.active now)) := by
  have htimed := h.timed hc
  have hmode : mode_of m.session.runtime_state.paused = .paused := by rw [hp]; rfl
  have htimer := htimed.timer
  have hrunning : m.session.timer .paused = some m.session.paused_activity_deadline.ns :=
    if_pos hr
  rw [hmode, hrunning] at htimer
  have hstep : (config.timer .paused).run (samples (m.log (.active now)).history) =
      some m.session.paused_activity_deadline.ns := by
    change (config.timer .paused).step ((config.timer .paused).run (samples m.history))
      (.event now.ns) = _
    rw [← htimer]
    rfl
  refine h.retime hc (.log trivial) rfl ⟨trivial, h.lawful⟩ h.normal h.other ⟨?_, fun hp' hd => ?_⟩
  · rw [Moment.log_session, hmode, hrunning, hstep]
  · refine (htimed.starts hp' hd).trans ?_
    simp [samples, Timer.fired, ← htimer]

/-- An event outside starts the throttle. -/
theorem TimerInvariant.throttle (h : TimerInvariant config m) {now : Timespec} (hn : now.Normal)
    (hd : config.detection_throttle_ms ≤ 4294967295)
    (hc : m.session.runtime_control.isSome) (hp : m.session.runtime_state.paused = true)
    (hr : m.session.paused_activity_timer_active = false) :
    TimerInvariant config (m.throttle now) := by
  have htimed := h.timed hc
  have hmode : mode_of m.session.runtime_state.paused = .paused := by rw [hp]; rfl
  have hother : m.session.running_activity_timer_active = false :=
    h.other .running (by rw [hmode]; decide)
  have htimer := htimed.timer
  rw [hmode, @Session.timer_inactive _ .paused hr] at htimer
  have hstep : (config.timer .paused).run (.event now.ns :: samples m.history) =
      (config.timer .paused).start now.ns := by
    simp [Timer.run, ← htimer, Timer.step]
  have hduration := h.durations.2
  by_cases hzero : m.session.detection_throttle_ms = 0
  · have hconfig : config.detection_throttle_ms = 0 := hduration ▸ hzero
    have hstart : (config.timer .paused).start now.ns = none :=
      if_pos (milliseconds_eq_zero.mpr hconfig)
    have htimes := m.throttle_times now
    rw [Moment.throttle_zero hzero] at htimes ⊢
    refine h.retime hc htimes rfl ⟨trivial, h.lawful⟩ (fun mode hmode => ?_) (fun mode _ => ?_)
      ⟨?_, fun _ hd => absurd hconfig hd⟩
    · cases mode with
      | running => exact absurd (hother.symm.trans hmode) (by decide)
      | paused => cases hmode
    · cases mode with
      | running => exact hother
      | paused => rfl
    · change Session.timer _ (mode_of m.session.runtime_state.paused) = (config.timer
        (mode_of m.session.runtime_state.paused)).run (.event now.ns :: samples m.history)
      rw [hmode, hstep, hstart]
      rfl
  · have hconfig : config.detection_throttle_ms ≠ 0 := hduration ▸ hzero
    obtain ⟨hnormal, hns⟩ := set_deadline_spec hn (hduration.symm ▸ hd)
    have hstart : (config.timer .paused).start now.ns =
        some (set_deadline now m.session.detection_throttle_ms).ns := by
      rw [hns, hduration]
      exact if_neg fun hz => hconfig (milliseconds_eq_zero.mp hz)
    have htimes := m.throttle_times now
    rw [Moment.throttle_set hzero] at htimes ⊢
    refine h.retime hc htimes rfl ⟨trivial, trivial, h.lawful⟩ (fun mode hmode => ?_)
      (fun mode hne => ?_) ⟨?_, fun _ hd => ?_⟩
    · cases mode with
      | running => exact absurd (hother.symm.trans hmode) (by decide)
      | paused => exact hnormal
    · cases mode with
      | running => exact hother
      | paused => exact absurd hmode.symm hne
    · change Session.timer _ (mode_of m.session.runtime_state.paused) = (config.timer
        (mode_of m.session.runtime_state.paused)).run (.event now.ns :: samples m.history)
      rw [hmode, hstep, hstart]
      rfl
    · change now.ns :: throttle_starts m.history =
        (config.timer .paused).fired (.event now.ns :: samples m.history)
      rw [htimed.starts hp hd]
      simp [Timer.fired, ← htimer]

/-- An event while unpaused restarts the hold interval. -/
theorem TimerInvariant.hold (h : TimerInvariant config m) {now : Timespec} (hn : now.Normal)
    (hd : config.activity_timeout_ms ≤ 4294967295)
    (hc : m.session.runtime_control.isSome) (hp : m.session.runtime_state.paused = false) :
    TimerInvariant config (m.hold now) := by
  have hmode : mode_of m.session.runtime_state.paused = .running := by rw [hp]; rfl
  have hother : m.session.paused_activity_timer_active = false :=
    h.other .paused (by rw [hmode]; decide)
  have hstep : (config.timer .running).run (.event now.ns :: samples m.history) =
      (config.timer .running).start now.ns := Timer.step_restart rfl
  have hunpaused : ∀ {P : Prop}, m.session.runtime_state.paused = true → P := fun hp' =>
    absurd (hp.symm.trans hp') (by decide)
  have hduration := h.durations.1
  by_cases hzero : m.session.activity_timeout_ms = 0
  · have hconfig : config.activity_timeout_ms = 0 := hduration ▸ hzero
    have hstart : (config.timer .running).start now.ns = none :=
      if_pos (milliseconds_eq_zero.mpr hconfig)
    have htimes := m.hold_times now
    rw [Moment.hold_zero hzero] at htimes ⊢
    refine h.retime hc htimes rfl ⟨trivial, h.lawful⟩ (fun mode hmode => ?_) (fun mode _ => ?_)
      ⟨?_, fun hp' _ => hunpaused hp'⟩
    · cases mode with
      | running => cases hmode
      | paused => exact absurd (hother.symm.trans hmode) (by decide)
    · cases mode with
      | running => rfl
      | paused => exact hother
    · change Session.timer _ (mode_of m.session.runtime_state.paused) = (config.timer
        (mode_of m.session.runtime_state.paused)).run (.event now.ns :: samples m.history)
      rw [hmode, hstep, hstart]
      rfl
  · have hconfig : config.activity_timeout_ms ≠ 0 := hduration ▸ hzero
    obtain ⟨hnormal, hns⟩ := set_deadline_spec hn (hduration.symm ▸ hd)
    have hstart : (config.timer .running).start now.ns =
        some (set_deadline now m.session.activity_timeout_ms).ns := by
      rw [hns, hduration]
      exact if_neg fun hz => hconfig (milliseconds_eq_zero.mp hz)
    have htimes := m.hold_times now
    rw [Moment.hold_set hzero] at htimes ⊢
    refine h.retime hc htimes rfl ⟨trivial, trivial, h.lawful⟩ (fun mode hmode => ?_)
      (fun mode hne => ?_) ⟨?_, fun hp' _ => hunpaused hp'⟩
    · cases mode with
      | running => exact hnormal
      | paused => exact absurd (hother.symm.trans hmode) (by decide)
    · cases mode with
      | running => exact absurd hmode.symm hne
      | paused => exact hother
    · change Session.timer _ (mode_of m.session.runtime_state.paused) = (config.timer
        (mode_of m.session.runtime_state.paused)).run (.event now.ns :: samples m.history)
      rw [hmode, hstep, hstart]
      rfl

/-- Without a timer that is due, a tick is only recorded. -/
theorem Moment.tick_idle {now : Timespec} (h : ∀ mode, m.due now mode = false) :
    m.tick now = m.log (.ticked now) := by
  unfold Moment.tick
  rw [h .running, h .paused]
  rfl

theorem Moment.tick_timer_active (m : Moment) (now : Timespec) (mode : Mode) :
    (m.tick now).session.timer_active mode =
      (m.session.timer_active mode && !m.due now mode) := by
  unfold Moment.tick
  have hrunning : m.due now .running = true → m.session.running_activity_timer_active = true :=
    fun h => (Bool.and_eq_true_iff.mp h).1
  have hpaused : m.due now .paused = true → m.session.paused_activity_timer_active = true :=
    fun h => (Bool.and_eq_true_iff.mp h).1
  cases hr : m.due now .running <;> cases hp : m.due now .paused <;> cases mode <;>
    simp [Moment.expire, Session.timer_active, hr, hp]

theorem Moment.tick_history (m : Moment) (now : Timespec) :
    samples (m.tick now).history = .tick now.ns :: samples m.history ∧
      throttle_starts (m.tick now).history = throttle_starts m.history ∧
      paused_last config (m.tick now).history = paused_last config m.history ∧
      (Always (TimedEntry config) m.history → Always (TimedEntry config) (m.tick now).history) := by
  unfold Moment.tick
  cases m.due now .running <;> cases m.due now .paused
  · exact ⟨rfl, rfl, rfl, fun h => ⟨trivial, h⟩⟩
  · exact ⟨rfl, rfl, rfl, fun h => ⟨trivial, trivial, h⟩⟩
  · exact ⟨rfl, rfl, rfl, fun h => ⟨trivial, trivial, h⟩⟩
  · exact ⟨rfl, rfl, rfl, fun h => ⟨trivial, trivial, trivial, h⟩⟩

theorem Moment.due_eq (m : Moment) (now : Timespec) (mode : Mode) :
    m.due now mode =
      (m.session.timer_active mode && deadline_expired (m.session.deadline mode) now) := by
  cases mode <;> rfl

/-- A tick stops the timer whose deadline has passed. -/
theorem TimerInvariant.tick_timer (h : TimerInvariant config m) {now : Timespec} (hn : now.Normal)
    (mode : Mode) : (m.tick now).session.timer mode =
      (m.session.timer mode).filter (now.ns < ·) := by
  have hdeadline : (m.tick now).session.deadline mode = m.session.deadline mode := by
    unfold Moment.tick
    cases m.due now .running <;> cases m.due now .paused <;> cases mode <;> rfl
  unfold Session.timer
  rw [Moment.tick_timer_active, hdeadline, Moment.due_eq]
  cases hactive : m.session.timer_active mode with
  | false => rfl
  | true =>
    have hexpired := deadline_expired_iff_ns (h.normal mode hactive) hn
    cases he : deadline_expired (m.session.deadline mode) now with
    | true =>
      have hle := hexpired.mp he
      simp [Option.filter, not_lt.mpr hle]
    | false =>
      have hlt : now.ns < (m.session.deadline mode).ns := by
        rw [← not_le, ← hexpired, he]
        decide
      simp [Option.filter, hlt]

theorem TimerInvariant.tick (h : TimerInvariant config m) {now : Timespec} (hn : now.Normal)
    (hc : m.session.runtime_control.isSome) : TimerInvariant config (m.tick now) := by
  have htimed := h.timed hc
  have htimes := m.tick_times now
  obtain ⟨hsamples, hstarts, hlast, hlawful⟩ := @Moment.tick_history config m now
  have hactive : ∀ mode, m.session.timer_active mode = false →
      (m.tick now).session.timer_active mode = false := by
    intro mode hfalse
    rw [Moment.tick_timer_active, hfalse]
    rfl
  have hdeadline : ∀ mode, (m.tick now).session.deadline mode = m.session.deadline mode := by
    intro mode
    unfold Moment.tick
    cases m.due now .running <;> cases m.due now .paused <;> cases mode <;> rfl
  refine h.retime hc htimes hlast (hlawful h.lawful) (fun mode hmode => ?_)
    (fun mode hne => hactive mode (h.other mode hne)) ⟨?_, fun hp hd => ?_⟩
  · rw [hdeadline]
    refine h.normal mode ?_
    rw [Moment.tick_timer_active, Bool.and_eq_true] at hmode
    exact hmode.1
  · rw [hsamples, htimes.runtime_state, h.tick_timer hn, htimed.timer]
    rfl
  · rw [hstarts, hsamples]
    exact htimed.starts (htimes.runtime_state ▸ hp) hd

end invariant

/-! ## Every turn -/

/-- The durations that the command line admits. -/
def SessionConfig.durations_fit (config : SessionConfig) : Prop :=
  config.activity_timeout_ms ≤ 4294967295 ∧ config.detection_throttle_ms ≤ 4294967295

section turns

variable {config : SessionConfig} {answers : Nat → Answer} {m m' : Moment}

theorem TimerInvariant.aside (h : TimerInvariant config m) (hm : Beside Action.besides m m') :
    TimerInvariant config m' := by
  have hc := hm.field Session.runtime_control fun _ => rfl
  have hr := hm.field Session.runtime_control_retry_active fun _ => rfl
  have hs : SameTimers m.session m'.session :=
    ⟨hm.field Session.settings fun _ => rfl, hm.field (·.runtime_state.paused) fun _ => rfl,
      fun mode => hm.field (·.timer_active mode) fun _ => by cases mode <;> rfl,
      fun mode => hm.field (·.deadline mode) fun _ => by cases mode <;> rfl⟩
  refine h.keep (hm.adds.mono fun a ha => ?_) hs (by rw [hc]; exact fun hc => hc)
    (hm.field Session.activity_tracking_available fun _ => rfl) (by rw [hr]; exact fun hr => hr)
  rcases ha with ha | ⟨_, ha⟩ <;> cases a <;> trivial

/-- A new control object begins a period without a timer. -/
theorem TimerInvariant.recreated (h : TimerInvariant config m)
    (hr : m.session.runtime_control_retry_active = true) (control : RuntimeControl) :
    TimerInvariant config (m.put fun s =>
      { s with
        runtime_control := some control
        runtime_control_retry_active := false
        activity_tracking_available := true }) := by
  have hidle := h.untracked (h.retry hr)
  refine ⟨h.settings, h.paused, fun _ => rfl, fun hretry => (nomatch hretry),
    fun ht => (nomatch ht), h.normal, h.other, fun _ => ?_, h.lawful⟩
  exact Moment.idle.timed (m := m.put _) ⟨hidle.samples, hidle.starts, hidle.timers⟩

theorem timer_call (hn : NormalClock answers) (h : TimerInvariant config m)
    (hcall : Call answers m m') : TimerInvariant config m' := by
  have hsame := SameTimers.control
  cases hcall with
  | outside ho => exact h.aside ho.aside
  | updated k => exact h.update _
  | available b j k => exact h.change rfl _ _
  | committed j k hp => exact h.committed hp rfl _ _
  | idle i now hi ht hc hd =>
    rw [← Moment.tick_idle hd]
    exact h.tick (hn i now hi) hc
  | expired i now j k hi ht hc hd => exact (h.tick (hn i now hi) hc).change rfl _ _
  | underivable i now k hi hr hd hk =>
    have hput : TimerInvariant config (m.put fun s =>
        { s with runtime_control_retry_active := false }) :=
      h.keep Adds.refl.put (hsame _ _ _ _ _) (fun hc => hc) rfl fun hr => (nomatch hr)
    exact hput.observe .step
  | refused i now k hi hr hd hk =>
    have hput : TimerInvariant config ((m.log (.recreating m.session now)).put fun s =>
        { s with runtime_control := none, runtime_control_retry_active := false }) :=
      h.keep (Adds.refl.log trivial).put (hsame _ _ _ _ _) (fun hc => (nomatch hc)) rfl
        fun hr => (nomatch hr)
    exact hput.observe .step
  | not_recreated i now k hi hr hd =>
    have hlost : TimerInvariant config ((m.log (.recreating m.session now)).put fun s =>
        { s with runtime_control := none }) :=
      h.keep (Adds.refl.log trivial).put (hsame _ _ _ _ _) (fun hc => (nomatch hc)) rfl fun hr => hr
    refine TimerInvariant.observe ?_ .step
    unfold Moment.schedule
    cases (answers k).clock with
    | none =>
      exact hlost.keep Adds.refl.put (hsame _ _ _ _ _) (fun hc => hc) rfl fun hr => (nomatch hr)
    | some time =>
      exact hlost.keep (Adds.refl.put.log trivial) (hsame _ _ _ _ _) (fun hc => hc) rfl fun _ => hr
  | recreated i now hi hr hd =>
    have hlog : TimerInvariant config (m.log (.recreating m.session now)) :=
      h.keep (Adds.refl.log trivial) (hsame _ _ _ _ _) (fun hc => hc) rfl fun hr => hr
    exact (hlog.recreated hr ⟨false, false⟩).observe .step
  | finished =>
    refine h.keep Adds.refl.put (hsame _ _ _ _ _) (fun hsome => ?_) rfl fun hr => hr
    cases hc : m.session.runtime_control with
    | none => simp [hc] at hsome
    | some control => rfl
  | dropped =>
    exact h.keep Adds.refl.put (hsame _ _ _ _ _) (fun hc => (nomatch hc)) rfl fun hr => hr

theorem timer_physical (hn : NormalClock answers) (hfit : config.durations_fit)
    (h : TimerInvariant config m) (hp : Physical answers m m') : TimerInvariant config m' := by
  cases hp with
  | lost | unsampled => exact h.update _
  | suppressed i l now hi hc hp hr =>
    have hupdate := h.update (answers l).clock
    rw [Moment.update_live hc] at hupdate ⊢
    exact hupdate.suppress now hc hp hr
  | throttled i l now j k hi hc hp hr =>
    have hupdate := h.update (answers l).clock
    rw [Moment.update_live hc] at hupdate ⊢
    exact (hupdate.throttle (hn i now hi) hfit.2 hc hp hr).change rfl _ _
  | held i l now j k hi hc hp =>
    have hupdate := h.update (answers l).clock
    rw [Moment.update_live hc] at hupdate ⊢
    exact (hupdate.hold (hn i now hi) hfit.1 hc hp).change rfl _ _

theorem timer_turn (hn : NormalClock answers) (hfit : config.durations_fit)
    (h : TimerInvariant config m) (ht : Turn answers m m') : TimerInvariant config m' := by
  cases ht with
  | call hc => exact timer_call hn h hc
  | looped hq => exact h.observe .loop_head
  | dispatched hq =>
    have hput : TimerInvariant config (m.put fun s =>
        { s with
          runtime_control := s.runtime_control.map ({ · with dispatch_active := true }) }) :=
      h.keep Adds.refl.put (SameTimers.control _ _ _ _ _) (by simp) rfl fun hr => hr
    exact hput.observe .dispatch
  | read hr => exact h.aside hr.aside
  | eligible hr _ _ hp => exact timer_physical hn hfit (h.aside hr.aside) hp

theorem timer_start (h : Started answers config m) : TimerInvariant config m := by
  have hidle : Moment.idle ⟨new_session config, []⟩ := ⟨rfl, rfl, fun mode => by cases mode <;> rfl⟩
  have hnew : TimerInvariant config ⟨new_session config, []⟩ :=
    ⟨rfl, rfl, fun hsome => (nomatch hsome), fun _ => rfl, fun _ => hidle,
      fun mode hmode => absurd ((hidle.timers mode).symm.trans hmode) (by decide),
      fun mode _ => hidle.timers mode, fun hsome => (nomatch hsome), trivial⟩
  cases h with
  | created =>
    refine ⟨rfl, rfl, fun _ => rfl, fun hretry => (nomatch hretry), fun ht => (nomatch ht),
      hnew.normal, hnew.other, fun _ => ?_, trivial⟩
    exact Moment.idle.timed (m := Moment.put _ _) ⟨rfl, rfl, hidle.timers⟩
  | refused => exact hnew
  | failed k =>
    unfold Moment.schedule
    cases (answers k).clock with
    | none =>
      exact hnew.keep Adds.refl.put (SameTimers.control _ _ _ _ _) (fun hc => hc) rfl
        fun hr => (nomatch hr)
    | some now =>
      refine ⟨rfl, rfl, fun hsome => (nomatch hsome), fun _ => rfl, fun _ => ?_, hnew.normal,
        hnew.other, fun hsome => (nomatch hsome), ⟨trivial, trivial⟩⟩
      exact ⟨rfl, rfl, hidle.timers⟩

end turns

/-- In every run the timers are those of the periods. -/
theorem timed_always (config : SessionConfig) (answers : Nat → Answer) (fuel : Nat)
    (hn : NormalClock answers) (hfit : config.durations_fit) :
    Always (TimedEntry config) (run_history config answers fuel) := by
  obtain ⟨m, hm, hturns⟩ := run_turns config answers fuel
  have h := invariant_of_step (TimerInvariant config) (fun _ _ h ht => timer_turn hn hfit h ht)
    (timer_start hm) hturns
  exact h.lawful

end input_proxy
