-- The events that count as activity. Every one that is processed is an
-- eligible event of a normal read, and with a control object and a clock that
-- can be read no such event is passed over.
import InputProxy.ControlRuns
import InputProxy.MonotonicTimes

open programs Program

namespace input_proxy

/-! ## The law -/

/-- The pause state that was committed last. -/
def paused_last (config : SessionConfig) : List Action → Bool
  | [] => config.start_paused
  | .committed paused :: _ => paused
  | _ :: past => paused_last config past

/-- Whether motion is activity in this pause state. -/
def SessionConfig.motion_activity (config : SessionConfig) (paused : Bool) : Bool :=
  if paused then config.paused_motion_activity else config.running_motion_activity

/-- A normal read has just delivered an event that is activity in the pause state. -/
def EligibleRead (config : SessionConfig) (h : List Action) : Prop :=
  ∃ event past, h = .delivered (paused_last config past) event :: past ∧
    recovering past = false ∧
    session_event_is_activity event (config.motion_activity (paused_last config past)) = true

/-- After it, the session was observed with a control object. -/
def EligibleSeen (config : SessionConfig) (h : List Action) : Prop :=
  ∃ s past, h = .observed .step s :: past ∧ s.runtime_control.isSome ∧ EligibleRead config past

/-- Activity is the time at which an eligible event is processed. -/
def ActiveEntry (config : SessionConfig) (a : Action) (past : List Action) : Prop :=
  match a with
  | .active _ => EligibleSeen config past
  | _ => True

/-- An eligible event is processed at some time. -/
def SampledEntry (config : SessionConfig) (a : Action) (past : List Action) : Prop :=
  EligibleSeen config past → ∃ now, a = .active now

/-! ## The invariant -/

/-- What no turn changes. -/
def Session.settings (s : Session) : Nat × Nat × Bool × Bool :=
  (s.activity_timeout_ms, s.detection_throttle_ms, s.running_motion_activity,
    s.paused_motion_activity)

/-- The settings are those of the configuration, the pause state is the one committed last,
and with a readable clock no eligible event waits to be processed. -/
structure ReadInvariant (answers : Nat → Answer) (config : SessionConfig) (m : Moment) : Prop where
  settings : m.session.settings = (new_session config).settings
  paused : m.session.runtime_state.paused = paused_last config m.history
  processed : Readable answers → ¬ EligibleRead config m.history ∧ ¬ EligibleSeen config m.history
  active : Always (ActiveEntry config) m.history
  sampled : Readable answers → Always (SampledEntry config) m.history

section invariant

variable {config : SessionConfig} {answers : Nat → Answer} {m m' : Moment}

/-- An entry that no law of the reads is about. -/
def Action.beside_reads : Action → Prop
  | .committed _ | .delivered _ _ | .active _ => False
  | _ => True

theorem paused_last_append {new past : List Action} (h : ∀ a ∈ new, ∀ p, a ≠ .committed p) :
    paused_last config (new ++ past) = paused_last config past := by
  induction new with
  | nil => rfl
  | cons a new ih =>
    obtain ⟨ha, hnew⟩ := List.forall_mem_cons.mp h
    rw [List.cons_append, ← ih hnew]
    cases a with
    | committed p => exact absurd rfl (ha p)
    | _ => rfl

/-- With no eligible event waiting, another entry leaves none. -/
theorem not_eligible_cons {a : Action} {past : List Action}
    (h : ¬ EligibleRead config past) (ha : ∀ paused event, a ≠ .delivered paused event) :
    ¬ EligibleRead config (a :: past) ∧ ¬ EligibleSeen config (a :: past) := by
  constructor
  · rintro ⟨event, rest, heq, _⟩
    exact ha _ _ (List.cons.inj heq).1
  · rintro ⟨s, rest, heq, _, hread⟩
    obtain rfl := (List.cons.inj heq).2
    exact h hread

/-- An entry beside the reads is no activity, and changes no pause state. -/
theorem Action.beside_reads.entry {a : Action} {past : List Action} (h : a.beside_reads) :
    ActiveEntry config a past ∧ paused_last config (a :: past) = paused_last config past := by
  constructor
  · cases a with
    | active => exact h.elim
    | _ => trivial
  · refine @paused_last_append config [a] past fun b hb p heq => ?_
    obtain rfl := List.mem_singleton.mp hb
    rw [heq] at h
    exact h

theorem ReadInvariant.log {a : Action} (h : ReadInvariant answers config m)
    (ha : a.beside_reads) : ReadInvariant answers config (m.log a) := by
  have hdelivered : ∀ paused event, a ≠ .delivered paused event := by
    rintro paused event rfl
    exact ha
  obtain ⟨hactive, hpaused⟩ := @Action.beside_reads.entry config a m.history ha
  exact ⟨h.settings, h.paused.trans hpaused.symm,
    fun hr => not_eligible_cons (h.processed hr).1 hdelivered, ⟨hactive, h.active⟩,
    fun hr => ⟨fun hseen => absurd hseen (h.processed hr).2, h.sampled hr⟩⟩

/-- Entries beside the reads, with the settings and the pause state as they were. -/
theorem ReadInvariant.keep (h : ReadInvariant answers config m)
    (hadds : Adds Action.beside_reads m m')
    (hsettings : m'.session.settings = m.session.settings)
    (hpaused : m'.session.runtime_state.paused = m.session.runtime_state.paused) :
    ReadInvariant answers config m' := by
  have h := hadds.logged h fun _ _ _ h ha => h.log ha
  exact ⟨hsettings.trans h.settings, hpaused.trans h.paused, h.processed, h.active, h.sampled⟩

theorem Action.of_change.beside_reads {a : Action} (h : a.of_change) : a.beside_reads := by
  cases a <;> trivial

theorem Action.outside.beside_reads {a : Action} (h : a.outside) : a.beside_reads := by
  cases a <;> trivial

theorem ReadInvariant.update (h : ReadInvariant answers config m) (clock : Option Timespec) :
    ReadInvariant answers config (m.update clock) :=
  h.keep (Moment.update_adds.mono fun _ ha => ha.beside_reads)
    (m.update_session Session.settings fun _ _ _ _ _ _ _ _ => rfl)
    (m.update_session (·.runtime_state.paused) fun _ _ _ _ _ _ _ _ => rfl)

/-- A change that leaves the pause state alone. -/
theorem ReadInvariant.change (h : ReadInvariant answers config m) {changes : Changes}
    (hpaused : changes.paused = none) (ok : Bool) (clock : Option Timespec) :
    ReadInvariant answers config (m.change changes ok clock) := by
  have hs := m.apply_session changes ok
  have happly : ReadInvariant answers config (m.apply changes ok) := by
    refine h.keep ((m.apply_adds changes ok).mono fun a ha => ?_) (by rw [hs]; rfl) ?_
    · obtain ⟨state, ps, rfl⟩ := ha
      trivial
    · rw [hs]
      simp [RuntimeControlState.commit, commit_boolean, hpaused]
  exact happly.update clock

theorem ReadInvariant.committed (h : ReadInvariant answers config m) {p : Bool}
    {changes : Changes} (hpaused : changes.paused = some p) (ok : Bool)
    (clock : Option Timespec) :
    ReadInvariant answers config ((m.cancel p).change changes ok clock) := by
  -- the pause state, once it is committed, is that of the entry
  have hs := (m.cancel p).apply_session changes ok
  have hcancel := m.cancel_session p
  obtain ⟨new, hnew, hall⟩ := (m.cancel p).apply_adds changes ok
  have hcommitted : ReadInvariant answers config
      ⟨((m.cancel p).apply changes ok).session, .committed p :: m.history⟩ := by
    refine ⟨?_, ?_, fun hr => not_eligible_cons (h.processed hr).1 (by simp),
      ⟨trivial, h.active⟩, fun hr => ⟨fun hseen => absurd hseen (h.processed hr).2, h.sampled hr⟩⟩
    · rw [hs, hcancel]
      exact h.settings
    · rw [hs]
      simp [RuntimeControlState.commit, commit_boolean, hpaused, paused_last]
  have happly : ReadInvariant answers config ((m.cancel p).apply changes ok) := by
    refine hcommitted.keep ⟨new, ?_, fun a ha => ?_⟩ rfl rfl
    · rw [hnew, Moment.cancel_history]
    · obtain ⟨state, ps, rfl⟩ := hall a ha
      trivial
  exact happly.update clock

end invariant

/-! ## Eligible events -/

section eligible

variable {config : SessionConfig} {answers : Nat → Answer} {m m' : Moment}

/-- The same, right after an eligible read. -/
structure Waiting (answers : Nat → Answer) (config : SessionConfig) (m : Moment) : Prop where
  settings : m.session.settings = (new_session config).settings
  paused : m.session.runtime_state.paused = paused_last config m.history
  waits : EligibleRead config m.history
  active : Always (ActiveEntry config) m.history
  sampled : Readable answers → Always (SampledEntry config) m.history

theorem Waiting.put {f : Session → Session} (h : Waiting answers config m)
    (hs : (f m.session).settings = m.session.settings)
    (hp : (f m.session).runtime_state.paused = m.session.runtime_state.paused) :
    Waiting answers config (m.put f) :=
  ⟨hs.trans h.settings, hp.trans h.paused, h.waits, h.active, h.sampled⟩

theorem Waiting.not_seen (h : Waiting answers config m) : ¬ EligibleSeen config m.history := by
  obtain ⟨event, past, heq, _⟩ := h.waits
  rintro ⟨s, past', heq', _⟩
  cases heq.symm.trans heq'

/-- Without a control object the event is passed over. -/
theorem Waiting.log {a : Action} (h : Waiting answers config m) (ha : a.beside_reads)
    (hs : ∀ s, a = .observed .step s → s.runtime_control = none) :
    ReadInvariant answers config (m.log a) := by
  obtain ⟨hactive, hpaused⟩ := @Action.beside_reads.entry config a m.history ha
  refine ⟨h.settings, h.paused.trans hpaused.symm, fun _ => ⟨?_, ?_⟩, ⟨hactive, h.active⟩,
    fun hr => ⟨fun hseen => absurd hseen h.not_seen, h.sampled hr⟩⟩
  · rintro ⟨event, past, heq, _⟩
    rw [(List.cons.inj heq).1] at ha
    exact ha
  · rintro ⟨s, past, heq, hsome, _⟩
    rw [hs s (List.cons.inj heq).1] at hsome
    cases hsome

theorem Waiting.lost (h : Waiting answers config m) (hc : m.session.runtime_control = none)
    (clock : Option Timespec) : ReadInvariant answers config (m.update clock) := by
  have hobserved : ∀ m1 : Moment, m1.session.runtime_control = none → ∀ s,
      Action.observed .step m1.session = .observed .step s → s.runtime_control = none := by
    rintro m1 hnone s heq
    obtain ⟨_, rfl⟩ := Action.observed.inj heq
    exact hnone
  cases ht : m.session.activity_tracking_available with
  | false =>
    rw [Moment.update_gone (by simp [hc]) ht]
    exact h.log trivial (hobserved m hc)
  | true =>
    rw [Moment.update_lost (by simp [hc]) ht]
    have hdiscard : Waiting answers config m.discard := h.put rfl rfl
    cases clock with
    | none => exact (hdiscard.put rfl rfl).log trivial (hobserved _ hc)
    | some now =>
      have hscheduled := (hdiscard.put (f := fun s =>
        { s with
          runtime_control_retry_deadline := set_deadline now RUNTIME_CONTROL_RETRY_MS
          runtime_control_retry_active := true }) rfl rfl).log
        (a := .retry_scheduled now) trivial (by simp)
      exact hscheduled.log trivial

/-- With one it is seen. -/
theorem Waiting.seen (h : Waiting answers config m) (hc : m.session.runtime_control.isSome)
    (clock : Option Timespec) :
    EligibleSeen config (m.update clock).history ∧
      Always (ActiveEntry config) (m.update clock).history ∧
      (Readable answers → Always (SampledEntry config) (m.update clock).history) := by
  rw [Moment.update_live hc]
  exact ⟨⟨_, _, rfl, hc, h.waits⟩, ⟨trivial, h.active⟩,
    fun hr => ⟨fun hseen => absurd hseen h.not_seen, h.sampled hr⟩⟩

theorem Waiting.updated (h : Waiting answers config m) (clock : Option Timespec) :
    (m.update clock).session.settings = (new_session config).settings ∧
      (m.update clock).session.runtime_state.paused =
        paused_last config (m.update clock).history := by
  have hs : (m.update clock).session.settings = m.session.settings :=
    m.update_session Session.settings fun _ _ _ _ _ _ _ _ => rfl
  have hp : (m.update clock).session.runtime_state.paused = m.session.runtime_state.paused :=
    m.update_session (·.runtime_state.paused) fun _ _ _ _ _ _ _ _ => rfl
  obtain ⟨new, hnew, hall⟩ := @Moment.update_adds m clock
  refine ⟨hs.trans h.settings, (hp.trans h.paused).trans ?_⟩
  rw [hnew]
  refine (paused_last_append fun a ha p heq => ?_).symm
  subst heq
  exact hall _ ha

/-- And its processing is activity. -/
theorem Waiting.processed (h : Waiting answers config m) (hc : m.session.runtime_control.isSome)
    (clock : Option Timespec) (now : Timespec) :
    ReadInvariant answers config ((m.update clock).log (.active now)) := by
  obtain ⟨hsettings, hpaused⟩ := h.updated clock
  obtain ⟨hseen, hactive, hsampled⟩ := h.seen hc clock
  refine ⟨hsettings, hpaused, fun _ => ⟨?_, ?_⟩, ⟨hseen, hactive⟩,
    fun hr => ⟨fun _ => ⟨now, rfl⟩, hsampled hr⟩⟩
  · rintro ⟨event, past, heq, _⟩
    cases heq
  · rintro ⟨s, past, heq, _⟩
    cases heq

end eligible

/-! ## Every turn -/

section turns

variable {config : SessionConfig} {answers : Nat → Answer} {m m' : Moment}

theorem ReadInvariant.throttle {now : Timespec}
    (h : ReadInvariant answers config (m.log (.active now))) :
    ReadInvariant answers config (m.throttle now) := by
  by_cases hd : m.session.detection_throttle_ms = 0
  · rw [Moment.throttle_zero hd]
    exact h.keep Adds.refl.put rfl rfl
  · rw [Moment.throttle_set hd]
    exact h.keep (Adds.refl.put.log trivial) rfl rfl

theorem ReadInvariant.hold {now : Timespec}
    (h : ReadInvariant answers config (m.log (.active now))) :
    ReadInvariant answers config (m.hold now) := by
  by_cases hd : m.session.activity_timeout_ms = 0
  · rw [Moment.hold_zero hd]
    exact h.keep Adds.refl.put rfl rfl
  · rw [Moment.hold_set hd]
    exact h.keep (Adds.refl.put.log trivial) rfl rfl

theorem ReadInvariant.expire (h : ReadInvariant answers config m) (due : Bool) (mode : Mode) :
    ReadInvariant answers config (m.expire due mode) := by
  unfold Moment.expire
  cases due with
  | false => exact h
  | true => cases mode <;> exact h.keep (Adds.refl.put.log trivial) rfl rfl

theorem ReadInvariant.tick (h : ReadInvariant answers config m) (now : Timespec) :
    ReadInvariant answers config (m.tick now) := by
  unfold Moment.tick
  exact ((h.log (a := .ticked now) trivial).expire ..).expire ..

theorem ReadInvariant.schedule (h : ReadInvariant answers config m) (clock : Option Timespec) :
    ReadInvariant answers config (m.schedule clock) := by
  unfold Moment.schedule
  cases clock with
  | none => exact h.keep Adds.refl.put rfl rfl
  | some now => exact h.keep (Adds.refl.put.log trivial) rfl rfl

theorem read_call (h : ReadInvariant answers config m) (hc : Call answers m m') :
    ReadInvariant answers config m' := by
  cases hc with
  | outside ho =>
    exact h.keep (ho.adds.mono fun _ ha => ha.beside_reads)
      (ho.field Session.settings fun _ => rfl) (ho.field (·.runtime_state.paused) fun _ => rfl)
  | updated k => exact h.update _
  | available b j k => exact h.change rfl _ _
  | committed j k hp => exact h.committed rfl _ _
  | idle => exact h.log trivial
  | expired i now j k => exact (h.tick now).change rfl _ _
  | underivable => exact h.keep (Adds.refl.put.log trivial) rfl rfl
  | refused | recreated => exact h.keep ((Adds.refl.log trivial).put.log trivial) rfl rfl
  | not_recreated i now k =>
    have hlost : ReadInvariant answers config ((m.log (.recreating m.session now)).put fun s =>
        { s with runtime_control := none }) :=
      h.keep (Adds.refl.log trivial).put rfl rfl
    exact (hlost.schedule _).log trivial
  | finished | dropped => exact h.keep Adds.refl.put rfl rfl

theorem read_physical (h : Waiting answers config m) (hp : Physical answers m m') :
    ReadInvariant answers config m' := by
  cases hp with
  | lost k hc => exact h.lost hc _
  | unsampled i k hi =>
    cases hc : m.session.runtime_control with
    | none => exact h.lost hc _
    | some control =>
      obtain ⟨hsettings, hpaused⟩ := h.updated (answers k).clock
      obtain ⟨_, hactive, hsampled⟩ := h.seen (by simp [hc]) (answers k).clock
      refine ⟨hsettings, hpaused, fun hr => ?_, hactive, hsampled⟩
      have hsome := hr i
      rw [hi] at hsome
      cases hsome
  | suppressed i l now hi hc => exact h.processed hc _ now
  | throttled i l now j k hi hc => exact (h.processed hc _ now).throttle.change rfl _ _
  | held i l now j k hi hc => exact (h.processed hc _ now).hold.change rfl _ _

/-- The session counts as activity what the configuration does. -/
theorem ReadInvariant.eligible_iff (h : ReadInvariant answers config m) {paused : Bool}
    {event : InputEvent} :
    Action.eligible m.session (.delivered paused event) ↔ session_event_is_activity event
      (config.motion_activity (paused_last config m.history)) = true := by
  have hsettings := h.settings
  simp only [Session.settings, new_session, Prod.mk.injEq] at hsettings
  obtain ⟨_, _, hrunning, hpaused⟩ := hsettings
  simp only [Action.eligible, SessionConfig.motion_activity, h.paused, hrunning, hpaused]

/-- A read leaves an eligible event, of a normal read, or none. -/
theorem ReadInvariant.read {a : Action} (h : ReadInvariant answers config m) (hr : Reads a m m') :
    (recovering m.history = true ∨ ¬ a.eligible m.session → ReadInvariant answers config m') ∧
      (recovering m.history = false → a.eligible m.session → Waiting answers config m') := by
  have hsettings := (hr.aside.field Session.settings fun _ => rfl).trans h.settings
  have hstate := hr.aside.field (·.runtime_state.paused) fun _ => rfl
  have hread := hr.of_read
  have hhistory := hr.history
  have hpaused : m'.session.runtime_state.paused = paused_last config m'.history := by
    rw [hstate, h.paused, hhistory]
    cases a <;> first | rfl | exact hread.elim
  have hactive : Always (ActiveEntry config) m'.history := by
    rw [hhistory]
    refine ⟨?_, h.active⟩
    cases a <;> trivial
  have hsampled : Readable answers → Always (SampledEntry config) m'.history := by
    intro hreadable
    rw [hhistory]
    exact ⟨fun hseen => absurd hseen (h.processed hreadable).2, h.sampled hreadable⟩
  refine ⟨fun ha => ⟨hsettings, hpaused, fun hreadable => ⟨?_, ?_⟩, hactive, hsampled⟩,
    fun hrecovering ha => ⟨hsettings, hpaused, ?_, hactive, hsampled⟩⟩
  · rw [hhistory]
    rintro ⟨event, past, heq, hsettled, heligible⟩
    obtain ⟨rfl, rfl⟩ := List.cons.inj heq
    rcases ha with ha | ha
    · exact absurd (ha.symm.trans hsettled) (by decide)
    · exact ha (h.eligible_iff.mpr heligible)
  · rw [hhistory]
    rintro ⟨s, past, heq, _⟩
    rw [(List.cons.inj heq).1] at hread
    exact hread
  · rw [hhistory]
    cases a with
    | delivered paused event =>
      obtain rfl : paused = m.session.runtime_state.paused := hread
      exact ⟨event, m.history, by rw [h.paused], hrecovering, h.eligible_iff.mp ha⟩
    | _ => exact ha.elim

theorem read_turn (h : ReadInvariant answers config m) (ht : Turn answers m m') :
    ReadInvariant answers config m' := by
  cases ht with
  | call hc => exact read_call h hc
  | looped hq => exact h.log trivial
  | dispatched hq => exact h.keep (Adds.refl.put.log trivial) rfl rfl
  | read hr ha => exact (h.read hr).1 ha
  | eligible hr hrecovering ha hp => exact read_physical ((h.read hr).2 hrecovering ha) hp

theorem read_start (h : Started answers config m) : ReadInvariant answers config m := by
  have hnew : ReadInvariant answers config ⟨new_session config, []⟩ := by
    refine ⟨rfl, rfl, fun _ => ⟨?_, ?_⟩, trivial, fun _ => trivial⟩
    · rintro ⟨event, past, heq, _⟩
      cases heq
    · rintro ⟨s, past, heq, _⟩
      cases heq
  cases h with
  | created => exact hnew.keep Adds.refl.put rfl rfl
  | refused => exact hnew
  | failed k => exact hnew.schedule _

end turns

theorem read_invariant (config : SessionConfig) (answers : Nat → Answer) (fuel : Nat) :
    ReadInvariant answers config (run_moment config answers fuel) := by
  obtain ⟨m, hm, hturns⟩ := run_turns config answers fuel
  exact invariant_of_step (ReadInvariant answers config) (fun _ _ h ht => read_turn h ht)
    (read_start hm) hturns

end input_proxy
