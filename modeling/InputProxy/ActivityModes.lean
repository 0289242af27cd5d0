-- The two activity modes: a property is true exactly while its timer runs,
-- and a timer runs only in its own pause state. So a timer that was set
-- before a pause transition never changes a property after it.
import InputProxy.Histories

open programs Program

namespace input_proxy

/-! ## The law -/

/-- The activity properties, their timers and the pause state. -/
structure ActivityModes (s : Session) : Prop where
  running_iff : s.runtime_state.activity_while_running = true ↔
    s.running_activity_timer_active = true
  running_unpaused : s.runtime_state.activity_while_running = true →
    s.runtime_state.paused = false
  paused_iff : s.runtime_state.activity_while_paused = true ↔
    s.paused_activity_timer_active = true
  paused_paused : s.runtime_state.activity_while_paused = true → s.runtime_state.paused = true

/-- The two activity properties exclude each other. -/
def NotBoth (s : Session) : Prop :=
  ¬ (s.runtime_state.activity_while_running = true ∧
    s.runtime_state.activity_while_paused = true)

theorem ActivityModes.not_both {s : Session} (h : ActivityModes s) : NotBoth s := by
  rintro ⟨hr, hp⟩
  have hf := h.running_unpaused hr
  rw [h.paused_paused hp] at hf
  cases hf

/-- The timer of the mode was set, and since then no pause transition was committed and
the timer has not expired. -/
def Pending (mode : Mode) (h : List Action) : Prop :=
  ∃ later now older, h = later ++ .timer_set mode now :: older ∧
    ∀ a ∈ later, (∀ p, a ≠ .committed p) ∧ a ≠ .timer_expired mode

/-- What one entry of a history may say about the activity. -/
def ActivityEntry (a : Action) (past : List Action) : Prop :=
  match a with
  | .observed _ s => ActivityModes s ∧ NotBoth s
  | .timer_expired mode => Pending mode past
  | _ => True

/-! ## Timers in the history -/

theorem Pending.set {mode : Mode} {now : Timespec} {h : List Action} :
    Pending mode (.timer_set mode now :: h) := ⟨[], now, h, rfl, by simp⟩

theorem Pending.append {mode : Mode} {new h : List Action} (hp : Pending mode h)
    (hnew : ∀ a ∈ new, (∀ p, a ≠ .committed p) ∧ a ≠ .timer_expired mode) :
    Pending mode (new ++ h) := by
  obtain ⟨later, now, older, rfl, hall⟩ := hp
  refine ⟨new ++ later, now, older, by simp, fun a ha => ?_⟩
  rcases List.mem_append.mp ha with ha | ha
  · exact hnew a ha
  · exact hall a ha

/-- An entry that leaves the timers alone. -/
def Action.untimed (m : Moment) : Action → Prop
  | .observed _ s => s = m.session
  | .committed _ | .timer_set _ _ | .timer_expired _ => False
  | _ => True

/-! ## What the steps do to the activity -/

/-- The fields that the activity is about. -/
def Session.activity (s : Session) : Bool × Bool × Bool × Bool × Bool :=
  (s.runtime_state.paused, s.runtime_state.activity_while_running,
    s.running_activity_timer_active, s.runtime_state.activity_while_paused,
    s.paused_activity_timer_active)

/-- The activity stays, and the new entries are not about timers. -/
structure KeepsActivity (m m' : Moment) : Prop where
  activity : m'.session.activity = m.session.activity
  adds : Adds (Action.untimed m) m m'

theorem KeepsActivity.refl (m : Moment) : KeepsActivity m m := ⟨rfl, .refl⟩

theorem KeepsActivity.log {m m' : Moment} {a : Action} (h : KeepsActivity m m')
    (ha : a.untimed m) : KeepsActivity m (m'.log a) := ⟨h.activity, h.adds.log ha⟩

theorem KeepsActivity.put {m m' : Moment} {f : Session → Session} (h : KeepsActivity m m')
    (hf : (f m'.session).activity = m'.session.activity) : KeepsActivity m (m'.put f) :=
  ⟨hf.trans h.activity, h.adds.put⟩

theorem KeepsActivity.close {m m' : Moment} (h : KeepsActivity m m') :
    KeepsActivity m m'.close := by
  refine ⟨Eq.trans ?_ h.activity, h.adds.close fun _ => trivial⟩
  unfold Moment.close
  split <;> rfl

theorem KeepsActivity.destroy {m m' : Moment} (h : KeepsActivity m m') :
    KeepsActivity m m'.destroy := by
  refine ⟨Eq.trans ?_ h.activity, h.adds.destroy fun _ => trivial⟩
  unfold Moment.destroy
  split <;> rfl

/-- A correction leaves the activity alone. -/
theorem KeepsActivity.correct {m m1 m' : Moment} (h : KeepsActivity m m1)
    (hs : SameButState m1 m') (hadds : Adds (Action.untimed m) m m') : KeepsActivity m m' := by
  obtain ⟨es, hes⟩ := hs.session
  refine ⟨?_, hadds⟩
  rw [hes]
  exact h.activity

theorem Action.of_correction.untimed {a : Action} {m : Moment} (h : a.of_correction) :
    a.untimed m := by
  cases a <;> trivial

theorem Corrects.keeps_activity {p : Bool} {m m' : Moment} {r : Result}
    (h : Corrects p (m.log (.requested p)) r m') : KeepsActivity m m' :=
  (KeepsActivity.refl m).correct h.same.of_log
    (h.adds (fun _ ha => ha.untimed) trivial fun _ => trivial)

/-- A step is a control step, or commits a pause state, or leaves the activity alone. -/
theorem Step.activity {ph ph' : Phase} {m m' : Moment} (h : Step (ph, m) (ph', m')) :
    ControlStep m m' ∨
    (∃ p m1, m.session.runtime_state.paused ≠ p ∧ KeepsActivity m m1 ∧ m' = m1.commit p) ∨
    KeepsActivity m m' := by
  have hrefl := KeepsActivity.refl m
  cases h with
  | control h => exact .inl h
  | changed hp hc => exact .inr (.inl ⟨_, _, hp, hc.keeps_activity, rfl⟩)
  | failed hp hc hr => exact .inr (.inr ((hc.keeps_activity.put rfl).log (by trivial)))
  | dispatch | loop_head => exact .inr (.inr (hrefl.log rfl))
  | shutdown => exact .inr (.inr ((hrefl.put rfl).log (by trivial)))
  | interrupted | signal_lost | signal_ended | lose => exact .inr (.inr (hrefl.put rfl))
  | unavailable | open_failed | open_source | create =>
    exact .inr (.inr ((hrefl.put rfl).log (by trivial)))
  | denied | denied_end =>
    exact .inr (.inr (((hrefl.put rfl).log (by trivial)).log (by trivial)))
  | incompatible => exact .inr (.inr (hrefl.log (by trivial)).destroy)
  | create_failed => exact .inr (.inr (hrefl.log (by trivial)).close)
  | synchronized hp hs | not_synchronized hp hs hr =>
    exact .inr (.inr (hrefl.correct hs.same (hs.adds.mono fun _ ha => ha.untimed)))
  | read | recover => exact .inr (.inr ((hrefl.put rfl).log (by trivial)))
  | forward => exact .inr (.inr ((hrefl.put rfl).log (by trivial)))
  | neutralized hn | not_neutralized hn hr =>
    have hlost : KeepsActivity m (m.log (.lost m.session)) := hrefl.log (by trivial)
    exact .inr (.inr (hlost.correct hn.same
      (hlost.adds.trans (hn.adds.mono fun _ ha => ha.untimed))).close)
  | clean => exact .inr (.inr (hrefl.log (by trivial)).destroy.close)
  | unchanged | give_up | first | stay_paused | activate | fatal | fatal_lost | suppress =>
    exact .inr (.inr hrefl)
  | _ => exact .inr (.inr (hrefl.log (by trivial)))

/-! ## The invariant -/

/-- The timer of a mode. -/
def Session.timer_active (s : Session) : Mode → Bool
  | .running => s.running_activity_timer_active
  | .paused => s.paused_activity_timer_active

/-- The modes fit, a running timer was set since the last transition, and so far every
entry was lawful. -/
structure ActivityInvariant (m : Moment) : Prop where
  modes : ActivityModes m.session
  pending : ∀ mode, m.session.timer_active mode = true → Pending mode m.history
  lawful : Always ActivityEntry m.history

theorem ActivityModes.congr {s s' : Session} (h : ActivityModes s)
    (hs : s'.activity = s.activity) : ActivityModes s' := by
  simp only [Session.activity, Prod.mk.injEq] at hs
  obtain ⟨h1, h2, h3, h4, h5⟩ := hs
  constructor
  · rw [h2, h3]; exact h.running_iff
  · rw [h1, h2]; exact h.running_unpaused
  · rw [h4, h5]; exact h.paused_iff
  · rw [h1, h4]; exact h.paused_paused

theorem timer_active_congr {s s' : Session} (hs : s'.activity = s.activity) (mode : Mode) :
    s'.timer_active mode = s.timer_active mode := by
  simp only [Session.activity, Prod.mk.injEq] at hs
  cases mode
  · exact hs.2.2.1
  · exact hs.2.2.2.2

theorem ActivityInvariant.keep {m m' : Moment} (h : ActivityInvariant m)
    (hk : KeepsActivity m m') : ActivityInvariant m' := by
  obtain ⟨hs, new, hnew, hall⟩ := hk
  refine ⟨h.modes.congr hs, fun mode hmode => ?_, ?_⟩
  · rw [hnew]
    refine (h.pending mode (by rw [← timer_active_congr hs]; exact hmode)).append fun a ha => ?_
    have hu := hall a ha
    constructor
    · rintro p rfl
      exact hu
    · rintro rfl
      exact hu
  · rw [hnew]
    refine always_append h.lawful fun l a r heq => ?_
    have hu : a.untimed m := hall a (by rw [heq]; simp)
    cases a with
    | observed point s =>
      obtain rfl : s = m.session := hu
      exact ⟨h.modes, h.modes.not_both⟩
    | timer_expired mode => exact hu.elim
    | _ => trivial

/-- A commit ends the mode that it leaves, and the other mode was not on. -/
theorem ActivityInvariant.commit {m : Moment} {p : Bool} (h : ActivityInvariant m)
    (hp : m.session.runtime_state.paused ≠ p) : ActivityInvariant (m.commit p) := by
  obtain ⟨⟨hr, hru, hpi, hpp⟩, hpending, hlawful⟩ := h
  have hoff : ∀ mode, (m.commit p).session.timer_active mode = false := by
    intro mode
    cases p with
    | true =>
      have hpaused : m.session.runtime_state.paused = false := by simpa using hp
      cases mode with
      | running => rfl
      | paused =>
        change m.session.paused_activity_timer_active = false
        by_contra ht
        have hactive := hpp (hpi.mpr (by simpa using ht))
        rw [hpaused] at hactive
        cases hactive
    | false =>
      have hpaused : m.session.runtime_state.paused = true := by simpa using hp
      cases mode with
      | paused => rfl
      | running =>
        change m.session.running_activity_timer_active = false
        by_contra ht
        have hactive := hru (hr.mpr (by simpa using ht))
        rw [hpaused] at hactive
        cases hactive
  refine ⟨?_, fun mode hmode => ?_, trivial, hlawful⟩
  · have hrun := hoff .running
    have hpause := hoff .paused
    cases p with
    | true =>
      exact ⟨by simp,
        by simp, hpi, fun _ => rfl⟩
    | false =>
      exact ⟨hr, fun _ => rfl, by simp,
        by simp⟩
  · rw [hoff mode] at hmode
    cases hmode

/-- Which timers a control step starts and stops. -/
theorem ActivityInvariant.control {m m' : Moment} (h : ActivityInvariant m)
    (hc : ControlStep m m') : ActivityInvariant m' := by
  have hrefl := KeepsActivity.refl m
  have hmodes := h.modes
  have hother : ∀ mode mode' now, mode ≠ mode' → m.session.timer_active mode = true →
      Pending mode (.timer_set mode' now :: m.history) := fun mode mode' now _ ht =>
    (h.pending mode ht).append (List.forall_mem_singleton.mpr ⟨by simp, by simp⟩)
  have hexpired : ∀ mode mode', mode ≠ mode' → m.session.timer_active mode = true →
      Pending mode (.timer_expired mode' :: m.history) := fun mode mode' hne ht =>
    (h.pending mode ht).append
      (List.forall_mem_singleton.mpr ⟨by simp, by simpa using fun he => hne he.symm⟩)
  cases hc with
  | observe => exact h.keep (hrefl.log rfl)
  | control | tracking | retry | diagnosed => exact h.keep (hrefl.put rfl)
  | retry_scheduled | recreating | emitted | eligible | ticked =>
    exact h.keep (hrefl.log (by trivial))
  | discard =>
    refine ⟨⟨by simp, by simp, by simp, by simp⟩, fun mode hmode => ?_, h.lawful⟩
    cases mode <;> cases hmode
  | running_set now deadline hp =>
    refine ⟨⟨by simp, fun _ => hp, hmodes.paused_iff, hmodes.paused_paused⟩,
      fun mode hmode => ?_, trivial, h.lawful⟩
    cases mode with
    | running => exact .set
    | paused => exact hother .paused .running now (by decide) hmode
  | running_zero hp =>
    refine ⟨⟨by simp, by simp, hmodes.paused_iff, hmodes.paused_paused⟩,
      fun mode hmode => ?_, h.lawful⟩
    cases mode with
    | running => cases hmode
    | paused => exact h.pending .paused hmode
  | paused_set now deadline hp =>
    refine ⟨⟨hmodes.running_iff, hmodes.running_unpaused, by simp, fun _ => hp⟩,
      fun mode hmode => ?_, trivial, h.lawful⟩
    cases mode with
    | running => exact hother .running .paused now (by decide) hmode
    | paused => exact .set
  | paused_zero hp =>
    refine ⟨⟨hmodes.running_iff, hmodes.running_unpaused, by simp, by simp⟩,
      fun mode hmode => ?_, h.lawful⟩
    cases mode with
    | running => exact h.pending .running hmode
    | paused => cases hmode
  | running_expired ht =>
    refine ⟨⟨by simp, by simp, hmodes.paused_iff, hmodes.paused_paused⟩,
      fun mode hmode => ?_, h.pending .running ht, h.lawful⟩
    cases mode with
    | running => cases hmode
    | paused => exact hexpired .paused .running (by decide) hmode
  | paused_expired ht =>
    refine ⟨⟨hmodes.running_iff, hmodes.running_unpaused, by simp, by simp⟩,
      fun mode hmode => ?_, h.pending .paused ht, h.lawful⟩
    cases mode with
    | running => exact hexpired .running .paused (by decide) hmode
    | paused => cases hmode

theorem activity_step {config : SessionConfig} {ph ph' : Phase} {m m' : Moment}
    (_ : Reach config (ph, m)) (hm : ActivityInvariant m) (h : Step (ph, m) (ph', m')) :
    ActivityInvariant m' := by
  rcases h.activity with hc | ⟨p, m1, hp, hk, rfl⟩ | hk
  · exact hm.control hc
  · refine (hm.keep hk).commit ?_
    have hs := hk.activity
    simp only [Session.activity, Prod.mk.injEq] at hs
    rw [hs.1]
    exact hp
  · exact hm.keep hk

/-- Every run keeps the invariant. -/
theorem activity_invariant (config : SessionConfig) (answers : Nat → Answer) (fuel : Nat) :
    ActivityInvariant (run_moment config answers fuel) := by
  refine run_law ActivityInvariant (fun ph m _ hr => ?_) answers fuel
  refine reach_induction (fun _ => ActivityInvariant) ⟨⟨?_, ?_, ?_, ?_⟩, ?_, trivial⟩
    activity_step hr
  · simp [new_session]
  · simp [new_session]
  · simp [new_session]
  · simp [new_session]
  · intro mode hmode
    cases mode <;> cases hmode

/-- Between any two steps of any run, and where it ends or is cut short, each activity
property is true exactly while its timer runs, and only in its own pause state. And a
timer that expires was set after the last pause transition. -/
theorem a_timer_never_acts_after_a_later_pause_transition (config : SessionConfig)
    (answers : Nat → Answer) (fuel : Nat) :
    Always ActivityEntry (run_history config answers fuel) ∧
      ActivityModes (run_moment config answers fuel).session ∧
      NotBoth (run_moment config answers fuel).session := by
  have hinv := activity_invariant config answers fuel
  exact ⟨hinv.lawful, hinv.modes, hinv.modes.not_both⟩

end input_proxy
