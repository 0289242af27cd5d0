-- Activity while paused. The throttle starts its intervals greedily, as long
-- as a tick comes between the end of an interval and the next eligible event
-- outside of it. An event before that tick is lost.
import InputProxy.RunningActivity

open programs Program

namespace input_proxy

/-! ## The law -/

/-- The intervals of the throttle in this period are those that its events should start, and
at the time of the latest sample the property tells whether it lies in the latest interval. -/
def Greedy (config : SessionConfig) (s : Session) (past : List Action) : Prop :=
  throttle_starts past = Timer.starts (milliseconds config.detection_throttle_ms) (samples past) ∧
    (s.runtime_state.activity_while_paused = true ↔
      ∃ x ∈ (samples past).head?, ∃ a ∈ (throttle_starts past).head?,
        a ≤ x.time ∧ x.time < a + milliseconds config.detection_throttle_ms)

/-- An observation while paused, with a control object and a clock that does not go back. -/
def PausedPeriod (s : Session) (past : List Action) : Prop :=
  s.runtime_control.isSome = true ∧ s.runtime_state.paused = true ∧ Timer.Ordered (samples past)

/-- What the claim says of every observation of a paused period. -/
def ThrottleEntry (config : SessionConfig) (a : Action) (past : List Action) : Prop :=
  match a with
  | .observed _ s => PausedPeriod s past → Greedy config s past
  | _ => True

/-- The same, of the periods in which the ticks come in time. -/
def SweptEntry (config : SessionConfig) (a : Action) (past : List Action) : Prop :=
  Timer.Swept (milliseconds config.detection_throttle_ms) (samples past) →
    ThrottleEntry config a past

theorem swept_entry {config : SessionConfig} {a : Action} {past : List Action}
    (hd : 0 < config.detection_throttle_ms) (ha : ActivityEntry a past)
    (ht : TimedEntry config a past) : SweptEntry config a past := by
  intro hswept
  cases a with
  | observed point s =>
    rintro ⟨hc, hp, hordered⟩
    obtain ⟨_, htimer, hstarts⟩ := ht hc
    obtain ⟨hmodes, _⟩ := ha
    have hfired := hstarts hp (Nat.pos_iff_ne_zero.mp hd)
    rw [hp] at htimer
    have hactive : s.runtime_state.activity_while_paused = true ↔
        ((config.timer .paused).run (samples past)).isSome = true := by
      rw [hmodes.paused_iff, show (config.timer .paused).run (samples past) = s.timer .paused from
        htimer.symm, timer_isSome]
      rfl
    have hduration : 0 < (config.timer .paused).duration := by
      unfold SessionConfig.timer milliseconds
      dsimp only
      omega
    cases hsamples : samples past with
    | nil =>
      rw [hsamples] at hfired hactive
      refine ⟨by rw [hfired, hsamples]; rfl, ?_⟩
      rw [hactive, hsamples]
      exact ⟨fun h => (nomatch h), fun ⟨x, hx, _⟩ => (nomatch hx)⟩
    | cons x rest =>
      rw [hsamples] at hfired hactive hordered hswept
      obtain ⟨hgreedy, hrun⟩ := Timer.throttle_spec rfl hduration hordered hswept
      refine ⟨by rw [hfired, hsamples]; exact hgreedy, ?_⟩
      rw [hactive, hrun, hfired, hgreedy, hsamples]
      constructor
      · rintro ⟨a, hhead, hle, hlt⟩
        exact ⟨x, rfl, a, hhead, hle, hlt⟩
      · rintro ⟨y, hy, a, hhead, hle, hlt⟩
        obtain rfl : x = y := Option.some.inj hy
        exact ⟨a, hhead, hle, hlt⟩
  | _ => trivial

/-! ## Every run -/

/-- In every run: in every paused period so far, if a tick has come between the end of each
interval and the next eligible event outside of it, then the throttle has started exactly
the greedy intervals, and the property is true exactly in the latest. -/
theorem the_throttle_is_greedy_while_the_ticks_come_in_time (config : SessionConfig)
    (answers : Nat → Answer) (fuel : Nat) (hclock : NormalClock answers)
    (hfit : config.durations_fit) (hd : 0 < config.detection_throttle_ms) :
    Always (SweptEntry config) (run_history config answers fuel) := by
  have htimed := timed_always config answers fuel hclock hfit
  have hactivity := (activity_invariant config answers fuel).lawful
  exact (hactivity.and htimed).mono fun a past h _ => swept_entry hd h.1 h.2

-- Only the kernel runs the session on this script.
attribute [local irreducible] run_history

instance Ordered.decidable : (past : List (Sample Int)) → Decidable (Timer.Ordered past)
  | [] => isTrue trivial
  | x :: past =>
    have : Decidable (Timer.Ordered past) := Ordered.decidable past
    inferInstanceAs (Decidable ((∀ y ∈ past, y.time ≤ x.time) ∧ Timer.Ordered past))

/-- A key is pressed and released, each in a frame of its own. Each call takes a second. -/
def key_stroke (n : Nat) : Answer :=
  { clock := some ⟨n, 0⟩
    evdev := some (.untouched keyboard)
    read := match n with
      | 13 => .success ⟨_, key_a_press_valid⟩
      | 23 => .success ⟨_, key_a_release_valid⟩
      | 19 | 28 => .success ⟨_, synchronization_boundary_valid⟩
      | _ => .errno .EAGAIN }

theorem key_stroke_normal : NormalClock key_stroke := by
  intro k now hnow
  obtain rfl : ⟨k, 0⟩ = now := Option.some.inj hnow
  simp [Timespec.Normal]

/-- A keyboard that starts paused. -/
def paused_keyboard (detection_throttle_ms : Nat) : SessionConfig :=
  ⟨"keyboard", 5000, detection_throttle_ms, true, true, true⟩

def Action.starts_timer : Action → Bool
  | .timer_set _ _ => true
  | _ => false

/-- A throttle of six seconds, that a tick sees to end before the key is released. -/
theorem a_swept_throttle_is_greedy :
    (run_history (paused_keyboard 6000) key_stroke 6).any Action.starts_timer = true ∧
      Always (SweptEntry (paused_keyboard 6000))
        (run_history (paused_keyboard 6000) key_stroke 6) :=
  ⟨by decide +kernel, the_throttle_is_greedy_while_the_ticks_come_in_time _ _ _ key_stroke_normal
    ⟨by decide, by decide⟩ (by decide)⟩

instance (s : Session) (past : List Action) : Decidable (PausedPeriod s past) :=
  inferInstanceAs (Decidable (_ ∧ _ ∧ _))

instance (config : SessionConfig) (s : Session) (past : List Action) :
    Decidable (Greedy config s past) :=
  inferInstanceAs (Decidable (_ ∧ _))

instance ThrottleEntry.decidable (config : SessionConfig) (a : Action) (past : List Action) :
    Decidable (ThrottleEntry config a past) := by
  cases a with
  | observed point s =>
    exact inferInstanceAs (Decidable (PausedPeriod s past → Greedy config s past))
  | _ => exact isTrue trivial

/-- A throttle of ten seconds ends between a tick and the release of the key, which does not
start it again. -/
theorem an_event_before_the_tick_is_lost :
    ¬ Always (ThrottleEntry (paused_keyboard 10000))
      (run_history (paused_keyboard 10000) key_stroke 5) := by
  decide +kernel

end input_proxy
