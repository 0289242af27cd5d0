-- Activity while running. While the control object lives, the property is
-- true exactly if the session is unpaused and an eligible event of this period
-- is younger than the activity timeout.
import InputProxy.ActivityPeriods
import InputProxy.Neutrality

open programs Program

namespace input_proxy

/-! ## The law -/

theorem timer_isSome (s : Session) (mode : Mode) :
    (s.timer mode).isSome = s.timer_active mode := by
  unfold Session.timer
  cases s.timer_active mode <;> rfl

/-- What an observation with a control object says about the activity while running, at the
time of the latest sample of the period. -/
def RunningEntry (config : SessionConfig) (a : Action) (past : List Action) : Prop :=
  match a with
  | .observed _ s => s.runtime_control.isSome → s.runtime_state.paused = paused_last config past ∧
    (samples past = [] → s.runtime_state.activity_while_running = false) ∧
    ∀ x rest, samples past = x :: rest → Timer.Ordered (x :: rest) →
      (s.runtime_state.activity_while_running = true ↔ s.runtime_state.paused = false ∧
        ∃ e, .event e ∈ x :: rest ∧ x.time < e + milliseconds config.activity_timeout_ms)
  | _ => True

/-- The timer that the period gives, read as a condition on its events. -/
theorem running_entry {config : SessionConfig} {a : Action} {past : List Action}
    (ha : ActivityEntry a past) (ht : TimedEntry config a past) : RunningEntry config a past := by
  cases a with
  | observed point s =>
    intro hc
    obtain ⟨hpaused, htimed, _⟩ := ht hc
    obtain ⟨hmodes, _⟩ := ha
    refine ⟨hpaused, fun hnone => ?_, fun x rest hsamples hordered => ?_⟩
    · by_contra hactive
      have hactive : s.runtime_state.activity_while_running = true := by simpa using hactive
      have hrunning := hmodes.running_iff.mp hactive
      rw [hmodes.running_unpaused hactive, hnone] at htimed
      have hsome := (timer_isSome s .running).trans hrunning
      rw [show s.timer .running = none from htimed] at hsome
      cases hsome
    cases hp : s.runtime_state.paused with
    | true =>
      refine ⟨fun hactive => ?_, fun h => (nomatch h.1)⟩
      rw [hmodes.running_unpaused hactive] at hp
      cases hp
    | false =>
      rw [hp] at htimed
      have hspec := @Timer.run_isSome_iff _ _ _ (config.timer .running) _ _ _ rfl
        (milliseconds_nonneg _) hordered
      rw [hmodes.running_iff, show s.running_activity_timer_active = s.timer_active .running from
        rfl, ← timer_isSome, show s.timer .running = _ from htimed, hsamples]
      exact hspec.trans ⟨fun h => ⟨rfl, h⟩, fun h => h.2⟩
  | _ => trivial

/-! ## Every run -/

/-- In every run, as long as a control object lives: after every sample of the clock the
property is true exactly if the session is unpaused and an eligible event since the last
transition is younger than the timeout. Such an event is one of a normal read, eligible in
this pause state; and with a readable clock none of them is passed over. -/
theorem activity_while_running_lasts_as_long_as_an_event_is_recent (config : SessionConfig)
    (answers : Nat → Answer) (fuel : Nat) (hclock : NormalClock answers)
    (hfit : config.durations_fit) :
    Always (RunningEntry config) (run_history config answers fuel) ∧
      Always (ActiveEntry config) (run_history config answers fuel) ∧
      (Readable answers → Always (SampledEntry config) (run_history config answers fuel)) := by
  have hread := read_invariant config answers fuel
  have htimed := timed_always config answers fuel hclock hfit
  have hactivity := (activity_invariant config answers fuel).lawful
  refine ⟨(hactivity.and htimed).mono fun a past h _ => running_entry h.1 h.2, hread.active,
    hread.sampled⟩

-- Only the kernel runs the session on this script.
attribute [local irreducible] run_history

theorem key_a_press_valid : InputEvent.valid ⟨EV_KEY, KEY_A, 1⟩ := by decide

theorem key_a_release_valid : InputEvent.valid ⟨EV_KEY, KEY_A, 0⟩ := by decide

/-- A key is pressed. Each call takes a second. -/
def key_press (n : Nat) : Answer :=
  { clock := some ⟨n, 0⟩
    evdev := some (.untouched keyboard)
    read := if n = 18 then .success ⟨_, key_a_press_valid⟩ else .errno .EAGAIN }

theorem key_press_normal : NormalClock key_press := by
  intro k now hnow
  obtain rfl : ⟨k, 0⟩ = now := Option.some.inj hnow
  simp [Timespec.Normal]

def Action.shows_running : Action → Bool
  | .observed _ s => s.runtime_state.activity_while_running
  | _ => false

/-- The press is activity for five seconds. -/
theorem a_key_press_is_activity_while_running :
    (run_history ⟨"keyboard", 5000, 250, true, true, false⟩ key_press 5).any
        Action.shows_running = true ∧
      Always (RunningEntry ⟨"keyboard", 5000, 250, true, true, false⟩)
        (run_history ⟨"keyboard", 5000, 250, true, true, false⟩ key_press 5) :=
  ⟨by decide +kernel, (activity_while_running_lasts_as_long_as_an_event_is_recent _ _ _
    key_press_normal ⟨by decide, by decide⟩).1⟩

end input_proxy
