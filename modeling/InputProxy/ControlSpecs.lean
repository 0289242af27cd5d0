-- The specs of the control object, the activity tracking and the waits' clock
-- reads: each of these functions is a path of control steps.
import InputProxy.Resources

open programs Program

namespace input_proxy

/-! ## The primitives -/

section primitives

variable {I : World → Prop} {w : World}

@[simp] theorem wp_session {Q : Session → World → Prop} :
    wp I session Q w ↔ Q w.session w := Iff.rfl

@[simp] theorem wp_modify_session {f : Session → Session} {Q : Unit → World → Prop} :
    wp I (modify_session f) Q w ↔ Q () { w with session := f w.session } := Iff.rfl

@[simp] theorem wp_record {a : Action} {Q : Unit → World → Prop} :
    wp I (record a) Q w ↔ Q () { w with history := a :: w.history } := Iff.rfl

@[simp] theorem wp_observe {p : Point} {Q : Unit → World → Prop} :
    wp I (observe p) Q w ↔ Q () { w with history := .observed p w.session :: w.history } :=
  Iff.rfl

@[simp] theorem wp_record_emitted {properties : List Property} {ok : Bool}
    {Q : Unit → World → Prop} : wp I (record_emitted properties ok) Q w ↔
      Q () { w with history := .emitted w.session.runtime_state properties ok :: w.history } :=
  Iff.rfl

@[simp] theorem wp_ask {Q : Answer → World → Prop} :
    wp I ask Q w ↔ Q (w.answers w.asked) { w with asked := w.asked + 1 } := Iff.rfl

@[simp] theorem wp_new_id {Q : Nat → World → Prop} :
    wp I new_id Q w ↔ Q w.history.length w := Iff.rfl

@[simp] theorem wp_monotonic_now {Q : Option Timespec → World → Prop} :
    wp I monotonic_now Q w ↔ Q (w.answers w.asked).clock { w with asked := w.asked + 1 } :=
  Iff.rfl

end primitives

/-! ## Paths of control steps -/

abbrev ControlSteps : Moment → Moment → Prop := Relation.ReflTransGen ControlStep

/-- From every world that `P` allows, the program is a path of control steps. -/
def Controls {α : Type} (P : World → Prop) (f : M α) : Prop :=
  ∀ w, P w → wp (fun _ => False) f (fun _ w' => ControlSteps w.moment w'.moment) w

section controls

variable {α β : Type} {P : World → Prop} {f : M α} {g : α → M β} {w : World}

theorem Controls.call {I : World → Prop} {Q : α → World → Prop} (h : Controls P f) (hw : P w)
    (hQ : ∀ a w', ControlSteps w.moment w'.moment → Q a w') : wp I f Q w :=
  wp_mono (h w hw) (fun _ h => h.elim) hQ

theorem Controls.bind (hf : Controls P f) (hg : ∀ a, Controls (fun _ => True) (g a)) :
    Controls P (f >>= g) := by
  intro w hw
  refine wp_bind.mpr (hf.call hw fun a w1 h1 => ?_)
  exact (hg a).call trivial fun b w2 h2 => h1.trans h2

theorem Controls.pure (a : α) : Controls P (pure a) := fun _ _ => .refl

theorem Controls.session : Controls P session := fun _ _ => .refl

theorem Controls.ask : Controls P ask := fun _ _ => .refl

theorem Controls.monotonic_now : Controls P monotonic_now := fun _ _ => .refl

theorem Controls.observe : Controls P (observe .step) := fun w _ =>
  .single (.observe w.moment)

theorem Controls.emitted {properties : List Property} {ok : Bool} :
    Controls P (record_emitted properties ok) := fun w _ => .single (.emitted w.moment _ _)

theorem Controls.modify {h : Session → Session}
    (hh : ∀ w, P w → ControlStep w.moment (w.moment.put h)) : Controls P (modify_session h) :=
  fun w hw => .single (hh w hw)

theorem Controls.record {a : Action} (ha : ∀ w, P w → ControlStep w.moment (w.moment.log a)) :
    Controls P (record a) :=
  fun w hw => .single (ha w hw)

theorem Controls.ite {c : Prop} [Decidable c] {f' : M α} (hf : c → Controls P f)
    (hf' : ¬ c → Controls P f') : Controls P (if c then f else f') := by
  split
  · exact hf ‹_›
  · exact hf' ‹_›

end controls

/-! ## The control object -/

theorem emit_properties_changed.spec (control : RuntimeControl) (properties : List Property) :
    Controls (fun _ => True) (emit_properties_changed control properties) := by
  unfold emit_properties_changed
  refine Controls.ask.bind fun a => Controls.emitted.bind fun _ => ?_
  refine Controls.ite (fun _ => Controls.ite (fun _ => ?_) fun _ => ?_) fun _ => .pure _
  · exact .modify fun w _ => .control _ _
  · exact .modify fun w _ => .control _ _

/-- The commit, and then at most the notification. -/
theorem runtime_control_apply_changes.spec {I : World → Prop} (control : Bool)
    (changes : Changes) (w : World) {Q : Unit → World → Prop}
    (hQ : ∀ w', ControlSteps
      (w.moment.put fun s => { s with runtime_state := s.runtime_state.commit changes })
      w'.moment → Q () w') :
    wp I (runtime_control_apply_changes control changes) Q w := by
  unfold runtime_control_apply_changes
  simp only [wp_bind, wp_session, wp_modify_session]
  split
  · exact hQ _ .refl
  · split
    · exact hQ _ .refl
    · exact (emit_properties_changed.spec _ _).call trivial fun _ w' h => hQ w' h

theorem discard_activity_tracking.spec : Controls (fun _ => True) discard_activity_tracking := by
  intro w _
  unfold discard_activity_tracking
  simp only [wp_bind, wp_modify_session]
  exact runtime_control_apply_changes.spec _ _ _ fun w' h => .head (.discard w.moment) h

theorem schedule_runtime_control_retry.spec :
    Controls (fun _ => True) schedule_runtime_control_retry := by
  unfold schedule_runtime_control_retry
  refine Controls.monotonic_now.bind fun now => ?_
  cases now with
  | none => exact .modify fun w _ => .retry _ _ _
  | some now =>
    exact (Controls.modify fun w _ => .retry _ _ _).bind fun _ =>
      .record fun w _ => .retry_scheduled _ _

theorem update_control_availability.spec :
    Controls (fun _ => True) update_control_availability := by
  unfold update_control_availability
  refine Controls.session.bind fun s => ?_
  split
  · split
    · exact discard_activity_tracking.spec.bind fun _ =>
        schedule_runtime_control_retry.spec.bind fun _ => .observe
    · exact .observe
  · split
    · exact (Controls.modify fun w _ => .tracking _ _).bind fun _ => .observe
    · exact .observe

theorem recover_runtime_control.spec (now : Timespec) :
    Controls (fun _ => True) (recover_runtime_control now) := by
  intro w _
  unfold recover_runtime_control
  simp only [wp_bind, wp_session, wp_ask]
  split
  · exact .single (.retry w.moment _ _)
  · simp only [wp_bind, wp_record, create_runtime_control, wp_ask, wp_session, wp_pure]
    have hr : ControlSteps w.moment (w.moment.log (.recreating w.session now)) :=
      .single (.recreating _ _)
    split
    · simp only [wp_bind, wp_modify_session]
      have hc := hr.tail (.control _ none)
      split
      · exact hc.tail (.retry _ false _)
      · exact schedule_runtime_control_retry.spec.call trivial fun _ w' h => hc.trans h
    · rename_i control _
      have hc := hr.tail (.control _ (some control))
      exact (hc.tail (.retry _ false _)).tail (.tracking _ true)

theorem process_runtime_control_recovery.spec :
    Controls (fun _ => True) process_runtime_control_recovery := by
  unfold process_runtime_control_recovery
  refine update_control_availability.spec.bind fun _ => Controls.session.bind fun s => ?_
  refine .ite (fun _ => .pure _) fun _ => Controls.monotonic_now.bind fun now => ?_
  cases now with
  | none => exact .pure _
  | some now =>
    exact .ite (fun _ => .pure _) fun _ =>
      (recover_runtime_control.spec now).bind fun _ => .observe

theorem start_runtime_control.spec : Controls (fun _ => True) start_runtime_control := by
  intro w _
  unfold start_runtime_control
  simp only [wp_bind, create_runtime_control, wp_ask, wp_session, wp_pure]
  split
  · rename_i control _
    exact .tail (.single (.control w.moment (some control))) (.tracking _ true)
  · simp only [wp_bind, wp_modify_session]
    have hc : ControlSteps w.moment _ :=
      .tail (.single (.control w.moment none)) (.tracking _ false)
    split
    · exact schedule_runtime_control_retry.spec.call trivial fun _ w' h => hc.trans h
    · exact hc

/-! ## Activity -/

/-- The end of every change: the commit, the notification, the availability. -/
theorem apply_and_update.spec {I : World → Prop} (changes : Changes) (w : World)
    {Q : Unit → World → Prop}
    (hQ : ∀ w', ControlSteps
      (w.moment.put fun s => { s with runtime_state := s.runtime_state.commit changes })
      w'.moment → Q () w') :
    wp I (runtime_control_apply_changes true changes)
      (fun _ w1 => wp I update_control_availability Q w1) w := by
  refine runtime_control_apply_changes.spec _ _ _ fun w1 h1 => ?_
  exact update_control_availability.spec.call trivial fun _ w2 h2 => hQ w2 (h1.trans h2)

theorem process_paused_activity.spec (now : Timespec) :
    Controls (fun w => w.session.runtime_state.paused = true) (process_paused_activity now) := by
  intro w hp
  unfold process_paused_activity
  simp only [wp_bind, wp_session]
  split
  · exact .refl
  · simp only [wp_bind, wp_modify_session]
    split
    · rename_i hd
      simp only [wp_bind, wp_modify_session, wp_record]
      have hb : (w.session.detection_throttle_ms != 0) = true := by simpa using hd
      simp only [hb]
      exact apply_and_update.spec _ _ fun w' h => .head (.paused_set w.moment now _ hp) h
    · rename_i hd
      have hb : (w.session.detection_throttle_ms != 0) = false := by simpa using hd
      simp only [hb, wp_bind]
      exact apply_and_update.spec _ _ fun w' h => .head (.paused_zero w.moment hp) h

theorem process_running_activity.spec (now : Timespec) :
    Controls (fun w => w.session.runtime_state.paused = false) (process_running_activity now) := by
  intro w hp
  unfold process_running_activity
  simp only [wp_bind, wp_session, wp_modify_session]
  split
  · rename_i hd
    simp only [wp_bind, wp_modify_session, wp_record]
    have hb : (w.session.activity_timeout_ms != 0) = true := by simpa using hd
    simp only [hb]
    exact apply_and_update.spec _ _ fun w' h => .head (.running_set w.moment now _ hp) h
  · rename_i hd
    have hb : (w.session.activity_timeout_ms != 0) = false := by simpa using hd
    simp only [hb, wp_bind]
    exact apply_and_update.spec _ _ fun w' h => .head (.running_zero w.moment hp) h

theorem process_physical_activity.spec : Controls (fun _ => True) process_physical_activity := by
  unfold process_physical_activity
  refine update_control_availability.spec.bind fun _ => Controls.session.bind fun s => ?_
  refine .ite (fun _ => .pure _) fun _ => Controls.monotonic_now.bind fun now => ?_
  cases now with
  | none => exact .pure _
  | some now =>
    refine (Controls.record fun w _ => .eligible _ _).bind fun _ => ?_
    intro w _
    simp only [wp_bind, wp_session]
    split
    · rename_i hp
      exact process_paused_activity.spec now w hp
    · rename_i hp
      exact process_running_activity.spec now w (by simpa using hp)

/-- Each timer that has expired is a step of its own. -/
theorem expire_activity_timers.spec (now : Timespec) :
    Controls (fun _ => True) (expire_activity_timers now) := by
  intro w _
  unfold expire_activity_timers
  simp only [wp_bind, wp_session]
  cases hr : w.session.running_activity_timer_active &&
      deadline_expired w.session.running_activity_deadline now <;>
    cases hp : w.session.paused_activity_timer_active &&
      deadline_expired w.session.paused_activity_deadline now
  · exact .refl
  · have ht : w.session.paused_activity_timer_active = true := by simp_all
    simp only [Bool.false_eq_true, if_false, if_true, Bool.false_or, wp_bind, wp_modify_session,
      wp_record]
    exact apply_and_update.spec _ _ fun w' h => .head (.paused_expired w.moment ht) h
  · have ht : w.session.running_activity_timer_active = true := by simp_all
    simp only [Bool.false_eq_true, if_false, if_true, Bool.true_or, wp_bind, wp_modify_session,
      wp_record]
    exact apply_and_update.spec _ _ fun w' h => .head (.running_expired w.moment ht) h
  · have h1 : w.session.running_activity_timer_active = true := by simp_all
    have h2 : w.session.paused_activity_timer_active = true := by simp_all
    simp only [if_true, Bool.true_or, wp_bind, wp_modify_session, wp_record]
    exact apply_and_update.spec _ _ fun w' h =>
      .head (.running_expired w.moment h1) (.head (.paused_expired _ h2) h)

theorem session_process_activity_timers.spec :
    Controls (fun _ => True) session_process_activity_timers := by
  unfold session_process_activity_timers
  refine update_control_availability.spec.bind fun _ => Controls.session.bind fun s => ?_
  refine .ite (fun _ => .pure _) fun _ => Controls.monotonic_now.bind fun now => ?_
  cases now with
  | none => exact .pure _
  | some now =>
    exact (Controls.record fun w _ => .ticked _ _).bind fun _ => expire_activity_timers.spec now

/-! ## The rest -/

theorem report_libinput_status.spec : Controls (fun _ => True) report_libinput_status := by
  unfold report_libinput_status
  refine Controls.session.bind fun s => .ite (fun _ => ?_) fun _ => .pure _
  refine Controls.ask.bind fun a => .ite (fun _ => ?_) fun _ => .pure _
  exact .modify fun w _ => .diagnosed _

theorem deadline_wait_timeout_usec.spec (deadline : Option Timespec) (maximum_usec : Nat) :
    Controls (fun _ => True) (deadline_wait_timeout_usec deadline maximum_usec) := by
  unfold deadline_wait_timeout_usec
  cases deadline with
  | none => exact .pure _
  | some deadline =>
    refine Controls.monotonic_now.bind fun now => ?_
    cases now with
    | none => exact .pure _
    | some now => exact .ite (fun _ => .pure _) fun _ => .pure _

theorem runtime_wait_timeout_usec.spec (maximum_usec : Nat) :
    Controls (fun _ => True) (runtime_wait_timeout_usec maximum_usec) := by
  unfold runtime_wait_timeout_usec
  refine session_process_activity_timers.spec.bind fun _ => Controls.session.bind fun s => ?_
  refine (deadline_wait_timeout_usec.spec _ _).bind fun timeout => ?_
  exact .ite (fun _ => deadline_wait_timeout_usec.spec _ _) fun _ => .pure _

/-- The source counts as available, or not, and then the control steps follow. -/
theorem set_source_available.spec {I : World → Prop} (available : Bool) (w : World)
    {Q : Unit → World → Prop}
    (hQ : ∀ w', ControlSteps
      (w.moment.put fun s =>
        { s with runtime_state := { s.runtime_state with source_available := available } })
      w'.moment → Q () w') :
    wp I (set_source_available available) Q w :=
  wp_bind.mpr (apply_and_update.spec _ _ hQ)

/-- The commit of a pause state, and then the control steps. -/
theorem commit_paused.spec {I : World → Prop} (paused : Bool) (w : World)
    {Q : Unit → World → Prop}
    (hQ : ∀ w', ControlSteps (w.moment.commit paused) w'.moment → Q () w') :
    wp I (commit_paused paused) Q w := by
  unfold commit_paused
  simp only [wp_bind, wp_modify_session, wp_record]
  cases paused
  · exact apply_and_update.spec _ _ hQ
  · exact apply_and_update.spec _ _ hQ

end input_proxy
