-- The refinement: whatever the world answers, every run of the session is a
-- path of the lifecycle, and a run that returns `r` has stopped with `r`.
import InputProxy.CorrectionSpecs

open programs Program

namespace input_proxy

/-! ## Being in a phase -/

/-- The world is at a moment that the lifecycle reaches in this phase. -/
def At (config : SessionConfig) (ph : Phase) (w : World) : Prop := Reach config (ph, w.moment)

/-- The world is at a moment at which the lifecycle can be cut short. -/
def Reached (config : SessionConfig) (w : World) : Prop := ∃ ph, ph.resting ∧ At config ph w

section at_rules

variable {config : SessionConfig} {ph ph' : Phase} {w w' : World}

theorem At.reached (h : At config ph w) (hr : ph.resting) : Reached config w := ⟨ph, hr, h⟩

theorem At.step (h : At config ph w) (hs : Step (ph, w.moment) (ph', w'.moment)) :
    At config ph' w' := Relation.ReflTransGen.tail h hs

theorem At.eq (h : At config ph w) (hm : w'.moment = w.moment) : At config ph w' := by
  unfold At
  rw [hm]
  exact h

/-- Control steps stay in the phase. -/
theorem reach_control {m m' : Moment} (h : Reach config (ph, m)) (hs : ControlSteps m m') :
    Reach config (ph, m') := by
  induction hs with
  | refl => exact h
  | tail _ hs ih => exact Relation.ReflTransGen.tail ih (.control hs)

theorem At.control (h : At config ph w) (hs : ControlSteps w.moment w'.moment) :
    At config ph w' := reach_control h hs

/-- A step, and then control steps. -/
theorem At.step_control {m : Moment} (h : At config ph w) (hs : Step (ph, w.moment) (ph', m))
    (hc : ControlSteps m w'.moment) : At config ph' w' :=
  reach_control (Relation.ReflTransGen.tail h hs) hc

theorem At.holds (h : At config ph w) : Holds ph w.session := holds_reach h

end at_rules

/-- Between two phases, and at a cut somewhere on a path of the lifecycle. -/
abbrev Leads {α : Type} (config : SessionConfig) (ph : Phase) (f : M α) (ph' : α → Phase) : Prop :=
  Spec (Reached config) (At config ph) f fun a => At config (ph' a)

theorem Controls.leads {α : Type} {f : M α} {config : SessionConfig} {ph : Phase}
    (h : Controls (fun _ => True) f) : Leads config ph f fun _ => ph :=
  fun _ hw => h.call trivial fun _ _ hc => hw.control hc

/-! ## Pause and Resume -/

theorem correct_state.spec (paused : Bool) :
    Does (fun w => w.session.runtime_state.source_available = true →
        w.session.source_device.isSome ∧ w.session.virtual_device.isSome)
      (correct_state paused) (Corrects paused) := by
  intro w hw
  unfold correct_state
  simp only [wp_bind, wp_session]
  split
  · rename_i ha
    obtain ⟨hs, hd⟩ := hw ha
    simp only [wp_bind, wp_record]
    cases paused with
    | true =>
      exact virtual_device_neutralize.spec.call hd fun r w' h => .pause ha rfl h
    | false =>
      exact session_synchronize_state.spec.call ⟨hs, hd⟩ fun r w' h => .resume ha rfl h
  · rename_i ha
    have ha : w.session.runtime_state.source_available = false := by simpa using ha
    exact .none ha

/-- A dispatch point has the devices that a correction needs. -/
theorem LoopHolds.devices {l : Loop} {s : Session} (h : LoopHolds l s)
    (ha : s.runtime_state.source_available = true) :
    s.source_device.isSome ∧ s.virtual_device.isSome := by
  cases l with
  | waiting t => rw [h.2] at ha; cases ha
  | active => exact ⟨h.1, h.2.2⟩

theorem session_request_paused.spec (config : SessionConfig) (l : Loop) (p : Bool) :
    Leads config (.handling l p) (session_request_paused p) (.replying l p) := by
  intro w hw
  unfold session_request_paused
  simp only [wp_bind, wp_session]
  split
  · rename_i hp
    exact hw.step (.unchanged hp)
  rename_i hp
  have hd : LoopHolds l w.session := hw.holds
  simp only [wp_bind, wp_record]
  refine (correct_state.spec p).call (fun ha => hd.devices ha) fun r w1 h1 => ?_
  have h1 : Corrects p (w.moment.log (.requested p)) r w1.moment := h1
  split
  · rename_i hr
    simp only [wp_bind, wp_modify_session, wp_record, wp_pure]
    exact hw.step (.failed hp h1 hr)
  · rename_i hr
    obtain rfl := not_not.mp hr
    refine wp_bind.mpr (commit_paused.spec p w1 fun w2 h2 => ?_)
    exact hw.step_control (.changed hp h1) h2

/-! ## Dispatch and waits -/

section dispatch

variable (config : SessionConfig) (l : Loop)

theorem request_paused_method.spec (p : Bool) :
    Leads config (.idle l) (request_paused_method session_request_paused p) fun _ => .idle l := by
  intro w hw
  unfold request_paused_method
  simp only [wp_bind, wp_record]
  refine (session_request_paused.spec config l p).call (hw.step (.call p)) fun r w1 h1 => ?_
  exact h1.step .reply

theorem finish_dispatch.spec (processed : Processed) :
    Leads config (.idle l) (finish_dispatch processed) fun _ => .idle l := by
  intro w hw
  have h : Reach config (.idle l, (w.moment.put fun s =>
      { s with runtime_control := s.runtime_control.map ({ · with dispatch_active := false }) })) :=
    Relation.ReflTransGen.tail hw (.control (.control _ _))
  unfold finish_dispatch
  simp only [wp_bind, wp_modify_session, wp_session]
  split
  · exact Relation.ReflTransGen.tail h (.control (.control _ none))
  · split
    · exact h
    · exact h
    · exact Relation.ReflTransGen.tail h (.control (.control _ none))

theorem dispatch_messages.spec :
    Leads config (.idle l) (dispatch_messages session_request_paused ()) fun _ => .idle l := by
  intro w hw
  unfold dispatch_messages
  simp only [wp_bind, wp_modify_session, wp_observe, wp_ask]
  have h1 : Reach config (.idle l, (w.moment.put fun s =>
      { s with runtime_control := s.runtime_control.map ({ · with dispatch_active := true }) })) :=
    Relation.ReflTransGen.tail hw (.control (.control _ _))
  have h2 := Relation.ReflTransGen.tail h1 .dispatch
  split
  · simp only [wp_bind]
    exact (request_paused_method.spec config l _).call h2 fun _ w1 hw1 =>
      finish_dispatch.spec config l _ w1 hw1
  · exact finish_dispatch.spec config l _ _ h2

theorem runtime_control_process.spec (fuel : Nat) :
    Leads config (.idle l) (runtime_control_process session_request_paused fuel)
      fun _ => .idle l := by
  intro w hw
  unfold runtime_control_process
  simp only [wp_bind, wp_session]
  split
  · exact hw
  · refine Spec.loop (fun _ => At config (.idle l)) (fun _ _ h => h.reached trivial) ?_ fuel () w hw
    exact fun _ => (dispatch_messages.spec config l).mono (fun _ h => h) fun r _ h => by
      cases r <;> exact h

theorem runtime_control_wait.spec (fuel timeout_usec : Nat) :
    Leads config (.idle l) (runtime_control_wait session_request_paused fuel timeout_usec)
      fun _ => .idle l := by
  intro w hw
  unfold runtime_control_wait
  simp only [wp_bind, wp_session]
  split
  · exact hw
  · simp only [wp_bind, wp_ask]
    split
    · exact hw
    · exact hw.step (.control (.control _ none))
    · exact runtime_control_process.spec config l fuel _ hw

theorem wait_with_activity_timer.spec (fuel maximum_usec : Nat) :
    Leads config (.idle l) (wait_with_activity_timer fuel maximum_usec) fun _ => .idle l := by
  unfold wait_with_activity_timer
  refine Spec.bind (runtime_wait_timeout_usec.spec _).leads fun timeout_usec => ?_
  refine Spec.bind (runtime_control_wait.spec config l fuel timeout_usec) fun _ => ?_
  refine Spec.bind update_control_availability.spec.leads fun _ => ?_
  exact Spec.bind session_process_activity_timers.spec.leads fun _ =>
    process_runtime_control_recovery.spec.leads

theorem service_runtime_control.spec (fuel : Nat) :
    Leads config (.idle l) (service_runtime_control fuel) fun _ => .idle l := by
  unfold service_runtime_control
  refine Spec.bind (runtime_control_process.spec config l fuel) fun _ => ?_
  refine Spec.bind update_control_availability.spec.leads fun _ => ?_
  exact Spec.bind process_runtime_control_recovery.spec.leads fun _ =>
    session_process_activity_timers.spec.leads

end dispatch

/-! ## Shutdown -/

/-- A read of `shutdown_requested` leaves the session as it was, or sets the flag. -/
theorem shutdown_requested.spec {I : World → Prop} {w : World} {Q : Bool → World → Prop}
    (hfalse : ∀ w', w'.moment = w.moment → w.session.shutdown_requested = false → Q false w')
    (htrue : ∀ w', w'.moment = (w.moment.put fun s => { s with shutdown_requested := true }) →
      Q true w') : wp I shutdown_requested Q w := by
  unfold shutdown_requested
  simp only [wp_bind, wp_ask, wp_modify_session, wp_session, wp_pure]
  cases hs : w.session.shutdown_requested || (w.answers w.asked).signal with
  | true =>
    refine htrue _ ?_
    simp [World.moment, Moment.put]
  | false =>
    have hf : w.session.shutdown_requested = false := (Bool.or_eq_false_iff.mp hs).1
    refine hfalse _ ?_ hf
    simp only [World.moment]
    rw [← hf]

theorem loop_ends.spec (config : SessionConfig) (l : Loop) :
    Spec (Reached config) (At config (.idle l)) loop_ends fun b w =>
      if b then At config (.ended .SUCCESS) w ∧ w.session.shutdown_requested = true
      else At config (.idle l) w := by
  intro w hw
  unfold loop_ends
  refine wp_bind.mpr (shutdown_requested.spec (fun w1 h1 hs => ?_) fun w1 h1 => ?_)
  · refine hw.step ?_
    change Step _ (_, w1.moment.log (.tested false))
    rw [h1]
    exact .go_on hs
  · constructor
    · refine hw.step ?_
      change Step _ (_, w1.moment.log (.tested true))
      rw [h1]
      exact .shutdown
    · change w1.moment.session.shutdown_requested = true
      rw [h1]
      rfl

/-! ## The fatal result -/

/-- A correction fails in a query, in a write, or because the source is gone. -/
def CorrectionFailure (r : Result) : Prop :=
  r = .ERROR_EVENT_READ_FAILED ∨ r = .ERROR_OUT_OF_MEMORY ∨ r = .ERROR_EVENT_WRITE_FAILED ∨
    r = .ERROR_SOURCE_DISCONNECTED

theorem Neutralize.result {m m' : Moment} {r : Result} (h : Neutralize m r m') :
    r = .SUCCESS ∨ CorrectionFailure r := by
  cases h with
  | unread hd hr => exact hr.elim (fun h => .inr (.inl h)) fun h => .inr (.inr (.inl h))
  | wrote hd hw =>
    rcases hw.outcome with ⟨hr, _⟩ | ⟨hr, _⟩
    · exact .inl hr
    · exact .inr (.inr (.inr (.inl hr)))

theorem Synchronize.result {m m' : Moment} {r : Result} (h : Synchronize m r m') :
    r = .SUCCESS ∨ CorrectionFailure r := by
  cases h with
  | uncaptured hr => exact hr.elim (fun h => .inr (.inl h)) fun h => .inr (.inr (.inl h))
  | unwritten hs hb hw hr =>
    rcases hw.outcome with ⟨hr, _⟩ | ⟨hr, _⟩
    · exact .inl hr
    · exact .inr (.inr (.inr (.inl hr)))
  | checked hs hb hw hr =>
    rcases hr with hr | hr | hr
    · exact .inl hr
    · exact .inr (.inr (.inr (.inr hr)))
    · exact .inr (.inl hr)

theorem Corrects.result {p : Bool} {m m' : Moment} {r : Result} (h : Corrects p m r m') :
    r = .SUCCESS ∨ CorrectionFailure r := by
  cases h with
  | none h => exact .inl rfl
  | pause h hp hn => exact hn.result
  | resume h hp hn => exact hn.result

theorem SameButState.fatal {m m' : Moment} (h : SameButState m m') :
    m'.session.fatal_result = m.session.fatal_result := by
  obtain ⟨es, hes⟩ := h.session
  rw [hes]

/-- Only a failed correction of a request changes the fatal result. -/
theorem fatal_step {ph ph' : Phase} {m m' : Moment} (h : Step (ph, m) (ph', m')) :
    m'.session.fatal_result = m.session.fatal_result ∨
      CorrectionFailure m'.session.fatal_result := by
  cases h with
  | control h => exact .inl h.same.2.2.2.2.1
  | changed hp hc => exact .inl (by rw [Moment.commit_session]; exact hc.same.of_log.fatal)
  | failed hp hc hr => exact .inr (hc.result.resolve_left hr)
  | incompatible hd hs hc => exact .inl (by simp)
  | create_failed hr => exact .inl (by simp)
  | synchronized hp hs | not_synchronized hp hs hr => exact .inl hs.same.fatal
  | neutralized hn | not_neutralized hn hr =>
    exact .inl (by rw [Moment.close_session]; exact hn.same.of_log.fatal)
  | clean => exact .inl (by simp)
  | _ => exact .inl rfl

theorem fatal_reach {config : SessionConfig} {x : Phase × Moment} (h : Reach config x) :
    x.2.session.fatal_result = .SUCCESS ∨ CorrectionFailure x.2.session.fatal_result := by
  refine invariant_of_step (fun x : Phase × Moment =>
    x.2.session.fatal_result = .SUCCESS ∨ CorrectionFailure x.2.session.fatal_result) ?_ ?_ h
  · rintro ⟨ph, m⟩ ⟨ph', m'⟩ hm hs
    rcases fatal_step hs with he | hf
    · exact he ▸ hm
    · exact .inr hf
  · exact .inl rfl

end input_proxy
