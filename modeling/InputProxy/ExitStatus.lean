-- The exit status. A run ends with success only at a shutdown. The shutdown is
-- tested before the flag of a failed correction is, so a shutdown that comes
-- after the failure hides it; any other failure ends the run itself.
import InputProxy.FailClosed
import InputProxy.PermissionSettling

open programs

namespace input_proxy

/-! ## The law -/

/-- A correction, a write, or an operation of a device failed, other than in the ways that
are recovered from: the source unavailable or lost, dropped events, and permission denied
within the settling window of a reacquisition. -/
def fault (a : Action) (past : List Action) : Bool :=
  match a with
  | .neutralized _ _ r | .synchronized r | .checked r => r ≠ .SUCCESS
  | .written _ _ _ ok => !ok
  | .failed _ | .create_failed _ => true
  | .read_failed r => r = .ERROR_EVENT_READ_FAILED
  | .attempted r => r ≠ .ERROR_SOURCE_UNAVAILABLE ∧
      ¬ (r = .ERROR_SOURCE_PERMISSION_DENIED ∧ opened_before past = true)
  | .sampled now => (settle (settling_deadline past) now).isRight
  | _ => false

/-- Nothing has failed in the run. -/
def Clean (h : List Action) : Prop := Always (fun a past => fault a past = false) h

instance (h : List Action) : Decidable (Clean h) :=
  inferInstanceAs (Decidable (Always (fun a past => fault a past = false) h))

/-- A loop finds that shutdown was requested. -/
def Action.stops : Action → Bool
  | .tested shutdown => shutdown
  | _ => false

/-- No loop finds the shutdown after a correction has failed. -/
def Unhidden (a : Action) (past : List Action) : Prop :=
  a.stops = true → has_failed past = false

instance (a : Action) (past : List Action) : Decidable (Unhidden a past) :=
  inferInstanceAs (Decidable (a.stops = true → has_failed past = false))

/-- An entry that is no fault, whatever its past, and no test that finds the shutdown. -/
def Action.blameless (a : Action) : Prop := a.stops = false ∧ ∀ past, fault a past = false

/-! ## Corrections that succeed -/

section corrections

variable {m m' : Moment}

theorem Adds.wrote_all (cause : Cause) (es : List InputEvent) :
    Adds Action.blameless m (m.wrote_all cause es) := by
  refine ⟨_, rfl, fun a ha => ?_⟩
  obtain ⟨e, _, rfl⟩ := mem_written_entries.mp ha
  exact ⟨rfl, fun _ => rfl⟩

theorem Neutralize.blameless (h : Neutralize m .SUCCESS m') : Adds Action.blameless m m' := by
  cases h with
  | unread hd hr => rcases hr with hr | hr <;> cases hr
  | wrote hd hw =>
    rw [hw.success]
    exact (Adds.wrote_all ..).log ⟨rfl, fun _ => rfl⟩

theorem Synchronize.blameless (h : Synchronize m .SUCCESS m') :
    Adds Action.blameless m m' := by
  cases h with
  | uncaptured hr => rcases hr with hr | hr <;> cases hr
  | unwritten hs hb hw hr => exact absurd rfl hr
  | checked hs hb hw hr =>
    rw [hw.success]
    have hcaptured : ∀ s es, Adds Action.blameless m (m.log (.captured s es)) :=
      fun _ _ => Adds.refl.log ⟨rfl, fun _ => rfl⟩
    exact (((hcaptured _ _).trans (Adds.wrote_all ..)).log ⟨rfl, fun _ => rfl⟩).log
      ⟨rfl, fun _ => rfl⟩

theorem Corrects.blameless {p : Bool} (h : Corrects p (m.log (.requested p)) .SUCCESS m') :
    Adds Action.blameless m m' := by
  have hrequested : Adds Action.blameless m (m.log (.requested p)) :=
    Adds.refl.log ⟨rfl, fun _ => rfl⟩
  have hcorrecting : Adds Action.blameless m
      ((m.log (.requested p)).log (.correcting p m.session)) :=
    hrequested.log ⟨rfl, fun _ => rfl⟩
  cases h with
  | none h => exact hrequested
  | pause h hp hn => exact hcorrecting.trans hn.blameless
  | resume h hp hs => exact hcorrecting.trans hs.blameless

end corrections

/-! ## The invariant -/

/-- The phases from the open of the source to the inner loop. -/
def Phase.acquires : Phase → Prop
  | .opened | .creating | .prepared | .ready => True
  | _ => False

/-- The run has ended with this result. -/
def Phase.ended_with (r : Result) : Phase → Prop
  | .ended r' | .stopped r' => r' = r
  | _ => False

/-- The run has not ended with a failure. -/
def Phase.sound : Phase → Prop
  | .ended r | .stopped r => r = .SUCCESS
  | _ => True

structure ExitInvariant (ph : Phase) (m : Moment) : Prop where
  fatal : m.session.fatal_result = .SUCCESS ↔ has_failed m.history = false
  acquires : ph.acquires → m.session.fatal_result = .SUCCESS
  clean : has_failed m.history = false → ph.sound → Clean m.history
  stops : m.history.any Action.stops = true → ph.ended_with .SUCCESS
  success : ph.ended_with .SUCCESS → m.session.shutdown_requested = true ∧
    (Always Unhidden m.history → has_failed m.history = false)

/-- An entry that is neither the failure of a correction nor a test that finds the shutdown. -/
def Action.quiet (a : Action) : Prop := a.stops = false ∧ a.fails = false

theorem Action.blameless.quiet {a : Action} (h : a.blameless) : a.quiet := by
  refine ⟨h.1, ?_⟩
  cases a with
  | failed r => cases h.2 []
  | _ => rfl

theorem Action.of_correction.quiet {a : Action} (h : a.of_correction) : a.quiet := by
  cases a <;> first | exact ⟨rfl, rfl⟩ | exact h.elim

/-- A failed correction is a fault. -/
theorem Clean.not_failed {h : List Action} (hc : Clean h) : has_failed h = false := by
  induction h with
  | nil => rfl
  | cons a past ih =>
    have ha : a.fails = false := by
      cases a with
      | failed r => cases hc.1
      | _ => rfl
    unfold has_failed at *
    rw [List.any_cons, ha, ih hc.2, Bool.or_false]

/-- No loop has found the shutdown. -/
theorem unhidden_of_no_stop {h : List Action} (hs : h.any Action.stops = false) :
    Always Unhidden h := by
  refine (always_none hs).mono fun a past ha _ hstops => ?_
  rw [ha.1] at hstops
  cases hstops

/-- No correction has failed. -/
theorem unhidden_of_no_failure {h : List Action} (hf : has_failed h = false) :
    Always Unhidden h :=
  (always_none hf).mono fun _ _ ha _ _ => ha.2

section phases

variable {ph ph' : Phase} {m m' : Moment}

/-- From a phase to one that has ended, with this result, exactly if the first has. -/
theorem ExitInvariant.keep (hm : ExitInvariant ph m) (hadds : Adds Action.quiet m m')
    (hclean : Clean m.history → Clean m'.history)
    (hfatal : m'.session.fatal_result = m.session.fatal_result)
    (hshutdown : m.session.shutdown_requested = true → m'.session.shutdown_requested = true)
    (hacquires : ph'.acquires → m.session.fatal_result = .SUCCESS)
    (hsound : ph'.sound → ph.sound)
    (hended : ph'.ended_with .SUCCESS ↔ ph.ended_with .SUCCESS) : ExitInvariant ph' m' := by
  obtain ⟨new, hnew, hall⟩ := hadds
  have hfailed : has_failed m'.history = has_failed m.history := by
    rw [hnew, has_failed_append fun a ha => (hall a ha).2]
  have hstops : m'.history.any Action.stops = m.history.any Action.stops := by
    rw [hnew, any_append_of_none fun a ha => (hall a ha).1]
  refine ⟨?_, fun h => hfatal.trans (hacquires h), fun hf hs => ?_, fun hs => ?_, fun he => ?_⟩
  · rw [hfatal, hfailed]
    exact hm.fatal
  · exact hclean (hm.clean (hfailed ▸ hf) (hsound hs))
  · exact hended.mpr (hm.stops (hstops ▸ hs))
  · obtain ⟨hs, hu⟩ := hm.success (hended.mp he)
    refine ⟨hshutdown hs, fun hall => ?_⟩
    rw [hfailed]
    exact hu (Adds.past ⟨new, hnew, fun _ _ => trivial⟩ hall : Always Unhidden m.history)

theorem Adds.clean (h : Adds Action.blameless m m') (hm : Clean m.history) : Clean m'.history :=
  h.law hm fun _ _ ha => ha.2 _

/-- The run ends with a failure. -/
theorem ExitInvariant.end_with {r : Result} (hm : ExitInvariant ph m)
    (hadds : Adds Action.quiet m m')
    (hfatal : m'.session.fatal_result = m.session.fatal_result)
    (hph : ¬ ph.ended_with .SUCCESS) (hr : r ≠ .SUCCESS) : ExitInvariant (.ended r) m' := by
  obtain ⟨new, hnew, hall⟩ := hadds
  have hfailed : has_failed m'.history = has_failed m.history := by
    rw [hnew, has_failed_append fun a ha => (hall a ha).2]
  refine ⟨?_, fun h => h.elim, fun _ h => absurd h hr, fun hs => ?_, fun h => absurd h hr⟩
  · rw [hfatal, hfailed]
    exact hm.fatal
  · rw [hnew, any_append_of_none fun a ha => (hall a ha).1] at hs
    exact absurd (hm.stops hs) hph

/-- A loop finds the shutdown. -/
theorem ExitInvariant.shutdown {l : Loop} (hm : ExitInvariant (.idle l) m) :
    ExitInvariant (.ended .SUCCESS)
      ((m.put fun s => { s with shutdown_requested := true }).log (.tested true)) := by
  refine ⟨hm.fatal, fun h => h.elim, fun hf _ => ⟨rfl, hm.clean hf trivial⟩, fun _ => rfl,
    fun _ => ⟨rfl, fun hu => ?_⟩⟩
  exact hu.1 rfl

/-- The shutdown is found before forwarding begins. -/
theorem ExitInvariant.interrupted (hm : ExitInvariant .ready m) :
    ExitInvariant (.ended .SUCCESS) (m.put fun s => { s with shutdown_requested := true }) := by
  have hf : has_failed m.history = false := hm.fatal.mp (hm.acquires trivial)
  exact ⟨hm.fatal, fun h => h.elim, fun hf _ => hm.clean hf trivial, fun _ => rfl,
    fun _ => ⟨rfl, fun _ => hf⟩⟩

/-- The correction of a request fails. -/
theorem ExitInvariant.failed {l : Loop} {p : Bool} {r : Result}
    (hm : ExitInvariant (.handling l p) m) (hc : Corrects p (m.log (.requested p)) r m')
    (hr : r ≠ .SUCCESS) : ExitInvariant (.replying l p r)
      ((m'.put fun s => { s with fatal_result := r }).log (.failed r)) := by
  refine ⟨⟨fun h => absurd h hr, fun h => (nomatch h)⟩, fun h => h.elim,
    fun h => (nomatch h), fun hs => ?_, fun h => h.elim⟩
  obtain ⟨new, hnew, hall⟩ : Adds Action.quiet m m' :=
    hc.adds (fun _ ha => ha.quiet) ⟨rfl, rfl⟩ fun _ => ⟨rfl, rfl⟩
  change m'.history.any Action.stops = true at hs
  rw [hnew, any_append_of_none fun a ha => (hall a ha).1] at hs
  exact hm.stops hs

end phases

theorem SameButState.shutdown {m m' : Moment} (h : SameButState m m') :
    m'.session.shutdown_requested = m.session.shutdown_requested := by
  obtain ⟨es, hes⟩ := h.session
  rw [hes]

theorem Action.of_control.blameless {a : Action} (h : a.of_control) : a.blameless := by
  cases a <;> first | exact ⟨rfl, fun _ => rfl⟩ | exact h.elim

theorem exit_step {config : SessionConfig} {ph ph' : Phase} {m m' : Moment}
    (hr : Reach config (ph, m)) (hm : ExitInvariant ph m) (h : Step (ph, m) (ph', m')) :
    ExitInvariant ph' m' := by
  have hkeep : ∀ {ph' m'}, Adds Action.blameless m m' →
      m'.session.fatal_result = m.session.fatal_result →
      (m.session.shutdown_requested = true → m'.session.shutdown_requested = true) →
      (ph'.acquires → m.session.fatal_result = .SUCCESS) → (ph'.sound → ph.sound) →
      (ph'.ended_with .SUCCESS ↔ ph.ended_with .SUCCESS) → ExitInvariant ph' m' :=
    fun ha => hm.keep (ha.mono fun _ h => h.quiet) ha.clean
  have hlog : ∀ {a : Action}, a.blameless → Adds Action.blameless m (m.log a) :=
    fun ha => Adds.refl.log ha
  have hclosed : ∀ id, (Action.closed id).blameless := fun _ => ⟨rfl, fun _ => rfl⟩
  have hdestroyed : ∀ id, (Action.destroyed id).blameless := fun _ => ⟨rfl, fun _ => rfl⟩
  have hsettling := settling_reach hr
  cases h with
  | control h =>
    refine hkeep (h.adds.mono fun _ ha => ha.blameless) h.same.2.2.2.2.1 ?_ hm.acquires id Iff.rfl
    exact fun hs => h.same.2.2.2.2.2.2.trans hs
  | dispatch | loop_head | call | reply | go_on | read_nothing | read_dropped | read_lost
  | recovered | recover_lost =>
    exact hkeep (hlog ⟨rfl, fun _ => rfl⟩) rfl id (fun h => h.elim) id Iff.rfl
  | unchanged | fatal_lost | lose => exact hkeep Adds.refl rfl id (fun h => h.elim) id Iff.rfl
  | @changed l p m m1 hp hc =>
    have hadds : Adds Action.blameless m (m1.commit p) := hc.blameless.put.log ⟨rfl, fun _ => rfl⟩
    refine hkeep hadds ?_ ?_ (fun h => h.elim) id Iff.rfl
    · rw [Moment.commit_session]
      exact hc.same.of_log.fatal
    · rw [Moment.commit_session, hc.same.of_log.shutdown]
      exact id
  | failed hp hc hne => exact hm.failed hc hne
  | shutdown => exact hm.shutdown
  | interrupted => exact hm.interrupted
  | signal_lost | signal_ended =>
    exact hkeep Adds.refl rfl (fun _ => rfl) (fun h => h.elim) id Iff.rfl
  | give_up hf | fatal hf => exact hm.end_with Adds.refl rfl id hf
  | unavailable =>
    exact hkeep (Adds.refl.put.log ⟨rfl, fun _ => rfl⟩) rfl id (fun h => h.elim) id Iff.rfl
  | @denied t t' now m hf ho hs =>
    have hattempted : fault (.attempted .ERROR_SOURCE_PERMISSION_DENIED) m.history = false := by
      simp [fault, hsettling.opened.trans ho]
    have hsampled : ∀ past, settling_deadline past = settling_deadline m.history →
        fault (.sampled now) past = false := by
      intro past hpast
      change (settle (settling_deadline past) now).isRight = false
      rw [hpast, ← hsettling.deadline t rfl, hs]
      rfl
    exact hm.keep ((Adds.refl.put.log ⟨rfl, rfl⟩).log ⟨rfl, rfl⟩)
      (fun hc => ⟨hsampled _ rfl, hattempted, hc⟩) rfl id (fun h => h.elim) id Iff.rfl
  | denied_end hf ho hs =>
    refine hm.end_with ((Adds.refl.put.log ⟨rfl, rfl⟩).log ⟨rfl, rfl⟩) rfl id ?_
    rw [settle_inr hs]
    decide
  | open_failed hf hne => exact hm.end_with (Adds.refl.put.log ⟨rfl, rfl⟩) rfl id hne
  | open_source evdev hf =>
    exact hkeep (Adds.refl.put.log ⟨rfl, fun _ => rfl⟩) rfl id (fun _ => hf) id Iff.rfl
  | compatible =>
    exact hkeep (hlog ⟨rfl, fun _ => rfl⟩) rfl id (fun _ => hm.acquires trivial) id Iff.rfl
  | incompatible =>
    exact hkeep ((hlog ⟨rfl, fun _ => rfl⟩).destroy hdestroyed) (by simp) (by simp)
      (fun _ => hm.acquires trivial) id Iff.rfl
  | first | stay_paused =>
    exact hkeep Adds.refl rfl id (fun _ => hm.acquires trivial) id Iff.rfl
  | create =>
    exact hkeep (Adds.refl.put.log ⟨rfl, fun _ => rfl⟩) rfl id (fun _ => hm.acquires trivial) id
      Iff.rfl
  | @create_failed _ r hne =>
    have hfailed : Adds Action.quiet m (m.log (.create_failed r)) := Adds.refl.log ⟨rfl, rfl⟩
    exact hm.end_with (hfailed.close fun _ => ⟨rfl, rfl⟩) (by simp) id hne.ne_success
  | synchronized hp hs =>
    exact hkeep hs.blameless hs.same.fatal (hs.same.shutdown.trans ·)
      (fun _ => hm.acquires trivial) id Iff.rfl
  | not_synchronized hp hs hne =>
    exact hm.end_with (hs.adds.mono fun _ ha => ha.quiet) hs.same.fatal id hne
  | activate => exact hkeep Adds.refl rfl id (fun h => h.elim) id Iff.rfl
  | read | recover =>
    exact hkeep (Adds.refl.put.log ⟨rfl, fun _ => rfl⟩) rfl id (fun h => h.elim) id Iff.rfl
  | read_failed | recover_failed | forward_failed =>
    exact hm.end_with (Adds.refl.log ⟨rfl, rfl⟩) rfl id (by decide)
  | @suppress b =>
    cases b <;> exact hkeep Adds.refl rfl id (fun h => h.elim) id Iff.rfl
  | @forward b =>
    cases b <;> exact hkeep (Adds.refl.put.log ⟨rfl, fun _ => rfl⟩) rfl id (fun h => h.elim) id
      Iff.rfl
  | neutralized hn =>
    refine hkeep (((hlog ⟨rfl, fun _ => rfl⟩).trans hn.blameless).close hclosed) ?_ ?_
      (fun h => h.elim) id Iff.rfl
    · rw [Moment.close_session]
      exact hn.same.of_log.fatal
    · rw [Moment.close_session, hn.same.of_log.shutdown]
      exact id
  | not_neutralized hn hne =>
    exact hm.end_with (hn.adds_loss (fun _ ha => ha.quiet) ⟨rfl, rfl⟩ fun _ => ⟨rfl, rfl⟩)
      (by simpa using hn.same.of_log.fatal) id hne
  | clean =>
    exact hkeep (((hlog ⟨rfl, fun _ => rfl⟩).destroy hdestroyed).close hclosed) (by simp) (by simp)
      (fun h => h.elim) id Iff.rfl

theorem exit_reach {config : SessionConfig} {ph : Phase} {m : Moment}
    (h : Reach config (ph, m)) : ExitInvariant ph m := by
  refine reach_induction ExitInvariant ?_ exit_step h
  exact ⟨⟨fun _ => rfl, fun _ => rfl⟩, fun h => h.elim, fun _ _ => trivial, fun h => (nomatch h),
    fun h => h.elim⟩

/-! ## Every run -/

/-- A run returns success only at a shutdown and with nothing failed, if and only if none of
its loops finds the shutdown after the correction of a request has failed. -/
theorem success_is_truthful_iff_no_failure_is_hidden (config : SessionConfig)
    (answers : Nat → Answer) (fuel : Nat) (r : Result) (w : World)
    (hreturns : Returns config answers fuel r w) :
    (r = .SUCCESS → w.session.shutdown_requested = true ∧ Clean w.history) ↔
      Always Unhidden w.history := by
  have hinvariant : ExitInvariant (.stopped r) w.moment :=
    exit_reach (session_run.returned config hreturns)
  constructor
  · intro h
    by_cases hr : r = .SUCCESS
    · obtain ⟨_, hclean⟩ := h hr
      exact unhidden_of_no_failure hclean.not_failed
    · refine unhidden_of_no_stop (Bool.eq_false_iff.mpr fun hs => ?_)
      exact hr (hinvariant.stops hs)
  · intro hu hr
    obtain ⟨hs, hf⟩ := hinvariant.success hr
    exact ⟨hs, hinvariant.clean (hf hu) hr⟩

-- Only the kernel runs the session on these scripts.
attribute [local irreducible] run_history session_run

/-- The source opens, and shutdown is requested in a wait for events. -/
def orderly_shutdown : Nat → Answer
  | 5 => { evdev := some (.untouched keyboard) }
  | n => { signal := 22 ≤ n }

/-- A run that ends with success. -/
theorem an_orderly_shutdown_is_clean :
    Clean (run_history ⟨"keyboard", 0, 0, true, true, false⟩ orderly_shutdown 2) := by
  have hreturns : Returns ⟨"keyboard", 0, 0, true, true, false⟩ orderly_shutdown 2 .SUCCESS
      (session_run 2 (World.start ⟨"keyboard", 0, 0, true, true, false⟩ orderly_shutdown)).2 :=
    returns_of (by decide +kernel)
  have htruthful := success_is_truthful_iff_no_failure_is_hidden _ _ _ _ _ hreturns
  rw [hreturns.history]
  exact (htruthful.mpr (by decide +kernel) rfl).2

/-- In that wait Pause is called, and the query of the virtual device fails. -/
def hidden_failure : Nat → Answer
  | 21 => { call := some true, processed := .more }
  | 22 => { query := false }
  | n => orderly_shutdown n

/-- The loop finds the shutdown before it looks at the failure, and the run is a success. -/
theorem a_shutdown_hides_a_failed_pause :
    ¬ ∀ (config : SessionConfig) (answers : Nat → Answer) (fuel : Nat) (r : Result) (w : World),
      Returns config answers fuel r w →
        r = .SUCCESS → w.session.shutdown_requested = true ∧ Clean w.history := by
  intro h
  have hrun := h ⟨"keyboard", 0, 0, true, true, false⟩ hidden_failure 2 .SUCCESS _
    (returns_of (by decide +kernel)) rfl
  exact absurd hrun.2 (by decide +kernel)

end input_proxy
