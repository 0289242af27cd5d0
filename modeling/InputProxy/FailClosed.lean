-- After a failed state correction. The flag of the failure is read only at the
-- heads of two loops: a call that is dispatched before then is still handled,
-- and a failure that says that the source is gone is followed by the ordinary
-- loss of the source. Without these two the session stays closed.
import InputProxy.Neutrality

open programs

namespace input_proxy

/-! ## The law -/

/-- The correction of a request failed. -/
def Action.fails : Action → Bool
  | .failed _ => true
  | _ => false

def has_failed (h : List Action) : Bool := h.any Action.fails

def Action.request : Action → Option Bool
  | .requested paused => some paused
  | _ => none

def last_requested (h : List Action) : Option Bool := h.findSome? Action.request

/-- The request whose correction failed last. -/
def failed_request : List Action → Option Bool
  | [] => none
  | a :: past => if a.fails then last_requested past else failed_request past

/-- An event is offered to the virtual device, a correction is begun, the pause state is set,
or a call succeeds. -/
def Action.acts : Action → Bool
  | .written _ _ _ _ | .correcting _ _ | .committed _ => true
  | .replied _ result => result = .SUCCESS
  | _ => false

/-- The session that was looked at. -/
def Action.observation : Action → Option Session
  | .observed _ s => some s
  | _ => none

/-- After a failed correction the session does nothing of this, and its pause state stays
what it was before the request. -/
def FailClosed (a : Action) (past : List Action) : Prop :=
  has_failed past = true → a.acts = false ∧
    ∀ s ∈ a.observation, failed_request past = some (!s.runtime_state.paused)

instance (a : Action) (past : List Action) : Decidable (FailClosed a past) :=
  inferInstanceAs (Decidable (has_failed past = true → a.acts = false ∧
    ∀ s ∈ a.observation, failed_request past = some (!s.runtime_state.paused)))

/-- A Pause or Resume call is dispatched. -/
def Action.calls : Action → Bool
  | .called _ => true
  | _ => false

/-- The session when its source is lost. -/
def Action.loss : Action → Option Session
  | .lost s => some s
  | _ => none

/-- After a failed correction no call is dispatched, and if the source is lost, the virtual
device holds no input. -/
def Undisturbed (a : Action) (past : List Action) : Prop :=
  has_failed past = true → a.calls = false ∧
    ∀ s ∈ a.loss, ∀ d ∈ s.virtual_device, ¬ HoldsInput d

instance (a : Action) (past : List Action) : Decidable (Undisturbed a past) :=
  inferInstanceAs (Decidable (has_failed past = true → a.calls = false ∧
    ∀ s ∈ a.loss, ∀ d ∈ s.virtual_device, ¬ HoldsInput d))

/-! ## The failure -/

section histories

variable {new past : List Action}

theorem has_failed_append (h : ∀ a ∈ new, a.fails = false) :
    has_failed (new ++ past) = has_failed past :=
  any_append_of_none h

theorem failed_request_append (h : ∀ a ∈ new, a.fails = false) :
    failed_request (new ++ past) = failed_request past := by
  induction new with
  | nil => rfl
  | cons a new ih =>
    obtain ⟨ha, hnew⟩ := List.forall_mem_cons.mp h
    rw [List.cons_append, failed_request, ha]
    exact ih hnew

/-- The latest request, if none of the newer entries is one. -/
theorem last_requested_append {p : Bool} (h : ∀ a ∈ new, a.request = none) :
    last_requested (new ++ .requested p :: past) = some p := by
  unfold last_requested
  rw [List.findSome?_append, List.findSome?_eq_none_iff.mpr h]
  rfl

end histories

/-- A request is the latest one until its correction ends. -/
theorem corrects_last_requested {p : Bool} {m m' : Moment} {r : Result}
    (h : Corrects p (m.log (.requested p)) r m') : last_requested m'.history = some p := by
  have hcorrection : ∀ a : Action, a.of_correction → a.request = none := by
    intro a ha
    cases a <;> first | rfl | exact ha.elim
  have hadds : ∀ {m1}, Adds (fun a => a.request = none) (m.log (.requested p)) m1 →
      last_requested m1.history = some p := by
    rintro m1 ⟨new, hnew, hall⟩
    rw [hnew]
    exact last_requested_append hall
  have hcorrecting : ∀ s, Adds (fun a => a.request = none) (m.log (.requested p))
      ((m.log (.requested p)).log (.correcting p s)) := fun s => Adds.refl.log rfl
  cases h with
  | none h => exact hadds Adds.refl
  | pause h hp hn => exact hadds ((hcorrecting _).trans (hn.adds.mono hcorrection))
  | resume h hp hn => exact hadds ((hcorrecting _).trans (hn.adds.mono hcorrection))

theorem Action.of_correction.not_fails {a : Action} (h : a.of_correction) : a.fails = false := by
  cases a <;> first | rfl | exact h.elim

/-- A request failed: its reply is an error, and the pause state is what it was before. -/
structure Fails (m : Moment) (ph' : Phase) (m' : Moment) : Prop where
  phase : ∃ l p r, ph' = .replying l p r ∧ r ≠ .SUCCESS
  fatal : m'.session.fatal_result ≠ .SUCCESS
  paused : failed_request m'.history = some (!m'.session.runtime_state.paused)
  adds : ∃ m1 r, Adds (fun a => a.fails = false) m m1 ∧ m'.history = .failed r :: m1.history

/-- A step is the failure of a request, or it adds no failure. -/
theorem Step.fails_or {ph ph' : Phase} {m m' : Moment} (h : Step (ph, m) (ph', m')) :
    Fails m ph' m' ∨ Adds (fun a => a.fails = false) m m' := by
  have hquiet : (∀ l p, ph ≠ .handling l p) → Adds (fun a => a.fails = false) m m' := by
    intro hph
    refine h.adds (fun hc => hc.adds.mono fun a ha => ?_)
      (.of_correction fun _ ha => ha.not_fails) fun a ha => ?_
    · cases a <;> first | rfl | exact ha.elim
    · cases a with
      | failed r =>
        obtain ⟨_, l, p, rfl⟩ := ha
        exact absurd rfl (hph l p)
      | _ => rfl
  cases ph with
  | handling l p =>
    cases h with
    | control h =>
      refine .inr (h.adds.mono fun a ha => ?_)
      cases a <;> first | rfl | exact ha.elim
    | unchanged hp => exact .inr Adds.refl
    | changed hp hc =>
      exact .inr ((hc.adds (fun _ ha => ha.not_fails) rfl fun _ => rfl).put.log rfl)
    | @failed _ _ _ r m1 hp hc hr =>
      have hadds : Adds (fun a => a.fails = false) m m1 :=
        hc.adds (fun _ ha => ha.not_fails) rfl fun _ => rfl
      refine .inl ⟨⟨l, p, r, rfl, hr⟩, hr, ?_, m1, r, hadds, rfl⟩
      obtain ⟨es, hes⟩ := hc.same.of_log.session
      have hpaused : m1.session.runtime_state.paused = m.session.runtime_state.paused := by
        rw [hes]
      change last_requested m1.history = some (!m1.session.runtime_state.paused)
      rw [corrects_last_requested hc, hpaused]
      revert hp
      cases p <;> cases m.session.runtime_state.paused <;> simp
  | _ => exact .inr (hquiet fun l p => by simp)

/-! ## After the failure -/

/-- The phases in which a failed session goes on. -/
def Phase.closed : Phase → Prop
  | .idle _ | .lost | .losing | .ended _ | .stopped _ => True
  | .replying _ _ r => r ≠ .SUCCESS
  | _ => False

structure Closed (ph : Phase) (m : Moment) : Prop where
  phase : ph.closed
  fatal : m.session.fatal_result ≠ .SUCCESS
  paused : failed_request m.history = some (!m.session.runtime_state.paused)

/-- An entry that a closed session may add. -/
def Action.closing (m : Moment) (a : Action) : Prop :=
  a.fails = false ∧ a.acts = false ∧
    ∀ s ∈ a.observation, s.runtime_state.paused = m.session.runtime_state.paused

/-- What a step of a closed session does. -/
structure Closing (m : Moment) (ph' : Phase) (m' : Moment) : Prop where
  phase : ph'.closed
  fatal : m'.session.fatal_result = m.session.fatal_result
  paused : m'.session.runtime_state.paused = m.session.runtime_state.paused
  adds : Adds (Action.closing m) m m'

theorem Closing.closed {ph ph' : Phase} {m m' : Moment} (h : Closing m ph' m')
    (hm : Closed ph m) : Closed ph' m' := by
  obtain ⟨new, hnew, hall⟩ := h.adds
  refine ⟨h.phase, by rw [h.fatal]; exact hm.fatal, ?_⟩
  rw [hnew, failed_request_append fun a ha => (hall a ha).1, h.paused]
  exact hm.paused

theorem ControlStep.closing {m m' : Moment} (h : ControlStep m m') :
    Adds (Action.closing m) m m' := by
  cases h with
  | observe => exact Adds.refl.log ⟨rfl, rfl, by simp [Action.observation]⟩
  | control | tracking | discard | retry | diagnosed | running_zero | paused_zero =>
    exact Adds.refl
  | _ => exact Adds.refl.log ⟨rfl, rfl, by simp [Action.observation]⟩

/-- The neutralization of a device that holds no input writes nothing. -/
theorem Neutralize.closing {m m1 m' : Moment} {r : Result} (h : Neutralize m1 r m')
    (hd : ∀ d ∈ m1.session.virtual_device, ¬ HoldsInput d) : Adds (Action.closing m) m1 m' := by
  have hneutralized : ∀ before after r, Action.closing m (.neutralized before after r) :=
    fun _ _ _ => ⟨rfl, rfl, by simp [Action.observation]⟩
  cases h with
  | unread hd hr => exact Adds.refl.log (hneutralized _ _ _)
  | @wrote d _ m2 hs hw =>
    rw [neutralizing_events_nil (hd d hs)] at hw
    cases hw with
    | nil => exact Adds.refl.log (hneutralized _ _ _)

theorem Closed.step {ph ph' : Phase} {m m' : Moment} (hm : Closed ph m)
    (hf : has_failed m.history = true) (hu : Always Undisturbed m'.history)
    (h : Step (ph, m) (ph', m')) : Closing m ph' m' := by
  have hplain : ∀ {a : Action}, a.fails = false → a.acts = false → a.observation = none →
      Action.closing m a := fun h1 h2 h3 => ⟨h1, h2, by simp [h3]⟩
  have hclosed : ∀ id, Action.closing m (.closed id) :=
    fun _ => hplain rfl rfl rfl
  have hdestroyed : ∀ id, Action.closing m (.destroyed id) :=
    fun _ => hplain rfl rfl rfl
  have hphase := hm.phase
  have hfatal := hm.fatal
  cases h with
  | control h => exact ⟨hphase, h.same.2.2.2.2.1, h.same.2.2.1, h.closing⟩
  | dispatch | loop_head =>
    exact ⟨trivial, rfl, rfl, Adds.refl.log ⟨rfl, rfl, by simp [Action.observation]⟩⟩
  | call p =>
    have hcall := (hu.1 hf).1
    cases hcall
  | reply =>
    have hreply : decide (_ = Result.SUCCESS) = false := decide_eq_false hphase
    exact ⟨trivial, rfl, rfl, Adds.refl.log (hplain rfl hreply rfl)⟩
  | go_on => exact ⟨trivial, rfl, rfl, Adds.refl.log (hplain rfl rfl rfl)⟩
  | shutdown => exact ⟨trivial, rfl, rfl, Adds.refl.put.log (hplain rfl rfl rfl)⟩
  | signal_lost | signal_ended | give_up | fatal | fatal_lost | lose =>
    exact ⟨trivial, rfl, rfl, Adds.refl⟩
  | neutralized hn | not_neutralized hn hr =>
    have hlost : Adds (Action.closing m) m (m.log (.lost m.session)) :=
      Adds.refl.log (hplain rfl rfl rfl)
    have hheld : ∀ d ∈ m.session.virtual_device, ¬ HoldsInput d := by
      have hclose : ∀ m1 : Moment, Adds (fun _ => True) m1 m1.close :=
        fun m1 => Adds.refl.close fun _ => trivial
      have hentry := hn.adds.past ((hclose _).past hu)
      exact (hentry.1 hf).2 _ rfl
    refine ⟨trivial, ?_, ?_, (hlost.trans (hn.closing hheld)).close hclosed⟩
    · rw [Moment.close_session]
      exact hn.same.of_log.fatal
    · obtain ⟨es, hes⟩ := hn.same.of_log.session
      rw [Moment.close_session, hes]
  | clean =>
    exact ⟨trivial, by simp, by simp,
      ((Adds.refl.log (hplain rfl rfl rfl)).destroy hdestroyed).close hclosed⟩
  | unavailable hf' | denied hf' | denied_end hf' | open_failed hf' | open_source _ hf'
  | read hf' | read_nothing hf' | read_dropped hf' | read_lost hf' | read_failed hf' =>
    exact absurd hf' hfatal
  | _ => exact hphase.elim

/-! ## Every run -/

structure FailInvariant (ph : Phase) (m : Moment) : Prop where
  closed : has_failed m.history = true → Closed ph m
  lawful : Always FailClosed m.history

/-- An entry without a failure before it. -/
theorem fail_closed_of_no_failure {a : Action} {past : List Action}
    (h : has_failed past = false) : FailClosed a past := by
  intro hf
  rw [h] at hf
  cases hf

theorem Adds.no_failure {m m' : Moment} (h : Adds (fun a => a.fails = false) m m')
    (hf : has_failed m.history = false) (hm : Always FailClosed m.history) :
    has_failed m'.history = false ∧ Always FailClosed m'.history := by
  constructor
  · obtain ⟨new, hnew, hall⟩ := h
    rw [hnew, has_failed_append hall]
    exact hf
  · refine h.law_past hm fun a new _ hnew => fail_closed_of_no_failure ?_
    rw [has_failed_append hnew]
    exact hf

theorem fail_step {ph ph' : Phase} {m m' : Moment} (hm : FailInvariant ph m)
    (hu : Always Undisturbed m'.history) (h : Step (ph, m) (ph', m')) : FailInvariant ph' m' := by
  cases hf : has_failed m.history with
  | true =>
    have hclosed := hm.closed hf
    have hclosing := hclosed.step hf hu h
    refine ⟨fun _ => hclosing.closed hclosed, ?_⟩
    refine hclosing.adds.law_past hm.lawful fun a new ha hnew _ => ⟨ha.2.1, fun s hs => ?_⟩
    rw [failed_request_append fun b hb => (hnew b hb).1, ha.2.2 s hs]
    exact hclosed.paused
  | false =>
    rcases h.fails_or with hfails | hadds
    · obtain ⟨m1, r, hadds, hhistory⟩ := hfails.adds
      obtain ⟨hf1, hlaw⟩ := hadds.no_failure hf hm.lawful
      constructor
      · intro _
        obtain ⟨l, p, r, rfl, hr⟩ := hfails.phase
        exact ⟨hr, hfails.fatal, hfails.paused⟩
      · rw [hhistory]
        exact ⟨fail_closed_of_no_failure hf1, hlaw⟩
    · obtain ⟨hf', hlaw⟩ := hadds.no_failure hf hm.lawful
      refine ⟨fun h => ?_, hlaw⟩
      rw [hf'] at h
      cases h

theorem fail_reach {config : SessionConfig} {ph : Phase} {m : Moment}
    (h : Reach config (ph, m)) (hu : Always Undisturbed m.history) : FailInvariant ph m := by
  refine reach_induction (fun ph m => Always Undisturbed m.history → FailInvariant ph m) ?_ ?_ h hu
  · exact fun _ => ⟨fun h => (nomatch h), trivial⟩
  · intro ph ph' m m' _ hm hs hu
    exact fail_step (hm (hs.grows.past hu)) hu hs

/-- A run in which a failed correction is followed by no further call, and by no loss of the
source while the virtual device holds input: from the failure on no event is written, no
correction begins, no call succeeds, and the pause state stays as it was. -/
theorem a_failed_correction_closes_the_session (config : SessionConfig)
    (answers : Nat → Answer) (fuel : Nat)
    (hu : Always Undisturbed (run_history config answers fuel)) :
    Always FailClosed (run_history config answers fuel) := by
  refine run_law (fun m => Always Undisturbed m.history → Always FailClosed m.history)
    (fun ph m _ hr hu => ?_) answers fuel hu
  exact (fail_reach hr hu).lawful

-- Only the kernel runs the session on these scripts.
attribute [local irreducible] run_history

/-- Pause is called, and the query of the virtual device fails. -/
def failed_pause : Nat → Answer
  | 5 => { evdev := some (.untouched keyboard) }
  | 16 => { call := some true, processed := .more }
  | 17 => { query := false }
  | _ => {}

/-- A run in which the correction fails, and the session ends. -/
theorem a_failed_pause_closes_the_session :
    (run_history ⟨"keyboard", 0, 0, true, true, false⟩ failed_pause 4).any Action.fails = true ∧
      Always FailClosed (run_history ⟨"keyboard", 0, 0, true, true, false⟩ failed_pause 4) :=
  ⟨by decide +kernel, a_failed_correction_closes_the_session _ _ _ (by decide +kernel)⟩

/-- A second call of Pause is queued behind the one that fails. -/
def second_pause : Nat → Answer
  | 18 => { call := some true, processed := .more }
  | n => failed_pause n

/-- The second call is dispatched before the session looks at the failure: it corrects the
state again, changes the pause state and succeeds. -/
theorem a_second_pause_succeeds_after_a_failure :
    ¬ ∀ (config : SessionConfig) (answers : Nat → Answer) (fuel : Nat),
      Always FailClosed (run_history config answers fuel) := by
  intro h
  have hrun := h ⟨"keyboard", 0, 0, true, true, false⟩ second_pause 4
  exact absurd hrun (by decide +kernel)

end input_proxy
