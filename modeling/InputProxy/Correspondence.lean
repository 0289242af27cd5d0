-- Correspondences between the virtual device and the source: a relation that
-- the same event on both sides keeps and a synchronization establishes holds
-- of every unpaused session with a source, and while nothing is forwarded the
-- virtual device is neutral.
import InputProxy.Captures
import InputProxy.Templates
import InputProxy.Histories

open programs

namespace input_proxy

/-- A relation of the virtual device's state to the source's, for the capabilities of the
source. A capture in a session that `allows` it establishes the relation. -/
structure Correspondence where
  relates : Capabilities → DeviceState → DeviceState → Prop
  allows : Session → Prop
  apply : ∀ {c c' v s}, relates c' v s → SameShape c c' → ∀ e,
    relates c' (v.apply c e) (s.apply c' e)
  capture : ∀ {s d source}, allows s → s.virtual_device = some d →
    s.source_device = some source → SameShape d.capabilities source.evdev.capabilities →
    (source.evdev.capabilities.type_b_multitouch = true → 0 < source.evdev.capabilities.slots) →
    relates source.evdev.capabilities
      (d.writes (capture_events source.evdev ++ [synchronization_boundary])).kernel
      source.evdev.state

/-- Every capture of the history was allowed. -/
def Correspondence.Allowed (R : Correspondence) (h : List Action) : Prop :=
  ∀ s es, .captured s es ∈ h → R.allows s

/-! ## The states of the devices -/

/-- Every slot of the virtual device holds a contact or is unused. -/
def Tracked (s : Session) : Prop := ∀ d, s.virtual_device = some d → d.kernel.tracked

/-- The virtual device has the keys, switches, axes and slots of the source. -/
def Fitted (s : Session) : Prop :=
  ∀ d source, s.virtual_device = some d → s.source_device = some source →
    SameShape d.capabilities source.evdev.capabilities

/-- The virtual device is neutral. -/
def Suspended (s : Session) : Prop :=
  ∀ d, s.virtual_device = some d → Neutral d.capabilities d.kernel

/-- The virtual device corresponds to the source while the session is not paused, and is
neutral while it is. -/
structure Faithful (R : Correspondence) (s : Session) : Prop where
  relates : s.runtime_state.paused = false → ∀ d source, s.virtual_device = some d →
    s.source_device = some source →
    R.relates source.evdev.capabilities d.kernel source.evdev.state
  neutral : s.runtime_state.paused = true → Suspended s

/-- The source is one delivered event ahead of a faithful virtual device. -/
structure Ahead (R : Correspondence) (e : InputEvent) (s : Session) : Prop where
  relates : s.runtime_state.paused = false → ∀ d source, s.virtual_device = some d →
    s.source_device = some source → ∃ view : DeviceState,
      source.evdev.state = view.apply source.evdev.capabilities e ∧
        R.relates source.evdev.capabilities d.kernel view
  neutral : s.runtime_state.paused = true → Suspended s

/-- What each phase knows of the states, as long as no correction has failed. -/
def Corresponds (R : Correspondence) (ph : Phase) (s : Session) : Prop :=
  match ph with
  | .idle (.waiting _) | .handling (.waiting _) _ | .replying (.waiting _) _ _ | .opened
  | .creating | .prepared => Suspended s
  | .idle .active | .handling .active _ | .replying .active _ _ | .ready | .recovering =>
    s.fatal_result = .SUCCESS → Faithful R s
  | .delivered _ e => s.fatal_result = .SUCCESS → Ahead R e s
  | .lost | .losing | .ended _ | .stopped _ => True

/-- What every phase knows of the devices. -/
structure DeviceInvariant (ph : Phase) (s : Session) : Prop where
  tracked : Tracked s
  fitted : ph ≠ .opened → Fitted s
  valid : ∀ b e, ph = .delivered b e → e.valid

/-! ## Devices and states that stay -/

section congruence

variable {R : Correspondence} {s s' : Session}

theorem Tracked.congr (h : Tracked s) (hv : s'.virtual_device = s.virtual_device) :
    Tracked s' := by
  intro d hd
  exact h d (hv ▸ hd)

theorem Fitted.congr (h : Fitted s) (hv : s'.virtual_device = s.virtual_device)
    (hs : s'.source_device = s.source_device) : Fitted s' := by
  intro d source hd hsource
  exact h d source (hv ▸ hd) (hs ▸ hsource)

theorem Suspended.congr (h : Suspended s) (hv : s'.virtual_device = s.virtual_device) :
    Suspended s' := by
  intro d hd
  exact h d (hv ▸ hd)

theorem Faithful.congr (h : Faithful R s) (hv : s'.virtual_device = s.virtual_device)
    (hs : s'.source_device = s.source_device)
    (hp : s'.runtime_state.paused = s.runtime_state.paused) : Faithful R s' := by
  constructor
  · intro hpaused d source hd hsource
    exact h.relates (hp ▸ hpaused) d source (hv ▸ hd) (hs ▸ hsource)
  · intro hpaused
    exact (h.neutral (hp ▸ hpaused)).congr hv

theorem Ahead.congr {e : InputEvent} (h : Ahead R e s)
    (hv : s'.virtual_device = s.virtual_device)
    (hs : s'.source_device = s.source_device)
    (hp : s'.runtime_state.paused = s.runtime_state.paused) : Ahead R e s' := by
  constructor
  · intro hpaused d source hd hsource
    exact h.relates (hp ▸ hpaused) d source (hv ▸ hd) (hs ▸ hsource)
  · intro hpaused
    exact (h.neutral (hp ▸ hpaused)).congr hv

theorem Corresponds.congr {ph : Phase} (h : Corresponds R ph s)
    (hv : s'.virtual_device = s.virtual_device) (hs : s'.source_device = s.source_device)
    (hp : s'.runtime_state.paused = s.runtime_state.paused)
    (hf : s'.fatal_result = s.fatal_result) : Corresponds R ph s' := by
  cases ph with
  | idle l | handling l _ | replying l _ _ =>
    cases l with
    | waiting t => exact Suspended.congr h hv
    | active => exact fun hsuccess => (h (hf ▸ hsuccess)).congr hv hs hp
  | opened | creating | prepared => exact Suspended.congr h hv
  | ready | recovering => exact fun hsuccess => (h (hf ▸ hsuccess)).congr hv hs hp
  | delivered b e => exact fun hsuccess => (h (hf ▸ hsuccess)).congr hv hs hp
  | lost | losing | ended _ | stopped _ => trivial

end congruence

theorem SameButState.fitted {m m' : Moment} (h : SameButState m m') (hf : Fitted m.session) :
    Fitted m'.session := by
  obtain ⟨es, hes⟩ := h.session
  intro d source hd hs
  rw [hes] at hd hs
  obtain ⟨d', hd', rfl⟩ := Option.map_eq_some_iff.mp hd
  rw [VirtualDevice.writes_capabilities]
  exact hf d' source hd' hs

/-! ## Corrections -/

section corrections

variable {m m' : Moment} {r : Result}

/-- Writes with valid tracking identifiers. -/
theorem Wrote.tracked {cause : Cause} {es : List InputEvent} (h : Wrote cause es m r m')
    (hm : Tracked m.session)
    (hes : ∀ d, m.session.virtual_device = some d → ∀ e ∈ es, 0 < d.capabilities.slots → e.valid) :
    Tracked m'.session := by
  have hwrites : ∀ done, (∀ e ∈ done, e ∈ es) → Tracked (m.wrote_all cause done).session := by
    intro done hdone d hd
    obtain ⟨d', hd', rfl⟩ := Option.map_eq_some_iff.mp hd
    exact VirtualDevice.writes_tracked (fun e he => hes d' hd' e (hdone e he)) (hm d' hd')
  rcases h.outcome with ⟨_, rfl⟩ | ⟨_, done, e, rest, rfl, rfl⟩
  · exact hwrites es fun e he => he
  · exact hwrites done fun e he => List.mem_append_left _ he

theorem Neutralize.tracked (h : Neutralize m r m') (hm : Tracked m.session) :
    Tracked m'.session := by
  cases h with
  | unread hd hr => exact hm
  | wrote hd hw =>
    exact hw.tracked hm fun d _ e he _ => (neutralizing_events_kind he).valid

theorem Synchronize.tracked (h : Synchronize m r m') (hm : Tracked m.session)
    (hf : Fitted m.session) : Tracked m'.session := by
  have hvalid : ∀ source, m.session.source_device = some source → ∀ d,
      m.session.virtual_device = some d →
      ∀ e ∈ capture_events source.evdev ++ [synchronization_boundary],
        0 < d.capabilities.slots → e.valid := by
    intro source hs d hd e he hpos
    rw [(hf d source hd hs).slots] at hpos
    exact capture_events_valid he hpos
  cases h with
  | uncaptured hr => exact hm
  | unwritten hs hb hw hr => exact hw.tracked hm (hvalid _ hs)
  | checked hs hb hw hr => exact hw.tracked hm (hvalid _ hs)

theorem Corrects.tracked {p : Bool} (h : Corrects p m r m') (hm : Tracked m.session)
    (hf : Fitted m.session) : Tracked m'.session := by
  cases h with
  | none h => exact hm
  | pause h hp hn => exact hn.tracked hm
  | resume h hp hn => exact hn.tracked hm hf

/-- A neutralization that succeeds leaves a neutral device. -/
theorem Neutralize.suspended (h : Neutralize m .SUCCESS m') (hm : Tracked m.session) :
    Suspended m'.session := by
  cases h with
  | unread hd hr => rcases hr with hr | hr <;> cases hr
  | @wrote d _ m1 hd hw =>
    intro d' hd'
    rw [Moment.log_session, hw.success, Moment.wrote_all_session] at hd'
    obtain ⟨d1, hd1, rfl⟩ := Option.map_eq_some_iff.mp hd'
    obtain rfl : d = d1 := by simpa [hd] using hd1
    rw [VirtualDevice.writes_capabilities]
    exact neutralizing_events_neutralize (hm d hd)

/-- A synchronization that succeeds establishes the correspondence. -/
theorem Synchronize.relates {R : Correspondence} (h : Synchronize m .SUCCESS m')
    (hf : Fitted m.session) (hallowed : R.Allowed m'.history) {d : VirtualDevice}
    {source : SourceDevice} (hd : m'.session.virtual_device = some d)
    (hs : m'.session.source_device = some source) :
    R.relates source.evdev.capabilities d.kernel source.evdev.state := by
  cases h with
  | uncaptured hr => rcases hr with hr | hr <;> cases hr
  | unwritten hs' hb hw hr => exact absurd rfl hr
  | @checked source' _ m1 hs' hb hw hr =>
    have hcaptured : R.allows m.session := by
      refine hallowed m.session (capture_events source'.evdev) ?_
      rw [hw.success]
      simp
    rw [Moment.log_session, Moment.log_session, hw.success, Moment.wrote_all_session] at hd hs
    obtain ⟨d1, hd1, rfl⟩ := Option.map_eq_some_iff.mp hd
    rw [Moment.log_session] at hd1
    obtain rfl : source' = source := by simpa [hs'] using hs
    exact R.capture hcaptured hd1 hs' (hf d1 _ hd1 hs') hb

end corrections

/-! ## Every step -/

section steps

variable {ph ph' : Phase} {m m' : Moment}

theorem tracked_step (hm : DeviceInvariant ph m.session) (h : Step (ph, m) (ph', m')) :
    Tracked m'.session := by
  have htracked := hm.tracked
  cases h with
  | control h => exact htracked.congr h.same.2.1
  | changed hp hc =>
    exact (hc.tracked htracked (hm.fitted (by simp))).congr (by simp)
  | failed hp hc hr => exact hc.tracked htracked (hm.fitted (by simp))
  | synchronized hp hs | not_synchronized hp hs hr =>
    exact hs.tracked htracked (hm.fitted (by simp))
  | neutralized hn | not_neutralized hn hr => exact (hn.tracked htracked).congr (by simp)
  | incompatible hd hs hc | clean =>
    intro d hd
    simp at hd
  | create fresh hs =>
    rintro d ⟨rfl⟩
    exact fresh_tracked fresh
  | create_failed hr => exact htracked.congr (by simp)
  | forward hp =>
    intro d hd
    obtain ⟨d', hd', rfl⟩ := Option.map_eq_some_iff.mp hd
    exact DeviceState.apply_tracked (fun _ => hm.valid _ _ rfl) (htracked d' hd')
  | _ => exact htracked

theorem fitted_step (hm : DeviceInvariant ph m.session) (h : Step (ph, m) (ph', m'))
    (hph : ph' ≠ .opened) : Fitted m'.session := by
  have hclosed : ∀ {s : Session}, s.source_device = none → Fitted s := by
    intro s hs d source _ hsource
    rw [hs] at hsource
    cases hsource
  have hdestroyed : ∀ {s : Session}, s.virtual_device = none → Fitted s := by
    intro s hv d source hd _
    rw [hv] at hd
    cases hd
  cases h with
  | control h =>
    exact (hm.fitted hph).congr h.same.2.1 h.same.1
  | changed hp hc =>
    exact (hc.same.of_log.fitted (hm.fitted (by simp))).congr (by simp) (by simp)
  | failed hp hc hr => exact hc.same.of_log.fitted (hm.fitted (by simp))
  | unavailable | denied | denied_end | open_failed => exact hclosed rfl
  | open_source => exact absurd rfl hph
  | @compatible m d source hd hs hc =>
    intro d' source' hd' hs'
    obtain rfl : d = d' := by simpa [hd] using hd'
    obtain rfl : source = source' := by simpa [hs] using hs'
    exact capabilities_equal_shape hc
  | incompatible hd hs hc | clean => exact hdestroyed (by simp)
  | first hd => exact hdestroyed hd
  | @create m source fresh hs =>
    rintro d source' ⟨rfl⟩ hs'
    obtain rfl : source = source' := by simpa [hs] using hs'
    dsimp only
    exact create_template_shape source.evdev.capabilities
  | create_failed hr => exact hclosed (by simp)
  | synchronized hp hs | not_synchronized hp hs hr => exact hs.same.fitted (hm.fitted (by simp))
  | neutralized hn | not_neutralized hn hr => exact hclosed (by simp)
  | read hf | recover =>
    intro d source hd hs
    obtain ⟨source', hs', rfl⟩ := Option.map_eq_some_iff.mp hs
    exact hm.fitted (by simp) d source' hd hs'
  | forward hp =>
    intro d source hd hs
    obtain ⟨d', hd', rfl⟩ := Option.map_eq_some_iff.mp hd
    exact hm.fitted (by simp) d' source hd' hs
  | _ => exact hm.fitted (by simp)

theorem device_step (hm : DeviceInvariant ph m.session) (h : Step (ph, m) (ph', m')) :
    DeviceInvariant ph' m'.session := by
  refine ⟨tracked_step hm h, fitted_step hm h, ?_⟩
  intro b e hph
  cases h with
  | control h => exact hm.valid b e hph
  | @read m event | @recover m event =>
    cases hph
    exact event.valid
  | @suppress b' | @forward b' => cases b' <;> cases hph
  | _ => cases hph

theorem device_reach {config : SessionConfig} (h : Reach config (ph, m)) :
    DeviceInvariant ph m.session := by
  refine reach_induction (fun ph m => DeviceInvariant ph m.session) ?_ ?_ h
  · refine ⟨?_, ?_, ?_⟩
    · rintro d ⟨⟩
    · rintro _ d source ⟨⟩
    · rintro b e ⟨⟩
  · intro ph ph' m m' _ hm hs
    exact device_step hm hs

variable {R : Correspondence}

/-- A delivered event puts the source one event ahead. -/
theorem Faithful.deliver (h : Faithful R m.session) (e : SourceEvent) :
    Ahead R e.event (m.deliver e).session := by
  constructor
  · intro hp d source hd hs
    obtain ⟨source', hs', rfl⟩ := Option.map_eq_some_iff.mp hs
    exact ⟨source'.evdev.state, rfl, h.relates hp d source' hd hs'⟩
  · exact h.neutral

/-- Forwarding it catches up. -/
theorem Ahead.forward {e : InputEvent} (h : Ahead R e m.session) (hf : Fitted m.session)
    (hp : m.session.runtime_state.paused = false) :
    Faithful R (m.wrote .forward e).session := by
  constructor
  · intro _ d source hd hs
    obtain ⟨d', hd', rfl⟩ := Option.map_eq_some_iff.mp hd
    obtain ⟨view, hview, hrelates⟩ := h.relates hp d' source hd' hs
    rw [hview]
    exact R.apply hrelates (hf d' source hd' hs) e
  · intro hpaused
    have hpaused : m.session.runtime_state.paused = true := hpaused
    rw [hp] at hpaused
    cases hpaused

theorem Ahead.suppress {e : InputEvent} {s : Session} (h : Ahead R e s)
    (hp : s.runtime_state.paused = true) : Faithful R s := by
  constructor
  · intro hpaused
    rw [hp] at hpaused
    cases hpaused
  · exact h.neutral

/-- A correction that succeeds, and its commit, in a session with a source. -/
theorem Corrects.faithful {p : Bool} (h : Corrects p m .SUCCESS m')
    (hm : DeviceInvariant ph m.session) (hph : ph ≠ .opened)
    (ha : m.session.runtime_state.source_available = true) (hallowed : R.Allowed m'.history) :
    Faithful R (m'.commit p).session := by
  cases h with
  | none h =>
    rw [ha] at h
    cases h
  | pause _ hp hn =>
    subst hp
    constructor
    · rintro ⟨⟩
    · exact fun _ => (hn.suspended hm.tracked).congr rfl
  | resume _ hp hs =>
    subst hp
    constructor
    · exact fun _ d source hd hsource => hs.relates (hm.fitted hph) hallowed hd hsource
    · rintro ⟨⟩

/-- Without a source nothing is corrected. -/
theorem Corrects.unavailable {p : Bool} {r : Result} (h : Corrects p m r m')
    (ha : m.session.runtime_state.source_available = false) : m' = m := by
  cases h with
  | none h => rfl
  | pause h hp hn | resume h hp hn =>
    rw [ha] at h
    cases h

theorem corresponds_after {b : Bool} {s : Session} :
    Corresponds R (.after b) s ↔ (s.fatal_result = .SUCCESS → Faithful R s) := by
  cases b <;> exact Iff.rfl

theorem corresponds_step (hm : DeviceInvariant ph m.session) (hh : Holds ph m.session)
    (hstates : Corresponds R ph m.session) (h : Step (ph, m) (ph', m'))
    (hallowed : R.Allowed m'.history) : Corresponds R ph' m'.session := by
  cases h with
  | control h =>
    obtain ⟨hs, hv, hp, _, hf, _⟩ := h.same
    exact hstates.congr hv hs hp hf
  | @dispatch l | @call l | @unchanged l | @reply l | @go_on l => cases l <;> exact hstates
  | @changed l p m m1 hp hc =>
    cases l with
    | waiting t =>
      rw [hc.unavailable hh.2]
      exact Suspended.congr hstates (by simp)
    | active =>
      have holder : R.Allowed m1.history := fun s es hmem =>
        hallowed s es (List.mem_cons_of_mem _ hmem)
      exact fun _ => hc.faithful hm (by simp) hh.2.1 holder
  | @failed l p m r m1 hp hc hr =>
    cases l with
    | waiting t =>
      rw [hc.unavailable hh.2]
      exact Suspended.congr hstates rfl
    | active => exact fun hsuccess => absurd hsuccess hr
  | incompatible hd hs hc =>
    intro d hd
    simp at hd
  | create fresh hs =>
    rintro d ⟨rfl⟩
    exact fresh_neutral _ fresh
  | stay_paused hp =>
    intro _
    refine ⟨fun hpaused => ?_, fun _ => hstates⟩
    rw [hp] at hpaused
    cases hpaused
  | synchronized hp hs =>
    intro _
    refine ⟨fun _ d source hd hsource => ?_, fun hpaused => ?_⟩
    · exact hs.relates (hm.fitted (by simp)) hallowed hd hsource
    · obtain ⟨es, hes⟩ := hs.same.session
      rw [hes] at hpaused
      exact absurd (hp.symm.trans hpaused) (by decide)
  | @read m e hf => exact fun hsuccess => (hstates hsuccess).deliver e
  | @recover m e => exact fun hsuccess => (hstates hsuccess).deliver e
  | suppress hp => exact corresponds_after.mpr fun hsuccess => (hstates hsuccess).suppress hp
  | forward hp =>
    exact corresponds_after.mpr fun hsuccess =>
      (hstates hsuccess).forward (hm.fitted (by simp)) hp
  | neutralized hn => exact (hn.suspended hm.tracked).congr (by simp)
  | shutdown | interrupted | signal_lost | signal_ended | give_up | denied_end | open_failed
  | create_failed | not_synchronized | fatal | fatal_lost | read_lost | read_failed
  | recover_lost | recover_failed | forward_failed | lose | not_neutralized | clean => trivial
  | _ => exact hstates

/-- The captures of an earlier moment are captures of the later one. -/
theorem Correspondence.Allowed.older {P : Action → Prop} (h : R.Allowed m'.history)
    (ha : Adds P m m') : R.Allowed m.history := by
  obtain ⟨new, hnew, _⟩ := ha
  intro s es hmem
  refine h s es ?_
  rw [hnew]
  exact List.mem_append_right new hmem

theorem corresponds_reach {config : SessionConfig} (h : Reach config (ph, m))
    (hallowed : R.Allowed m.history) : Corresponds R ph m.session := by
  refine reach_induction (fun ph m => R.Allowed m.history → Corresponds R ph m.session) ?_ ?_ h
    hallowed
  · rintro _ d ⟨⟩
  · intro ph ph' m m' hr hm hs hallowed
    exact corresponds_step (device_reach hr) (holds_reach hr) (hm (hallowed.older hs.grows)) hs
      hallowed

end steps

/-! ## The law -/

/-- The session unpaused with an open source: there is a virtual device, and it corresponds
to the source. The session paused, or the source unavailable: a virtual device is neutral. -/
structure InCorrespondence (R : Correspondence) (s : Session) : Prop where
  relates : s.runtime_state.paused = false → ∀ source, s.source_device = some source →
    ∃ d, s.virtual_device = some d ∧
      R.relates source.evdev.capabilities d.kernel source.evdev.state
  neutral : s.runtime_state.paused = true ∨ s.runtime_state.source_available = false →
    ∀ d, s.virtual_device = some d → Neutral d.capabilities d.kernel

/-- The law at the dispatches and at the head of the inner loop. -/
def CorrespondenceEntry (R : Correspondence) (a : Action) (past : List Action) : Prop :=
  match a with
  | .observed point s =>
    point ≠ .step → s.fatal_result = .SUCCESS → R.Allowed past → InCorrespondence R s
  | _ => True

/-- The head of a loop is in correspondence. -/
theorem in_correspondence {R : Correspondence} {l : Loop} {s : Session}
    (hstates : Corresponds R (.idle l) s) (hh : LoopHolds l s) (hf : s.fatal_result = .SUCCESS) :
    InCorrespondence R s := by
  cases l with
  | waiting t =>
    constructor
    · intro _ source hsource
      rw [hh.1] at hsource
      cases hsource
    · exact fun _ => hstates
  | active =>
    have hfaithful : Faithful R s := hstates hf
    constructor
    · intro hp source hsource
      obtain ⟨d, hd⟩ := Option.isSome_iff_exists.mp hh.2.2
      exact ⟨d, hd, hfaithful.relates hp d source hd hsource⟩
    · rintro (hp | ha)
      · exact hfaithful.neutral hp
      · rw [hh.2.1] at ha
        cases ha

/-- The law under a longer past. -/
theorem CorrespondenceEntry.append {R : Correspondence} {a : Action} {past : List Action}
    (h : CorrespondenceEntry R a past) (new : List Action) :
    CorrespondenceEntry R a (new ++ past) := by
  cases a with
  | observed point s =>
    intro hpoint hf hallowed
    exact h hpoint hf fun s es hmem => hallowed s es (List.mem_append_right new hmem)
  | _ => trivial

theorem correspondence_step {R : Correspondence} {config : SessionConfig} {ph ph' : Phase}
    {m m' : Moment} (hr : Reach config (ph, m)) (h : Step (ph, m) (ph', m')) :
    Adds (fun a => CorrespondenceEntry R a m.history) m m' := by
  refine h.adds (fun hc => hc.adds.mono fun a ha => ?_) (.of_correction fun a ha => ?_)
    fun a ha => ?_
  · cases a with
    | observed point s =>
      cases point with
      | step => exact fun hne => absurd rfl hne
      | _ => exact ha.elim
    | _ => trivial
  · cases a <;> first | exact ha.elim | trivial
  · cases a with
    | observed point s =>
      obtain ⟨_, rfl, l, rfl⟩ := ha
      intro _ hf hallowed
      exact in_correspondence (corresponds_reach hr hallowed) (holds_reach hr) hf
    | _ => trivial

/-- In every run, at every dispatch of D-Bus messages and at every head of the inner loop
where no correction has failed and every capture was allowed, the devices correspond. -/
theorem correspondence_law (R : Correspondence) (config : SessionConfig)
    (answers : Nat → Answer) (fuel : Nat) :
    Always (CorrespondenceEntry R) (run_history config answers fuel) := by
  refine run_law (fun m => Always (CorrespondenceEntry R) m.history) (fun ph m _ hr => ?_)
    answers fuel
  refine reach_induction (fun _ m => Always (CorrespondenceEntry R) m.history) trivial
    (fun hr hm h => ?_) hr
  exact (correspondence_step hr h).law hm fun a new ha => ha.append new

end input_proxy
