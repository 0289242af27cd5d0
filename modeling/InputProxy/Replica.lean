-- The replica of a D-Bus client. It reads the four properties once, and then
-- applies every notification. As long as the control object lives and its
-- notifications succeed, it holds what the session holds.
import InputProxy.ActivityModes
import InputProxy.ControlRuns

open programs Program

namespace input_proxy

/-! ## The law -/

/-- The properties whose values differ, in the order of a notification. -/
def RuntimeControlState.changed (before after : RuntimeControlState) : List Property :=
  (if after.paused = before.paused then [] else [.PAUSED]) ++
    (if after.source_available = before.source_available then [] else [.SOURCE_AVAILABLE]) ++
    (if after.activity_while_running = before.activity_while_running then []
      else [.ACTIVITY_WHILE_RUNNING]) ++
    (if after.activity_while_paused = before.activity_while_paused then []
      else [.ACTIVITY_WHILE_PAUSED])

/-- What a client that held `held` holds after a notification of these properties, whose
values were read from `state`. -/
def RuntimeControlState.refresh (held state : RuntimeControlState) (properties : List Property) :
    RuntimeControlState where
  paused := if .PAUSED ∈ properties then state.paused else held.paused
  source_available :=
    if .SOURCE_AVAILABLE ∈ properties then state.source_available else held.source_available
  activity_while_running :=
    if .ACTIVITY_WHILE_RUNNING ∈ properties then state.activity_while_running
    else held.activity_while_running
  activity_while_paused :=
    if .ACTIVITY_WHILE_PAUSED ∈ properties then state.activity_while_paused
    else held.activity_while_paused

/-- What a client holds that has read `read`, and since then got the notifications of these
entries. -/
def replica (read : RuntimeControlState) : List Action → RuntimeControlState
  | [] => read
  | .emitted state properties _ :: past => (replica read past).refresh state properties
  | _ :: past => replica read past

/-- One control object lives all this time, and its notifications succeed. -/
def Live (h : List Action) : Prop :=
  ∀ a ∈ h, match a with
    | .observed _ s => s.runtime_control.isSome = true
    | .emitted _ _ ok => ok = true
    | _ => True

/-- The properties as they were observed or notified last. -/
def last_state (config : SessionConfig) : List Action → RuntimeControlState
  | [] => (new_session config).runtime_state
  | .observed _ s :: _ => s.runtime_state
  | .emitted state _ _ :: _ => state
  | _ :: past => last_state config past

/-- A notification has failed since a control object was seen to be missing. -/
def failed_since : List Action → Bool
  | [] => false
  | .emitted _ _ ok :: past => !ok || failed_since past
  | .observed _ s :: past => s.runtime_control.isSome && failed_since past
  | _ :: past => failed_since past

/-- No client sees both activity properties, or one that the pause state excludes. -/
structure Exclusive (state : RuntimeControlState) : Prop where
  not_both : ¬ (state.activity_while_running = true ∧ state.activity_while_paused = true)
  running : state.activity_while_running = true → state.paused = false
  paused : state.activity_while_paused = true → state.paused = true

/-- What an observation with a control object says, after this past. Nothing has changed but
what was notified, and a notification that failed is of the dispatch that is still going on. -/
structure Observed (config : SessionConfig) (point : Point) (s : Session)
    (control : RuntimeControl) (past : List Action) : Prop where
  same : s.runtime_state = last_state config past
  failed : failed_since past = true →
    point = .step ∧ control.dispatch_active = true ∧ control.disable_pending = true

/-- What the entries of a history say to a client. A notification is never empty and names exactly
what has changed, and right after one that succeeded the session is observed as it was notified. -/
def NotifiedEntry (config : SessionConfig) (a : Action) (past : List Action) : Prop :=
  (∀ state properties rest, past = .emitted state properties true :: rest →
    ∃ s, a = .observed .step s ∧ s.runtime_state = state) ∧
  match a with
  | .emitted state properties _ =>
    properties ≠ [] ∧ properties = (last_state config past).changed state
  | .observed point s => ∀ control ∈ s.runtime_control, Observed config point s control past
  | _ => True

/-! ## The replica -/

theorem mem_changed {before after : RuntimeControlState} {property : Property} :
    property ∈ before.changed after ↔
      match property with
      | .PAUSED => after.paused ≠ before.paused
      | .SOURCE_AVAILABLE => after.source_available ≠ before.source_available
      | .ACTIVITY_WHILE_RUNNING => after.activity_while_running ≠ before.activity_while_running
      | .ACTIVITY_WHILE_PAUSED => after.activity_while_paused ≠ before.activity_while_paused := by
  unfold RuntimeControlState.changed
  cases property <;> simp

/-- A notification of exactly what has changed brings a replica up to date. -/
theorem refresh_changed (before after : RuntimeControlState) :
    before.refresh after (before.changed after) = after := by
  obtain ⟨p, s, r, a⟩ := after
  simp only [RuntimeControlState.refresh, mem_changed]
  congr 1 <;> split_ifs with h <;> first | rfl | exact (not_not.mp h).symm

/-- By the law of the entries, a replica holds what was observed or notified last. -/
theorem replica_of_law {config : SessionConfig} {point : Point} {s : Session}
    {new past : List Action}
    (hlaw : Always (NotifiedEntry config) (new ++ .observed point s :: past))
    (hlive : Live new) :
    replica s.runtime_state new = last_state config (new ++ .observed point s :: past) := by
  induction new with
  | nil => rfl
  | cons a new ih =>
    obtain ⟨⟨_, ha⟩, hlaw⟩ := hlaw
    have ih := ih hlaw fun b hb => hlive b (List.mem_cons_of_mem a hb)
    have hlive_a := hlive a (List.mem_cons_self ..)
    cases a with
    | observed point' s' =>
      obtain ⟨control, hc⟩ := Option.isSome_iff_exists.mp hlive_a
      exact ih.trans (ha control hc).same.symm
    | emitted state properties ok =>
      -- the client brings what was seen before the notification up to date
      change (replica s.runtime_state new).refresh state properties = state
      rw [ih, ha.2]
      exact refresh_changed _ _
    | _ => exact ih

/-! ## The invariant -/

structure ReplicaInvariant (config : SessionConfig) (m : Moment) : Prop where
  settled : ∀ state properties ok rest, m.history ≠ .emitted state properties ok :: rest
  same : m.session.runtime_state = last_state config m.history
  live : m.session.runtime_control.isSome → m.session.activity_tracking_available = true
  retry : m.session.runtime_control_retry_active = true →
    m.session.activity_tracking_available = false
  untracked : m.session.activity_tracking_available = false → failed_since m.history = false
  failed : ∀ control ∈ m.session.runtime_control, failed_since m.history = true →
    control.dispatch_active = true ∧ control.disable_pending = true
  lawful : Always (NotifiedEntry config) m.history

/-- The same in the middle of a change: the properties are committed and, with a control object,
notified, but not observed yet. -/
structure Notified (config : SessionConfig) (m : Moment) : Prop where
  same : m.session.runtime_control.isSome → m.session.runtime_state = last_state config m.history
  notified : ∀ state properties rest, m.history = .emitted state properties true :: rest →
    m.session.runtime_control.isSome
  live : m.session.runtime_control.isSome → m.session.activity_tracking_available = true
  retry : m.session.runtime_control_retry_active = true →
    m.session.activity_tracking_available = false
  failed : ∀ control ∈ m.session.runtime_control, failed_since m.history = true →
    control.dispatch_active = true ∧ control.disable_pending = true
  lawful : Always (NotifiedEntry config) m.history

section invariant

variable {config : SessionConfig} {m m' : Moment}

theorem ReplicaInvariant.mid (h : ReplicaInvariant config m) : Notified config m :=
  ⟨fun _ => h.same, fun state properties rest heq => absurd heq (h.settled state properties _ rest),
    h.live, h.retry, h.failed, h.lawful⟩

/-- The missing control object is observed. -/
theorem ReplicaInvariant.missing (hlawful : Always (NotifiedEntry config) m.history)
    (hnot : ∀ state properties rest, m.history ≠ .emitted state properties true :: rest)
    (hc : m.session.runtime_control = none)
    (ht : m.session.activity_tracking_available = false) :
    ReplicaInvariant config (m.observe .step) := by
  have hnone : ∀ control, control ∉ m.session.runtime_control := by simp [hc]
  refine ⟨by simp [Moment.observe], rfl, fun hsome => ?_, fun _ => ht, fun _ => ?_,
    fun control hcontrol => absurd hcontrol (hnone control),
    ⟨fun state properties rest heq => absurd heq (hnot state properties rest),
      fun control hcontrol => absurd hcontrol (hnone control)⟩, hlawful⟩
  · simp [Moment.observe, hc] at hsome
  · simp [Moment.observe, failed_since, hc]

/-- The update observes the change. -/
theorem Notified.update (h : Notified config m) (clock : Option Timespec) :
    ReplicaInvariant config (m.update clock) := by
  cases hc : m.session.runtime_control with
  | some control =>
    have hsome : m.session.runtime_control.isSome := by simp [hc]
    rw [Moment.update_live hsome]
    refine ⟨by simp [Moment.observe], rfl, fun _ => rfl, fun hretry => ?_, fun hfalse => ?_,
      fun c hcontrol hfailed => ?_, ⟨fun state properties rest heq => ⟨_, rfl, ?_⟩,
        fun c hcontrol => ⟨h.same hsome, fun hfailed => ⟨rfl, h.failed c hcontrol hfailed⟩⟩⟩,
      h.lawful⟩
    · have hfalse := h.retry hretry
      rw [h.live hsome] at hfalse
      cases hfalse
    · cases hfalse
    · simp only [Moment.observe, Moment.log_history, failed_since, Bool.and_eq_true] at hfailed
      exact h.failed c hcontrol hfailed.2
    · -- the state that was notified is still the state
      refine (h.same hsome).trans ?_
      rw [show m.history = .emitted state properties true :: rest from heq]
      rfl
  | none =>
    have hnot : ∀ state properties rest, m.history ≠ .emitted state properties true :: rest := by
      intro state properties rest heq
      have hsome := h.notified state properties rest heq
      rw [hc] at hsome
      cases hsome
    cases ht : m.session.activity_tracking_available with
    | true =>
      rw [Moment.update_lost (by simp [hc]) ht]
      cases clock with
      | none => exact ReplicaInvariant.missing h.lawful hnot hc rfl
      | some now =>
        refine ReplicaInvariant.missing ⟨⟨?_, trivial⟩, h.lawful⟩ (by simp [Moment.schedule]) hc rfl
        exact fun state properties rest heq => absurd heq (hnot state properties rest)
    | false =>
      rw [Moment.update_gone (by simp [hc]) ht]
      exact ReplicaInvariant.missing h.lawful hnot hc ht

/-- A commit without a changed property changes nothing. -/
theorem commit_of_unchanged {state : RuntimeControlState} {changes : Changes}
    (h : changed_properties state changes = []) : state.commit changes = state := by
  have hmem : ∀ property, property ∉ state.changed (state.commit changes) := by
    intro property hproperty
    rw [show state.changed (state.commit changes) = [] from h] at hproperty
    cases hproperty
  have h1 := hmem .PAUSED
  have h2 := hmem .SOURCE_AVAILABLE
  have h3 := hmem .ACTIVITY_WHILE_RUNNING
  have h4 := hmem .ACTIVITY_WHILE_PAUSED
  simp only [mem_changed, ne_eq, not_not] at h1 h2 h3 h4
  cases hs : state.commit changes
  rw [hs] at h1 h2 h3 h4
  cases state
  simp_all

/-- The commit and the notification. -/
theorem ReplicaInvariant.apply (h : ReplicaInvariant config m) (changes : Changes) (ok : Bool) :
    Notified config (m.apply changes ok) := by
  have hsilent : ∀ state properties rest,
      (m.commit_changes changes).history ≠ .emitted state properties true :: rest :=
    fun state properties rest => h.settled state properties true rest
  cases hc : m.session.runtime_control with
  | none =>
    rw [Moment.apply_silent (.inl hc)]
    have hnone : (m.commit_changes changes).session.runtime_control = none := hc
    refine ⟨fun hsome => ?_, fun state properties rest heq => absurd heq (hsilent _ _ _),
      h.live, h.retry, h.failed, h.lawful⟩
    rw [hnone] at hsome
    cases hsome
  | some control =>
    have hlive := h.live (by simp [hc])
    by_cases hchanged : changed_properties m.session.runtime_state changes = []
    · rw [Moment.apply_silent (.inr hchanged)]
      refine ⟨fun _ => ?_, fun state properties rest heq => absurd heq (hsilent _ _ _),
        h.live, h.retry, h.failed, h.lawful⟩
      exact (commit_of_unchanged hchanged).trans h.same
    rw [Moment.apply_notified hc hchanged]
    -- the notification names what the commit has changed
    have hnames : changed_properties m.session.runtime_state changes =
        (last_state config m.history).changed (m.session.runtime_state.commit changes) := by
      rw [← h.same]
      rfl
    have hlawful : Always (NotifiedEntry config)
        (.emitted (m.session.runtime_state.commit changes)
          (changed_properties m.session.runtime_state changes) ok :: m.history) :=
      ⟨⟨fun state properties rest heq => absurd heq (h.settled _ _ _ _), hchanged, hnames⟩,
        h.lawful⟩
    unfold Moment.notify
    cases ok with
    | true =>
      refine ⟨fun _ => rfl, fun _ _ _ _ => ?_, fun _ => hlive, h.retry, h.failed, hlawful⟩
      simp [Moment.commit_changes, hc]
    | false =>
      refine ⟨fun _ => rfl, fun state properties rest heq => (nomatch heq),
        fun _ => hlive, h.retry, fun c hcontrol _ => ?_, hlawful⟩
      simp only [Bool.false_eq_true, if_false, Moment.put_session, Option.mem_def] at hcontrol
      split_ifs at hcontrol with hd
      obtain rfl := Option.some.inj hcontrol
      exact ⟨hd, rfl⟩

theorem ReplicaInvariant.change (h : ReplicaInvariant config m) (changes : Changes) (ok : Bool)
    (clock : Option Timespec) : ReplicaInvariant config (m.change changes ok clock) :=
  (h.apply changes ok).update clock

theorem ReplicaInvariant.update (h : ReplicaInvariant config m) (clock : Option Timespec) :
    ReplicaInvariant config (m.update clock) := h.mid.update clock

/-! ## Entries beside the changes -/

/-- An entry that is no notification, and that sees the session as it is. -/
def Action.sees (s : Session) : Action → Prop
  | .emitted _ _ _ => False
  | .observed point s' => point = .step ∧ s'.runtime_state = s.runtime_state ∧
      s'.runtime_control = s.runtime_control
  | _ => True

theorem ReplicaInvariant.log {a : Action} (h : ReplicaInvariant config m)
    (ha : a.sees m.session) : ReplicaInvariant config (m.log a) := by
  have hsettled : ∀ state properties rest, m.history ≠ .emitted state properties true :: rest :=
    fun state properties rest => h.settled state properties true rest
  cases a with
  | emitted => exact ha.elim
  | observed point s =>
    obtain ⟨hpoint, hstate, hcontrol⟩ := ha
    refine ⟨by simp, ?_, h.live, h.retry, fun ht => ?_, fun control hc hfailed => ?_,
      ⟨fun state properties rest heq => absurd heq (hsettled state properties rest),
        fun control hc => ?_⟩, h.lawful⟩
    · exact hstate.symm
    · simp [failed_since, h.untracked ht]
    · simp only [Moment.log_history, failed_since, Bool.and_eq_true] at hfailed
      exact h.failed control hc hfailed.2
    · rw [hcontrol] at hc
      refine ⟨hstate.trans h.same, fun hfailed => ⟨hpoint, ?_⟩⟩
      exact h.failed control hc hfailed
  | _ =>
    exact ⟨by simp, h.same, h.live, h.retry, h.untracked, h.failed,
      ⟨fun state properties rest heq => absurd heq (hsettled state properties rest), trivial⟩,
      h.lawful⟩

/-- The entries of a call that leaves the properties and the control object alone. -/
theorem ReplicaInvariant.keep (h : ReplicaInvariant config m)
    (hadds : Adds (Action.sees m.session) m m')
    (hstate : m'.session.runtime_state = m.session.runtime_state)
    (hcontrol : m'.session.runtime_control = m.session.runtime_control)
    (ht : m'.session.activity_tracking_available = m.session.activity_tracking_available)
    (hr : m'.session.runtime_control_retry_active = m.session.runtime_control_retry_active) :
    ReplicaInvariant config m' := by
  have h := hadds.logged h fun _ _ hs h ha => h.log (hs ▸ ha)
  refine ⟨h.settled, hstate.trans h.same, ?_, ?_, ?_, ?_, h.lawful⟩
  · rw [hcontrol, ht]
    exact h.live
  · rw [hr, ht]
    exact h.retry
  · rw [ht]
    exact h.untracked
  · rw [hcontrol]
    exact h.failed

theorem ReplicaInvariant.times (h : ReplicaInvariant config m) (htimes : Times m m') :
    ReplicaInvariant config m' := by
  obtain ⟨⟨_, _, _, _, hs⟩, hadds⟩ := htimes
  refine h.keep (hadds.mono fun a ha => ?_) (by rw [hs]) (by rw [hs]) (by rw [hs]) (by rw [hs])
  cases a <;> trivial

theorem Action.besides.sees {s : Session} {a : Action} (h : a.besides) : a.sees s := by
  rcases h with h | ⟨_, h⟩
  · cases a with
    | observed | emitted => exact h.elim
    | _ => trivial
  · cases a with
    | observed | emitted => exact h.elim
    | _ => trivial

/-- Calls and reads beside the tracked part. -/
theorem ReplicaInvariant.aside (h : ReplicaInvariant config m) (hm : Beside Action.besides m m') :
    ReplicaInvariant config m' :=
  h.keep (hm.adds.mono fun _ ha => ha.sees) (hm.field Session.runtime_state fun _ => rfl)
    (hm.field Session.runtime_control fun _ => rfl)
    (hm.field Session.activity_tracking_available fun _ => rfl)
    (hm.field Session.runtime_control_retry_active fun _ => rfl)

end invariant

/-! ## Every turn -/

theorem replica_call {config : SessionConfig} {answers : Nat → Answer} {m m' : Moment}
    (h : ReplicaInvariant config m) (hc : Call answers m m') : ReplicaInvariant config m' := by
  cases hc with
  | outside ho => exact h.aside ho.aside
  | updated k => exact h.update _
  | available b j k => exact h.change _ _ _
  | @committed p j k hp =>
    have hs := m.cancel_session p
    have hcancel : ReplicaInvariant config (m.cancel p) :=
      h.keep (Adds.refl.put.log trivial) (by rw [hs]) (by rw [hs]) (by rw [hs]) (by rw [hs])
    exact hcancel.change _ _ _
  | idle => exact h.log trivial
  | expired i now j k => exact (h.times (m.tick_times now)).change _ _ _
  | underivable i now k hi hr =>
    have hput : ReplicaInvariant config
        (m.put fun s => { s with runtime_control_retry_active := false }) :=
      ⟨h.settled, h.same, h.live, fun hr => (nomatch hr), h.untracked, h.failed, h.lawful⟩
    exact hput.log ⟨rfl, rfl, rfl⟩
  | refused i now k hi hr =>
    have h := h.log (a := .recreating m.session now) trivial
    exact ReplicaInvariant.missing h.lawful (fun _ _ _ => h.settled _ _ true _) rfl (h.retry hr)
  | not_recreated i now k hi hr =>
    have h := h.log (a := .recreating m.session now) trivial
    unfold Moment.schedule
    cases (answers k).clock with
    | none =>
      exact ReplicaInvariant.missing h.lawful (fun _ _ _ => h.settled _ _ true _) rfl (h.retry hr)
    | some later =>
      refine ReplicaInvariant.missing ⟨⟨?_, trivial⟩, h.lawful⟩ (by simp) rfl (h.retry hr)
      exact fun state properties rest heq => absurd heq (h.settled state properties true rest)
  | recreated i now hi hr =>
    have h := h.log (a := .recreating m.session now) trivial
    have hfailed := h.untracked (h.retry hr)
    have hput : ReplicaInvariant config
        ((m.log (.recreating m.session now)).put fun s =>
          { s with
            runtime_control := some ⟨false, false⟩
            runtime_control_retry_active := false
            activity_tracking_available := true }) :=
      ⟨h.settled, h.same, fun _ => rfl, fun hr => (nomatch hr), fun ht => (nomatch ht),
        fun _ _ hf => absurd (hfailed.symm.trans hf) (by decide), h.lawful⟩
    exact hput.log ⟨rfl, rfl, rfl⟩
  | finished =>
    refine ⟨h.settled, h.same, fun hsome => ?_, h.retry, h.untracked, fun control hc hf => ?_,
      h.lawful⟩
    · refine h.live ?_
      cases hc : m.session.runtime_control with
      | none => simp [hc] at hsome
      | some control => rfl
    · -- a dispatch in which a notification failed ends the control object
      simp only [Moment.put_session, Option.mem_def, Option.filter_eq_some_iff,
        Option.map_eq_some_iff, Bool.not_eq_true'] at hc
      obtain ⟨⟨before, hbefore, rfl⟩, hpending⟩ := hc
      have hmark := (h.failed before hbefore hf).2
      exact absurd (hmark.symm.trans hpending) (by decide)
  | dropped =>
    exact ⟨h.settled, h.same, fun hsome => (nomatch hsome), h.retry, h.untracked,
      fun _ hnone => (nomatch hnone), h.lawful⟩

theorem replica_physical {config : SessionConfig} {answers : Nat → Answer} {m m' : Moment}
    (h : ReplicaInvariant config m) (hp : Physical answers m m') : ReplicaInvariant config m' := by
  cases hp with
  | lost | unsampled => exact h.update _
  | suppressed i l => exact (h.update _).log trivial
  | throttled i l now => exact ((h.update _).times (Moment.throttle_times _ now)).change _ _ _
  | held i l now => exact ((h.update _).times (Moment.hold_times _ now)).change _ _ _

/-- Outside a dispatch nothing is marked, so no notification has failed since. -/
theorem ReplicaInvariant.unmarked {config : SessionConfig} {m : Moment}
    (h : ReplicaInvariant config m) (hq : m.quiet) (hc : m.session.runtime_control.isSome) :
    failed_since m.history = false := by
  obtain ⟨control, hcontrol⟩ := Option.isSome_iff_exists.mp hc
  by_contra hf
  have hmark := (h.failed control hcontrol (by simpa using hf)).2
  exact absurd (hmark.symm.trans (hq control hcontrol).2) (by decide)

/-- A point outside the dispatches is observed. -/
theorem ReplicaInvariant.point {config : SessionConfig} {m m' : Moment} (point : Point)
    (h : ReplicaInvariant config m) (hq : m.quiet)
    (hstate : m'.session.runtime_state = m.session.runtime_state)
    (hcontrol : m'.session.runtime_control.isSome = m.session.runtime_control.isSome)
    (ht : m'.session.activity_tracking_available = m.session.activity_tracking_available)
    (hr : m'.session.runtime_control_retry_active = m.session.runtime_control_retry_active)
    (hhistory : m'.history = .observed point m'.session :: m.history) :
    ReplicaInvariant config m' := by
  have hfailed : m'.session.runtime_control.isSome → failed_since m.history = false := by
    rw [hcontrol]
    exact h.unmarked hq
  have hsince : failed_since m'.history = false := by
    rw [hhistory]
    by_cases hc : m'.session.runtime_control.isSome
    · simp [failed_since, hfailed hc]
    · simp [failed_since, hc]
  have hsome : ∀ control ∈ m'.session.runtime_control, m'.session.runtime_control.isSome :=
    fun control hc => Option.isSome_iff_exists.mpr ⟨control, hc⟩
  refine ⟨?_, ?_, ?_, ?_, fun _ => hsince, fun control _ hf => ?_, ?_⟩
  · rw [hhistory]
    simp
  · rw [hhistory]
    rfl
  · rw [hcontrol, ht]
    exact h.live
  · rw [hr, ht]
    exact h.retry
  · exact absurd (hsince.symm.trans hf) (by decide)
  · rw [hhistory]
    refine ⟨⟨fun state properties rest heq => absurd heq (h.settled _ _ _ _), fun control hc =>
      ⟨hstate.trans h.same, fun hf => ?_⟩⟩, h.lawful⟩
    exact absurd ((hfailed (hsome control hc)).symm.trans hf) (by decide)

theorem replica_turn {config : SessionConfig} {answers : Nat → Answer} {m m' : Moment}
    (h : ReplicaInvariant config m) (ht : Turn answers m m') : ReplicaInvariant config m' := by
  cases ht with
  | call hc => exact replica_call h hc
  | looped hq => exact h.point .loop_head hq rfl rfl rfl rfl rfl
  | dispatched hq => exact h.point .dispatch hq rfl (by simp [Moment.observe]) rfl rfl rfl
  | read hr => exact h.aside hr.aside
  | eligible hr _ _ hp => exact replica_physical (h.aside hr.aside) hp

theorem replica_start {config : SessionConfig} {answers : Nat → Answer} {m : Moment}
    (h : Started answers config m) : ReplicaInvariant config m := by
  have hnew : ReplicaInvariant config ⟨new_session config, []⟩ :=
    ⟨by simp, rfl, fun hsome => (nomatch hsome), fun hr => (nomatch hr), fun _ => rfl,
      fun _ hc => (nomatch hc), trivial⟩
  cases h with
  | created =>
    exact ⟨by simp, rfl, fun _ => rfl, fun hr => (nomatch hr), fun ht => (nomatch ht),
      fun _ _ hf => (nomatch hf), trivial⟩
  | refused => exact hnew
  | failed k =>
    unfold Moment.schedule
    cases (answers k).clock with
    | none =>
      exact ⟨by simp, rfl, fun hsome => (nomatch hsome), fun hr => (nomatch hr), fun _ => rfl,
        fun _ hc => (nomatch hc), trivial⟩
    | some now =>
      exact ⟨by simp, rfl, fun hsome => (nomatch hsome), fun _ => rfl, fun _ => rfl,
        fun _ hc => (nomatch hc), ⟨⟨fun _ _ _ heq => (nomatch heq), trivial⟩, trivial⟩⟩

theorem replica_invariant (config : SessionConfig) (answers : Nat → Answer) (fuel : Nat) :
    ReplicaInvariant config (run_moment config answers fuel) := by
  obtain ⟨m, hm, hturns⟩ := run_turns config answers fuel
  exact invariant_of_step (ReplicaInvariant config) (fun _ _ h ht => replica_turn h ht)
    (replica_start hm) hturns

/-! ## The claim's laws -/

/-- No observation and no notification shows a client activity of both modes, or of the wrong
one. -/
def ExclusiveEntry : Action → Prop
  | .observed _ s => Exclusive s.runtime_state
  | .emitted state _ ok => ok = true → Exclusive state
  | _ => True

/-- What a notification shows is what the observation after it shows. -/
theorem exclusive_of_observed {config : SessionConfig} {history : List Action}
    (hlaw : Always (NotifiedEntry config) history)
    (hobserved : Always (fun a _ => ∀ point s, a = .observed point s → Exclusive s.runtime_state)
      history)
    (hhead : ∀ state properties rest, history = .emitted state properties true :: rest →
      Exclusive state) :
    Always (fun a _ => ExclusiveEntry a) history := by
  induction history with
  | nil => trivial
  | cons a past ih =>
    obtain ⟨⟨hnext, -⟩, hlaw⟩ := hlaw
    obtain ⟨ha, hobserved⟩ := hobserved
    refine ⟨?_, ih hlaw hobserved fun state properties rest heq => ?_⟩
    · cases a with
      | observed point s => exact ha point s rfl
      | emitted state properties ok =>
        rintro rfl
        exact hhead state properties past rfl
      | _ => trivial
    · obtain ⟨s, rfl, rfl⟩ := hnext state properties rest heq
      exact ha .step s rfl

theorem exclusive_always (config : SessionConfig) (answers : Nat → Answer) (fuel : Nat) :
    Always (fun a _ => ExclusiveEntry a) (run_history config answers fuel) := by
  have h := replica_invariant config answers fuel
  refine exclusive_of_observed h.lawful ?_ fun state properties rest heq =>
    absurd heq (h.settled state properties true rest)
  refine (activity_invariant config answers fuel).lawful.mono fun a past ha _ => ?_
  rintro point s rfl
  obtain ⟨hmodes, hboth⟩ := ha
  exact ⟨hboth, hmodes.running_unpaused, hmodes.paused_paused⟩

/-- In every run a client that reads the properties once, and then applies every
notification, holds at every observation what the session holds, and after every notification
what the session held then, as long as one control object lives and its notifications succeed.
A notification is never empty and names exactly what has changed, and the one that failed ends
the control object with the dispatch that is going on. No observation and no notification shows
activity that the pause state excludes. -/
theorem the_replica_of_a_client_never_diverges (config : SessionConfig)
    (answers : Nat → Answer) (fuel : Nat) :
    (∀ later new past point s point' s', run_history config answers fuel =
        later ++ (.observed point' s' :: new ++ .observed point s :: past) →
      Live (.observed point' s' :: new) →
      replica s.runtime_state (.observed point' s' :: new) = s'.runtime_state) ∧
    (∀ later new past point s state properties, run_history config answers fuel =
        later ++ (.emitted state properties true :: new ++ .observed point s :: past) →
      Live new →
      replica s.runtime_state (.emitted state properties true :: new) = state) ∧
    Always (NotifiedEntry config) (run_history config answers fuel) ∧
    Always (fun a _ => ExclusiveEntry a) (run_history config answers fuel) := by
  have hlaw : Always (NotifiedEntry config) (run_history config answers fuel) :=
    (replica_invariant config answers fuel).lawful
  refine ⟨?_, ?_, hlaw, exclusive_always config answers fuel⟩
  · intro later new past point s point' s' hrun hlive
    rw [hrun] at hlaw
    exact replica_of_law (always_older hlaw) hlive
  · intro later new past point s state properties hrun hlive
    rw [hrun] at hlaw
    refine replica_of_law (always_older hlaw) fun a ha => ?_
    rcases List.mem_cons.mp ha with rfl | hmem
    · rfl
    · exact hlive a hmem

end input_proxy
