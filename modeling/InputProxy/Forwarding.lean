-- Forwarding: an event is written while the session is not paused, after a
-- complete synchronization, and each event that is delivered unpaused is
-- written exactly once and in order.
import InputProxy.Histories

open programs Program

namespace input_proxy

/-! ## Which steps read and forward -/

/-- An entry that is no delivery and no forwarded event. -/
def Action.aside : Action → Prop
  | .delivered _ _ | .written .forward _ _ _ => False
  | _ => True

/-- Not between a read and what follows from it. -/
def Phase.between : Phase → Prop
  | .delivered _ _ => False
  | _ => True

/-- What a step does to the flow of events. -/
inductive Flows : Phase × Moment → Phase × Moment → Prop
  | read {ph b m} (e : SourceEvent) (hph : ph.between) :
      Flows (ph, m) (.delivered b e.event, m.deliver e)
  | forward {b e m} (hp : m.session.runtime_state.paused = false) :
      Flows (.delivered b e, m) (.after b, m.wrote .forward e)
  | fail {b e r m} (hp : m.session.runtime_state.paused = false) :
      Flows (.delivered b e, m) (.ended r, m.log (.written .forward false e false))
  | suppress {b e m} (hp : m.session.runtime_state.paused = true) :
      Flows (.delivered b e, m) (.after b, m)
  | hold {b e m m'} (ha : Adds Action.aside m m')
      (hp : m'.session.runtime_state.paused = m.session.runtime_state.paused) :
      Flows (.delivered b e, m) (.delivered b e, m')
  | aside {ph ph' m m'} (hph : ph.between) (hph' : ph'.between) (ha : Adds Action.aside m m') :
      Flows (ph, m) (ph', m')

theorem Action.of_correction.aside {a : Action} (h : a.of_correction) : a.aside := by
  cases a with
  | written cause p e ok => cases cause <;> trivial
  | _ => trivial

theorem Action.of_control.aside {a : Action} (h : a.of_control) : a.aside := by
  cases a <;> trivial

theorem Step.flows {x y : Phase × Moment} (h : Step x y) : Flows x y := by
  have hlog : ∀ {m : Moment} {a : Action}, a.aside → Adds Action.aside m (m.log a) :=
    fun ha => Adds.refl.log ha
  have hclosed : ∀ id, Action.aside (.closed id) := fun _ => trivial
  have hdestroyed : ∀ id, Action.aside (.destroyed id) := fun _ => trivial
  cases h with
  | @control ph m m' h =>
    have ha := h.adds.mono fun _ ha => ha.aside
    cases ph with
    | delivered b e => exact .hold ha h.same.2.2.1
    | _ => exact .aside trivial trivial ha
  | read hf => exact .read _ trivial
  | recover => exact .read _ trivial
  | suppress hp => exact .suppress hp
  | forward hp => exact .forward hp
  | forward_failed hp => exact .fail hp
  | changed hp hc =>
    have ha := hc.adds (fun _ ha => ha.aside) trivial fun _ => trivial
    exact .aside trivial trivial (ha.put.log (by trivial))
  | failed hp hc hr =>
    have ha := hc.adds (fun _ ha => ha.aside) trivial fun _ => trivial
    exact .aside trivial trivial (ha.put.log (by trivial))
  | denied | denied_end => exact .aside trivial trivial ((hlog (by trivial)).log (by trivial))
  | incompatible => exact .aside trivial trivial ((hlog (by trivial)).destroy hdestroyed)
  | create_failed => exact .aside trivial trivial ((hlog (by trivial)).close hclosed)
  | synchronized hp hs | not_synchronized hp hs hr =>
    exact .aside trivial trivial (hs.adds.mono fun _ ha => ha.aside)
  | neutralized hn | not_neutralized hn hr =>
    exact .aside trivial trivial (hn.adds_loss (fun _ ha => ha.aside) trivial hclosed)
  | clean =>
    exact .aside trivial trivial (((hlog (by trivial)).destroy hdestroyed).close hclosed)
  | unchanged | interrupted | signal_lost | signal_ended | give_up | first | stay_paused
  | activate | fatal | fatal_lost | lose => exact .aside trivial trivial Adds.refl
  | _ => exact .aside trivial trivial (hlog (by trivial))

/-! ## The law -/

/-- The events that were read while the session was not paused, newest first. -/
def delivered_unpaused (h : List Action) : List InputEvent :=
  h.filterMap fun
    | .delivered false e => some e
    | _ => none

/-- The events that were forwarded, newest first. -/
def forwarded (h : List Action) : List InputEvent :=
  h.filterMap fun
    | .written .forward _ e true => some e
    | _ => none

def NoFailedWrite (h : List Action) : Prop := ∀ cause p e, .written cause p e false ∉ h

/-- As long as no write fails, what was forwarded is what was read unpaused. -/
def Balanced (h : List Action) : Prop := NoFailedWrite h → forwarded h = delivered_unpaused h

/-- The last event that was read is this one, it was read unpaused, and nothing was
forwarded since. -/
def Unwritten (e : InputEvent) (h : List Action) : Prop :=
  ∃ later older, h = later ++ .delivered false e :: older ∧ ∀ a ∈ later, a.aside

/-- A source that was opened, a virtual device that was created, and the transition to
unpaused, from its request on: each asks for a synchronization. -/
def Action.interrupts : Action → Prop
  | .opened _ | .created _ | .requested false => True
  | _ => False

/-- The entries of a complete synchronization that succeeded, newest first: the capture,
every captured event and the boundary, and the check of the source. -/
def synchronization (s : Session) (source : SourceDevice) : List Action :=
  .checked .SUCCESS ::
    written_entries .synchronize s.runtime_state.paused
      (capture_events source.evdev ++ [synchronization_boundary]) ++
    [.captured s (capture_events source.evdev)]

/-- A complete synchronization has succeeded since the last entry that asks for one. -/
def Synchronized (h : List Action) : Prop :=
  ∃ later s source older, s.source_device = some source ∧
    h = later ++ (synchronization s source ++ older) ∧ ∀ a ∈ later, ¬ a.interrupts

/-- What the history says when an event is read or forwarded. -/
def ForwardEntry (a : Action) (past : List Action) : Prop :=
  match a with
  | .written .forward p e _ => p = false ∧ Synchronized past ∧ Unwritten e past
  | .delivered _ _ => Balanced past
  | _ => True

/-! ## The flow of events -/

section flow

variable {m m' : Moment} {e : InputEvent}

theorem delivered_unpaused_aside (h : Adds Action.aside m m') :
    delivered_unpaused m'.history = delivered_unpaused m.history := by
  obtain ⟨new, hnew, hall⟩ := h
  rw [hnew, delivered_unpaused, List.filterMap_append, List.filterMap_eq_nil_iff.mpr]
  · rfl
  · intro a ha
    have haside := hall a ha
    cases a with
    | delivered p e => exact haside.elim
    | _ => rfl

theorem forwarded_aside (h : Adds Action.aside m m') :
    forwarded m'.history = forwarded m.history := by
  obtain ⟨new, hnew, hall⟩ := h
  rw [hnew, forwarded, List.filterMap_append, List.filterMap_eq_nil_iff.mpr]
  · rfl
  · intro a ha
    have haside := hall a ha
    cases a with
    | written cause p e ok =>
      cases cause with
      | forward => exact haside.elim
      | _ => rfl
    | _ => rfl

theorem NoFailedWrite.older {P : Action → Prop} (h : Adds P m m')
    (hn : NoFailedWrite m'.history) : NoFailedWrite m.history := by
  obtain ⟨new, hnew, _⟩ := h
  intro cause p e hmem
  refine hn cause p e ?_
  rw [hnew]
  exact List.mem_append_right new hmem

theorem Balanced.aside (hb : Balanced m.history) (h : Adds Action.aside m m') :
    Balanced m'.history := by
  intro hn
  rw [forwarded_aside h, delivered_unpaused_aside h]
  exact hb (hn.older h)

theorem Unwritten.aside (hu : Unwritten e m.history) (h : Adds Action.aside m m') :
    Unwritten e m'.history := by
  obtain ⟨new, hnew, hall⟩ := h
  obtain ⟨later, older, heq, hlater⟩ := hu
  refine ⟨new ++ later, older, by rw [hnew, heq, List.append_assoc], ?_⟩
  exact List.forall_mem_append.mpr ⟨hall, hlater⟩

end flow

/-- In each phase: the balance, or the one event that is read and not yet forwarded. -/
def Flow (ph : Phase) (m : Moment) : Prop :=
  match ph with
  | .delivered _ e =>
    if m.session.runtime_state.paused then Balanced m.history
    else Unwritten e m.history ∧
      (NoFailedWrite m.history → delivered_unpaused m.history = e :: forwarded m.history)
  | _ => Balanced m.history

theorem flow_between {ph : Phase} {m : Moment} (h : ph.between) :
    Flow ph m ↔ Balanced m.history := by
  cases ph with
  | delivered b e => exact h.elim
  | _ => exact Iff.rfl

theorem flow_after {b : Bool} {m : Moment} : Flow (.after b) m ↔ Balanced m.history := by
  cases b <;> exact Iff.rfl

theorem flow_step {ph ph' : Phase} {m m' : Moment} (hm : Flow ph m)
    (h : Flows (ph, m) (ph', m')) : Flow ph' m' := by
  cases h with
  | read e hph =>
    rw [flow_between hph] at hm
    cases hp : m.session.runtime_state.paused with
    | true =>
      have hread : Balanced (.delivered true e.event :: m.history) := by
        intro hn
        exact hm fun cause p e hmem => hn cause p e (List.mem_cons_of_mem _ hmem)
      simp only [Flow, Moment.deliver, Moment.log_session, Moment.put_session, hp, if_true]
      exact hread
    | false =>
      simp only [Flow, Moment.deliver, Moment.log_session, Moment.put_session, hp,
        Bool.false_eq_true, if_false]
      refine ⟨⟨[], m.history, rfl, by simp⟩, fun hn => ?_⟩
      have hb := hm fun cause p e hmem => hn cause p e (List.mem_cons_of_mem _ hmem)
      change e.event :: delivered_unpaused m.history = e.event :: forwarded m.history
      rw [hb]
  | @forward b e m hp =>
    simp only [Flow, hp, Bool.false_eq_true, if_false] at hm
    rw [flow_after]
    intro hn
    have hb := hm.2 fun cause p e hmem => hn cause p e (List.mem_cons_of_mem _ hmem)
    exact hb.symm
  | fail hp =>
    intro hn
    exact absurd (List.mem_cons_self ..) (hn .forward false _)
  | suppress hp =>
    simp only [Flow, hp, if_true] at hm
    exact flow_after.mpr hm
  | hold ha hp =>
    cases hpaused : m.session.runtime_state.paused with
    | true =>
      simp only [Flow, hp, hpaused, if_true] at hm ⊢
      exact hm.aside ha
    | false =>
      simp only [Flow, hp, hpaused, Bool.false_eq_true, if_false] at hm ⊢
      refine ⟨hm.1.aside ha, fun hn => ?_⟩
      rw [forwarded_aside ha, delivered_unpaused_aside ha]
      exact hm.2 (hn.older ha)
  | aside hph hph' ha =>
    rw [flow_between hph] at hm
    rw [flow_between hph']
    exact hm.aside ha

/-! ## Synchronization comes first -/

/-- The phases from which an unpaused session may come to forward an event without
a further synchronization. -/
def Phase.forwards : Phase → Prop
  | .idle .active | .handling .active _ | .replying .active _ _ | .ready | .delivered _ _
  | .recovering => True
  | _ => False

/-- An unpaused session in such a phase has synchronized. -/
def SynchronizedIn (ph : Phase) (m : Moment) : Prop :=
  ph.forwards → m.session.runtime_state.paused = false → Synchronized m.history

theorem Synchronized.adds {m m' : Moment} (hs : Synchronized m.history)
    (h : Adds (fun a => ¬ a.interrupts) m m') : Synchronized m'.history := by
  obtain ⟨new, hnew, hall⟩ := h
  obtain ⟨later, s, source, older, hsource, heq, hlater⟩ := hs
  refine ⟨new ++ later, s, source, older, hsource, by rw [hnew, heq, List.append_assoc], ?_⟩
  exact List.forall_mem_append.mpr ⟨hall, hlater⟩

theorem Synchronized.log {a : Action} {h : List Action} (hs : Synchronized h)
    (ha : ¬ a.interrupts) : Synchronized (a :: h) := by
  obtain ⟨later, s, source, older, hsource, heq, hlater⟩ := hs
  exact ⟨a :: later, s, source, older, hsource, by rw [heq]; rfl,
    List.forall_mem_cons.mpr ⟨ha, hlater⟩⟩

theorem Synchronize.synchronized {m m' : Moment} (h : Synchronize m .SUCCESS m') :
    Synchronized m'.history := by
  cases h with
  | uncaptured hr => rcases hr with hr | hr <;> cases hr
  | unwritten hs hb hw hr => exact absurd rfl hr
  | checked hs hb hw hr =>
    refine ⟨[.synchronized .SUCCESS], m.session, _, m.history, hs, ?_, ?_⟩
    · rw [hw.success]
      simp [Moment.wrote_all, synchronization]
    · simp [Action.interrupts]

theorem Action.of_control.no_interrupt {a : Action} (h : a.of_control) : ¬ a.interrupts := by
  cases a <;> first | exact h.elim | exact id

theorem Action.of_correction.no_interrupt {a : Action} (h : a.of_correction) :
    ¬ a.interrupts := by
  cases a <;> first | exact h.elim | exact id

theorem synchronized_step {config : SessionConfig} {ph ph' : Phase} {m m' : Moment}
    (hr : Reach config (ph, m)) (hm : SynchronizedIn ph m) (h : Step (ph, m) (ph', m')) :
    SynchronizedIn ph' m' := by
  have hh : Holds ph m.session := holds_reach hr
  intro hph hp
  cases h with
  | control h =>
    rw [h.same.2.2.1] at hp
    exact (hm hph hp).adds (h.adds.mono fun _ ha => ha.no_interrupt)
  | @changed l p m m1 hne hc =>
    cases l with
    | waiting t => exact hph.elim
    | active =>
      cases p with
      | true => cases hp
      | false =>
        cases hc with
        | none ha =>
          have hav : m.session.runtime_state.source_available = true := hh.2.1
          rw [Moment.log_session, hav] at ha
          cases ha
        | pause _ hp _ => cases hp
        | resume ha _ hs => exact hs.synchronized.log id
  | @failed l p m r m1 hne hc _ =>
    cases l with
    | waiting t => exact hph.elim
    | active =>
      obtain ⟨es, hes⟩ := hc.same.of_log.session
      have hp : m.session.runtime_state.paused = false := by
        simpa [hes] using hp
      cases p with
      | false => exact absurd hp hne
      | true =>
        have hs := (hm trivial hp).adds (hc.adds (fun _ ha => ha.no_interrupt) id fun _ => id)
        exact hs.log id
  | synchronized _ hs => exact hs.synchronized
  | stay_paused hpaused =>
    rw [hpaused] at hp
    cases hp
  | @dispatch l | @call l _ _ | @unchanged l _ _ _ | @reply l _ _ _ | @go_on l _ _ =>
    cases l with
    | waiting t => exact hph.elim
    | active => first | exact (hm trivial hp).log id | exact hm trivial hp
  | activate => exact hm trivial hp
  | loop_head | read_nothing | read_dropped | recovered =>
    exact (hm trivial hp).log id
  | read | recover =>
    exact (hm trivial hp).log id
  | suppress => exact hm trivial hp
  | forward => exact (hm trivial hp).log id
  | _ => exact hph.elim

/-! ## Every run -/

structure ForwardInvariant (ph : Phase) (m : Moment) : Prop where
  flow : Flow ph m
  synchronized : SynchronizedIn ph m
  lawful : Always ForwardEntry m.history

theorem Action.aside.lawful {a : Action} {past : List Action} (h : a.aside) :
    ForwardEntry a past := by
  cases a with
  | delivered p e => exact h.elim
  | written cause p e ok =>
    cases cause with
    | forward => exact h.elim
    | _ => trivial
  | _ => trivial

theorem ForwardInvariant.lawful_step {ph ph' : Phase} {m m' : Moment}
    (hm : ForwardInvariant ph m) (h : Flows (ph, m) (ph', m')) :
    Always ForwardEntry m'.history := by
  have hflow := hm.flow
  have hwrite : ∀ {b e ok}, ph = .delivered b e → m.session.runtime_state.paused = false →
      ForwardEntry (.written .forward false e ok) m.history := by
    rintro b e ok rfl hp
    simp only [Flow, hp, Bool.false_eq_true, if_false] at hflow
    exact ⟨rfl, hm.synchronized trivial hp, hflow.1⟩
  cases h with
  | read e hph => exact ⟨(flow_between hph).mp hflow, hm.lawful⟩
  | forward hp =>
    refine ⟨?_, hm.lawful⟩
    rw [hp]
    exact hwrite rfl hp
  | fail hp => exact ⟨hwrite rfl hp, hm.lawful⟩
  | suppress hp => exact hm.lawful
  | hold ha hp => exact ha.law hm.lawful fun _ _ h => h.lawful
  | aside hph hph' ha => exact ha.law hm.lawful fun _ _ h => h.lawful

theorem forward_reach {config : SessionConfig} {ph : Phase} {m : Moment}
    (h : Reach config (ph, m)) : ForwardInvariant ph m := by
  refine reach_induction ForwardInvariant ⟨fun _ => rfl, fun h => h.elim, trivial⟩ ?_ h
  intro ph ph' m m' hr hm hs
  exact ⟨flow_step hm.flow hs.flows, synchronized_step hr hm.synchronized hs,
    hm.lawful_step hs.flows⟩

/-- In every run an event is forwarded only while the session is not paused, only after a
complete synchronization since the source was opened, the virtual device created and
Resume requested, and only as the one event that was read last, unpaused. As long as no
write fails, the forwarded events are those that were read unpaused, each once and in
order: at every read, and when the run ends or is cut short. -/
theorem forwarding_follows_a_synchronization_and_keeps_the_order (config : SessionConfig)
    (answers : Nat → Answer) (fuel : Nat) :
    Always ForwardEntry (run_history config answers fuel) ∧
      Balanced (run_history config answers fuel) := by
  refine run_law (fun m => Always ForwardEntry m.history ∧ Balanced m.history)
    (fun ph m hrest hr => ?_) answers fuel
  have hinv := forward_reach hr
  refine ⟨hinv.lawful, (flow_between ?_).mp hinv.flow⟩
  cases ph <;> trivial

end input_proxy
