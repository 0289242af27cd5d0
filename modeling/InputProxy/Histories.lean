-- From the steps to the runs: a law that every step of the lifecycle keeps is
-- a law of every run, complete or cut short. And what the steps that most
-- laws do not care about add to a history.
import InputProxy.SessionRuns

open programs Program

namespace input_proxy

/-! ## Laws of runs -/

/-- Where a run, complete or cut short, has come to. -/
def run_moment (config : SessionConfig) (answers : Nat → Answer) (fuel : Nat) : Moment :=
  (session_run fuel (World.start config answers)).2.moment

/-- The history of a run, complete or cut short. -/
def run_history (config : SessionConfig) (answers : Nat → Answer) (fuel : Nat) : List Action :=
  (run_moment config answers fuel).history

/-- A run that came to its end. -/
def Returns (config : SessionConfig) (answers : Nat → Answer) (fuel : Nat) (r : Result)
    (w : World) : Prop :=
  session_run fuel (World.start config answers) = (some r, w)

theorem returns_of {config : SessionConfig} {answers : Nat → Answer} {fuel : Nat} {r : Result}
    (h : (session_run fuel (World.start config answers)).1 = some r) :
    Returns config answers fuel r (session_run fuel (World.start config answers)).2 :=
  Prod.ext h rfl

theorem Returns.history {config : SessionConfig} {answers : Nat → Answer} {fuel : Nat}
    {r : Result} {w : World} (h : Returns config answers fuel r w) :
    run_history config answers fuel = w.history := by
  unfold run_history run_moment
  rw [h]
  rfl

variable {config : SessionConfig}

/-- What the start meets and every step from a reached moment keeps. -/
theorem reach_induction (P : Phase → Moment → Prop)
    (hstart : P (.idle (.waiting none)) ⟨new_session config, []⟩)
    (hstep : ∀ {ph ph' m m'}, Reach config (ph, m) → P ph m → Step (ph, m) (ph', m') → P ph' m')
    {ph : Phase} {m : Moment} (h : Reach config (ph, m)) : P ph m := by
  have hall : ∀ x, Reach config x → P x.1 x.2 := by
    intro x hx
    induction hx with
    | refl => exact hstart
    | tail hx hs ih => exact hstep hx ih hs
  exact hall _ h

/-- What every reached moment meets, every run meets. -/
theorem run_law (P : Moment → Prop) (h : ∀ ph m, ph.resting → Reach config (ph, m) → P m)
    (answers : Nat → Answer) (fuel : Nat) : P (run_moment config answers fuel) := by
  obtain ⟨ph, hr, hp⟩ := session_run.reached config fuel answers
  exact h ph _ hr hp

/-! ## What steps add to a history -/

/-- The later history is the earlier one with new entries, each of which meets `P`. -/
def Adds (P : Action → Prop) (m m' : Moment) : Prop :=
  ∃ new, m'.history = new ++ m.history ∧ ∀ a ∈ new, P a

section adds

variable {P Q : Action → Prop} {m m1 m' : Moment} {a : Action}

theorem Adds.refl : Adds P m m := ⟨[], rfl, by simp⟩

theorem Adds.log (h : Adds P m m') (ha : P a) : Adds P m (m'.log a) := by
  obtain ⟨new, hnew, hall⟩ := h
  refine ⟨a :: new, by rw [Moment.log_history, hnew]; rfl, ?_⟩
  exact List.forall_mem_cons.mpr ⟨ha, hall⟩

theorem Adds.put {f : Session → Session} (h : Adds P m m') : Adds P m (m'.put f) := h

theorem Adds.trans (h : Adds P m m1) (h' : Adds P m1 m') : Adds P m m' := by
  obtain ⟨new, hnew, hall⟩ := h
  obtain ⟨new', hnew', hall'⟩ := h'
  refine ⟨new' ++ new, by rw [hnew', hnew, List.append_assoc], ?_⟩
  exact List.forall_mem_append.mpr ⟨hall', hall⟩

theorem Adds.mono (h : Adds P m m') (hPQ : ∀ a, P a → Q a) : Adds Q m m' := by
  obtain ⟨new, hnew, hall⟩ := h
  exact ⟨new, hnew, fun a ha => hPQ a (hall a ha)⟩

theorem Adds.close (h : Adds P m m') (hP : ∀ id, P (.closed id)) : Adds P m m'.close := by
  unfold Moment.close
  cases m'.session.source_device with
  | none => exact h.put
  | some source => exact (h.log (hP source.id)).put

theorem Adds.destroy (h : Adds P m m') (hP : ∀ id, P (.destroyed id)) : Adds P m m'.destroy := by
  unfold Moment.destroy
  cases m'.session.virtual_device with
  | none => exact h.put
  | some device => exact (h.log (hP device.id)).put

/-- A law of histories, entry by entry, over new entries that meet it: each of them has only
such entries between it and the earlier history. -/
theorem Adds.law_past {R : Action → List Action → Prop} (h : Adds P m m')
    (hm : Always R m.history)
    (hPR : ∀ a new, P a → (∀ b ∈ new, P b) → R a (new ++ m.history)) : Always R m'.history := by
  obtain ⟨new, hnew, hall⟩ := h
  rw [hnew]
  refine always_append hm fun l a r heq => hPR a r (hall a ?_) fun b hb => hall b ?_
  · rw [heq]
    simp
  · rw [heq]
    exact List.mem_append_right l (List.mem_cons_of_mem a hb)

theorem Adds.law {R : Action → List Action → Prop} (h : Adds P m m') (hm : Always R m.history)
    (hPR : ∀ a new, P a → R a (new ++ m.history)) : Always R m'.history :=
  h.law_past hm fun a new ha _ => hPR a new ha

/-- What each new entry keeps, all of them keep. -/
theorem Adds.logged {Inv : Moment → Prop} (h : Adds P m m') (hm : Inv m)
    (hlog : ∀ m1 a, m1.session = m.session → Inv m1 → P a → Inv (m1.log a)) :
    Inv ⟨m.session, m'.history⟩ := by
  obtain ⟨new, hnew, hall⟩ := h
  rw [hnew]
  clear hnew
  induction new with
  | nil => exact hm
  | cons a new ih =>
    obtain ⟨ha, hall⟩ := List.forall_mem_cons.mp hall
    exact hlog ⟨m.session, new ++ m.history⟩ a rfl (ih hall) ha

/-- A law of the later history is a law of the earlier one. -/
theorem Adds.past {R : Action → List Action → Prop} (h : Adds P m m')
    (hm : Always R m'.history) : Always R m.history := by
  obtain ⟨new, hnew, _⟩ := h
  rw [hnew] at hm
  exact always_older hm

end adds

/-! ## Entries of the control object and the activity tracking -/

/-- An entry that says nothing about devices, events and requests. -/
def Action.of_control : Action → Prop
  | .observed .step _ | .retry_scheduled _ | .recreating _ _ | .emitted _ _ _ | .active _
  | .ticked _ | .timer_set _ _ | .timer_expired _ => True
  | _ => False

theorem ControlStep.adds {m m' : Moment} (h : ControlStep m m') :
    Adds Action.of_control m m' := by
  cases h with
  | observe | retry_scheduled | recreating | emitted | eligible | ticked | running_set
  | paused_set | running_expired | paused_expired => exact Adds.refl.log (by trivial)
  | control | tracking | discard | retry | diagnosed | running_zero | paused_zero =>
    exact Adds.refl

/-! ## Entries of the state corrections -/

/-- An entry of a write for this cause. -/
def Action.of_write (cause : Cause) (a : Action) : Prop := ∃ p e ok, a = .written cause p e ok

theorem Wrote.adds {cause : Cause} {es : List InputEvent} {m m' : Moment} {r : Result}
    (h : Wrote cause es m r m') : Adds (Action.of_write cause) m m' := by
  induction h with
  | nil m => exact Adds.refl
  | fail e es m => exact Adds.refl.log ⟨_, _, _, rfl⟩
  | cons _ ih =>
    refine Adds.trans ?_ ih
    exact Adds.refl.put.log ⟨_, _, _, rfl⟩

/-- An entry of a neutralization or a synchronization. -/
def Action.of_correction : Action → Prop
  | .written .neutralize _ _ _ | .written .synchronize _ _ _ | .captured _ _ | .checked _
  | .neutralized _ _ _ | .synchronized _ => True
  | _ => False

theorem Action.of_write.of_correction {cause : Cause} {a : Action} (h : a.of_write cause)
    (hc : cause ≠ .forward) : a.of_correction := by
  obtain ⟨p, e, ok, rfl⟩ := h
  cases cause <;> trivial

theorem Neutralize.adds {m m' : Moment} {r : Result} (h : Neutralize m r m') :
    Adds Action.of_correction m m' := by
  cases h with
  | unread hd hr => exact Adds.refl.log (by trivial)
  | wrote hd hw => exact (hw.adds.mono fun a ha => ha.of_correction (by decide)).log (by trivial)

/-- The entries of the loss of the source. -/
theorem Neutralize.adds_loss {P : Action → Prop} {m m' : Moment} {r : Result}
    (h : Neutralize (m.log (.lost m.session)) r m') (hc : ∀ a, a.of_correction → P a)
    (hlost : P (.lost m.session)) (hclosed : ∀ id, P (.closed id)) : Adds P m m'.close :=
  ((Adds.refl.log hlost).trans (h.adds.mono hc)).close hclosed

/-- An entry of a synchronization. -/
def Action.of_synchronization : Action → Prop
  | .written .synchronize _ _ _ | .captured _ _ | .checked _ | .synchronized _ => True
  | _ => False

theorem Synchronize.adds_synchronization {m m' : Moment} {r : Result}
    (h : Synchronize m r m') : Adds Action.of_synchronization m m' := by
  have hwrites : ∀ {s es fs m1 r1}, Wrote .synchronize fs (m.log (.captured s es)) r1 m1 →
      Adds Action.of_synchronization m m1 := by
    intro s es fs m1 r1 hw
    have hcaptured : Adds Action.of_synchronization m (m.log (.captured s es)) :=
      Adds.refl.log (by trivial)
    refine hcaptured.trans (hw.adds.mono fun a ha => ?_)
    obtain ⟨p, e, ok, rfl⟩ := ha
    trivial
  cases h with
  | uncaptured hr => exact Adds.refl.log (by trivial)
  | unwritten hs hb hw hr => exact (hwrites hw).log (by trivial)
  | checked hs hb hw hr => exact ((hwrites hw).log (by trivial)).log (by trivial)

theorem Synchronize.adds {m m' : Moment} {r : Result} (h : Synchronize m r m') :
    Adds Action.of_correction m m' := by
  refine h.adds_synchronization.mono fun a ha => ?_
  cases a with
  | written cause p e ok =>
    cases cause with
    | synchronize => trivial
    | _ => exact ha.elim
  | captured | checked | synchronized => trivial
  | _ => exact ha.elim

/-- The corrections that a step from this moment makes meet `P`, entry by entry. -/
structure CorrectionsAdd (P : Action → Prop) (m : Moment) : Prop where
  neutralize : ∀ {m1 r m'}, m1.session = m.session → Neutralize m1 r m' → Adds P m1 m'
  synchronize : ∀ {m1 r m'}, m1.session = m.session → Synchronize m1 r m' → Adds P m1 m'

theorem CorrectionsAdd.of_correction {P : Action → Prop} {m : Moment}
    (h : ∀ a, a.of_correction → P a) : CorrectionsAdd P m :=
  ⟨fun _ hn => hn.adds.mono h, fun _ hs => hs.adds.mono h⟩

/-- The entries of a request, before its commit. -/
theorem CorrectionsAdd.corrects {P : Action → Prop} {m m' : Moment} {p : Bool} {r : Result}
    (h : CorrectionsAdd P m) (hr : P (.requested p))
    (hs : m.session.runtime_state.source_available = true → P (.correcting p m.session))
    (hc : Corrects p (m.log (.requested p)) r m') : Adds P m m' := by
  have hrequested : Adds P m (m.log (.requested p)) := Adds.refl.log hr
  cases hc with
  | none h => exact hrequested
  | pause ha hp hn => exact (hrequested.log (hs ha)).trans (h.neutralize rfl hn)
  | resume ha hp hn => exact (hrequested.log (hs ha)).trans (h.synchronize rfl hn)

theorem Corrects.adds {P : Action → Prop} {m m' : Moment} {p : Bool} {r : Result}
    (h : Corrects p (m.log (.requested p)) r m') (hc : ∀ a, a.of_correction → P a)
    (hr : P (.requested p)) (hs : ∀ s, P (.correcting p s)) : Adds P m m' :=
  (CorrectionsAdd.of_correction hc).corrects hr (fun _ => hs _) h

@[simp] theorem commit_history (m : Moment) (p : Bool) :
    (m.commit p).history = .committed p :: m.history := rfl

/-! ## Every entry of a step -/

/-- What a step says itself, in which phase, beside the entries of control steps and of
corrections. -/
def Says (ph : Phase) (m : Moment) : Action → Prop
  | .observed point s => point ≠ .step ∧ s = m.session ∧ ∃ l, ph = .idle l
  | .tested _ | .called _ => ∃ l, ph = .idle l
  | .requested p | .committed p => ∃ l, ph = .handling l p
  | .correcting p s => s = m.session ∧ s.runtime_state.source_available = true ∧
      ∃ l, ph = .handling l p
  | .failed r => CorrectionFailure r ∧ ∃ l p, ph = .handling l p
  | .replied p r => ∃ l, ph = .replying l p r
  | .attempted _ | .sampled _ | .opened _ => ∃ t, ph = .idle (.waiting t)
  | .compared _ _ => ph = .opened
  | .created _ | .create_failed _ => ph = .creating
  | .delivered _ _ | .read_failed _ => ph = .idle .active ∨ ph = .recovering
  | .written .forward p e _ => p = false ∧ ∃ b, ph = .delivered b e
  | .lost s => s = m.session ∧ ph = .losing
  | .cleanup => ∃ r, ph = .ended r
  | .closed _ | .destroyed _ => True
  | _ => False

/-- A step adds its own entries, and those of a control step or of corrections. -/
theorem Step.adds {P : Action → Prop} {ph ph' : Phase} {m m' : Moment}
    (h : Step (ph, m) (ph', m')) (hcontrol : ControlStep m m' → Adds P m m')
    (hcorrections : CorrectionsAdd P m) (hs : ∀ a, Says ph m a → P a) : Adds P m m' := by
  have hclosed : ∀ id, P (.closed id) := fun id => hs _ trivial
  have hdestroyed : ∀ id, P (.destroyed id) := fun id => hs _ trivial
  have hlog : ∀ {f : Session → Session} {a}, P a → Adds P m ((m.put f).log a) :=
    fun ha => Adds.refl.put.log ha
  cases h with
  | control h => exact hcontrol h
  | dispatch | loop_head => exact Adds.refl.log (hs _ ⟨by decide, rfl, _, rfl⟩)
  | changed hp hc =>
    have hadds := hcorrections.corrects (hs _ ⟨_, rfl⟩) (fun ha => hs _ ⟨rfl, ha, _, rfl⟩) hc
    exact hadds.put.log (hs _ ⟨_, rfl⟩)
  | failed hp hc hr =>
    have hadds := hcorrections.corrects (hs _ ⟨_, rfl⟩) (fun ha => hs _ ⟨rfl, ha, _, rfl⟩) hc
    exact hadds.put.log (hs _ ⟨hc.result.resolve_left hr, _, _, rfl⟩)
  | call | reply | go_on => exact Adds.refl.log (hs _ ⟨_, rfl⟩)
  | shutdown | unavailable | open_failed | open_source => exact hlog (hs _ ⟨_, rfl⟩)
  | denied | denied_end => exact (hlog (hs (.attempted _) ⟨_, rfl⟩)).log (hs _ ⟨_, rfl⟩)
  | compatible => exact Adds.refl.log (hs _ rfl)
  | create => exact hlog (hs _ rfl)
  | incompatible => exact (Adds.refl.log (hs (.compared _ _) rfl)).destroy hdestroyed
  | create_failed => exact (Adds.refl.log (hs (.create_failed _) rfl)).close hclosed
  | read => exact hlog (hs _ (.inl rfl))
  | recover => exact hlog (hs _ (.inr rfl))
  | read_nothing | read_dropped | read_lost | read_failed =>
    exact Adds.refl.log (hs _ (.inl rfl))
  | recovered | recover_lost | recover_failed => exact Adds.refl.log (hs _ (.inr rfl))
  | forward hp => exact hlog (hs _ ⟨hp, _, rfl⟩)
  | forward_failed hp => exact Adds.refl.log (hs _ ⟨rfl, _, rfl⟩)
  | synchronized hp h | not_synchronized hp h hr => exact hcorrections.synchronize rfl h
  | neutralized hn | not_neutralized hn hr =>
    have hlost : Adds P m (m.log (.lost m.session)) :=
      Adds.refl.log (hs (.lost m.session) ⟨rfl, rfl⟩)
    exact (hlost.trans (hcorrections.neutralize rfl hn)).close hclosed
  | clean => exact ((Adds.refl.log (hs .cleanup ⟨_, rfl⟩)).destroy hdestroyed).close hclosed
  | _ => exact Adds.refl

/-- A history only grows. -/
theorem Step.grows {ph ph' : Phase} {m m' : Moment} (h : Step (ph, m) (ph', m')) :
    Adds (fun _ => True) m m' :=
  h.adds (fun hc => hc.adds.mono fun _ _ => trivial) (.of_correction fun _ _ => trivial)
    fun _ _ => trivial

/-- What every entry of every step meets, every entry of every run meets. -/
theorem run_entries (P : Action → Prop) (hstep : ∀ {ph ph' m m'}, Reach config (ph, m) →
      Step (ph, m) (ph', m') → Adds P m m') (answers : Nat → Answer) (fuel : Nat) :
    Always (fun a _ => P a) (run_history config answers fuel) := by
  refine run_law (fun m => Always (fun a _ => P a) m.history) (fun ph m _ hr => ?_) answers fuel
  refine reach_induction (fun _ m => Always (fun a _ => P a) m.history) trivial
    (fun hr hm h => ?_) hr
  exact (hstep hr h).law hm fun _ _ ha => ha

end input_proxy
