-- Pause and Resume as a client sees them. Each call gets one reply before the next one is
-- dispatched, nothing is read or forwarded in between, and the reply tells which state the
-- session is in.
import InputProxy.Histories

open programs

namespace input_proxy

/-! ## The law -/

/-- The call that was dispatched and has no reply yet. -/
def pending_call : List Action → Option Bool
  | [] => none
  | .called paused :: _ => some paused
  | .replied _ _ :: _ => none
  | _ :: past => pending_call past

/-- The pause state as the commits have left it. -/
def committed_paused (start_paused : Bool) : List Action → Bool
  | [] => start_paused
  | .committed paused :: _ => paused
  | _ :: past => committed_paused start_paused past

/-- The state changes for a call only, and the reply is a success exactly if the session is in
the state that was called for. -/
def TellsTheState (start_paused : Bool) (a : Action) (past : List Action) : Prop :=
  match a with
  | .called _ => pending_call past = none
  | .requested paused =>
    pending_call past = some paused ∧ committed_paused start_paused past ≠ paused
  | .committed paused => pending_call past = some paused
  | .replied paused r =>
    pending_call past = some paused ∧
      (r = .SUCCESS ↔ committed_paused start_paused past = paused)
  | .delivered paused _ =>
    pending_call past = none ∧ paused = committed_paused start_paused past
  | .written .forward _ _ _ => pending_call past = none
  | .observed .dispatch s | .observed .loop_head s =>
    pending_call past = none ∧ s.runtime_state.paused = committed_paused start_paused past
  | _ => True

/-- An entry that the law says nothing about. -/
def Action.unconcerned : Action → Prop
  | .called _ | .requested _ | .committed _ | .replied _ _ | .delivered _ _
  | .written .forward _ _ _ | .observed .dispatch _ | .observed .loop_head _ => False
  | _ => True

section entries

variable {start_paused : Bool} {a : Action} {past : List Action} {m m' : Moment}

theorem Action.unconcerned.law (h : a.unconcerned) : TellsTheState start_paused a past := by
  cases a with
  | observed point s => cases point <;> trivial
  | written cause p e ok => cases cause <;> trivial
  | called | requested | committed | replied | delivered => exact h.elim
  | _ => trivial

theorem Action.unconcerned.pending (h : a.unconcerned) :
    pending_call (a :: past) = pending_call past := by
  cases a with
  | called | replied => exact h.elim
  | _ => rfl

theorem Action.unconcerned.paused (h : a.unconcerned) :
    committed_paused start_paused (a :: past) = committed_paused start_paused past := by
  cases a with
  | committed => exact h.elim
  | _ => rfl

theorem Action.of_control.unconcerned (h : a.of_control) : a.unconcerned := by
  cases a with
  | observed point s => cases point <;> trivial
  | _ => trivial

theorem Action.of_correction.unconcerned (h : a.of_correction) : a.unconcerned := by
  cases a with
  | written cause p e ok => cases cause <;> trivial
  | _ => trivial

theorem Adds.pending (h : Adds Action.unconcerned m m') :
    pending_call m'.history = pending_call m.history := by
  obtain ⟨new, hnew, hall⟩ := h
  rw [hnew]
  clear hnew
  induction new with
  | nil => rfl
  | cons a new ih =>
    obtain ⟨ha, hall⟩ := List.forall_mem_cons.mp hall
    exact ha.pending.trans (ih hall)

theorem Adds.paused (h : Adds Action.unconcerned m m') :
    committed_paused start_paused m'.history = committed_paused start_paused m.history := by
  obtain ⟨new, hnew, hall⟩ := h
  rw [hnew]
  clear hnew
  induction new with
  | nil => rfl
  | cons a new ih =>
    obtain ⟨ha, hall⟩ := List.forall_mem_cons.mp hall
    exact ha.paused.trans (ih hall)

end entries

/-! ## Steps -/

/-- The call that a phase is about. -/
def Phase.call : Phase → Option Bool
  | .handling _ paused | .replying _ paused _ => some paused
  | _ => none

/-- What is known at every moment. -/
structure Answering (start_paused : Bool) (ph : Phase) (m : Moment) : Prop where
  law : Always (TellsTheState start_paused) m.history
  pending : pending_call m.history = ph.call
  paused : m.session.runtime_state.paused = committed_paused start_paused m.history
  result : ∀ l p r, ph = .replying l p r →
    (r = .SUCCESS ↔ m.session.runtime_state.paused = p)

section steps

variable {start_paused : Bool} {ph ph' : Phase} {m m' : Moment}

theorem SameButState.paused (h : SameButState m m') :
    m'.session.runtime_state.paused = m.session.runtime_state.paused := by
  obtain ⟨es, hes⟩ := h.session
  rw [hes]

/-- Entries that the law says nothing about, on the way to a phase that is about the same call. -/
theorem Answering.aside (hm : Answering start_paused ph m) (h : Adds Action.unconcerned m m')
    (hpaused : m'.session.runtime_state.paused = m.session.runtime_state.paused)
    (hcall : ph'.call = ph.call) (hresult : ∀ l p r, ph' = .replying l p r → ph = ph') :
    Answering start_paused ph' m' := by
  refine ⟨h.law hm.law fun _ _ ha => ha.law, ?_, ?_, ?_⟩
  · rw [h.pending, hm.pending, hcall]
  · rw [hpaused, hm.paused, h.paused]
  · intro l p r hph
    rw [hpaused]
    exact hm.result l p r ((hresult l p r hph).trans hph)

/-- The same, where neither phase is about a call. -/
theorem Answering.silent (hm : Answering start_paused ph m) (h : Adds Action.unconcerned m m')
    (hpaused : m'.session.runtime_state.paused = m.session.runtime_state.paused)
    (hcall : ph.call = none) (hcall' : ph'.call = none) : Answering start_paused ph' m' := by
  refine hm.aside h hpaused (hcall'.trans hcall.symm) ?_
  rintro l p r rfl
  cases hcall'

/-- One entry that meets the law and changes neither the call nor the state. -/
theorem Answering.log {a : Action} {f : Session → Session} (hm : Answering start_paused ph m)
    (hlaw : TellsTheState start_paused a m.history)
    (hpending : pending_call (a :: m.history) = pending_call m.history)
    (hcommitted : committed_paused start_paused (a :: m.history) =
      committed_paused start_paused m.history)
    (hpaused : (f m.session).runtime_state.paused = m.session.runtime_state.paused)
    (hcall : ph.call = none) (hcall' : ph'.call = none) :
    Answering start_paused ph' ((m.put f).log a) := by
  refine ⟨⟨hlaw, hm.law⟩, ?_, ?_, ?_⟩
  · exact hpending.trans (hm.pending.trans (hcall.trans hcall'.symm))
  · exact hpaused.trans (hm.paused.trans hcommitted.symm)
  · rintro l p r rfl
    cases hcall'

theorem after_call (recovering : Bool) : (Phase.after recovering).call = none := by
  cases recovering <;> rfl

/-- The entries of a correction. -/
theorem Corrects.adds_unconcerned {p : Bool} {r : Result} (h : Corrects p m r m') :
    Adds Action.unconcerned m m' := by
  have hcorrection : ∀ a : Action, a.of_correction → a.unconcerned := fun _ ha => ha.unconcerned
  have hcorrecting : Adds Action.unconcerned m (m.log (.correcting p m.session)) :=
    Adds.refl.log trivial
  cases h with
  | none => exact .refl
  | pause _ _ hn => exact hcorrecting.trans (hn.adds.mono hcorrection)
  | resume _ _ hn => exact hcorrecting.trans (hn.adds.mono hcorrection)

/-- A call that has been corrected for, before its commit. -/
theorem Answering.corrected {l : Loop} {p : Bool} {r : Result}
    (hm : Answering start_paused (.handling l p) m) (hp : m.session.runtime_state.paused ≠ p)
    (hc : Corrects p (m.log (.requested p)) r m') : Answering start_paused (.handling l p) m' := by
  have hrequested : Answering start_paused (.handling l p) (m.log (.requested p)) := by
    refine ⟨⟨⟨hm.pending, ?_⟩, hm.law⟩, hm.pending, hm.paused, ?_⟩
    · rw [← hm.paused]
      exact hp
    · intro _ _ _ hph
      cases hph
  exact hrequested.aside hc.adds_unconcerned hc.same.paused rfl fun _ _ _ hph => hph ▸ rfl

theorem Answering.step (hm : Answering start_paused ph m) (h : Step (ph, m) (ph', m')) :
    Answering start_paused ph' m' := by
  have hcorrection : ∀ a : Action, a.of_correction → a.unconcerned := fun _ ha => ha.unconcerned
  have hlog : ∀ {f : Session → Session} {a : Action}, a.unconcerned →
      Adds Action.unconcerned m ((m.put f).log a) := fun ha => Adds.refl.put.log ha
  cases h with
  | control h =>
    exact hm.aside (h.adds.mono fun _ ha => ha.unconcerned) h.same.2.2.1 rfl fun _ _ _ _ => rfl
  -- the call, its handling and its reply
  | call p =>
    refine ⟨⟨hm.pending, hm.law⟩, rfl, hm.paused, ?_⟩
    intro _ _ _ hph
    cases hph
  | unchanged hp =>
    refine ⟨hm.law, hm.pending, hm.paused, ?_⟩
    rintro _ _ _ ⟨⟩
    exact iff_of_true rfl hp
  | @changed l p m m1 hp hc =>
    have hcorrected := hm.corrected hp hc
    refine ⟨⟨hcorrected.pending, hcorrected.law⟩, hcorrected.pending, ?_, ?_⟩
    · rw [Moment.commit_session]
      rfl
    · rintro _ _ _ ⟨⟩
      rw [Moment.commit_session]
      simp
  | @failed l p m r m1 hp hc hr =>
    have hcorrected := hm.corrected hp hc
    have hpaused : m1.session.runtime_state.paused ≠ p := by
      rw [hc.same.paused]
      exact hp
    refine ⟨⟨trivial, hcorrected.law⟩, hcorrected.pending, hcorrected.paused, ?_⟩
    rintro _ _ _ ⟨⟩
    exact iff_of_false hr hpaused
  | @reply l p r m =>
    have hresult := hm.result l p r rfl
    rw [hm.paused] at hresult
    refine ⟨⟨⟨hm.pending, hresult⟩, hm.law⟩, rfl, hm.paused, ?_⟩
    intro _ _ _ hph
    cases hph
  -- what is looked at, read and forwarded while no call is pending
  | dispatch | loop_head =>
    exact hm.log (f := fun s => s) ⟨hm.pending, hm.paused⟩ rfl rfl rfl rfl rfl
  | read | recover => exact hm.log ⟨hm.pending, hm.paused⟩ rfl rfl rfl rfl rfl
  | forward => exact hm.log hm.pending rfl rfl rfl rfl (after_call _)
  | forward_failed => exact hm.log (f := fun s => s) hm.pending rfl rfl rfl rfl rfl
  | suppress => exact hm.silent Adds.refl rfl rfl (after_call _)
  -- the rest
  | @incompatible _ d _ _ _ _ =>
    have hcompared : Adds Action.unconcerned m (m.log (.compared d.id false)) :=
      Adds.refl.log trivial
    refine hm.silent (hcompared.destroy fun _ => trivial) ?_ rfl rfl
    rw [Moment.destroy_session]
    rfl
  | @create_failed _ r _ =>
    have hfailed : Adds Action.unconcerned m (m.log (.create_failed r)) := Adds.refl.log trivial
    refine hm.silent (hfailed.close fun _ => trivial) ?_ rfl rfl
    rw [Moment.close_session]
    rfl
  | synchronized hp hs | not_synchronized hp hs hr =>
    exact hm.silent (hs.adds.mono hcorrection) hs.same.paused rfl rfl
  | neutralized hn | not_neutralized hn hr =>
    refine hm.silent (hn.adds_loss hcorrection trivial fun _ => trivial) ?_ rfl rfl
    rw [Moment.close_session]
    exact hn.same.paused
  | clean =>
    have hcleanup : Adds Action.unconcerned m (m.log .cleanup) := Adds.refl.log trivial
    refine hm.silent ((hcleanup.destroy fun _ => trivial).close fun _ => trivial) ?_ rfl rfl
    rw [Moment.close_session, Moment.destroy_session]
    rfl
  | denied | denied_end =>
    exact hm.silent ((hlog (a := .attempted _) trivial).log trivial) rfl rfl rfl
  | shutdown | unavailable | open_failed | open_source | create =>
    exact hm.silent (hlog trivial) rfl rfl rfl
  | go_on | compatible | read_nothing | read_dropped | read_lost | read_failed | recovered
  | recover_lost | recover_failed => exact hm.silent (Adds.refl.log trivial) rfl rfl rfl
  | interrupted | signal_lost | signal_ended | lose => exact hm.silent Adds.refl.put rfl rfl rfl
  | _ => exact hm.silent Adds.refl rfl rfl rfl

end steps

/-! ## Every run -/

end input_proxy
