-- The resources of a session: which devices it holds in which phase. At every
-- dispatch of D-Bus messages the source counts as available exactly when it
-- is open, and then there is a virtual device.
import InputProxy.Corrections

open programs

namespace input_proxy

/-! ## The invariant -/

/-- What a loop holds: the wait has no source, the inner loop has both devices. -/
def LoopHolds (l : Loop) (s : Session) : Prop :=
  match l with
  | .waiting _ => s.source_device = none ∧ s.runtime_state.source_available = false
  | .active => s.source_device.isSome ∧ s.runtime_state.source_available = true ∧
      s.virtual_device.isSome

/-- What each phase holds. -/
def Holds (ph : Phase) (s : Session) : Prop :=
  match ph with
  | .idle l | .handling l _ | .replying l _ _ => LoopHolds l s
  | .opened => s.source_device.isSome ∧ s.runtime_state.source_available = true
  | .creating => s.source_device.isSome ∧ s.runtime_state.source_available = true ∧
      s.virtual_device = none
  | .prepared | .ready | .delivered _ _ | .recovering | .lost => LoopHolds .active s
  | .losing => s.source_device.isSome ∧ s.runtime_state.source_available = false ∧
      s.virtual_device.isSome
  | .ended _ => True
  | .stopped _ => s.source_device = none ∧ s.runtime_state.source_available = false ∧
      s.virtual_device = none

theorem holds_after {b : Bool} {s : Session} : Holds (.after b) s ↔ LoopHolds .active s := by
  cases b <;> exact Iff.rfl

/-- What a phase holds is told by four fields. -/
theorem Holds.congr {ph : Phase} {s s' : Session} (h : Holds ph s)
    (h1 : s'.source_device.isSome = s.source_device.isSome)
    (h2 : s'.runtime_state.source_available = s.runtime_state.source_available)
    (h3 : s'.virtual_device.isSome = s.virtual_device.isSome) : Holds ph s' := by
  have e1 : s'.source_device = none ↔ s.source_device = none := by
    rw [← Option.not_isSome_iff_eq_none, h1, Option.not_isSome_iff_eq_none]
  have e3 : s'.virtual_device = none ↔ s.virtual_device = none := by
    rw [← Option.not_isSome_iff_eq_none, h3, Option.not_isSome_iff_eq_none]
  cases ph with
  | idle l | handling l p | replying l p r =>
    cases l <;> simpa [Holds, LoopHolds, h1, h2, h3, e1] using h
  | ended r => trivial
  | _ => simpa [Holds, LoopHolds, h1, h2, h3, e1, e3] using h

theorem Holds.of_same {ph : Phase} {m m' : Moment} (h : Holds ph m.session)
    (hs : SameButState m m') : Holds ph m'.session := by
  obtain ⟨es, hes⟩ := hs.session
  exact h.congr (by rw [hes]) (by rw [hes]) (by rw [hes]; simp)

theorem Holds.of_control {ph : Phase} {m m' : Moment} (h : Holds ph m.session)
    (hs : ControlStep m m') : Holds ph m'.session := by
  obtain ⟨h1, h2, _, h4, _⟩ := hs.same
  exact h.congr (by rw [h1]) h4 (by rw [h2])

theorem holds_step {ph ph' : Phase} {m m' : Moment} (hm : Holds ph m.session)
    (h : Step (ph, m) (ph', m')) : Holds ph' m'.session := by
  cases h with
  | control h => exact hm.of_control h
  | changed hp hc =>
    exact (hm.of_same hc.same.of_log).congr (by simp) (by simp) (by simp)
  | failed hp hc hr => exact (hm.of_same hc.same.of_log).congr rfl rfl rfl
  | shutdown | interrupted | signal_ended | give_up | denied_end | open_failed | create_failed
  | not_synchronized | fatal | read_failed | recover_failed | forward_failed
  | not_neutralized => trivial
  | unavailable hf | denied hf ho hs => exact ⟨rfl, hm.2⟩
  | open_source evdev hf => exact ⟨rfl, rfl⟩
  | compatible hd hs hc =>
    exact ⟨hm.1, hm.2, by simp [hd]⟩
  | incompatible hd hs hc => exact ⟨by simpa using hm.1, by simpa using hm.2, by simp⟩
  | first hd => exact ⟨hm.1, hm.2, hd⟩
  | create fresh hs => exact ⟨hm.1, hm.2.1, rfl⟩
  | synchronized hp hs => exact hm.of_same hs.same
  | read hf | recover =>
    exact ⟨by simpa [Moment.deliver] using hm.1, hm.2.1, hm.2.2⟩
  | suppress hp => exact holds_after.mpr hm
  | forward hp =>
    exact holds_after.mpr ⟨hm.1, hm.2.1, by simpa [Moment.wrote] using hm.2.2⟩
  | lose => exact ⟨hm.1, rfl, hm.2.2⟩
  | neutralized hn => exact ⟨by simp, by simp⟩
  | clean => exact ⟨by simp, by simp, by simp⟩
  | _ => exact hm

theorem holds_reach {config : SessionConfig} {x : Phase × Moment} (h : Reach config x) :
    Holds x.1 x.2.session := by
  refine invariant_of_step (fun x => Holds x.1 x.2.session) ?_ ?_ h
  · rintro ⟨ph, m⟩ ⟨ph', m'⟩ hm hs
    exact holds_step hm hs
  · exact ⟨rfl, rfl⟩

end input_proxy
