-- The devices at the dispatch points. Inside the acquisition and the loss of
-- a source the flag and the pointers disagree for a while, but no message is
-- dispatched there, so no request meets a missing device.
import InputProxy.Histories

open programs Program

namespace input_proxy

/-! ## The law -/

/-- The source counts as available exactly when it is open, and then there is a
virtual device. -/
structure Consistent (s : Session) : Prop where
  available_iff_open : s.runtime_state.source_available = true ↔ s.source_device.isSome
  virtual_device : s.runtime_state.source_available = true → s.virtual_device.isSome

/-- What one entry of a history may say about the devices. -/
def ConsistentEntry : Action → Prop
  | .observed point s =>
    (point = .dispatch → Consistent s) ∧ s.fatal_result ≠ .ERROR_INVALID_ARGUMENT
  | .correcting _ s => s.source_device.isSome ∧ s.virtual_device.isSome
  | .neutralized before _ r => before.isSome ∧ r ≠ .ERROR_INVALID_ARGUMENT
  | .synchronized r | .failed r => r ≠ .ERROR_INVALID_ARGUMENT
  | _ => True

theorem LoopHolds.consistent {l : Loop} {s : Session} (h : LoopHolds l s) : Consistent s := by
  cases l with
  | waiting t =>
    obtain ⟨hs, ha⟩ := h
    constructor
    · simp [hs, ha]
    · simp [ha]
  | active =>
    obtain ⟨hs, ha, hv⟩ := h
    constructor
    · simp [hs, ha]
    · exact fun _ => hv

theorem CorrectionFailure.ne_invalid {r : Result} (h : r = .SUCCESS ∨ CorrectionFailure r) :
    r ≠ .ERROR_INVALID_ARGUMENT := by
  rcases h with h | h | h | h | h <;> rw [h] <;> decide

/-! ## The corrections -/

theorem Action.of_write.consistent {cause : Cause} {a : Action} (h : a.of_write cause) :
    ConsistentEntry a := by
  obtain ⟨p, e, ok, rfl⟩ := h
  trivial

theorem Neutralize.consistent {m m' : Moment} {r : Result} (h : Neutralize m r m') :
    Adds ConsistentEntry m m' := by
  have hr := CorrectionFailure.ne_invalid h.result
  cases h with
  | unread hd _ => exact Adds.refl.log ⟨rfl, hr⟩
  | wrote hd hw => exact (hw.adds.mono fun _ ha => ha.consistent).log ⟨rfl, hr⟩

theorem Synchronize.consistent {m m' : Moment} {r : Result} (h : Synchronize m r m') :
    Adds ConsistentEntry m m' := by
  have hr := CorrectionFailure.ne_invalid h.result
  have hwrote : ∀ {es fs m1 r1}, Wrote .synchronize es (m.log (.captured m.session fs)) r1 m1 →
      Adds ConsistentEntry m m1 := fun hw =>
    Adds.trans (Adds.refl.log (by trivial)) (hw.adds.mono fun _ ha => ha.consistent)
  cases h with
  | uncaptured _ => exact Adds.refl.log hr
  | unwritten hs hb hw _ => exact (hwrote hw).log hr
  | checked hs hb hw _ => exact ((hwrote hw).log (by trivial)).log hr

/-! ## Every run -/

theorem ControlStep.consistent {m m' : Moment} (h : ControlStep m m')
    (hf : m.session.fatal_result ≠ .ERROR_INVALID_ARGUMENT) : Adds ConsistentEntry m m' := by
  cases h with
  | observe => exact Adds.refl.log ⟨fun h => (nomatch h), hf⟩
  | control | tracking | discard | retry | diagnosed | running_zero | paused_zero =>
    exact Adds.refl
  | _ => exact Adds.refl.log (by trivial)

theorem consistent_says {ph : Phase} {m : Moment} (hl : Holds ph m.session)
    (hf : m.session.fatal_result ≠ .ERROR_INVALID_ARGUMENT) {a : Action} (ha : Says ph m a) :
    ConsistentEntry a := by
  cases a with
  | observed point s =>
    obtain ⟨_, rfl, l, rfl⟩ := ha
    exact ⟨fun _ => LoopHolds.consistent hl, hf⟩
  | correcting p s =>
    obtain ⟨rfl, havailable, l, rfl⟩ := ha
    exact LoopHolds.devices hl havailable
  | failed r => exact CorrectionFailure.ne_invalid (.inr ha.1)
  | neutralized | synchronized => exact ha.elim
  | _ => trivial

theorem consistent_step {config : SessionConfig} {ph ph' : Phase} {m m' : Moment}
    (hr : Reach config (ph, m)) (h : Step (ph, m) (ph', m')) : Adds ConsistentEntry m m' := by
  have hl : Holds ph m.session := holds_reach hr
  have hf : m.session.fatal_result ≠ .ERROR_INVALID_ARGUMENT :=
    CorrectionFailure.ne_invalid (fatal_reach hr)
  refine h.adds (fun hc => hc.consistent hf) ?_ fun a ha => consistent_says hl hf ha
  exact ⟨fun _ hn => hn.consistent, fun _ hs => hs.consistent⟩

/-- At every dispatch point of every run the source counts as available exactly when it is
open, and then there is a virtual device. So no request corrects the state of a missing
device, and a missing device is never the fatal result. -/
theorem no_request_meets_a_missing_device (config : SessionConfig) (answers : Nat → Answer)
    (fuel : Nat) : Always (fun a _ => ConsistentEntry a) (run_history config answers fuel) := by
  exact run_entries ConsistentEntry consistent_step answers fuel

end input_proxy
