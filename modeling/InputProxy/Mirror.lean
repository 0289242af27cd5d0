-- The virtual device mirrors the source. Through forwarding, recovery,
-- neutralization and synchronization, over retained and replaced devices, its
-- kernel state stays the view that libevdev has of an unpaused source, and is
-- neutral while nothing is forwarded.
import InputProxy.Correspondence

open programs

namespace input_proxy

/-- The mirror, which every capture establishes. -/
def mirror : Correspondence where
  relates := Mirrors
  allows := fun _ => True
  apply := fun h hshape e => h.apply hshape e
  capture := fun _ _ _ hshape hpos => capture_mirrors hshape hpos

/-- The session unpaused with an open source: there is a virtual device, and it mirrors the
source. The session paused, or the source unavailable: a virtual device is neutral. -/
structure Mirrored (s : Session) : Prop where
  mirrors : s.runtime_state.paused = false → ∀ source, s.source_device = some source →
    ∃ d, s.virtual_device = some d ∧
      Mirrors source.evdev.capabilities d.kernel source.evdev.state
  neutral : s.runtime_state.paused = true ∨ s.runtime_state.source_available = false →
    ∀ d, s.virtual_device = some d → Neutral d.capabilities d.kernel

/-- The law at the dispatches and at the head of the inner loop. -/
def MirrorEntry : Action → Prop
  | .observed point s => point ≠ .step → s.fatal_result = .SUCCESS → Mirrored s
  | _ => True

/-- In every run, at every dispatch of D-Bus messages and at every head of the inner loop
where no correction has failed: an unpaused session with an open source has a virtual device
that mirrors it, and a virtual device of a paused session or of a session without a source
is neutral. -/
theorem the_virtual_device_mirrors_the_source (config : SessionConfig)
    (answers : Nat → Answer) (fuel : Nat) :
    Always (fun a _ => MirrorEntry a) (run_history config answers fuel) := by
  refine (correspondence_law mirror config answers fuel).mono fun a past ha _ => ?_
  cases a with
  | observed point s =>
    intro hpoint hf
    have h := ha hpoint hf fun _ _ _ => trivial
    exact ⟨h.relates, h.neutral⟩
  | _ => trivial

end input_proxy
