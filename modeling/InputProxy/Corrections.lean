-- What the state corrections leave behind: the writes that were made, in the
-- virtual device and in the history, and everything else as it was.
import InputProxy.Lifecycle

open programs

namespace input_proxy

/-! ## Writes -/

def VirtualDevice.writes (d : VirtualDevice) (es : List InputEvent) : VirtualDevice :=
  es.foldl VirtualDevice.write d

@[simp] theorem VirtualDevice.write_id (d : VirtualDevice) (e : InputEvent) :
    (d.write e).id = d.id := rfl

@[simp] theorem VirtualDevice.write_capabilities (d : VirtualDevice) (e : InputEvent) :
    (d.write e).capabilities = d.capabilities := rfl

@[simp] theorem VirtualDevice.writes_nil (d : VirtualDevice) : d.writes [] = d := rfl

@[simp] theorem VirtualDevice.writes_cons (d : VirtualDevice) (e : InputEvent)
    (es : List InputEvent) : d.writes (e :: es) = (d.write e).writes es := rfl

theorem VirtualDevice.writes_append (d : VirtualDevice) (es fs : List InputEvent) :
    d.writes (es ++ fs) = (d.writes es).writes fs := by
  simp [VirtualDevice.writes]

@[simp] theorem VirtualDevice.writes_id (d : VirtualDevice) (es : List InputEvent) :
    (d.writes es).id = d.id := by
  induction es generalizing d with
  | nil => rfl
  | cons e es ih => rw [writes_cons, ih, write_id]

@[simp] theorem VirtualDevice.writes_capabilities (d : VirtualDevice) (es : List InputEvent) :
    (d.writes es).capabilities = d.capabilities := by
  induction es generalizing d with
  | nil => rfl
  | cons e es ih => rw [writes_cons, ih, write_capabilities]

/-- The entries of successful writes, newest first. -/
def written_entries (cause : Cause) (paused : Bool) (es : List InputEvent) : List Action :=
  (es.map fun e => Action.written cause paused e true).reverse

@[simp] theorem written_entries_nil (cause : Cause) (paused : Bool) :
    written_entries cause paused [] = [] := rfl

@[simp] theorem written_entries_cons (cause : Cause) (paused : Bool) (e : InputEvent)
    (es : List InputEvent) :
    written_entries cause paused (e :: es) =
      written_entries cause paused es ++ [.written cause paused e true] := by
  simp [written_entries]

theorem mem_written_entries {cause : Cause} {paused : Bool} {es : List InputEvent} {a : Action} :
    a ∈ written_entries cause paused es ↔ ∃ e ∈ es, a = .written cause paused e true := by
  simp only [written_entries, List.mem_reverse, List.mem_map]
  exact ⟨fun ⟨e, he, h⟩ => ⟨e, he, h.symm⟩, fun ⟨e, he, h⟩ => ⟨e, he, h.symm⟩⟩

/-- The moment after successful writes. -/
def Moment.wrote_all (m : Moment) (cause : Cause) (es : List InputEvent) : Moment where
  session :=
    { m.session with virtual_device := m.session.virtual_device.map (·.writes es) }
  history := written_entries cause m.session.runtime_state.paused es ++ m.history

@[simp] theorem Moment.wrote_all_session (m : Moment) (cause : Cause) (es : List InputEvent) :
    (m.wrote_all cause es).session =
      { m.session with virtual_device := m.session.virtual_device.map (·.writes es) } := rfl

@[simp] theorem Moment.wrote_all_history (m : Moment) (cause : Cause) (es : List InputEvent) :
    (m.wrote_all cause es).history =
      written_entries cause m.session.runtime_state.paused es ++ m.history := rfl

theorem Moment.wrote_all_nil (m : Moment) (cause : Cause) : m.wrote_all cause [] = m := by
  simp [Moment.wrote_all, VirtualDevice.writes]

theorem Moment.wrote_all_cons (m : Moment) (cause : Cause) (e : InputEvent)
    (es : List InputEvent) :
    m.wrote_all cause (e :: es) = (m.wrote cause e).wrote_all cause es := by
  simp [Moment.wrote_all, Moment.wrote, Function.comp_def]

/-- A sequence of writes succeeds as a whole, or stops at a first failure. -/
theorem Wrote.outcome {cause : Cause} {es : List InputEvent} {m m' : Moment} {r : Result}
    (h : Wrote cause es m r m') :
    (r = .SUCCESS ∧ m' = m.wrote_all cause es) ∨
      (r = .ERROR_EVENT_WRITE_FAILED ∧ ∃ done e rest, es = done ++ e :: rest ∧
        m' = (m.wrote_all cause done).log
          (.written cause m.session.runtime_state.paused e false)) := by
  induction h with
  | nil m => exact Or.inl ⟨rfl, (m.wrote_all_nil cause).symm⟩
  | fail e es m => exact Or.inr ⟨rfl, [], e, es, rfl, by rw [m.wrote_all_nil]⟩
  | @cons e es m r m' _ ih =>
    rcases ih with ⟨hr, hm⟩ | ⟨hr, done, e', rest, hes, hm⟩
    · exact Or.inl ⟨hr, by rw [hm, m.wrote_all_cons]⟩
    · refine Or.inr ⟨hr, e :: done, e', rest, by rw [hes]; rfl, ?_⟩
      rw [hm, m.wrote_all_cons]
      rfl

theorem Wrote.success {cause : Cause} {es : List InputEvent} {m m' : Moment}
    (h : Wrote cause es m .SUCCESS m') : m' = m.wrote_all cause es := by
  rcases h.outcome with ⟨_, hm⟩ | ⟨hr, _⟩
  · exact hm
  · cases hr

/-! ## What every correction leaves alone -/

/-- The same session, but for the state behind the virtual device. -/
structure SameButState (m m' : Moment) : Prop where
  session : ∃ es, m'.session =
    { m.session with virtual_device := m.session.virtual_device.map (·.writes es) }

theorem SameButState.of_log {m m' : Moment} {a : Action} (h : SameButState (m.log a) m') :
    SameButState m m' := ⟨h.session⟩

theorem SameButState.log {m m' : Moment} {a : Action} (h : SameButState m m') :
    SameButState m (m'.log a) := ⟨h.session⟩

theorem SameButState.rfl' (m : Moment) : SameButState m m :=
  ⟨[], by simp [VirtualDevice.writes]⟩

theorem Wrote.same {cause : Cause} {es : List InputEvent} {m m' : Moment} {r : Result}
    (h : Wrote cause es m r m') : SameButState m m' := by
  rcases h.outcome with ⟨_, hm⟩ | ⟨_, done, e, rest, _, hm⟩
  · exact ⟨es, by rw [hm]; rfl⟩
  · exact ⟨done, by rw [hm]; rfl⟩

theorem Neutralize.same {m m' : Moment} {r : Result} (h : Neutralize m r m') :
    SameButState m m' := by
  cases h with
  | unread hd hr => exact (SameButState.rfl' m).log
  | wrote hd hw => exact hw.same.log

theorem Synchronize.same {m m' : Moment} {r : Result} (h : Synchronize m r m') :
    SameButState m m' := by
  cases h with
  | uncaptured hr => exact (SameButState.rfl' m).log
  | unwritten hs hb hw hr => exact hw.same.of_log.log
  | checked hs hb hw hr => exact hw.same.of_log.log.log

theorem Corrects.same {paused : Bool} {m m' : Moment} {r : Result} (h : Corrects paused m r m') :
    SameButState m m' := by
  cases h with
  | none h => exact SameButState.rfl' m
  | pause h hp hn => exact hn.same.of_log
  | resume h hp hn => exact hn.same.of_log

/-- The control steps leave the devices, the pause state and the fatal result alone. -/
theorem ControlStep.same {m m' : Moment} (h : ControlStep m m') :
    m'.session.source_device = m.session.source_device ∧
    m'.session.virtual_device = m.session.virtual_device ∧
    m'.session.runtime_state.paused = m.session.runtime_state.paused ∧
    m'.session.runtime_state.source_available = m.session.runtime_state.source_available ∧
    m'.session.fatal_result = m.session.fatal_result ∧
    m'.session.source_opened_successfully = m.session.source_opened_successfully ∧
    m'.session.shutdown_requested = m.session.shutdown_requested := by
  cases h <;> exact ⟨rfl, rfl, rfl, rfl, rfl, rfl, rfl⟩

end input_proxy
