-- The lifetimes of the devices: at most one source and one virtual device at
-- any time, each closed or destroyed exactly once, and no virtual device
-- replaced before the final cleanup unless a source was incompatible with it.
import InputProxy.Histories
import InputProxy.Lifetimes

open programs Program

namespace input_proxy

/-! ## The law -/

/-- The sources: opened and closed. -/
def sources : Resource Action where
  acquires
    | .opened id => some id
    | _ => none
  releases
    | .closed id => some id
    | _ => none

/-- The virtual devices: created and destroyed. -/
def virtual_devices : Resource Action where
  acquires
    | .created id => some id
    | _ => none
  releases
    | .destroyed id => some id
    | _ => none

/-- A virtual device is destroyed in the final cleanup, or right after a source was found
incompatible with it. -/
def JustifiedDestroy (a : Action) (past : List Action) : Prop :=
  ∀ id, a = .destroyed id → .cleanup ∈ past ∨ ∃ older, past = .compared id false :: older

/-- What one entry of a history may do to the devices. -/
structure LifetimeEntry (a : Action) (past : List Action) : Prop where
  source : sources.Disciplined a past
  virtual_device : virtual_devices.Disciplined a past
  justified : JustifiedDestroy a past

/-! ## The invariant -/

/-- The session points to the devices that are live. -/
structure LifetimeInvariant (m : Moment) : Prop where
  source : sources.live m.history = (m.session.source_device.map (·.id)).toList
  virtual_device : virtual_devices.live m.history = (m.session.virtual_device.map (·.id)).toList
  fresh : ∀ id, m.history.length ≤ id →
    sources.acquired id m.history = 0 ∧ virtual_devices.acquired id m.history = 0
  lawful : Always LifetimeEntry m.history

/-- An entry that begins and ends no device. -/
def Action.bystander : Action → Prop
  | .opened _ | .closed _ | .created _ | .destroyed _ => False
  | _ => True

theorem Action.bystander.source {a : Action} (h : a.bystander) : sources.Neutral a := by
  cases a <;> first | exact h.elim | exact ⟨rfl, rfl⟩

theorem Action.bystander.virtual_device {a : Action} (h : a.bystander) :
    virtual_devices.Neutral a := by
  cases a <;> first | exact h.elim | exact ⟨rfl, rfl⟩

theorem Action.bystander.entry {a : Action} {past : List Action} (h : a.bystander) :
    LifetimeEntry a past := by
  refine ⟨h.source.disciplined, h.virtual_device.disciplined, ?_⟩
  rintro id rfl
  exact h.elim

/-- No acquisition of this name in new entries. -/
theorem acquired_append {R : Resource Action} {new past : List Action} {id : Nat}
    (hnew : ∀ a ∈ new, R.acquires a ≠ some id) (hp : R.acquired id past = 0) :
    R.acquired id (new ++ past) = 0 := by
  unfold Resource.acquired at *
  rw [List.countP_append, hp, Nat.add_zero, List.countP_eq_zero]
  intro a ha
  simpa using hnew a ha

/-- Both device pointers stay, and no device begins or ends. -/
structure KeepsDevices (m m' : Moment) : Prop where
  source : m'.session.source_device.map (·.id) = m.session.source_device.map (·.id)
  virtual_device : m'.session.virtual_device.map (·.id) = m.session.virtual_device.map (·.id)
  adds : Adds Action.bystander m m'

theorem KeepsDevices.refl (m : Moment) : KeepsDevices m m := ⟨rfl, rfl, .refl⟩

theorem KeepsDevices.log {m m' : Moment} {a : Action} (h : KeepsDevices m m')
    (ha : a.bystander) : KeepsDevices m (m'.log a) :=
  ⟨h.source, h.virtual_device, h.adds.log ha⟩

theorem KeepsDevices.put {m m' : Moment} {f : Session → Session} (h : KeepsDevices m m')
    (hs : (f m'.session).source_device.map (·.id) = m'.session.source_device.map (·.id))
    (hv : (f m'.session).virtual_device.map (·.id) = m'.session.virtual_device.map (·.id)) :
    KeepsDevices m (m'.put f) :=
  ⟨hs.trans h.source, hv.trans h.virtual_device, h.adds.put⟩

theorem KeepsDevices.correct {m m1 m' : Moment} (h : KeepsDevices m m1)
    (hs : SameButState m1 m') (hadds : Adds Action.bystander m m') : KeepsDevices m m' := by
  obtain ⟨es, hes⟩ := hs.session
  refine ⟨?_, ?_, hadds⟩
  · rw [hes]
    exact h.source
  · rw [hes, ← h.virtual_device]
    cases m1.session.virtual_device <;> simp

theorem Action.of_correction.bystander {a : Action} (h : a.of_correction) : a.bystander := by
  cases a <;> trivial

theorem Action.of_control.bystander {a : Action} (h : a.of_control) : a.bystander := by
  cases a <;> trivial

theorem ControlStep.keeps_devices {m m' : Moment} (h : ControlStep m m') :
    KeepsDevices m m' := by
  obtain ⟨hs, hv, _⟩ := h.same
  exact ⟨by rw [hs], by rw [hv], h.adds.mono fun _ ha => ha.bystander⟩

theorem Synchronize.keeps_devices {m m' : Moment} {r : Result} (h : Synchronize m r m') :
    KeepsDevices m m' :=
  (KeepsDevices.refl m).correct h.same (h.adds.mono fun _ ha => ha.bystander)

theorem Corrects.keeps_devices {p : Bool} {m m' : Moment} {r : Result}
    (h : Corrects p (m.log (.requested p)) r m') : KeepsDevices m m' :=
  (KeepsDevices.refl m).correct h.same.of_log
    (h.adds (fun _ ha => ha.bystander) trivial fun _ => trivial)

theorem LifetimeInvariant.keep {m m' : Moment} (h : LifetimeInvariant m)
    (hk : KeepsDevices m m') : LifetimeInvariant m' := by
  obtain ⟨hs, hv, new, hnew, hall⟩ := hk
  refine ⟨?_, ?_, fun id hid => ?_, ?_⟩
  · rw [hs, hnew, Resource.live_append fun a ha => (hall a ha).source]
    exact h.source
  · rw [hv, hnew, Resource.live_append fun a ha => (hall a ha).virtual_device]
    exact h.virtual_device
  · rw [hnew, List.length_append] at hid
    obtain ⟨h1, h2⟩ := h.fresh id (by omega)
    rw [hnew]
    constructor
    · exact acquired_append (fun a ha => by simp [(hall a ha).source.acquires]) h1
    · exact acquired_append (fun a ha => by simp [(hall a ha).virtual_device.acquires]) h2
  · exact Adds.law ⟨new, hnew, hall⟩ h.lawful fun _ _ ha => ha.entry

/-- A device that begins gets a name that no older entry has. -/
theorem LifetimeInvariant.fresh_cons {m : Moment} (h : LifetimeInvariant m) {a : Action}
    (hs : ∀ id, sources.acquires a = some id → id = m.history.length)
    (hv : ∀ id, virtual_devices.acquires a = some id → id = m.history.length) (id : Nat)
    (hid : (a :: m.history).length ≤ id) :
    sources.acquired id (a :: m.history) = 0 ∧
      virtual_devices.acquired id (a :: m.history) = 0 := by
  rw [List.length_cons] at hid
  obtain ⟨h1, h2⟩ := h.fresh id (by omega)
  constructor
  · rw [Resource.acquired_cons, h1, if_neg fun he => ?_]
    have := hs id he
    omega
  · rw [Resource.acquired_cons, h2, if_neg fun he => ?_]
    have := hv id he
    omega

/-! ## Beginnings and ends -/

theorem LifetimeInvariant.open_source {m : Moment} {f : Session → Session} {evdev : Libevdev}
    (h : LifetimeInvariant m) (hnone : m.session.source_device = none)
    (hf : (f m.session).source_device = some ⟨m.history.length, evdev⟩)
    (hv : (f m.session).virtual_device = m.session.virtual_device) :
    LifetimeInvariant ((m.put f).log (.opened m.history.length)) := by
  have hlive : sources.live m.history = [] := by rw [h.source, hnone]; rfl
  have hneutral : virtual_devices.Neutral (.opened m.history.length) := ⟨rfl, rfl⟩
  refine ⟨?_, ?_, ?_, ⟨⟨?_, ?_⟩, hneutral.disciplined, ?_⟩, h.lawful⟩
  · rw [Moment.log_session, Moment.put_session, hf, Moment.log_history, Moment.put_history,
      Resource.live_acquire rfl, hlive]
    rfl
  · rw [Moment.log_session, Moment.put_session, hv, Moment.log_history, Moment.put_history,
      hneutral.live]
    exact h.virtual_device
  · refine h.fresh_cons (fun id he => ?_) fun id he => ?_
    · exact (Option.some.inj he).symm
    · cases he
  · intro id he
    obtain rfl := Option.some.inj he
    exact ⟨hlive, (h.fresh _ (Nat.le_refl _)).1, rfl⟩
  · intro id he
    cases he
  · intro id he
    cases he

theorem LifetimeInvariant.create {m : Moment} {f : Session → Session} {d : VirtualDevice}
    (h : LifetimeInvariant m) (hnone : m.session.virtual_device = none)
    (hf : (f m.session).virtual_device = some d) (hid : d.id = m.history.length)
    (hs : (f m.session).source_device = m.session.source_device) :
    LifetimeInvariant ((m.put f).log (.created m.history.length)) := by
  have hlive : virtual_devices.live m.history = [] := by rw [h.virtual_device, hnone]; rfl
  have hneutral : sources.Neutral (.created m.history.length) := ⟨rfl, rfl⟩
  refine ⟨?_, ?_, ?_, ⟨hneutral.disciplined, ⟨?_, ?_⟩, ?_⟩, h.lawful⟩
  · rw [Moment.log_session, Moment.put_session, hs, Moment.log_history, Moment.put_history,
      hneutral.live]
    exact h.source
  · rw [Moment.log_session, Moment.put_session, hf, Moment.log_history, Moment.put_history,
      Resource.live_acquire rfl, hlive, ← hid]
    rfl
  · refine h.fresh_cons (fun id he => ?_) fun id he => ?_
    · cases he
    · exact (Option.some.inj he).symm
  · intro id he
    obtain rfl := Option.some.inj he
    exact ⟨hlive, (h.fresh _ (Nat.le_refl _)).2, rfl⟩
  · intro id he
    cases he
  · intro id he
    cases he

theorem LifetimeInvariant.close {m : Moment} (h : LifetimeInvariant m) :
    LifetimeInvariant m.close := by
  unfold Moment.close
  rcases hs : m.session.source_device with _ | source
  · exact h.keep ((KeepsDevices.refl m).put (by rw [hs]) rfl)
  have hlive : sources.live m.history = [source.id] := by rw [h.source, hs]; rfl
  have hneutral : virtual_devices.Neutral (.closed source.id) := ⟨rfl, rfl⟩
  refine ⟨?_, ?_, ?_, ⟨⟨?_, ?_⟩, hneutral.disciplined, ?_⟩, h.lawful⟩
  · rw [Moment.put_history, Moment.log_history, Resource.live_release rfl rfl, hlive]
    simp
  · rw [Moment.put_history, Moment.log_history, hneutral.live]
    exact h.virtual_device
  · exact h.fresh_cons (fun id he => nomatch he) fun id he => nomatch he
  · intro id he
    cases he
  · intro id he
    obtain rfl := Option.some.inj he
    exact hlive
  · intro id he
    cases he

theorem LifetimeInvariant.destroy {m : Moment} (h : LifetimeInvariant m)
    (hj : ∀ d, m.session.virtual_device = some d →
      .cleanup ∈ m.history ∨ ∃ older, m.history = .compared d.id false :: older) :
    LifetimeInvariant m.destroy := by
  unfold Moment.destroy
  rcases hd : m.session.virtual_device with _ | d
  · exact h.keep ((KeepsDevices.refl m).put rfl (by rw [hd]))
  have hlive : virtual_devices.live m.history = [d.id] := by rw [h.virtual_device, hd]; rfl
  have hneutral : sources.Neutral (.destroyed d.id) := ⟨rfl, rfl⟩
  refine ⟨?_, ?_, ?_, ⟨hneutral.disciplined, ⟨?_, ?_⟩, ?_⟩, h.lawful⟩
  · rw [Moment.put_history, Moment.log_history, hneutral.live]
    exact h.source
  · rw [Moment.put_history, Moment.log_history, Resource.live_release rfl rfl, hlive]
    simp
  · exact h.fresh_cons (fun id he => nomatch he) fun id he => nomatch he
  · intro id he
    cases he
  · intro id he
    obtain rfl := Option.some.inj he
    exact hlive
  · intro id he
    obtain rfl : d.id = id := Action.destroyed.inj he
    exact hj d hd

/-! ## Every run -/

theorem lifetime_step {config : SessionConfig} {ph ph' : Phase} {m m' : Moment}
    (hr : Reach config (ph, m)) (hm : LifetimeInvariant m) (h : Step (ph, m) (ph', m')) :
    LifetimeInvariant m' := by
  have hh : Holds ph m.session := holds_reach hr
  have hrefl := KeepsDevices.refl m
  cases h with
  | control h => exact hm.keep h.keeps_devices
  | changed hp hc =>
    refine hm.keep ((hc.keeps_devices.put ?_ ?_).log (by trivial))
    all_goals split <;> rfl
  | failed hp hc hne => exact hm.keep ((hc.keeps_devices.put rfl rfl).log (by trivial))
  | shutdown => exact hm.keep ((hrefl.put rfl rfl).log (by trivial))
  | interrupted | signal_lost | signal_ended | lose => exact hm.keep (hrefl.put rfl rfl)
  | unavailable | open_failed =>
    exact hm.keep ((hrefl.put (by rw [hh.1]) rfl).log (by trivial))
  | denied | denied_end =>
    exact hm.keep (((hrefl.put (by rw [hh.1]) rfl).log (by trivial)).log (by trivial))
  | open_source evdev hf => exact hm.open_source hh.1 rfl rfl
  | incompatible hd hs hc =>
    refine (hm.keep (hrefl.log (by trivial))).destroy fun d' hd' => .inr ⟨m.history, ?_⟩
    rw [Moment.log_session, hd] at hd'
    obtain rfl := Option.some.inj hd'
    rfl
  | create fresh hs => exact hm.create hh.2.2 rfl rfl rfl
  | create_failed hne => exact (hm.keep (hrefl.log (by trivial))).close
  | synchronized hp hs | not_synchronized hp hs hne => exact hm.keep hs.keeps_devices
  | read | recover =>
    refine hm.keep ((hrefl.put ?_ rfl).log (by trivial))
    cases m.session.source_device <;> rfl
  | forward =>
    refine hm.keep ((hrefl.put rfl ?_).log (by trivial))
    cases m.session.virtual_device <;> rfl
  | neutralized hn | not_neutralized hn hne =>
    have hlost : KeepsDevices m (m.log (.lost m.session)) := hrefl.log (by trivial)
    exact (hm.keep (hlost.correct hn.same
      (hlost.adds.trans (hn.adds.mono fun _ ha => ha.bystander)))).close
  | clean =>
    refine ((hm.keep (hrefl.log (by trivial))).destroy fun d hd => .inl ?_).close
    simp
  | unchanged | give_up | first | stay_paused | activate | fatal | fatal_lost | suppress =>
    exact hm
  | _ => exact hm.keep (hrefl.log (by trivial))

theorem lifetime_reach {config : SessionConfig} {ph : Phase} {m : Moment}
    (h : Reach config (ph, m)) : LifetimeInvariant m := by
  exact reach_induction (fun _ => LifetimeInvariant) ⟨rfl, rfl, fun _ _ => ⟨rfl, rfl⟩, trivial⟩
    lifetime_step h

theorem LifetimeInvariant.disciplined {m : Moment} (h : LifetimeInvariant m) :
    Always sources.Disciplined m.history ∧ Always virtual_devices.Disciplined m.history :=
  ⟨h.lawful.mono fun _ _ h _ => h.source, h.lawful.mono fun _ _ h _ => h.virtual_device⟩

/-- In every run at most one source and one virtual device are live at any time, devices
are only opened while none is live, and only the live one is closed, and a virtual device
is destroyed before the final cleanup only for a source that it does not fit. When the
run returns, every device that began has ended exactly once. -/
theorem every_device_ends_exactly_once (config : SessionConfig) (answers : Nat → Answer)
    (fuel : Nat) :
    Always (fun a past => LifetimeEntry a past ∧ (sources.live (a :: past)).length ≤ 1 ∧
      (virtual_devices.live (a :: past)).length ≤ 1) (run_history config answers fuel) ∧
    ∀ r w, Returns config answers fuel r w → ∀ id,
      (sources.acquired id w.history ≤ 1 ∧
        sources.released id w.history = sources.acquired id w.history) ∧
      (virtual_devices.acquired id w.history ≤ 1 ∧
        virtual_devices.released id w.history = virtual_devices.acquired id w.history) := by
  constructor
  · have hinv : LifetimeInvariant (run_moment config answers fuel) :=
      run_law LifetimeInvariant (fun ph m _ hr => lifetime_reach hr) answers fuel
    refine hinv.lawful.mono fun a past ha hpast => ⟨ha, ?_, ?_⟩
    · exact Resource.live_le_one ⟨ha.source, hpast.mono fun _ _ h _ => h.source⟩
    · exact Resource.live_le_one ⟨ha.virtual_device, hpast.mono fun _ _ h _ => h.virtual_device⟩
  · intro r w hw id
    have hr : At config (.stopped r) w := session_run.returned config hw
    have hinv : LifetimeInvariant w.moment := lifetime_reach hr
    obtain ⟨hs, _, hv⟩ := hr.holds
    have hlive : sources.live w.history = [] := by
      refine hinv.source.trans ?_
      rw [show w.moment.session.source_device = none from hs]
      rfl
    have hlive' : virtual_devices.live w.history = [] := by
      refine hinv.virtual_device.trans ?_
      rw [show w.moment.session.virtual_device = none from hv]
      rfl
    obtain ⟨h1, h2⟩ := Resource.acquired_eq hinv.disciplined.1 id
    obtain ⟨h3, h4⟩ := Resource.acquired_eq hinv.disciplined.2 id
    change sources.acquired id w.history ≤ 1 at h1
    change sources.acquired id w.history = _ + (sources.live w.history).count id at h2
    change virtual_devices.acquired id w.history ≤ 1 at h3
    change virtual_devices.acquired id w.history = _ +
      (virtual_devices.live w.history).count id at h4
    rw [hlive, List.count_nil, Nat.add_zero] at h2
    rw [hlive', List.count_nil, Nat.add_zero] at h4
    exact ⟨⟨h1, h2.symm⟩, h3, h4.symm⟩

end input_proxy
