-- The queries of a device state: a capture of the source and a neutralization of
-- the virtual device ask for everything before they use any of it, so that one
-- failure on the way leaves nothing to use.
import InputProxy.CorrectionSpecs

open programs Program

namespace input_proxy

/-! ## The calls of a capture -/

/-- A query of the state of a device, or an allocation for what it gives. -/
inductive StateCall
  | query
  | memory
deriving DecidableEq

def StateCall.succeeds (a : Answer) : StateCall → Bool
  | .query => a.query
  | .memory => a.memory

/-- Every call of the list succeeds, from the `k`-th answer on. -/
def all_succeed (answers : Nat → Answer) : Nat → List StateCall → Bool
  | _, [] => true
  | k, call :: calls => call.succeeds (answers k) && all_succeed answers (k + 1) calls

theorem all_succeed_append (answers : Nat → Answer) (k : Nat) (calls later : List StateCall) :
    all_succeed answers k (calls ++ later) =
      (all_succeed answers k calls && all_succeed answers (k + calls.length) later) := by
  induction calls generalizing k with
  | nil => simp [all_succeed]
  | cons call calls ih =>
    have hlength : k + 1 + calls.length = k + (call :: calls).length := by
      simp only [List.length_cons]
      omega
    simp [all_succeed, ih, hlength, Bool.and_assoc]

/-- The calls of a capture loop over codes. -/
def value_calls (codes : List Nat) : List StateCall := codes.flatMap fun _ => [.query, .memory]

def slot_calls (evdev : Libevdev) (slot : Nat) : List StateCall :=
  [.memory, .query, .memory] ++
    if evdev.state.slot_value slot ABS_MT_TRACKING_ID < 0 then []
    else value_calls (contact_axes evdev.capabilities)

def multitouch_calls (evdev : Libevdev) : List StateCall :=
  [.query] ++ ((List.range evdev.capabilities.slots).flatMap (slot_calls evdev) ++ [.memory])

/-- Every state query and every append of a capture, in their order. -/
def capture_calls (evdev : Libevdev) : List StateCall :=
  value_calls (evdev.capabilities.codes EV_KEY KEY_MAX) ++
    (value_calls (evdev.capabilities.codes EV_SW SW_MAX) ++
      (value_calls (absolute_codes evdev.capabilities evdev.capabilities.type_b_multitouch) ++
        if evdev.capabilities.type_b_multitouch then multitouch_calls evdev else []))

/-- The program gives the result where all its calls succeed, and an error where one fails. -/
def Tries {α : Type} (f : M (Except Result α)) (calls : List StateCall) (result : α) : Prop :=
  ∀ w, wp (fun _ => False) f (fun r w' => w'.moment = w.moment ∧ w'.answers = w.answers ∧
    if all_succeed w.answers w.asked calls then
      r = .ok result ∧ w'.asked = w.asked + calls.length
    else ∃ e, r = .error e ∧ (e = .ERROR_EVENT_READ_FAILED ∨ e = .ERROR_OUT_OF_MEMORY)) w

-- A loop over codes must not be run when a goal is compared with a rule.
attribute [local irreducible] Capabilities.codes

section tries

variable {α β : Type} {f : M (Except Result α)} {g : Except Result α → M (Except Result β)}
  {calls later : List StateCall} {a : α} {b : β}

theorem Tries.done (b : β) : Tries (pure (.ok b)) [] b := fun _ => ⟨rfl, rfl, rfl, rfl⟩

/-- An error is passed on, so that the later calls are not made. -/
theorem Tries.bind (hf : Tries f calls a) (hok : Tries (g (.ok a)) later b)
    (herror : ∀ e, g (.error e) = pure (.error e)) : Tries (f >>= g) (calls ++ later) b := by
  intro w
  refine wp_bind.mpr (wp_mono (hf w) (fun _ h => h) fun r w1 h1 => ?_)
  obtain ⟨hm, ha, hr⟩ := h1
  rw [all_succeed_append]
  by_cases hs : all_succeed w.answers w.asked calls = true
  · rw [if_pos hs] at hr
    obtain ⟨rfl, hasked⟩ := hr
    refine wp_mono (hok w1) (fun _ h => h) fun r w2 h2 => ?_
    obtain ⟨hm2, ha2, hr2⟩ := h2
    rw [ha, hasked] at hr2
    rw [hs, Bool.true_and, List.length_append, ← Nat.add_assoc]
    exact ⟨hm2.trans hm, ha2.trans ha, hr2⟩
  · rw [if_neg hs] at hr
    obtain ⟨e, rfl, he⟩ := hr
    rw [herror]
    rw [Bool.not_eq_true] at hs
    exact ⟨hm, ha, by simpa [hs] using he⟩

/-- One call in front. -/
theorem Tries.after (call : StateCall) {f : M (Except Result α)} {e : Result}
    (he : e = .ERROR_EVENT_READ_FAILED ∨ e = .ERROR_OUT_OF_MEMORY) (hf : Tries f calls a) :
    Tries (ask >>= fun answer => if !call.succeeds answer then pure (.error e) else f)
      (call :: calls) a := by
  intro w
  simp only [wp_bind, wp_ask, all_succeed]
  by_cases hcall : call.succeeds (w.answers w.asked) = true
  · simp only [hcall, Bool.not_true, Bool.false_eq_true, if_false, Bool.true_and]
    refine wp_mono (hf _) (fun _ h => h) fun r w1 h1 => ?_
    obtain ⟨hm, ha, hr⟩ := h1
    rw [List.length_cons, Nat.add_comm calls.length, ← Nat.add_assoc]
    exact ⟨hm, ha, hr⟩
  · rw [Bool.not_eq_true] at hcall
    simp only [hcall, Bool.not_false, if_true, Bool.false_and, Bool.false_eq_true, if_false]
    exact ⟨rfl, rfl, e, rfl, he⟩

/-- What follows such calls in a program that goes on. -/
theorem Tries.call {f : M (Except Result α)} {g : Except Result α → M β} {I : World → Prop}
    {Q : β → World → Prop} {w : World} (hf : Tries f calls a)
    (hok : ∀ w', w'.moment = w.moment → w'.answers = w.answers →
      all_succeed w.answers w.asked calls = true → w'.asked = w.asked + calls.length →
      wp I (g (.ok a)) Q w')
    (herror : ∀ e w', w'.moment = w.moment → ¬all_succeed w.answers w.asked calls = true →
      (e = .ERROR_EVENT_READ_FAILED ∨ e = .ERROR_OUT_OF_MEMORY) → wp I (g (.error e)) Q w') :
    wp I (f >>= g) Q w := by
  refine wp_bind.mpr (wp_mono (hf w) (fun _ h => h.elim) fun r w' h => ?_)
  obtain ⟨hm, ha, hr⟩ := h
  split at hr
  · rename_i hs
    obtain ⟨rfl, hasked⟩ := hr
    exact hok w' hm ha hs hasked
  · rename_i hs
    obtain ⟨e, rfl, he⟩ := hr
    exact herror e w' hm hs he

theorem Tries.walk {body : List β → α → M (Except Result (List β))}
    {calls : α → List StateCall} {events : α → List β}
    (h : ∀ b a, Tries (body b a) (calls a) (b ++ events a)) (l : List α) (b : List β) :
    Tries (Program.walk body l b) (l.flatMap calls) (b ++ l.flatMap events) := by
  induction l generalizing b with
  | nil =>
    simp only [List.flatMap_nil, List.append_nil]
    exact .done b
  | cons a rest ih =>
    have hrest := ih (b ++ events a)
    rw [List.append_assoc] at hrest
    exact (h b a).bind hrest fun _ => rfl

theorem append_state_event.tries (state : List InputEvent) (type code : Nat) (value : Int) :
    Tries (append_state_event state type code value) [.memory] (state ++ [⟨type, code, value⟩]) :=
  .after .memory (.inr rfl) (.done _)

theorem append_value.tries (state : List InputEvent) (type code : Nat) (value : Int) :
    Tries (append_value state type code value) [.query, .memory]
      (state ++ [⟨type, code, value⟩]) :=
  .after .query (.inl rfl) (append_state_event.tries state type code value)

theorem capture_values.tries (state : List InputEvent) (type : Nat) (value : Nat → Int)
    (codes : List Nat) :
    Tries (Program.walk (fun state code => append_value state type code (value code)) codes state)
      (value_calls codes) (state ++ codes.map fun code => ⟨type, code, value code⟩) := by
  rw [List.map_eq_flatMap]
  exact .walk (fun state code => append_value.tries state type code (value code)) codes state

theorem capture_slot.tries (evdev : Libevdev) (state : List InputEvent) (slot : Nat) :
    Tries (capture_slot evdev state slot) (slot_calls evdev slot)
      (state ++ slot_events evdev slot) := by
  have hevents : state ++ slot_events evdev slot = state ++ [⟨EV_ABS, ABS_MT_SLOT, slot⟩] ++
      [⟨EV_ABS, ABS_MT_TRACKING_ID, evdev.state.slot_value slot ABS_MT_TRACKING_ID⟩] ++
      if evdev.state.slot_value slot ABS_MT_TRACKING_ID < 0 then []
      else (contact_axes evdev.capabilities).map fun code =>
        ⟨EV_ABS, code, evdev.state.slot_value slot code⟩ := by
    simp [slot_events]
  rw [hevents]
  unfold slot_calls capture_slot
  change Tries _ ([.memory] ++ ([.query, .memory] ++ _)) _
  refine (append_state_event.tries state EV_ABS ABS_MT_SLOT slot).bind ?_ fun _ => rfl
  refine (append_value.tries _ EV_ABS ABS_MT_TRACKING_ID _).bind ?_ fun _ => rfl
  by_cases hactive : evdev.state.slot_value slot ABS_MT_TRACKING_ID < 0
  · simp only [hactive, if_true, List.append_nil]
    exact .done _
  · simp only [hactive, if_false]
    exact capture_values.tries _ EV_ABS (evdev.state.slot_value slot) _

/-- The capture of a Type-B device that has slots. -/
theorem capture_multitouch_state.tries (evdev : Libevdev) (state : List InputEvent)
    (hpos : 0 < evdev.capabilities.slots) :
    Tries (capture_multitouch_state evdev state) (multitouch_calls evdev)
      (state ++ multitouch_events evdev) := by
  have hcount : ¬evdev.capabilities.get_num_slots ≤ 0 := by
    unfold Capabilities.slots at hpos
    omega
  unfold capture_multitouch_state multitouch_calls multitouch_events
  refine .after .query (.inl rfl) ?_
  dsimp only
  rw [if_neg hcount, ← List.append_assoc]
  refine (Tries.walk (capture_slot.tries evdev) _ state).bind ?_ fun _ => rfl
  exact append_state_event.tries _ EV_ABS ABS_MT_SLOT _

/-- The program gives an error. -/
def EndsInFailure {α : Type} (f : M (Except Result α)) : Prop :=
  ∀ w, wp (fun _ => False) f (fun r w' => w'.moment = w.moment ∧
    ∃ e, r = .error e ∧ (e = .ERROR_EVENT_READ_FAILED ∨ e = .ERROR_OUT_OF_MEMORY)) w

theorem Tries.fails (hf : Tries f calls a) (hok : EndsInFailure (g (.ok a)))
    (herror : ∀ e, g (.error e) = pure (.error e)) : EndsInFailure (f >>= g) := by
  intro w
  refine wp_bind.mpr (wp_mono (hf w) (fun _ h => h) fun r w1 h1 => ?_)
  obtain ⟨hm, -, hr⟩ := h1
  split at hr
  · obtain ⟨rfl, -⟩ := hr
    exact wp_mono (hok w1) (fun _ h => h) fun r w2 h2 => ⟨h2.1.trans hm, h2.2⟩
  · obtain ⟨e, rfl, he⟩ := hr
    rw [herror]
    exact ⟨hm, e, rfl, he⟩

/-- Without slots the capture of a Type-B device fails. -/
theorem capture_multitouch_state.fails (evdev : Libevdev) (state : List InputEvent)
    (hnone : ¬0 < evdev.capabilities.slots) :
    EndsInFailure (capture_multitouch_state evdev state) := by
  have hcount : evdev.capabilities.get_num_slots ≤ 0 := by
    unfold Capabilities.slots at hnone
    omega
  intro w
  unfold capture_multitouch_state
  simp only [wp_bind, wp_ask]
  split
  · exact ⟨rfl, _, rfl, .inl rfl⟩
  · exact ⟨rfl, _, rfl, .inl rfl⟩

end tries

/-- All queries and appends of the capture succeed, and a Type-B device has slots. -/
def CaptureSucceeds (w : World) (evdev : Libevdev) : Prop :=
  all_succeed w.answers w.asked (capture_calls evdev) = true ∧
    (evdev.capabilities.type_b_multitouch = true → 0 < evdev.capabilities.slots)

instance (w : World) (evdev : Libevdev) : Decidable (CaptureSucceeds w evdev) :=
  inferInstanceAs (Decidable (_ ∧ _))

/-- The capture gives its whole list where everything succeeds, and otherwise an error. -/
theorem source_device_capture_state.outcome {w : World} {source : SourceDevice}
    (hs : w.session.source_device = some source) :
    wp (fun _ => False) source_device_capture_state (fun r w' => w'.moment = w.moment ∧
      if CaptureSucceeds w source.evdev then r = .ok (capture_events source.evdev)
      else ∃ e, r = .error e ∧ (e = .ERROR_EVENT_READ_FAILED ∨ e = .ERROR_OUT_OF_MEMORY)) w := by
  have hvalues := fun state type codes => capture_values.tries state type
    (source.evdev.state.value source.evdev.capabilities type) codes
  unfold source_device_capture_state
  rw [wp_bind, wp_session]
  simp only [hs]
  by_cases hslots : source.evdev.capabilities.type_b_multitouch = true →
      0 < source.evdev.capabilities.slots
  · suffices h : Tries _ (capture_calls source.evdev) (capture_events source.evdev) by
      refine wp_mono (h w) (fun _ h => h) fun r w' hr => ⟨hr.1, ?_⟩
      have hr := hr.2.2
      by_cases hc : all_succeed w.answers w.asked (capture_calls source.evdev) = true
      · rw [if_pos hc] at hr
        rw [if_pos ⟨hc, hslots⟩]
        exact hr.1
      · rw [if_neg hc] at hr
        rw [if_neg fun h => hc h.1]
        exact hr
    unfold capture_calls
    refine (hvalues [] EV_KEY _).bind ?_ fun _ => rfl
    refine (hvalues _ EV_SW _).bind ?_ fun _ => rfl
    refine (hvalues _ EV_ABS _).bind ?_ fun _ => rfl
    cases hb : source.evdev.capabilities.type_b_multitouch with
    | false =>
      unfold capture_events
      simp only [hb, Bool.false_eq_true, if_false, List.append_nil]
      exact .done _
    | true =>
      unfold capture_events
      simp only [hb, if_true]
      exact capture_multitouch_state.tries source.evdev _ (hslots hb)
  · suffices h : EndsInFailure _ by
      refine wp_mono (h w) (fun _ h => h) fun r w' hr => ⟨hr.1, ?_⟩
      rw [if_neg fun h => hslots h.2]
      exact hr.2
    obtain ⟨hb, hnone⟩ := Classical.not_imp.mp hslots
    refine (hvalues [] EV_KEY _).fails ?_ fun _ => rfl
    refine ((hvalues _ EV_SW _).fails ?_ fun _ => rfl)
    refine ((hvalues _ EV_ABS _).fails ?_ fun _ => rfl)
    simp only [hb, if_true]
    exact capture_multitouch_state.fails source.evdev _ hnone

/-! ## The queries of a neutralization -/

/-- The device node, every advertised key, and for a Type-B device the table for its slots and
every slot, in their order. -/
def neutralize_calls (d : VirtualDevice) : List StateCall :=
  .query :: (((d.capabilities.codes EV_KEY KEY_MAX).flatMap fun _ => [.query]) ++
    if d.capabilities.type_b_multitouch then
      .memory :: (List.range d.capabilities.slots).flatMap fun _ => [.query]
    else [])

/-- All queries of the neutralization succeed, and a Type-B device has slots. -/
def QueriesSucceed (w : World) (d : VirtualDevice) : Prop :=
  all_succeed w.answers w.asked (neutralize_calls d) = true ∧
    (d.capabilities.type_b_multitouch = true → 0 < d.capabilities.slots)

instance (w : World) (d : VirtualDevice) : Decidable (QueriesSucceed w d) :=
  inferInstanceAs (Decidable (_ ∧ _))

section neutralization

variable {w : World} {d : VirtualDevice}

theorem query_keys.tries (d : VirtualDevice) : Tries (query_keys d)
    ((d.capabilities.codes EV_KEY KEY_MAX).flatMap fun _ => [.query]) (key_values d) := by
  unfold query_keys key_values
  rw [List.map_eq_flatMap, ← List.nil_append (List.flatMap (fun code => [_]) _)]
  exact .walk (fun values code => .after .query (.inl rfl) (.done _)) _ []

theorem query_slots.tries (d : VirtualDevice) : Tries (query_slots d)
    ((List.range d.capabilities.slots).flatMap fun _ => [.query])
    ((List.range d.capabilities.slots).map fun slot =>
      (slot, d.kernel.slot_value slot ABS_MT_TRACKING_ID)) := by
  unfold query_slots
  rw [List.map_eq_flatMap, ← List.nil_append (List.flatMap (fun slot => [_]) _)]
  exact .walk (fun values slot => .after .query (.inl rfl) (.done _)) _ []

theorem query_multitouch.tries
    (hpos : d.capabilities.type_b_multitouch = true → 0 < d.capabilities.slots) :
    Tries (query_multitouch d)
      (if d.capabilities.type_b_multitouch then
        .memory :: (List.range d.capabilities.slots).flatMap fun _ => [.query]
      else [])
      (slot_tracking_ids d) := by
  unfold query_multitouch slot_tracking_ids
  cases hb : d.capabilities.type_b_multitouch with
  | false => exact .done _
  | true =>
    have hslots := hpos hb
    have hcount : ¬d.capabilities.get_num_slots ≤ 0 := by
      unfold Capabilities.slots at hslots
      omega
    simp only [Bool.not_true, Bool.false_eq_true, if_false, if_true]
    rw [if_neg hcount]
    exact .after .memory (.inr rfl) (query_slots.tries d)

theorem query_multitouch.fails (hb : d.capabilities.type_b_multitouch = true)
    (hnone : ¬0 < d.capabilities.slots) : EndsInFailure (query_multitouch d) := by
  have hcount : d.capabilities.get_num_slots ≤ 0 := by
    unfold Capabilities.slots at hnone
    omega
  intro w
  unfold query_multitouch
  rw [if_neg (by simp [hb]), if_pos hcount]
  exact ⟨rfl, _, rfl, .inl rfl⟩

theorem neutralize_calls_succeed (answers : Nat → Answer) (k : Nat) :
    all_succeed answers k (neutralize_calls d) = true ↔ (answers k).query = true ∧
      all_succeed answers (k + 1)
        ((d.capabilities.codes EV_KEY KEY_MAX).flatMap fun _ => [.query]) = true ∧
      all_succeed answers
        (k + 1 + ((d.capabilities.codes EV_KEY KEY_MAX).flatMap fun _ =>
          [StateCall.query]).length)
        (if d.capabilities.type_b_multitouch then
          .memory :: (List.range d.capabilities.slots).flatMap fun _ => [.query]
        else []) = true := by
  unfold neutralize_calls
  rw [all_succeed, all_succeed_append, Bool.and_eq_true, Bool.and_eq_true]
  rfl

/-- The neutralization writes its events where all queries succeed, and otherwise none. -/
theorem neutralize_device.outcome (hd : w.session.virtual_device = some d) :
    wp (fun _ => False) neutralize_device (fun r w' =>
      if QueriesSucceed w d then Wrote .neutralize (neutralizing_events d) w.moment r w'.moment
      else r ≠ .SUCCESS ∧ w'.moment = w.moment) w := by
  have hunread : ∀ (e : Result) (w' : World), ¬QueriesSucceed w d → w'.moment = w.moment →
      e = .ERROR_EVENT_READ_FAILED ∨ e = .ERROR_OUT_OF_MEMORY →
      if QueriesSucceed w d then Wrote .neutralize (neutralizing_events d) w.moment e w'.moment
      else e ≠ .SUCCESS ∧ w'.moment = w.moment := by
    intro e w' hno hm he
    rw [if_neg hno]
    refine ⟨?_, hm⟩
    rcases he with rfl | rfl <;> decide
  unfold neutralize_device
  rw [wp_bind, wp_session]
  simp only [hd]
  rw [wp_bind, wp_ask]
  by_cases hnode : (w.answers w.asked).query = true
  · rw [if_neg (by simp [hnode])]
    refine (query_keys.tries d).call (fun w1 hm1 ha1 hkeys hasked => ?_)
      fun e w1 hm1 hkeys he => ?_
    · by_cases hpos : d.capabilities.type_b_multitouch = true → 0 < d.capabilities.slots
      · refine (query_multitouch.tries hpos).call (fun w2 hm2 _ hslots _ => ?_)
          fun e w2 hm2 hslots he => ?_
        · have hall : QueriesSucceed w d := by
            refine ⟨(neutralize_calls_succeed _ _).mpr ⟨hnode, hkeys, ?_⟩, hpos⟩
            rw [ha1, hasked] at hslots
            exact hslots
          have hm : w2.moment = w.moment := hm2.trans hm1
          have hsession : w2.session = w.session := congrArg Moment.session hm
          refine (write_neutralizing_events.spec d).call (by rw [hsession, hd]; rfl)
            fun r w3 h3 => ?_
          rw [if_pos hall, ← hm]
          exact h3
        · refine hunread e w2 (fun hall => hslots ?_) (hm2.trans hm1) he
          rw [ha1, hasked]
          exact ((neutralize_calls_succeed _ _).mp hall.1).2.2
      · obtain ⟨hb, hnone⟩ := Classical.not_imp.mp hpos
        refine wp_bind.mpr (wp_mono (query_multitouch.fails hb hnone w1) (fun _ h => h) ?_)
        rintro r w2 ⟨hm2, e, rfl, he⟩
        exact hunread e w2 (fun hall => hpos hall.2) (hm2.trans hm1) he
    · refine hunread e w1 (fun hall => hkeys ?_) hm1 he
      exact ((neutralize_calls_succeed _ _).mp hall.1).2.1
  · rw [if_pos (by simp [hnode])]
    refine hunread _ _ (fun hall => hnode ?_) rfl (.inl rfl)
    exact ((neutralize_calls_succeed _ _).mp hall.1).1

end neutralization

end input_proxy
