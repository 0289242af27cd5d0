-- The end of a run. A shutdown that was seen and an error outside a state correction have
-- the last word: after it the session opens, reads, writes, creates and dispatches nothing
-- any more, it cleans up, and the run returns what the last word was.
import InputProxy.Histories

open programs

namespace input_proxy

/-! ## The law -/

/-- The result of an entry that ends the run. A source that is unavailable, or denied, can still
be waited for. -/
def Action.last_word : Action → Option Result
  | .tested true => some .SUCCESS
  | .attempted .ERROR_SOURCE_UNAVAILABLE | .attempted .ERROR_SOURCE_PERMISSION_DENIED => none
  | .attempted result | .create_failed result => some result
  | .read_failed .ERROR_EVENT_READ_FAILED => some .ERROR_EVENT_READ_FAILED
  | .written .forward _ _ false => some .ERROR_EVENT_WRITE_FAILED
  | _ => none

/-- An entry of the cleanup, or one that says nothing about devices, events and requests. -/
def Action.winds_down (a : Action) : Prop :=
  a.of_control ∨ match a with
    | .cleanup | .closed _ | .destroyed _ => True
    | _ => False

/-- After the last word the session winds down. -/
def LastWord (a : Action) (past : List Action) : Prop :=
  (∃ b ∈ past, b.last_word ≠ none) → a.winds_down

/-! ## Steps -/

theorem Action.winds_down.no_last_word {a : Action} (h : a.winds_down) : a.last_word = none := by
  rcases h with hcontrol | hcleanup
  · cases a <;> first | rfl | exact hcontrol.elim
  · cases a <;> first | rfl | exact hcleanup.elim

theorem Action.of_correction.no_last_word {a : Action} (h : a.of_correction) :
    a.last_word = none := by
  cases a with
  | written cause p e ok => cases cause <;> first | rfl | exact h.elim
  | captured | checked | neutralized | synchronized => rfl
  | _ => exact h.elim

/-- The phases of a run that comes to its end with this result. -/
def Phase.ends_with (ph : Phase) (r : Result) : Prop := ph = .ended r ∨ ph = .stopped r

/-- A run ends with one result. -/
theorem Phase.ends_with.same {ph : Phase} {r r' : Result} (h : ph.ends_with r)
    (h' : ph.ends_with r') : r = r' := by
  rcases h with rfl | rfl <;> rcases h' with heq | heq <;> cases heq <;> rfl

section steps

variable {ph ph' : Phase} {m m' : Moment} {r : Result}

/-- A run that comes to its end only winds down. -/
theorem Step.winds_down (h : Step (ph, m) (ph', m')) (hph : ph.ends_with r) :
    ph'.ends_with r ∧ Adds Action.winds_down m m' := by
  rcases hph with rfl | rfl
  · cases h with
    | control h => exact ⟨.inl rfl, h.adds.mono fun _ => .inl⟩
    | signal_ended => exact ⟨.inl rfl, Adds.refl.put⟩
    | clean =>
      refine ⟨.inr rfl, ?_⟩
      have hcleanup : Adds Action.winds_down m (m.log .cleanup) := Adds.refl.log (.inr trivial)
      exact (hcleanup.destroy fun _ => .inr trivial).close fun _ => .inr trivial
  · cases h with
    | control h => exact ⟨.inr rfl, h.adds.mono fun _ => .inl⟩

/-- A step has the last word: the run comes to its end with the result of it. -/
structure HasLastWord (m : Moment) (ph' : Phase) (m' : Moment) : Prop where
  said : ∃ a r new, a.last_word = some r ∧ ph' = .ended r ∧ (∀ b ∈ new, b.winds_down) ∧
    m'.history = new ++ a :: m.history

theorem HasLastWord.of_log {a : Action} {f : Session → Session} (h : a.last_word = some r) :
    HasLastWord m (.ended r) ((m.put f).log a) :=
  ⟨a, r, [], h, rfl, by simp, rfl⟩

/-- A source that is unavailable, or denied, has no last word. -/
theorem last_word_attempted {r : Result} : (Action.attempted r).last_word = some r ∨
    (Action.attempted r).last_word = none := by
  cases r <;> simp [Action.last_word]

/-- Another step has no last word. -/
theorem Step.last_word_or (h : Step (ph, m) (ph', m')) :
    HasLastWord m ph' m' ∨ Adds (fun a => a.last_word = none) m m' := by
  have hcorrection : ∀ a : Action, a.of_correction → a.last_word = none :=
    fun _ ha => ha.no_last_word
  have hlog : ∀ {f : Session → Session} {a : Action}, a.last_word = none →
      Adds (fun a => a.last_word = none) m ((m.put f).log a) :=
    fun ha => Adds.refl.put.log ha
  have hcontrol : ∀ a : Action, a.of_control → a.last_word = none := by
    intro a ha
    have hwinds : a.winds_down := .inl ha
    exact hwinds.no_last_word
  cases h with
  | control h => exact .inr (h.adds.mono hcontrol)
  -- the last words
  | shutdown => exact .inl (.of_log rfl)
  | open_failed hf hr hu hd =>
    rename_i t r
    rcases @last_word_attempted r with hsome | hnone
    · exact .inl (.of_log hsome)
    · exact .inr (hlog hnone)
  | create_failed hr =>
    rename_i r
    left
    have hlast : (Action.create_failed r).last_word = some r := rfl
    unfold Moment.close
    split
    · exact .of_log (f := fun _ => _) hlast
    · rename_i source hsource
      exact ⟨_, r, [.closed source.id], hlast, rfl, by simp [Action.winds_down], rfl⟩
  | read_failed => exact .inl ⟨_, _, [], rfl, rfl, by simp, rfl⟩
  | recover_failed => exact .inl ⟨_, _, [], rfl, rfl, by simp, rfl⟩
  | forward_failed => exact .inl ⟨_, _, [], rfl, rfl, by simp, rfl⟩
  -- the other entries
  | dispatch | loop_head | call | reply | go_on | compatible | read_nothing | read_dropped
  | read_lost | recovered | recover_lost => exact .inr (Adds.refl.log rfl)
  | unavailable | open_source | create | read | recover | forward => exact .inr (hlog rfl)
  | changed hp hc => exact .inr ((hc.adds hcorrection rfl fun _ => rfl).put.log rfl)
  | failed hp hc hr => exact .inr ((hc.adds hcorrection rfl fun _ => rfl).put.log rfl)
  | denied | denied_end => exact .inr ((hlog rfl).log rfl)
  | @incompatible _ d source hd hs hc =>
    have hcompared : Adds (fun a => a.last_word = none) m (m.log (.compared d.id false)) :=
      Adds.refl.log rfl
    exact .inr (hcompared.destroy fun _ => rfl)
  | synchronized hp hs | not_synchronized hp hs hr => exact .inr (hs.adds.mono hcorrection)
  | neutralized hn | not_neutralized hn hr =>
    exact .inr (hn.adds_loss hcorrection rfl fun _ => rfl)
  | clean =>
    have hcleanup : Adds (fun a => a.last_word = none) m (m.log .cleanup) := Adds.refl.log rfl
    exact .inr ((hcleanup.destroy fun _ => rfl).close fun _ => rfl)
  | _ => exact .inr Adds.refl

end steps

/-! ## Runs -/

/-- What is known at every moment: the last word, if there is one, is the result of a run that
comes to its end. -/
structure Spoken (ph : Phase) (m : Moment) : Prop where
  law : Always LastWord m.history
  ends : ∀ a ∈ m.history, ∀ r, a.last_word = some r → ph.ends_with r

section runs

variable {config : SessionConfig} {ph ph' : Phase} {m m' : Moment}

/-- Before any last word. -/
theorem last_word_of_silent {a : Action} {past : List Action}
    (h : ∀ b ∈ past, b.last_word = none) : LastWord a past := by
  rintro ⟨b, hb, hsome⟩
  exact absurd (h b hb) hsome

theorem Spoken.step (hm : Spoken ph m) (h : Step (ph, m) (ph', m')) : Spoken ph' m' := by
  by_cases hspoken : ∃ a ∈ m.history, a.last_word ≠ none
  · obtain ⟨a, ha, hsome⟩ := hspoken
    obtain ⟨r, hr⟩ := Option.ne_none_iff_exists'.mp hsome
    obtain ⟨hends, hadds⟩ := h.winds_down (hm.ends a ha r hr)
    refine ⟨hadds.law hm.law fun b _ hb _ => hb, ?_⟩
    obtain ⟨new, hnew, hall⟩ := hadds
    intro b hb r' hr'
    rw [hnew] at hb
    rcases List.mem_append.mp hb with hb | hb
    · have hnone := (hall b hb).no_last_word
      rw [hr'] at hnone
      cases hnone
    · have hsame : r' = r := (hm.ends b hb r' hr').same (hm.ends a ha r hr)
      exact hsame ▸ hends
  · have hsilent : ∀ a ∈ m.history, a.last_word = none := by
      intro a ha
      by_contra hsome
      exact hspoken ⟨a, ha, hsome⟩
    rcases h.last_word_or with ⟨a, r, new, hlast, rfl, hall, hnew⟩ | hadds
    -- the step has the last word
    · have hlaw : Always LastWord (a :: m.history) := ⟨last_word_of_silent hsilent, hm.law⟩
      refine ⟨?_, ?_⟩
      · rw [hnew]
        refine always_append hlaw fun l b past heq _ => hall b ?_
        rw [heq]
        exact List.mem_append_right l List.mem_cons_self
      · intro b hb r' hr'
        rw [hnew] at hb
        rcases List.mem_append.mp hb with hb | hb
        · have hnone := (hall b hb).no_last_word
          rw [hr'] at hnone
          cases hnone
        · rcases List.mem_cons.mp hb with rfl | hb
          · rw [hlast] at hr'
            cases hr'
            exact .inl rfl
          · rw [hsilent b hb] at hr'
            cases hr'
    -- another step
    · have hsilent' : ∀ a ∈ m'.history, a.last_word = none := by
        obtain ⟨new, hnew, hall⟩ := hadds
        intro a ha
        rw [hnew] at ha
        exact (List.mem_append.mp ha).elim (hall a) (hsilent a)
      refine ⟨?_, ?_⟩
      · refine hadds.law_past hm.law fun a new _ hall => last_word_of_silent ?_
        intro b hb
        exact (List.mem_append.mp hb).elim (hall b) (hsilent b)
      · intro a ha r hr
        rw [hsilent' a ha] at hr
        cases hr

theorem Reach.spoken (h : Reach config (ph, m)) : Spoken ph m := by
  refine reach_induction Spoken ?_ (fun _ hm hs => hm.step hs) h
  exact ⟨trivial, by simp⟩

end runs

/-! ## Every run -/

/-- After a shutdown that was seen, or an error outside a state correction, a run only cleans up,
complete or cut short, and what it returns is what the last word was. -/
theorem the_last_word_is_what_a_run_returns (config : SessionConfig) (answers : Nat → Answer)
    (fuel : Nat) :
    Always LastWord (run_history config answers fuel) ∧
      ∀ r w, Returns config answers fuel r w →
        ∀ a ∈ w.history, ∀ r', a.last_word = some r' → r' = r := by
  constructor
  · exact run_law (fun m => Always LastWord m.history) (fun _ _ _ h => h.spoken.law) answers fuel
  · intro r w hreturns a ha r' hr'
    have hstopped : Reach config (.stopped r, w.moment) := session_run.returned config hreturns
    rcases hstopped.spoken.ends a ha r' hr' with hended | hstop
    · cases hended
    · cases hstop
      rfl

end input_proxy
