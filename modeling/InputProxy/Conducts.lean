-- Processes that conduct themselves: what a process may call goes by its hand, which its
-- calls and their answers make. Where each call that is allowed keeps an invariant of the
-- hands and of the state, every system of such processes keeps it.
import InputProxy.Systems

namespace processes

variable {Pid Call Choice σ α β Hand : Type} {Reply : Call → Type}

/-- What is allowed with a hand, and the hand after a call. -/
structure Conduct {Call : Type} (Reply : Call → Type) (Hand : Type) where
  allows : Hand → Call → Prop
  after : Hand → (c : Call) → Reply c → Hand

namespace Process

/-- From this hand on the process makes only calls that are allowed, and ends with a result and a
hand that `Q` allows. -/
def Follows (conduct : Conduct Reply Hand) :
    Process Reply α → Hand → (α → Hand → Prop) → Prop
  | .done a, hand, Q => Q a hand
  | .cut, _, _ => True
  | .call c next, hand, Q =>
    conduct.allows hand c ∧ ∀ r, Follows conduct (next r) (conduct.after hand c r) Q

section rules

variable {conduct : Conduct Reply Hand} {m m' : Process Reply α} {f : α → Process Reply β}
  {hand : Hand} {Q Q' : α → Hand → Prop}

@[simp] theorem follows_pure (a : α) : Follows conduct (pure a) hand Q ↔ Q a hand := Iff.rfl

theorem follows_bind {R : β → Hand → Prop}
    (h : Follows conduct m hand fun a hand => Follows conduct (f a) hand R) :
    Follows conduct (m >>= f) hand R := by
  change Follows conduct (m.bind f) hand R
  induction m generalizing hand with
  | done a => exact h
  | cut => trivial
  | call c next ih => exact ⟨h.1, fun r => ih r (h.2 r)⟩

theorem follows_mono (h : Follows conduct m hand Q) (hQ : ∀ a hand, Q a hand → Q' a hand) :
    Follows conduct m hand Q' := by
  induction m generalizing hand with
  | done a => exact hQ a hand h
  | cut => trivial
  | call c next ih => exact ⟨h.1, fun r => ih r (h.2 r)⟩

theorem follows_ask {c : Call} {Q : Reply c → Hand → Prop} (hallows : conduct.allows hand c)
    (h : ∀ r, Q r (conduct.after hand c r)) : Follows conduct (ask c) hand Q :=
  ⟨hallows, h⟩

theorem follows_ite {b : Prop} [Decidable b] (hm : b → Follows conduct m hand Q)
    (hm' : ¬b → Follows conduct m' hand Q) : Follows conduct (if b then m else m') hand Q := by
  split
  · exact hm ‹_›
  · exact hm' ‹_›

/-- A step that goes on where a call succeeded. -/
theorem follows_unless {b : Bool} (hfail : Follows conduct m hand Q)
    (hok : Follows conduct m' hand Q) : Follows conduct (if !b then m else m') hand Q :=
  follows_ite (fun _ => hfail) fun _ => hok

theorem follows_loop {body : β → Process Reply (β ⊕ α)} (Inv : β → Hand → Prop)
    (hbody : ∀ b hand, Inv b hand → Follows conduct (body b) hand
      fun r hand => r.elim (fun b => Inv b hand) (fun a => Q a hand))
    (fuel : Nat) {b : β} (h : Inv b hand) : Follows conduct (loop body fuel b) hand Q := by
  induction fuel generalizing b hand with
  | zero => trivial
  | succ fuel ih =>
    apply follows_bind
    apply follows_mono (hbody b hand h)
    intro r hand hr
    cases r with
    | inl b => exact ih hr
    | inr a => exact hr

/-- Calls that are allowed with every hand. -/
theorem follows_of_makes (hm : m.Makes fun c => ∀ hand, conduct.allows hand c) :
    Follows conduct m hand fun _ _ => True := by
  induction m generalizing hand with
  | done a => trivial
  | cut => trivial
  | call c next ih => exact ⟨hm.1 hand, fun r => ih r (hm.2 r)⟩

/-- A step of such calls. -/
theorem follows_bind_free {R : β → Hand → Prop}
    (hm : m.Makes fun c => ∀ hand, conduct.allows hand c)
    (h : ∀ a hand, Follows conduct (f a) hand R) : Follows conduct (m >>= f) hand R := by
  apply follows_bind
  apply follows_mono (follows_of_makes hm)
  exact fun a hand _ => h a hand

end rules

end Process

namespace System

/-- Each process that is there goes on as its conduct allows. -/
def Orderly (conduct : Pid → Conduct Reply Hand) (hands : Pid → Hand)
    (s : System Pid Reply α σ) : Prop :=
  ∀ pid p, s.tasks pid = some p →
    Process.Follows (conduct pid) p (hands pid) fun _ _ => True

variable {answer : Pid → Choice → (c : Call) → σ → Reply c × σ} {leave : Pid → σ → σ}
  {conduct : Pid → Conduct Reply Hand} {Inv : (Pid → Hand) → σ → List (Sight Pid Reply) → Prop}
  {Seen : List (Sight Pid Reply) → Prop} {s : System Pid Reply α σ} {hands : Pid → Hand}

/-- The call of an orderly process is one that its hand allows. -/
theorem Orderly.allows (h : Orderly conduct hands s) {pid : Pid} {c : Call}
    {next : Reply c → Process Reply α} (htask : s.tasks pid = some (.call c next)) :
    (conduct pid).allows (hands pid) c :=
  (h pid _ htask).1

variable [DecidableEq Pid]

theorem Orderly.call (h : Orderly conduct hands s) {pid : Pid} {c : Call}
    {next : Reply c → Process Reply α} (htask : s.tasks pid = some (.call c next)) (r : Reply c)
    {state : σ} {trace : List (Sight Pid Reply)} :
    Orderly conduct (Function.update hands pid ((conduct pid).after (hands pid) c r))
      ⟨state, Function.update s.tasks pid (some (next r)), trace⟩ := by
  intro pid' p hp
  dsimp only at hp
  by_cases hpid : pid' = pid
  · subst hpid
    rw [Function.update_self, Option.some_inj] at hp
    rw [Function.update_self, ← hp]
    exact (h pid' _ htask).2 r
  · rw [Function.update_of_ne hpid] at hp ⊢
    exact h pid' p hp

theorem Orderly.gone (h : Orderly conduct hands s) {pid : Pid} {state : σ}
    {trace : List (Sight Pid Reply)} :
    Orderly conduct hands ⟨state, Function.update s.tasks pid none, trace⟩ := by
  intro pid' p hp
  dsimp only at hp
  by_cases hpid : pid' = pid
  · subst hpid
    rw [Function.update_self] at hp
    cases hp
  · rw [Function.update_of_ne hpid] at hp
    exact h pid' p hp

/-- Whatever the order of the calls and whoever is gone, as long as what is seen of the processes
is as supposed, there are hands by which all of them go on, and with which the invariant holds. -/
theorem Orderly.run (hseen : ∀ sight trace, Seen (sight :: trace) → Seen trace)
    (hcall : ∀ hands s trace pid choice c, (conduct pid).allows (hands pid) c →
      Inv hands s trace → Seen (.made pid c (answer pid choice c s).1 :: trace) →
      Inv (Function.update hands pid
          ((conduct pid).after (hands pid) c (answer pid choice c s).1))
        (answer pid choice c s).2 (.made pid c (answer pid choice c s).1 :: trace))
    (hleave : ∀ hands s trace pid, Inv hands s trace →
      Inv hands (leave pid s) (.gone pid :: trace))
    (h : Orderly conduct hands s) (hs : Inv hands s.state s.trace)
    (events : List (Event Pid Choice)) :
    Seen (run answer leave events s).trace → ∃ hands,
      Orderly conduct hands (run answer leave events s) ∧
        Inv hands (run answer leave events s).state (run answer leave events s).trace := by
  apply run_induction answer leave
    (P := fun s => Seen s.trace → ∃ hands, Orderly conduct hands s ∧ Inv hands s.state s.trace)
  · intro s event ih
    rcases fire_cases answer leave s event with heq |
      ⟨pid, choice, c, next, -, htask, heq⟩ | ⟨pid, -, -, heq⟩
    · rwa [heq]
    · rw [heq]
      intro htrace
      obtain ⟨hands, horderly, hinv⟩ := ih (hseen _ _ htrace)
      exact ⟨_, horderly.call htask _,
        hcall hands s.state s.trace pid choice c (horderly.allows htask) hinv htrace⟩
    · rw [heq]
      intro htrace
      obtain ⟨hands, horderly, hinv⟩ := ih (hseen _ _ htrace)
      exact ⟨hands, horderly.gone, hleave hands s.state s.trace pid hinv⟩
  · exact fun _ => ⟨hands, h, hs⟩

end System

end processes
