-- The signals that end a run (src/main.c). A handler reaches the session through a pointer
-- that `run_proxy` sets and clears, and a signal can come between any two statements. The
-- handler never reaches a session that is not there, and no signal that comes while a
-- session runs is lost.
import InputProxy.Installation
import InputProxy.Program
import InputProxy.Systems

open processes programs

namespace input_proxy.signals

/-! ## The memory of a run -/

inductive TerminationSignal
  | SIGINT
  | SIGTERM
deriving DecidableEq

inductive Disposition
  | SIG_DFL
  | handle_termination_signal
deriving DecidableEq

/-- The memory of the session, with its flag `shutdown_requested` while it is there. -/
inductive SessionMemory
  | absent
  | live (shutdown_requested : Bool)
  | destroyed
deriving DecidableEq

/-- What was seen of a run: a signal that killed it, one whose handler was called, with the
pointer and the memory that it found, and a test of the flag by the session, with what a signal
would have done there. -/
inductive SignalEntry
  | killed (signal : TerminationSignal)
  | handled (signal : TerminationSignal) (active_session : Bool) (session : SessionMemory)
  | tested (shutdown_requested : Bool) (dispositions : TerminationSignal → Disposition)

/-- `active_session` tells whether the pointer is set; there is one session it can point to. -/
structure RunMemory where
  session : SessionMemory
  active_session : Bool
  dispositions : TerminationSignal → Disposition
  killed : Bool
  /-- Newest first. -/
  history : List SignalEntry

/-- `input_proxy_session_request_shutdown`. -/
def request_shutdown : SessionMemory → SessionMemory
  | .live _ => .live true
  | session => session

def handle_termination_signal (signal : TerminationSignal) (memory : RunMemory) : RunMemory :=
  { memory with
    session := if memory.active_session then request_shutdown memory.session else memory.session
    history := .handled signal memory.active_session memory.session :: memory.history }

/-- A signal comes. Nothing comes of one to a process that is gone. -/
def deliver (signal : TerminationSignal) (memory : RunMemory) : RunMemory :=
  if memory.killed then memory
  else
    match memory.dispositions signal with
    | .SIG_DFL => { memory with killed := true, history := .killed signal :: memory.history }
    | .handle_termination_signal => handle_termination_signal signal memory

/-! ## The calls -/

/-- The statements of `run_proxy` that a signal can tell apart, and the signals. -/
inductive SignalCall
  | session_create
  | set_active_session (active : Bool)
  | sigaction (signal : TerminationSignal) (disposition : Disposition)
  | test
  | session_destroy
  | raise (signal : TerminationSignal)

def SignalReply : SignalCall → Type
  | .session_create | .sigaction _ _ | .test => Bool
  | .set_active_session _ | .session_destroy | .raise _ => Unit

abbrev SignalProc := Process SignalReply

/-- `choice` tells whether a call that can fail succeeds. -/
def signal_answer (choice : Bool) :
    (c : SignalCall) → RunMemory → SignalReply c × RunMemory
  | .session_create, memory =>
    if memory.killed ∨ !choice then (false, memory)
    else (true, { memory with session := .live false })
  | .set_active_session active, memory =>
    ((), if memory.killed then memory else { memory with active_session := active })
  | .sigaction signal disposition, memory =>
    if memory.killed ∨ !choice then (false, memory)
    else
      (true, { memory with
        dispositions := Function.update memory.dispositions signal disposition })
  | .test, memory =>
    let shutdown_requested := memory.session == .live true
    (shutdown_requested,
      if memory.killed then memory
      else { memory with
        history := .tested shutdown_requested memory.dispositions :: memory.history })
  | .session_destroy, memory =>
    ((), if memory.killed then memory else { memory with session := .destroyed })
  | .raise signal, memory => ((), deliver signal memory)

def session_create : SignalProc Bool := .ask SignalCall.session_create

def set_active_session (active : Bool) : SignalProc Unit :=
  .ask (SignalCall.set_active_session active)

def sigaction (signal : TerminationSignal) (disposition : Disposition) : SignalProc Bool :=
  .ask (SignalCall.sigaction signal disposition)

def session_destroy : SignalProc Unit := .ask SignalCall.session_destroy

/-! ## A run -/

def install_signal_handlers : SignalProc Bool := do
  if !(← sigaction .SIGINT .handle_termination_signal) then return false
  if !(← sigaction .SIGTERM .handle_termination_signal) then
    let _ ← sigaction .SIGINT .SIG_DFL
    return false
  return true

def restore_signal_handlers : SignalProc Unit := do
  let _ ← sigaction .SIGINT .SIG_DFL
  let _ ← sigaction .SIGTERM .SIG_DFL

/-- A session that runs. Of all this it does no more than test its flag. -/
structure TestingSession where
  session_run : SignalProc Result
  tests : session_run.Makes (· = .test)

/-- `run_proxy`, from the creation of the session on. -/
def run_proxy (session : TestingSession) : SignalProc Exit := do
  if !(← session_create) then return .FAILURE
  set_active_session true
  if !(← install_signal_handlers) then
    set_active_session false
    session_destroy
    return .FAILURE
  let result ← session.session_run
  restore_signal_handlers
  set_active_session false
  session_destroy
  return if result = .SUCCESS then .SUCCESS else .FAILURE

/-- The process before its first statement. -/
def unsignalled : RunMemory where
  session := .absent
  active_session := false
  dispositions := fun _ => .SIG_DFL
  killed := false
  history := []

/-! ## The law -/

/-- A signal. -/
def SignalEntry.signal : SignalEntry → Option TerminationSignal
  | .killed signal | .handled signal _ _ => some signal
  | .tested _ _ => none

/-- A signal has come. -/
def Signalled (history : List SignalEntry) : Prop := ∃ entry ∈ history, entry.signal ≠ none

/-- The handler finds the memory of the session wherever it finds the pointer. A session that
runs finds its flag set exactly if a signal has come, and none would kill it. -/
def Answered : SignalEntry → List SignalEntry → Prop
  | .killed _, _ => True
  | .handled _ active_session session, _ => active_session = true → ∃ b, session = .live b
  | .tested b dispositions, past =>
    (b = true ↔ Signalled past) ∧ ∀ signal, dispositions signal = .handle_termination_signal

/-- What holds between any two statements: a pointer that is set points to the session, whose
flag is set if a signal has come. -/
structure Consistent (memory : RunMemory) : Prop where
  answered : Always Answered memory.history
  active : memory.killed = false → memory.active_session = true →
    ∃ b, memory.session = .live b ∧ (b = true ↔ Signalled memory.history)

/-! ## Signals -/

section signals

variable {memory : RunMemory}

theorem signalled_cons {entry : SignalEntry} {past : List SignalEntry}
    (h : entry.signal ≠ none) : Signalled (entry :: past) := ⟨entry, List.mem_cons_self, h⟩

theorem signalled_tested_cons {b : Bool} {dispositions : TerminationSignal → Disposition}
    {past : List SignalEntry} :
    Signalled (.tested b dispositions :: past) ↔ Signalled past := by
  simp [Signalled, SignalEntry.signal]

theorem not_signalled_nil : ¬Signalled [] := by
  rintro ⟨entry, hmem, -⟩
  cases hmem

/-- Signals come. -/
def Come : RunMemory → RunMemory → Prop :=
  Relation.ReflTransGen fun memory memory' => ∃ signal, memory' = deliver signal memory

theorem Come.keeps {P : RunMemory → Prop} {memory memory' : RunMemory}
    (h : Come memory memory') (hP : ∀ signal memory, P memory → P (deliver signal memory))
    (hm : P memory) : P memory' := by
  induction h with
  | refl => exact hm
  | tail _ hstep ih =>
    obtain ⟨signal, rfl⟩ := hstep
    exact hP signal _ ih

/-- What a signal does. -/
theorem deliver_cases (signal : TerminationSignal) (memory : RunMemory) :
    memory.killed = true ∧ deliver signal memory = memory ∨
    memory.killed = false ∧ memory.dispositions signal = .SIG_DFL ∧ deliver signal memory =
      { memory with killed := true, history := .killed signal :: memory.history } ∨
    memory.killed = false ∧ memory.dispositions signal = .handle_termination_signal ∧
      deliver signal memory = handle_termination_signal signal memory := by
  unfold deliver
  cases hkilled : memory.killed with
  | true => simp
  | false => cases hdisposition : memory.dispositions signal <;> simp

theorem Consistent.deliver (h : Consistent memory) (signal : TerminationSignal) :
    Consistent (deliver signal memory) := by
  rcases deliver_cases signal memory with ⟨-, heq⟩ | ⟨-, -, heq⟩ | ⟨hkilled, -, heq⟩
  · rwa [heq]
  · rw [heq]
    refine ⟨⟨trivial, h.answered⟩, ?_⟩
    intro hnot
    cases hnot
  · rw [heq]
    refine ⟨⟨?_, h.answered⟩, ?_⟩
    · intro hactive
      obtain ⟨b, hsession, -⟩ := h.active hkilled hactive
      exact ⟨b, hsession⟩
    · intro _ hactive
      obtain ⟨b, hsession, -⟩ := h.active hkilled hactive
      refine ⟨true, ?_, ?_⟩
      · simp only [handle_termination_signal] at hactive ⊢
        simp [hactive, hsession, request_shutdown]
      · have hsignalled : Signalled (handle_termination_signal signal memory).history :=
          signalled_cons (by simp [SignalEntry.signal])
        simp [hsignalled]

end signals

/-! ## Statements -/

/-- Whatever signals come in between, the statements leave the memory consistent, and in the end
`Q` holds. -/
def Leaves (p : SignalProc α) (Q : α → RunMemory → Prop) (memory : RunMemory) : Prop :=
  p.rg signal_answer Come (fun _ memory' => Consistent memory') Q memory

/-- No signal has come, and each would kill the process. -/
structure Unsignalled (session : SessionMemory) (memory : RunMemory) : Prop where
  consistent : Consistent memory
  quiet : memory.killed = false → memory.session = session ∧ memory.active_session = false ∧
    memory.history = [] ∧ ∀ signal, memory.dispositions signal = .SIG_DFL

/-- The pointer is set, or cleared. -/
structure Pointed (active : Bool) (memory : RunMemory) : Prop where
  consistent : Consistent memory
  active : memory.killed = false → memory.active_session = active

/-- The pointer is set, and these signals are handled. -/
structure Handled (signals : List TerminationSignal) (memory : RunMemory) : Prop where
  pointed : Pointed true memory
  handled : memory.killed = false → ∀ signal ∈ signals,
    memory.dispositions signal = .handle_termination_signal

section statements

variable {α β : Type} {memory : RunMemory} {p : SignalProc α} {Q : α → RunMemory → Prop}

theorem Unsignalled.deliver {session : SessionMemory} (h : Unsignalled session memory)
    (signal : TerminationSignal) : Unsignalled session (deliver signal memory) := by
  refine ⟨h.consistent.deliver signal, ?_⟩
  intro hkilled
  rcases deliver_cases signal memory with ⟨-, heq⟩ | ⟨-, -, heq⟩ | ⟨hnot, hdisposition, -⟩
  · rw [heq] at hkilled ⊢
    exact h.quiet hkilled
  · rw [heq] at hkilled
    cases hkilled
  · obtain ⟨-, -, -, hdefault⟩ := h.quiet hnot
    rw [hdefault signal] at hdisposition
    cases hdisposition

@[simp] theorem deliver_active_session (signal : TerminationSignal) (memory : RunMemory) :
    (deliver signal memory).active_session = memory.active_session := by
  rcases deliver_cases signal memory with ⟨-, heq⟩ | ⟨-, -, heq⟩ | ⟨-, -, heq⟩ <;> simp only [heq]
  rfl

@[simp] theorem deliver_dispositions (signal : TerminationSignal) (memory : RunMemory) :
    (deliver signal memory).dispositions = memory.dispositions := by
  rcases deliver_cases signal memory with ⟨-, heq⟩ | ⟨-, -, heq⟩ | ⟨-, -, heq⟩ <;> simp only [heq]
  rfl

theorem deliver_killed {signal : TerminationSignal}
    (h : (deliver signal memory).killed = false) : memory.killed = false := by
  rcases deliver_cases signal memory with ⟨-, heq⟩ | ⟨hnot, -⟩ | ⟨hnot, -⟩
  · rwa [heq] at h
  · exact hnot
  · exact hnot

theorem Pointed.deliver {active : Bool} (h : Pointed active memory) (signal : TerminationSignal) :
    Pointed active (deliver signal memory) := by
  refine ⟨h.consistent.deliver signal, ?_⟩
  intro hkilled
  rw [deliver_active_session]
  exact h.active (deliver_killed hkilled)

theorem Handled.deliver {signals : List TerminationSignal} (h : Handled signals memory)
    (signal : TerminationSignal) : Handled signals (deliver signal memory) := by
  refine ⟨h.pointed.deliver signal, ?_⟩
  intro hkilled
  rw [deliver_dispositions]
  exact h.handled (deliver_killed hkilled)

/-- A call, where what it needs is nothing that a signal can change. -/
theorem Leaves.call {P : RunMemory → Prop} {c : SignalCall}
    {Q : SignalReply c → RunMemory → Prop}
    (hP : ∀ signal memory, P memory → P (signals.deliver signal memory))
    (hcall : ∀ choice memory, P memory → Consistent (signal_answer choice c memory).2 ∧
      Q (signal_answer choice c memory).1 (signal_answer choice c memory).2)
    (h : P memory) : Leaves (.ask c) Q memory := by
  apply Process.rg_ask
  intro memory' hcome choice
  exact hcall choice memory' (hcome.keeps hP h)

theorem Leaves.bind {f : α → SignalProc β} {R : β → RunMemory → Prop} (h : Leaves p Q memory)
    (hf : ∀ a memory, Q a memory → Leaves (f a) R memory) : Leaves (p >>= f) R memory :=
  Process.rg_bind (Process.rg_mono h hf)

theorem session_create.leaves (h : Unsignalled .absent memory) :
    Leaves session_create (fun created memory => created = true → Unsignalled (.live false) memory)
      memory := by
  apply Leaves.call (fun signal _ h => h.deliver signal) _ h
  intro choice memory h
  simp only [signal_answer]
  split
  · refine ⟨h.consistent, ?_⟩
    intro hnot
    cases hnot
  · rename_i hcreated
    have hkilled : memory.killed = false := by
      by_contra hnot
      exact hcreated (.inl (by simpa using hnot))
    obtain ⟨-, hactive, hhistory, hdefault⟩ := h.quiet hkilled
    have hconsistent : Consistent { memory with session := .live false } := by
      refine ⟨h.consistent.answered, ?_⟩
      intro _ hnot
      rw [hactive] at hnot
      cases hnot
    exact ⟨hconsistent, fun _ => ⟨hconsistent, fun _ => ⟨rfl, hactive, hhistory, hdefault⟩⟩⟩

/-- The pointer is set before any signal is handled. -/
theorem set_active_session.leaves_set (h : Unsignalled (.live false) memory) :
    Leaves (set_active_session true) (fun _ memory => Pointed true memory) memory := by
  apply Leaves.call (fun signal _ h => h.deliver signal) _ h
  intro choice memory h
  simp only [signal_answer]
  by_cases hkilled : memory.killed = true
  · rw [if_pos hkilled]
    refine ⟨h.consistent, h.consistent, ?_⟩
    intro hnot
    simp [hkilled] at hnot
  · rw [if_neg hkilled]
    obtain ⟨hsession, -, hhistory, -⟩ := h.quiet (by simpa using hkilled)
    have hconsistent : Consistent { memory with active_session := true } := by
      refine ⟨h.consistent.answered, ?_⟩
      intro _ _
      refine ⟨false, hsession, ?_⟩
      simp [hhistory, not_signalled_nil]
    exact ⟨hconsistent, hconsistent, fun _ => rfl⟩

/-- The pointer is cleared, whatever is handled. -/
theorem set_active_session.leaves_cleared (h : Consistent memory) :
    Leaves (set_active_session false) (fun _ memory => Pointed false memory) memory := by
  apply Leaves.call (fun signal _ h => h.deliver signal) _ h
  intro choice memory h
  simp only [signal_answer]
  by_cases hkilled : memory.killed = true
  · rw [if_pos hkilled]
    refine ⟨h, h, ?_⟩
    intro hnot
    simp [hkilled] at hnot
  · rw [if_neg hkilled]
    have hconsistent : Consistent { memory with active_session := false } := by
      refine ⟨h.answered, ?_⟩
      intro _ hnot
      cases hnot
    exact ⟨hconsistent, hconsistent, fun _ => rfl⟩

/-- The session is destroyed once nothing points to it. -/
theorem session_destroy.leaves (h : Pointed false memory) :
    Leaves session_destroy (fun _ _ => True) memory := by
  apply Leaves.call (fun signal _ h => h.deliver signal) _ h
  intro choice memory h
  simp only [signal_answer]
  by_cases hkilled : memory.killed = true
  · rw [if_pos hkilled]
    exact ⟨h.consistent, trivial⟩
  · rw [if_neg hkilled]
    refine ⟨⟨h.consistent.answered, ?_⟩, trivial⟩
    intro hnot hactive
    rw [h.active hnot] at hactive
    cases hactive

/-- Whether it succeeds or fails, `sigaction` leaves the pointer as it is. -/
theorem sigaction.leaves_pointed {signal : TerminationSignal} {disposition : Disposition}
    {active : Bool} (h : Pointed active memory) :
    Leaves (sigaction signal disposition) (fun _ memory => Pointed active memory) memory := by
  apply Leaves.call (fun signal _ h => h.deliver signal) _ h
  intro choice memory h
  simp only [signal_answer]
  split
  · exact ⟨h.consistent, h⟩
  · have hconsistent : Consistent { memory with
        dispositions := Function.update memory.dispositions signal disposition } :=
      ⟨h.consistent.answered, h.consistent.active⟩
    exact ⟨hconsistent, hconsistent, h.active⟩

/-- One signal more is handled. -/
theorem sigaction.leaves_handled {signals : List TerminationSignal} {signal : TerminationSignal}
    (h : Handled signals memory) :
    Leaves (sigaction signal .handle_termination_signal)
      (fun installed memory => if installed then Handled (signal :: signals) memory
        else Pointed true memory) memory := by
  apply Leaves.call (fun signal _ h => h.deliver signal) _ h
  intro choice memory h
  simp only [signal_answer]
  split
  · exact ⟨h.pointed.consistent, h.pointed⟩
  · have hconsistent : Consistent { memory with
        dispositions := Function.update memory.dispositions signal .handle_termination_signal } :=
      ⟨h.pointed.consistent.answered, h.pointed.consistent.active⟩
    refine ⟨hconsistent, ⟨hconsistent, h.pointed.active⟩, ?_⟩
    intro hkilled other hother
    change Function.update memory.dispositions signal .handle_termination_signal other = _
    by_cases hsame : other = signal
    · rw [hsame, Function.update_self]
    · rw [Function.update_of_ne hsame]
      exact h.handled hkilled other ((List.mem_cons.mp hother).resolve_left hsame)

theorem install_signal_handlers.leaves (h : Pointed true memory) :
    Leaves install_signal_handlers (fun installed memory =>
      if installed then Handled [.SIGTERM, .SIGINT] memory else Pointed true memory) memory := by
  have hnone : Handled [] memory := by
    refine ⟨h, ?_⟩
    intro _ signal hmem
    cases hmem
  unfold install_signal_handlers
  apply (sigaction.leaves_handled hnone).bind
  intro interrupt memory hinterrupt
  cases interrupt with
  | false => exact hinterrupt
  | true =>
    apply (sigaction.leaves_handled hinterrupt).bind
    intro terminate memory hterminate
    cases terminate with
    | false =>
      apply (sigaction.leaves_pointed hterminate).bind
      intro _ memory h
      exact h
    | true => exact hterminate

theorem restore_signal_handlers.leaves (h : Pointed true memory) :
    Leaves restore_signal_handlers (fun _ memory => Pointed true memory) memory := by
  unfold restore_signal_handlers
  apply (sigaction.leaves_pointed h).bind
  intro _ memory h
  apply (sigaction.leaves_pointed h).bind
  intro _ memory h
  exact h

/-- The session finds its flag as the signals have left it. -/
theorem TestingSession.leaves (session : TestingSession)
    (h : Handled [.SIGTERM, .SIGINT] memory) : Leaves session.session_run
      (fun _ memory => Handled [.SIGTERM, .SIGINT] memory) memory := by
  apply Process.rg_of_makes session.tests (fun _ _ hcome h => hcome.keeps
    (fun signal _ h => h.deliver signal) h) _ h
  rintro choice c memory rfl h
  simp only [signal_answer]
  by_cases hkilled : memory.killed = true
  · rw [if_pos hkilled]
    exact ⟨h.pointed.consistent, h⟩
  · rw [if_neg hkilled]
    have hnot : memory.killed = false := by simpa using hkilled
    obtain ⟨b, hsession, hb⟩ :=
      h.pointed.consistent.active hnot (h.pointed.active hnot)
    have hconsistent : Consistent { memory with
        history := .tested (memory.session == .live true) memory.dispositions ::
          memory.history } := by
      refine ⟨⟨⟨?_, ?_⟩, h.pointed.consistent.answered⟩, ?_⟩
      · simp [hsession, hb]
      · intro signal
        apply h.handled hnot
        cases signal <;> simp
      · intro _ _
        refine ⟨b, hsession, ?_⟩
        rw [signalled_tested_cons]
        exact hb
    exact ⟨hconsistent, ⟨hconsistent, h.pointed.active⟩, h.handled⟩

theorem run_proxy.leaves (session : TestingSession) (h : Unsignalled .absent memory) :
    Leaves (run_proxy session) (fun _ _ => True) memory := by
  have hcleared : ∀ {memory exit}, Consistent memory → Leaves (do
      set_active_session false
      session_destroy
      return exit : SignalProc Exit) (fun _ _ => True) memory := by
    intro memory exit h
    apply (set_active_session.leaves_cleared h).bind
    intro _ memory h
    apply (session_destroy.leaves h).bind
    intro _ memory _
    trivial
  unfold run_proxy
  apply (session_create.leaves h).bind
  intro created memory hcreated
  cases created with
  | false => trivial
  | true =>
    apply (set_active_session.leaves_set (hcreated rfl)).bind
    intro _ memory h
    apply (install_signal_handlers.leaves h).bind
    intro installed memory hinstalled
    cases installed with
    | false => exact hcleared hinstalled.consistent
    | true =>
      apply (session.leaves hinstalled).bind
      intro result memory h
      apply (restore_signal_handlers.leaves h.pointed).bind
      intro _ memory h
      exact hcleared h.consistent

end statements

/-! ## Every run -/

/-- One who sends signals, and does nothing else here. -/
structure Sender where
  send : SignalProc Exit
  sends : send.Makes fun c => ∃ signal, c = .raise signal

/-- The process and those who send it signals, before the first statement. -/
def beginning (session : TestingSession) (senders : Nat → Sender) :
    System (Option Nat) SignalReply Exit RunMemory where
  state := unsignalled
  tasks
    | none => some (run_proxy session)
    | some k => some (senders k).send
  trace := []

/-- The others do nothing to the process but send it signals. -/
def Rely : Option Nat → RunMemory → RunMemory → Prop
  | none => Come
  | some _ => fun _ _ => True

def Guarantee : Option Nat → RunMemory → RunMemory → Prop
  | none => fun _ memory' => Consistent memory'
  | some _ => fun memory memory' => ∃ signal, memory' = deliver signal memory

theorem unsignalled_unsignalled : Unsignalled .absent unsignalled := by
  refine ⟨⟨trivial, ?_⟩, fun _ => ⟨rfl, rfl, rfl, fun _ => rfl⟩⟩
  intro _ hnot
  cases hnot

theorem beginning_sound (session : TestingSession) (senders : Nat → Sender) :
    System.Sound (fun _ => signal_answer) Rely Guarantee (beginning session senders) := by
  intro pid m hm
  cases pid with
  | none =>
    obtain rfl := Option.some.inj hm
    exact run_proxy.leaves session unsignalled_unsignalled
  | some k =>
    obtain rfl := Option.some.inj hm
    apply Process.rg_of_makes (senders k).sends (fun _ _ _ h => h) _ trivial
    rintro choice c memory ⟨signal, rfl⟩ -
    exact ⟨⟨signal, rfl⟩, trivial⟩

/-- Whatever signals come, between whatever statements, and whichever calls fail: the handler
never reaches a session that is not there, no signal kills a session that runs, and each that
has come is seen at its next test. -/
theorem a_session_that_runs_sees_every_signal (session : TestingSession) (senders : Nat → Sender)
    (events : List (Event (Option Nat) Bool)) :
    Consistent (System.run (fun _ => signal_answer) (fun _ memory => memory) events
      (beginning session senders)).state := by
  apply System.Sound.invariant _ _ _ _ (beginning_sound session senders)
  · intro pid memory memory' hguarantee h
    cases pid with
    | none => exact hguarantee
    | some k =>
      obtain ⟨signal, rfl⟩ := hguarantee
      exact h.deliver signal
  · intro pid memory h
    exact h
  · exact unsignalled_unsignalled.consistent
  · intro pid memory
    cases pid with
    | none => exact .refl
    | some k => trivial
  · intro pid memory memory' memory'' h h'
    cases pid with
    | none => exact h.trans h'
    | some k => trivial
  · intro pid other memory memory' hne h
    cases other with
    | some k => trivial
    | none =>
      cases pid with
      | none => exact absurd rfl hne
      | some k => exact .single h
  · intro pid other memory _
    cases other with
    | none => exact .refl
    | some k => trivial

def test : SignalProc Bool := .ask SignalCall.test

/-- A session that gives up after its second test. -/
def two_tests : TestingSession where
  session_run := do
    if ← test then return .SUCCESS
    if ← test then return .SUCCESS
    return .EVENT_UNAVAILABLE
  tests := by
    have htest : test.Makes (· = .test) := Process.makes_ask.mpr rfl
    apply Process.makes_bind htest
    intro first
    apply Process.makes_ite (Process.makes_pure _)
    apply Process.makes_bind htest
    intro second
    exact Process.makes_ite (Process.makes_pure _) (Process.makes_pure _)

/-- Somebody who interrupts the process once. -/
def interrupter : Sender where
  send := do
    Process.ask (SignalCall.raise .SIGINT)
    return .SUCCESS
  sends := Process.makes_bind (Process.makes_ask.mpr ⟨.SIGINT, rfl⟩) fun _ => Process.makes_pure _

/-- The signal comes between the two tests, and the second one sees it. -/
theorem an_interrupted_session_sees_the_signal :
    let events := List.replicate 5 (.step none true) ++ [.step (some 0) true, .step none true]
    let memory := (System.run (fun _ => signal_answer) (fun _ memory => memory) events
      (beginning two_tests fun _ => interrupter)).state
    Consistent memory ∧ memory.session = .live true ∧ memory.history.length = 3 :=
  ⟨a_session_that_runs_sees_every_signal two_tests (fun _ => interrupter) _, rfl, rfl⟩

end input_proxy.signals
