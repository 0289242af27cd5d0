-- The calls that the installed-instance store, the install command and the
-- uninstall command make to the system, and what the system answers. Any call
-- can fail; `ENOENT` and `EEXIST` for a path are true where they are answered.
import InputProxy.Device
import InputProxy.CStrings
import InputProxy.Disks
import InputProxy.Processes

open c_strings disks processes

namespace input_proxy

/-- `'/'` -/
abbrev slash : UInt8 := 47

def is_alphanumeric (byte : UInt8) : Bool :=
  (byte ≥ 48 ∧ byte ≤ 57) ∨ (byte ≥ 65 ∧ byte ≤ 90) ∨ (byte ≥ 97 ∧ byte ≤ 122)

/-- What `mkstemp` puts in place of `XXXXXX`. -/
structure Letters where
  text : CString
  six : text.length = 6
  alphanumeric : ∀ byte ∈ text.bytes, is_alphanumeric byte = true

/-- The outcome of `bind`. -/
inductive Bound
  | BOUND
  | IN_USE
  | FAILED
deriving DecidableEq

inductive SystemCall
  | malloc
  | lstat (path : CString)
  | mkstemp (template : CString)
  | fchmod (descriptor : Nat)
  | write (descriptor : Nat) (bytes : Bytes)
  | fsync (descriptor : Nat)
  | close (descriptor : Nat)
  | link (path path' : CString)
  | unlink (path : CString)
  | opendir (directory : CString)
  | readdir
  | fstatat (directory filename : CString)
  | closedir
  | fopen (path : CString)
  | getline
  | fclose
  | socket
  | bind (address : Bytes)
  | close_socket (address : Bytes)
  | run_command (arguments : List CString)
  | read_command (arguments : List CString)
  | stat (path : CString)
  | realpath (path : CString)
  | verify_libinput_ignore (source_path : CString)

/-- `true` is success. A call that reports an error number answers it, or the value it has. A
descriptor is the number of its file. -/
def Reply : SystemCall → Type
  | .malloc | .fchmod _ | .fsync _ | .close _ | .readdir | .closedir | .getline | .fclose
  | .socket | .stat _ | .verify_libinput_ignore _ => Bool
  | .lstat _ | .link _ _ | .unlink _ => Option Errno
  -- the template is filled in, also where no file could be made
  | .mkstemp _ => Except Errno Nat × CString
  | .write _ _ => Except Errno Nat
  | .opendir _ => Option (List CString)
  -- whether it is a regular file
  | .fstatat _ _ => Option Bool
  | .fopen _ => Except Errno Bytes
  | .bind _ => Bound
  | .close_socket _ => Unit
  | .run_command _ => Int
  -- with what the command prints
  | .read_command _ => Int × Bytes
  | .realpath _ => Option CString

/-- How the system decides a call. -/
structure Choice where
  fault : Option Errno
  /-- The bytes that a `write` takes, where it is given more. -/
  taken : Nat
  letters : Letters
  /-- The order in which a directory is read. -/
  before : CString → CString → Bool
  /-- The exit status of a command. -/
  status : Int
  /-- Whether a source is there. -/
  present : Bool
  resolved : Option CString
  /-- What is read through a path that is not a regular file, or from a command. -/
  foreign : Bytes

/-- An error of a call on a path. -/
def Choice.failure (choice : Choice) : Option Errno :=
  choice.fault.filter fun errno => errno ≠ .ENOENT ∧ errno ≠ .EEXIST

def Choice.succeeds (choice : Choice) : Bool := choice.fault = none

/-- What is remembered of a call. -/
inductive Deed
  | unlinked (path : CString)
  | ran (arguments : List CString) (status : Int)
deriving DecidableEq

/-- The files of all directories, the process that holds each socket address, and what was
done, oldest first. -/
structure Machine where
  disk : Disk CString Nat UInt8
  sockets : AList fun _ : Bytes => Nat
  log : List Deed

namespace Machine

def look (m : Machine) (path : CString) : Option Node := m.disk.look path

/-- The bytes of a regular file. -/
def content (m : Machine) (path : CString) : Option Bytes :=
  match m.look path with
  | some (.file id) => some (m.disk.files id).content
  | _ => none

def holder (m : Machine) (address : Bytes) : Option Nat := m.sockets.lookup address

def create (m : Machine) (path : CString) (pid : Nat) : Machine :=
  { m with disk := m.disk.create path pid }

def append (m : Machine) (id : Nat) (bytes : Bytes) : Machine :=
  { m with disk := m.disk.append id bytes }

def link (m : Machine) (path path' : CString) : Machine :=
  { m with disk := m.disk.link path path' }

def unlink (m : Machine) (path : CString) : Machine :=
  { m with disk := m.disk.unlink path, log := m.log ++ [.unlinked path] }

@[simp] theorem disk_create (m : Machine) (path : CString) (pid : Nat) :
    (m.create path pid).disk = m.disk.create path pid := rfl

@[simp] theorem disk_append (m : Machine) (id : Nat) (bytes : Bytes) :
    (m.append id bytes).disk = m.disk.append id bytes := rfl

@[simp] theorem disk_link (m : Machine) (path path' : CString) :
    (m.link path path').disk = m.disk.link path path' := rfl

@[simp] theorem disk_unlink (m : Machine) (path : CString) :
    (m.unlink path).disk = m.disk.unlink path := rfl

/-- The sockets of a process that is gone are closed. -/
def leave (pid : Nat) (m : Machine) : Machine :=
  { m with
    sockets := ⟨m.sockets.entries.filter fun socket => socket.2 ≠ pid,
      m.sockets.nodupKeys.sublist List.filter_sublist⟩ }

theorem holder_leave {m : Machine} {pid pid' : Nat} {address : Bytes} :
    (m.leave pid).holder address = some pid' ↔ m.holder address = some pid' ∧ pid' ≠ pid := by
  unfold holder leave
  rw [← Option.mem_def, ← Option.mem_def, AList.mem_lookup_iff, AList.mem_lookup_iff]
  simp

end Machine

/-- `directory/filename` -/
def path_in (directory filename : CString) : CString := directory ++ cstr "/" ++ filename

/-- The name of a path in a directory, where it is directly in it. -/
def filename_in (directory path : CString) : Option CString :=
  let stem := directory ++ cstr "/"
  if stem.bytes.isPrefixOf path.bytes ∧ slash ∉ path.bytes.drop stem.length ∧
      stem.length < path.length then
    some (path.drop stem.length)
  else none

/-- The files of a directory, in some order. -/
def Machine.listing (m : Machine) (directory : CString) (before : CString → CString → Bool) :
    List CString :=
  (cstr "." :: cstr ".." :: m.disk.paths.filterMap (filename_in directory)).mergeSort before

/-- The template with the letters in place of the last six bytes. -/
def fill (template : CString) (letters : Letters) : CString :=
  template.take (template.length - 6) ++ letters.text

/-- What the system answers to the process `pid`. -/
def answer (pid : Nat) (choice : Choice) : (c : SystemCall) → Machine → Reply c × Machine
  | .malloc, m | .fchmod _, m | .fsync _, m | .close _, m | .readdir, m | .closedir, m
  | .getline, m | .fclose, m | .socket, m | .verify_libinput_ignore _, m =>
    (choice.succeeds, m)
  | .stat _, m => (choice.present, m)
  | .lstat path, m =>
    match choice.failure with
    | some errno => (some errno, m)
    | none => if (m.look path).isSome then (none, m) else (some .ENOENT, m)
  | .mkstemp template, m =>
    let path := fill template choice.letters
    match choice.fault with
    | some errno => ((.error errno, path), m)
    | none =>
      if (m.look path).isSome then ((.error .EEXIST, path), m)
      else ((.ok m.disk.next, path), m.create path pid)
  | .write descriptor bytes, m =>
    match choice.fault with
    | some errno => (.error errno, m)
    | none =>
      let written := min choice.taken bytes.length
      (.ok written, m.append descriptor (bytes.take written))
  | .link path path', m =>
    match choice.failure with
    | some errno => (some errno, m)
    | none =>
      if (m.look path).isNone then (some .ENOENT, m)
      else if (m.look path').isSome then (some .EEXIST, m)
      else (none, m.link path path')
  | .unlink path, m =>
    match choice.failure with
    | some errno => (some errno, m)
    | none =>
      if (m.look path).isNone then (some .ENOENT, m)
      else (none, m.unlink path)
  | .opendir directory, m =>
    if choice.succeeds then (some (m.listing directory choice.before), m) else (none, m)
  | .fstatat directory filename, m =>
    match choice.fault, m.look (path_in directory filename) with
    | none, some (.file _) => (some true, m)
    | none, some .other => (some false, m)
    | _, _ => (none, m)
  | .fopen path, m =>
    (match choice.failure, m.look path with
    | some errno, _ => .error errno
    | none, none => .error .ENOENT
    | none, some (.file id) => .ok (m.disk.files id).content
    | none, some .other => .ok choice.foreign, m)
  | .bind address, m =>
    if !choice.succeeds then (.FAILED, m)
    else if (m.holder address).isSome then (.IN_USE, m)
    else (.BOUND, { m with sockets := m.sockets.insert address pid })
  | .close_socket address, m =>
    ((), if m.holder address = some pid then { m with sockets := m.sockets.erase address } else m)
  | .run_command arguments, m =>
    (choice.status, { m with log := m.log ++ [.ran arguments choice.status] })
  | .read_command arguments, m =>
    ((choice.status, choice.foreign), { m with log := m.log ++ [.ran arguments choice.status] })
  | .realpath _, m => (choice.resolved, m)

/-! ## The calls as programs -/

/-- A program that makes these calls. -/
abbrev Proc := Process Reply

def malloc : Proc Bool := .ask SystemCall.malloc

def lstat (path : CString) : Proc (Option Errno) := .ask (SystemCall.lstat path)

def mkstemp (template : CString) : Proc (Except Errno Nat × CString) :=
  .ask (SystemCall.mkstemp template)

def fchmod (descriptor : Nat) : Proc Bool := .ask (SystemCall.fchmod descriptor)

def write (descriptor : Nat) (bytes : Bytes) : Proc (Except Errno Nat) :=
  .ask (SystemCall.write descriptor bytes)

def fsync (descriptor : Nat) : Proc Bool := .ask (SystemCall.fsync descriptor)

def close (descriptor : Nat) : Proc Bool := .ask (SystemCall.close descriptor)

def link (path path' : CString) : Proc (Option Errno) := .ask (SystemCall.link path path')

def unlink (path : CString) : Proc (Option Errno) := .ask (SystemCall.unlink path)

def opendir (directory : CString) : Proc (Option (List CString)) :=
  .ask (SystemCall.opendir directory)

def readdir : Proc Bool := .ask SystemCall.readdir

def fstatat (directory filename : CString) : Proc (Option Bool) :=
  .ask (SystemCall.fstatat directory filename)

def closedir : Proc Bool := .ask SystemCall.closedir

def fopen (path : CString) : Proc (Except Errno Bytes) := .ask (SystemCall.fopen path)

def getline : Proc Bool := .ask SystemCall.getline

def fclose : Proc Bool := .ask SystemCall.fclose

def socket : Proc Bool := .ask SystemCall.socket

def bind (address : Bytes) : Proc Bound := .ask (SystemCall.bind address)

def close_socket (address : Bytes) : Proc Unit := .ask (SystemCall.close_socket address)

def run_command (arguments : List CString) : Proc Int := .ask (SystemCall.run_command arguments)

def read_command (arguments : List CString) : Proc (Int × Bytes) :=
  .ask (SystemCall.read_command arguments)

def stat (path : CString) : Proc Bool := .ask (SystemCall.stat path)

def realpath (path : CString) : Proc (Option CString) := .ask (SystemCall.realpath path)

def verify_libinput_ignore (source_path : CString) : Proc Bool :=
  .ask (SystemCall.verify_libinput_ignore source_path)

/-- The calls that tell only whether they have succeeded, and change nothing that is seen. -/
inductive StatusCall : Proc Bool → Prop
  | malloc : StatusCall malloc
  | fchmod (descriptor : Nat) : StatusCall (fchmod descriptor)
  | fsync (descriptor : Nat) : StatusCall (fsync descriptor)
  | close (descriptor : Nat) : StatusCall (close descriptor)
  | readdir : StatusCall readdir
  | closedir : StatusCall closedir
  | getline : StatusCall getline
  | fclose : StatusCall fclose
  | socket : StatusCall socket

/-! ## What a call can come to -/

theorem failure_ne {choice : Choice} {errno : Errno} (h : choice.failure = some errno) :
    errno ≠ .ENOENT ∧ errno ≠ .EEXIST := by
  unfold Choice.failure at h
  simpa using (Option.mem_filter_iff.mp h).2

section rules

open Process

variable {pid : Nat} {I : Machine → Prop} {m : Machine} {path path' : CString}

/-- A call that changes nothing and can answer anything. -/
theorem wp_idle {c : SystemCall} {Q : Reply c → Machine → Prop}
    (hc : ∀ choice, (answer pid choice c m).2 = m) (hI : I m) (h : ∀ r, Q r m) :
    wp (answer pid) Any I (ask c) Q m := by
  refine wp_ask.mpr ⟨fun _ => hI, fun choice _ => ?_⟩
  rw [hc choice]
  exact h _

theorem wp_status {call : Proc Bool} {Q : Bool → Machine → Prop} (hcall : StatusCall call)
    (hI : I m) (h : ∀ r, Q r m) : wp (answer pid) Any I call Q m := by
  cases hcall
  all_goals exact wp_idle (fun _ => rfl) hI h

theorem wp_opendir {directory : CString} {Q : Option (List CString) → Machine → Prop} (hI : I m)
    (hread : ∀ before, Q (some (m.listing directory before)) m) (hfail : Q none m) :
    wp (answer pid) Any I (opendir directory) Q m := by
  refine wp_ask.mpr ⟨fun _ => hI, fun choice _ => ?_⟩
  simp only [answer]
  split
  · exact hread _
  · exact hfail

theorem wp_fstatat {directory filename : CString} {Q : Option Bool → Machine → Prop} (hI : I m)
    (hfile : ∀ id, m.look (path_in directory filename) = some (.file id) → Q (some true) m)
    (hother : m.look (path_in directory filename) = some .other → Q (some false) m)
    (hfail : Q none m) : wp (answer pid) Any I (fstatat directory filename) Q m := by
  refine wp_ask.mpr ⟨fun _ => hI, fun choice _ => ?_⟩
  simp only [answer]
  split
  · exact hfile _ ‹_›
  · exact hother ‹_›
  · exact hfail

theorem wp_lstat {Q : Option Errno → Machine → Prop} (hI : I m)
    (hfound : (m.look path).isSome → Q none m) (habsent : m.look path = none → Q (some .ENOENT) m)
    (hfail : ∀ errno, errno ≠ .ENOENT → Q (some errno) m) :
    wp (answer pid) Any I (lstat path) Q m := by
  refine wp_ask.mpr ⟨fun _ => hI, fun choice _ => ?_⟩
  simp only [answer]
  split
  · exact hfail _ (failure_ne ‹_›).1
  · split
    · exact hfound ‹_›
    · rename_i h
      exact habsent (by simpa using h)

/-- The file of `mkstemp` is new, under a path that was free. -/
theorem wp_mkstemp {template : CString} {Q : Except Errno Nat × CString → Machine → Prop} (hI : I m)
    (hmade : ∀ letters, m.look (fill template letters) = none →
      Q (.ok m.disk.next, fill template letters) (m.create (fill template letters) pid))
    (hfail : ∀ errno letters, Q (.error errno, fill template letters) m) :
    wp (answer pid) Any I (mkstemp template) Q m := by
  refine wp_ask.mpr ⟨fun _ => hI, fun choice _ => ?_⟩
  simp only [answer]
  split
  · exact hfail _ _
  · split
    · exact hfail _ _
    · rename_i h
      exact hmade _ (by simpa using h)

theorem wp_write {descriptor : Nat} {bytes : Bytes} {Q : Except Errno Nat → Machine → Prop}
    (hI : I m)
    (hwritten : ∀ n ≤ bytes.length, Q (.ok n) (m.append descriptor (bytes.take n)))
    (hfail : ∀ errno, Q (.error errno) m) :
    wp (answer pid) Any I (write descriptor bytes) Q m := by
  refine wp_ask.mpr ⟨fun _ => hI, fun choice _ => ?_⟩
  simp only [answer]
  split
  · exact hfail _
  · exact hwritten _ (Nat.min_le_right _ _)

theorem wp_link {Q : Option Errno → Machine → Prop} (hI : I m)
    (hlinked : ∀ node, m.look path = some node → m.look path' = none →
      Q none (m.link path path'))
    (hfail : ∀ errno, (errno = .EEXIST → (m.look path').isSome) → Q (some errno) m) :
    wp (answer pid) Any I (link path path') Q m := by
  refine wp_ask.mpr ⟨fun _ => hI, fun choice _ => ?_⟩
  simp only [answer]
  split
  · exact hfail _ fun h => absurd h (failure_ne ‹_›).2
  · split
    · exact hfail _ nofun
    · rename_i hsome
      split
      · exact hfail _ fun _ => ‹_›
      · rename_i hfree
        obtain ⟨node, hnode⟩ := Option.ne_none_iff_exists'.mp (by simpa using hsome)
        exact hlinked node hnode (by simpa using hfree)

theorem wp_unlink {Q : Option Errno → Machine → Prop} (hI : I m)
    (hunlinked : (m.look path).isSome → Q none (m.unlink path))
    (habsent : m.look path = none → Q (some .ENOENT) m)
    (hfail : ∀ errno, errno ≠ .ENOENT → Q (some errno) m) :
    wp (answer pid) Any I (unlink path) Q m := by
  refine wp_ask.mpr ⟨fun _ => hI, fun choice _ => ?_⟩
  simp only [answer]
  split
  · exact hfail _ (failure_ne ‹_›).1
  · split
    · rename_i h
      exact habsent (by simpa using h)
    · rename_i h
      exact hunlinked (Option.isSome_iff_ne_none.mpr (by simpa using h))

/-- A call that leaves the files and the sockets as they are. -/
def Idle (c : SystemCall) : Prop := ∀ pid choice m,
  (answer pid choice c m).2.disk = m.disk ∧ (answer pid choice c m).2.sockets = m.sockets

theorem idle_lstat (path : CString) : Idle (.lstat path) := by
  intro pid choice m
  simp only [answer]
  split
  · exact ⟨rfl, rfl⟩
  · split <;> exact ⟨rfl, rfl⟩

theorem wp_of_idle {α : Type} {p : Proc α} {can : Option Choice → SystemCall → Machine → Prop}
    (hp : p.Uses Idle) (hI : ∀ {c m'}, can none c m' → m'.disk = m.disk → I m') :
    wp (answer pid) can I p (fun _ m' => m'.disk = m.disk) m :=
  wp_of_uses hp (fun choice _ m' hc hm => (hc pid choice m').1.trans hm) (fun _ _ => hI) rfl

end rules

/-! ## Calls that do not fail -/

/-- The process is not killed, and the call has no fault. -/
def Smooth : Option Choice → SystemCall → Machine → Prop := fun choice _ _ =>
  ∃ c, choice = some c ∧ c.fault = none

instance decidable_smooth {choice : Option Choice} {c : SystemCall} {m : Machine} :
    Decidable (Smooth choice c m) :=
  decidable_of_iff (choice.any fun c => c.fault = none) (by simp [Smooth, Option.any_eq_true])

section smooth

open Process

variable {pid : Nat} {I : Machine → Prop} {m : Machine} {path path' : CString}

theorem wp_smooth {c : SystemCall} {Q : Reply c → Machine → Prop}
    (h : ∀ choice : Choice, choice.fault = none →
      Q (answer pid choice c m).1 (answer pid choice c m).2) :
    wp (answer pid) Smooth I (ask c) Q m := by
  refine wp_ask.mpr ⟨?_, ?_⟩
  · rintro ⟨_, ⟨⟩, _⟩
  · rintro choice ⟨_, ⟨⟩, hf⟩
    exact h choice hf

theorem failure_of_fault {choice : Choice} (h : choice.fault = none) : choice.failure = none := by
  simp [Choice.failure, h]

theorem smooth_status {call : Proc Bool} {Q : Bool → Machine → Prop} (hcall : StatusCall call)
    (h : Q true m) : wp (answer pid) Smooth I call Q m := by
  cases hcall
  all_goals
    apply wp_smooth
    intro choice hfault
    have hsucceeds : choice.succeeds = true := decide_eq_true hfault
    simp only [answer, hsucceeds]
    exact h

theorem smooth_fopen {Q : Except Errno Bytes → Machine → Prop} {content : Bytes}
    (hc : m.content path = some content) (h : Q (.ok content) m) :
    wp (answer pid) Smooth I (fopen path) Q m := by
  refine wp_smooth fun choice hf => ?_
  unfold Machine.content at hc
  split at hc
  · rename_i id hid
    simp only [answer, failure_of_fault hf, hid]
    rwa [Option.some.inj hc]
  · contradiction

end smooth

end input_proxy
