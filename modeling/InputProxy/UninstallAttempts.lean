-- Attempts to uninstall one instance, one after another: what an attempt does
-- with each outcome of its stages, and which sequences of attempts end without
-- the activation of a removed rule.
import InputProxy.InstallationHistories

open c_strings disks processes

namespace input_proxy

/-! ## Attempts -/

/-- An installed instance, and the program that takes it away. -/
structure Target where
  store : Store
  rules : CString
  program_name : CString
  name : InstanceName

namespace Target

variable (t : Target)

def response : CString := artifact_path t.store t.name.name

def rule : CString := rule_path t.rules t.name.name

def unit : CString := cstr "input-proxy@" ++ t.name.name ++ cstr ".service"

def uninstall : Proc Exit :=
  uninstall_command ⟨0, t.store.directory, t.rules, none⟩ t.program_name t.name.name

/-- The source that the artifact has recorded. -/
def recorded_source (m : Machine) : Option CString :=
  ((m.content t.response).bind (response_file_argv t.program_name)).bind fun argv =>
    source_from_response (argv.drop 2)

end Target

def RELOAD : List CString := [cstr "udevadm", cstr "control", cstr "--reload-rules"]

def TRIGGER (path : CString) : List CString :=
  [cstr "udevadm", cstr "trigger", cstr "--action=change", path]

def SETTLE : List CString := [cstr "udevadm", cstr "settle"]

/-- How an attempt goes: each of its calls is decided, an allocation and the reading of a line
each time anew. The other calls are made once. -/
structure UninstallAttempt where
  pid : Nat
  choices : Nat → SystemCall → Choice
  steady : ∀ k c, c ≠ .malloc → c ≠ .getline → choices k c = choices 0 c

namespace UninstallAttempt

variable (a : UninstallAttempt) (t : Target)

def run (m : Machine) : Option Exit × Machine :=
  Process.run (answer a.pid) t.uninstall (fun k c => some (a.choices k c)) m

/-- The exit status of a command. -/
def status (arguments : List CString) : Int := (a.choices 0 (.run_command arguments)).status

/-- A removal meets no error. -/
def removes (path : CString) : Prop := (a.choices 0 (.unlink path)).failure = none

/-- The attempt comes as far as its first stage, where there is something to uninstall. -/
def starts : Prop :=
  (∀ k ∈ [0, 1, 2, 3, 5, 6], (a.choices k .malloc).succeeds = true) ∧
    (a.choices 0 (.lstat t.response)).failure = none

/-- A service stage succeeds, or is not required. -/
def manages (query command : String) (not_required : Int) : Prop :=
  a.status [cstr "systemctl", cstr query, cstr "--quiet", t.unit] = not_required ∨
    (a.status [cstr "systemctl", cstr query, cstr "--quiet", t.unit] = 0 ∧
      a.status [cstr "systemctl", cstr command, t.unit] = 0)

def stops : Prop := a.manages t "is-active" "stop" 3

def disables : Prop := a.manages t "is-enabled" "disable" 1

/-- The artifact can be read. -/
def reads : Prop :=
  (a.choices 0 (.fopen t.response)).fault = none ∧ (a.choices 0 .fclose).fault = none ∧
    ∀ k ≥ 7, (a.choices k .malloc).fault = none ∧ (a.choices k .getline).fault = none

/-- The device of a source in sysfs. -/
def device (source : CString) : Option CString :=
  (a.choices 0 (.realpath source)).resolved.bind (source_sysfs_path · 4096)

def present (source : CString) : Bool := (a.choices 0 (.stat source)).present

def reloads : Prop := a.status RELOAD = 0

def triggers (source : CString) : Prop := ∃ path, a.device source = some path ∧
  a.status (TRIGGER path) = 0

def settles : Prop := a.status SETTLE = 0

/-- Would the attempt remove the rule? -/
def removes_rule : Prop := a.starts t ∧ a.removes t.rule

/-- Would the attempt succeed where the rule is gone already? -/
def finishes : Prop :=
  a.starts t ∧ a.stops t ∧ a.disables t ∧ a.removes t.rule ∧ a.removes t.response

end UninstallAttempt

/-! ## How far an attempt comes -/

section attempt

open Process

variable {a : UninstallAttempt} {t : Target} {m : Machine}

/-- An allocation in front of the rest of a process. -/
theorem run_malloc {α : Type} {pid : Nat} {f : Bool → Proc α}
    {choices : Nat → SystemCall → Choice} :
    run (answer pid) (malloc >>= f) (fun k c => some (choices k c)) m =
      run (answer pid) (f (choices 0 .malloc).succeeds) (fun k c => some (choices (k + 1) c)) m :=
  rfl

theorem run_lstat {α : Type} {pid : Nat} {f : Option Errno → Proc α}
    {choices : Nat → SystemCall → Choice} {path : CString} :
    run (answer pid) (lstat path >>= f) (fun k c => some (choices k c)) m =
      run (answer pid) (f (if (choices 0 (.lstat path)).failure.isSome then
        (choices 0 (.lstat path)).failure else if (m.look path).isSome then none else some .ENOENT))
        (fun k c => some (choices (k + 1) c)) m := by
  change run (answer pid) (f (answer pid (choices 0 (.lstat path)) (.lstat path) m).1)
    (fun k c => some (choices (k + 1) c))
    (answer pid (choices 0 (.lstat path)) (.lstat path) m).2 = _
  simp only [answer]
  cases (choices 0 (.lstat path)).failure with
  | some errno => rfl
  | none => cases (m.look path).isSome <;> rfl

/-- The command without what a root with an argument passes by. -/
theorem uninstall_eq (t : Target) : t.uninstall = (do
    if !(← malloc) then return .FAILURE
    if !(← malloc) then return .FAILURE
    if !(← malloc) then return .FAILURE
    match ← installed_instance_exists t.store t.name.name with
    | .ok true => uninstall_instance t.store t.rules t.program_name t.name.name
    | _ => return .FAILURE) := by
  have hhelp : ¬(some t.name.name = some (cstr "--help")) := by
    intro h
    have := t.name.accepted
    rw [h] at this
    exact absurd this (by decide)
  unfold Target.uninstall uninstall_command
  exact (if_neg (not_not.mpr rfl)).trans ((if_neg hhelp).trans (dif_neg t.store.nonempty))

theorem installed_instance_path_eq (store : Store) (n : InstanceName) :
    installed_instance_path store n.name = (do
      if !(← malloc) then return .error .OUT_OF_MEMORY
      return .ok (artifact_path store n.name)) := by
  simp [installed_instance_path, store_validate_name, n.accepted]

/-- The command comes to its stages, or it does nothing. -/
theorem UninstallAttempt.run_eq (a : UninstallAttempt) (t : Target) (m : Machine) :
    (a.starts t ∧ (m.look t.response).isSome ∧ a.run t m =
      Process.run (answer a.pid) (uninstall_stages t.response t.rule t.unit t.program_name)
        (fun k c => some (a.choices (k + 7) c)) m) ∨
    (¬(a.starts t ∧ (m.look t.response).isSome) ∧ a.run t m = (some .FAILURE, m)) := by
  have hmalloc : ∀ k ∈ [0, 1, 2, 3, 5, 6], ¬(a.choices k .malloc).succeeds = true →
      ¬(a.starts t ∧ (m.look t.response).isSome) := fun k hk hfail h => hfail (h.1.1 k hk)
  unfold UninstallAttempt.run
  rw [uninstall_eq, run_malloc]
  by_cases h0 : (a.choices 0 .malloc).succeeds = true
  case neg => exact .inr ⟨hmalloc 0 (by simp) h0, by simp [h0]; rfl⟩
  rw [h0, if_neg (by simp), run_malloc]
  by_cases h1 : (a.choices 1 .malloc).succeeds = true
  case neg => exact .inr ⟨hmalloc 1 (by simp) h1, by simp [h1]; rfl⟩
  rw [h1, if_neg (by simp), run_malloc]
  by_cases h2 : (a.choices 2 .malloc).succeeds = true
  case neg => exact .inr ⟨hmalloc 2 (by simp) h2, by simp [h2]; rfl⟩
  rw [h2, if_neg (by simp)]
  unfold installed_instance_exists
  rw [installed_instance_path_eq]
  simp only [bind_bind]
  rw [run_malloc]
  by_cases h3 : (a.choices 3 .malloc).succeeds = true
  case neg => exact .inr ⟨hmalloc 3 (by simp) h3, by simp [h3]; rfl⟩
  rw [h3, if_neg (by simp), pure_bind, show artifact_path t.store t.name.name = t.response from rfl]
  dsimp only
  rw [bind_bind, run_lstat, a.steady _ (.lstat _) (by simp) (by simp)]
  cases hlstat : (a.choices 0 (.lstat t.response)).failure with
  | some errno =>
    refine .inr ⟨fun h => by simp [h.1.2] at hlstat, ?_⟩
    have herrno := (failure_ne hlstat).1
    cases errno with
    | ENOENT => contradiction
    | _ => rfl
  | none =>
  cases hresponse : (m.look t.response).isSome with
  | false => exact .inr ⟨by simp, rfl⟩
  | true =>
  simp only [Option.isSome_none, Bool.false_eq_true, if_false, if_true, pure_bind]
  unfold uninstall_instance
  rw [installed_instance_path_eq, bind_bind, run_malloc]
  by_cases h5 : (a.choices 5 .malloc).succeeds = true
  case neg => exact .inr ⟨fun h => hmalloc 5 (by simp) h5 ⟨h.1, hresponse⟩, by simp [h5]; rfl⟩
  rw [h5, if_neg (by simp), pure_bind]
  dsimp only
  rw [run_malloc]
  by_cases h6 : (a.choices 6 .malloc).succeeds = true
  case neg => exact .inr ⟨fun h => hmalloc 6 (by simp) h6 ⟨h.1, hresponse⟩, by simp [h6]; rfl⟩
  rw [h6, if_neg (by simp), unit_name_eq, uninstall_rule_path_eq]
  exact .inl ⟨⟨by simp [*], hlstat⟩, trivial, rfl⟩

/-! ## Stages -/

/-- A choice of the attempt for a call of a stage. -/
def DecidedBy (a : UninstallAttempt) : Option Choice → SystemCall → Machine → Prop :=
  fun choice c _ => ∃ k ≥ 7, choice = some (a.choices k c)

/-- Neither the removal of the rule nor a command to udev. -/
def Quiet (t : Target) : Deed → Prop
  | .unlinked path => path ≠ t.rule
  | .ran arguments _ => arguments.head? ≠ some (cstr "udevadm")

/-- The files are as they were, and udev was left alone. -/
structure Rests (t : Target) (m m' : Machine) : Prop where
  disk : m'.disk = m.disk
  log : ∃ l, m'.log = m.log ++ l ∧ ∀ d ∈ l, Quiet t d

theorem Rests.trans {m1 m2 : Machine} (h : Rests t m m1) (h' : Rests t m1 m2) : Rests t m m2 := by
  obtain ⟨hd, l, hl, hq⟩ := h
  obtain ⟨hd', l', hl', hq'⟩ := h'
  refine ⟨hd'.trans hd, l ++ l', by simp [hl', hl], fun d hmem => ?_⟩
  exact (List.mem_append.mp hmem).elim (hq d) (hq' d)

theorem Rests.ran {arguments : List CString} {status : Int}
    (h : arguments.head? ≠ some (cstr "udevadm")) :
    Rests t m { m with log := m.log ++ [.ran arguments status] } :=
  ⟨rfl, [.ran arguments status], rfl, by simpa [Quiet] using h⟩

variable {I : Machine → Prop}

/-- A call that is made once has one outcome. -/
theorem wp_decided {c : SystemCall} {Q : Reply c → Machine → Prop} (hm : c ≠ .malloc)
    (hg : c ≠ .getline)
    (h : Q (answer a.pid (a.choices 0 c) c m).1 (answer a.pid (a.choices 0 c) c m).2) :
    wp (answer a.pid) (DecidedBy a) I (ask c) Q m := by
  refine wp_ask.mpr ⟨?_, ?_⟩
  · rintro ⟨k, -, ⟨⟩⟩
  · rintro choice ⟨k, -, ⟨⟩⟩
    rw [a.steady k c hm hg]
    exact h

/-- What is remembered of a command. -/
def UninstallAttempt.deed (a : UninstallAttempt) (arguments : List CString) : Deed :=
  .ran arguments (a.status arguments)

theorem decided_run_command {arguments : List CString} {Q : Int → Machine → Prop}
    (h : Q (a.status arguments) { m with log := m.log ++ [a.deed arguments] }) :
    wp (answer a.pid) (DecidedBy a) I (run_command arguments) Q m :=
  wp_decided (by simp) (by simp) h

theorem decided_unlink {path : CString} {Q : Option Errno → Machine → Prop}
    (hremoved : a.removes path → (m.look path).isSome → Q none (m.unlink path))
    (habsent : a.removes path → m.look path = none → Q (some .ENOENT) m)
    (hfail : ¬a.removes path → ∀ errno, errno ≠ .ENOENT → Q (some errno) m) :
    wp (answer a.pid) (DecidedBy a) I (unlink path) Q m := by
  refine wp_decided (by simp) (by simp) ?_
  unfold UninstallAttempt.removes at hremoved habsent hfail
  simp only [answer]
  cases hf : (a.choices 0 (.unlink path)).failure with
  | some errno => exact hfail (by simp [hf]) errno (failure_ne hf).1
  | none =>
    cases hlook : m.look path with
    | none => exact habsent hf hlook
    | some node => exact hremoved hf (Option.isSome_of_eq_some hlook)

theorem decided_managed_stage {query command : String} {not_required : Int} :
    wp (answer a.pid) (DecidedBy a) I (managed_stage query command not_required t.unit)
      (fun r m' => (r ≠ .FAILED ↔ a.manages t query command not_required) ∧ Rests t m m') m := by
  have hquiet : ∀ {m : Machine} {rest status}, Rests t m
      { m with log := m.log ++ [.ran (cstr "systemctl" :: rest) status] } :=
    .ran (by simp; decide)
  unfold UninstallAttempt.manages
  refine wp_bind.mpr (decided_run_command ?_)
  split
  · rename_i hquery
    exact ⟨by simp [hquery], hquiet⟩
  rename_i hquery
  split
  · rename_i hzero
    exact ⟨by simp [hquery, hzero], hquiet⟩
  rename_i hzero
  rw [not_not] at hzero
  refine wp_bind.mpr (decided_run_command ?_)
  split
  · rename_i hcommand
    exact ⟨by simp [hzero, hcommand], hquiet.trans hquiet⟩
  · rename_i hcommand
    exact ⟨by simp [hquery, hcommand], hquiet.trans hquiet⟩

/-- The command of a trigger, where the source has a device. -/
def UninstallAttempt.trigger_deeds (a : UninstallAttempt) (source : CString) : List Deed :=
  ((a.device source).map fun path => a.deed (TRIGGER path)).toList

/-- What an activation has the system do. -/
def UninstallAttempt.activation_deeds (a : UninstallAttempt) (source : Option CString) :
    List Deed :=
  a.deed RELOAD ::
    match source with
    | none => []
    | some source =>
      if a.status RELOAD = 0 ∧ a.present source then
        a.trigger_deeds source ++
          if ∃ path ∈ a.device source, a.status (TRIGGER path) = 0 then [a.deed SETTLE] else []
      else []

/-- Nothing fails after the removal of the rule. -/
def UninstallAttempt.activates (a : UninstallAttempt) (source : Option CString) : Prop :=
  a.reloads ∧ ∀ s, source = some s → a.present s = true → a.triggers s ∧ a.settles

/-- A stage of an activation says whether it succeeded, and these commands are what it did. -/
structure Answers (m : Machine) (succeeds : Prop) (deeds : List Deed) (r : Bool) (m' : Machine) :
    Prop where
  result : r = true ↔ succeeds
  disk : m'.disk = m.disk
  log : m'.log = m.log ++ deeds

theorem decided_command (arguments : List CString) :
    wp (answer a.pid) (DecidedBy a) I (do return (← run_command arguments) = 0 : Proc Bool)
      (Answers m (a.status arguments = 0) [a.deed arguments]) m :=
  wp_bind.mpr (decided_run_command ⟨by simp, rfl, rfl⟩)

theorem decided_default_trigger (source : CString) :
    wp (answer a.pid) (DecidedBy a) I (default_trigger source)
      (Answers m (a.triggers source) (a.trigger_deeds source)) m := by
  refine wp_bind.mpr (wp_decided (by simp) (by simp) ?_)
  unfold UninstallAttempt.triggers UninstallAttempt.trigger_deeds UninstallAttempt.device
  simp only [answer]
  cases (a.choices 0 (.realpath source)).resolved with
  | none => exact ⟨by simp, rfl, by simp⟩
  | some resolved =>
  dsimp only [Option.bind_some]
  cases source_sysfs_path resolved 4096 with
  | none => exact ⟨by simp, rfl, by simp⟩
  | some path =>
    refine wp_mono (decided_command (TRIGGER path)) (fun _ h => h) ?_
    exact fun r m' h => ⟨by simpa using h.result, h.disk, by simpa using h.log⟩

theorem decided_activate_removal (source : Option CString) :
    wp (answer a.pid) (DecidedBy a) I (activate_removal source)
      (Answers m (a.activates source) (a.activation_deeds source)) m := by
  unfold UninstallAttempt.activates UninstallAttempt.activation_deeds UninstallAttempt.reloads
  refine wp_bind.mpr (wp_mono (decided_command RELOAD) (fun _ h => h) ?_)
  intro reloaded m1 h1
  by_cases hreload : a.status RELOAD = 0
  case neg =>
    obtain rfl : reloaded = false := by simpa [hreload] using h1.result
    exact ⟨by simp [hreload], h1.disk, by cases source <;> simp [h1.log, hreload]⟩
  obtain rfl : reloaded = true := h1.result.mpr hreload
  cases source with
  | none => exact ⟨by simp [hreload], h1.disk, h1.log⟩
  | some source =>
  refine wp_bind.mpr (wp_decided (by simp) (by simp) ?_)
  change wp _ _ _ (if a.present source then _ else _) _ m1
  cases hpresent : a.present source with
  | false => exact ⟨by simp [hreload, hpresent], h1.disk, by simp [h1.log, hpresent]⟩
  | true =>
  refine wp_bind.mpr (wp_mono (decided_default_trigger source) (fun _ h => h) ?_)
  intro triggered m2 h2
  have hlog2 : m2.log = m.log ++ a.deed RELOAD :: a.trigger_deeds source := by simp [h2.log, h1.log]
  by_cases htrigger : a.triggers source
  case neg =>
    obtain rfl : triggered = false := by simpa [htrigger] using h2.result
    refine ⟨by simp [hpresent, htrigger], h2.disk.trans h1.disk, hlog2.trans ?_⟩
    unfold UninstallAttempt.triggers at htrigger
    simp [hreload, hpresent, htrigger]
  obtain rfl : triggered = true := h2.result.mpr htrigger
  refine wp_mono (decided_command SETTLE) (fun _ h => h) fun settled m3 h3 => ?_
  refine ⟨?_, h3.disk.trans (h2.disk.trans h1.disk), h3.log.trans ?_⟩
  · simp [h3.result, hreload, hpresent, htrigger, UninstallAttempt.settles]
  · unfold UninstallAttempt.triggers at htrigger
    simp [hlog2, hreload, hpresent, htrigger]

/-- Where the artifact can be read, what it has recorded is known. -/
theorem decided_response_file_read :
    wp (answer a.pid) (DecidedBy a) (fun _ => False) (response_file_read t.response t.program_name)
      (fun argv m' => m' = m ∧ ∀ s, t.recorded_source m = some s → a.reads t →
        source_from_response ((argv.getD []).drop 2) = some s) m := by
  have huses := uses_response_file_read t.response t.program_name
  have hsame : wp (answer a.pid) (DecidedBy a) (fun _ => False)
      (response_file_read t.response t.program_name) (fun _ m' => m' = m) m := by
    refine wp_of_uses huses (fun choice c m' hc hm => ?_) (fun c m' hk _ => ?_) rfl
    · rcases hc with rfl | rfl | rfl | rfl
      all_goals exact hm
    · obtain ⟨k, -, ⟨⟩⟩ := hk
  by_cases hreads : a.reads t
  case neg => exact wp_mono hsame (fun _ h => h) fun _ _ h => ⟨h, fun _ _ h => absurd h hreads⟩
  cases hrecorded : t.recorded_source m with
  | none => exact wp_mono hsame (fun _ h => h) fun _ _ h => ⟨h, nofun⟩
  | some s =>
  obtain ⟨argv, hargv, hsource⟩ := Option.bind_eq_some_iff.mp hrecorded
  obtain ⟨content, hcontent, hparsed⟩ := Option.bind_eq_some_iff.mp hargv
  obtain ⟨hfopen, hfclose, hrest⟩ := hreads
  refine wp_can_of_uses huses (wp_mono (smooth_response_file_read
    (artifact_path_ne_nil t.store t.name.name) hcontent) (fun _ h => h) ?_) ?_
  · rintro _ m' ⟨rfl, rfl⟩
    rw [hparsed]
    exact ⟨rfl, fun s' hs _ => Option.some.inj hs ▸ hsource⟩
  · rintro choice c m' hc ⟨k, hk, rfl⟩
    refine ⟨_, rfl, ?_⟩
    rcases hc with rfl | rfl | rfl | rfl
    · exact (hrest k hk).1
    · exact (hrest k hk).2
    · rwa [a.steady k _ (by simp) (by simp)]
    · rwa [a.steady k _ (by simp) (by simp)]

theorem decided_default_remove {path : CString} {Q : StageResult → Machine → Prop}
    (hremoved : a.removes path → (m.look path).isSome → Q .SUCCESS (m.unlink path))
    (habsent : a.removes path → m.look path = none → Q .NOT_REQUIRED m)
    (hfail : ¬a.removes path → Q .FAILED m) :
    wp (answer a.pid) (DecidedBy a) I (default_remove path) Q m := by
  refine wp_bind.mpr (decided_unlink hremoved habsent fun hno errno herrno => ?_)
  cases errno with
  | ENOENT => contradiction
  | _ => exact hfail hno

/-- The artifact is there until the attempt succeeds. -/
structure Ends (t : Target) (succeeds : Prop) (m : Machine) (r : Exit) (m' : Machine) : Prop where
  result : r = .SUCCESS ↔ succeeds
  response : (m'.look t.response).isSome ↔ r ≠ .SUCCESS
  rule : m'.look t.rule = m.look t.rule
  content : m'.content t.response = m.content t.response ∨ r = .SUCCESS
  log : ∃ l, m'.log = m.log ++ l ∧ ∀ d ∈ l, Quiet t d

theorem decided_remove_response {failed : Bool} (hresponse : (m.look t.response).isSome) :
    wp (answer a.pid) (DecidedBy a) I (remove_response failed t.response)
      (Ends t (failed = false ∧ a.removes t.response) m) m := by
  have hkept : ¬(failed = false ∧ a.removes t.response) →
      Ends t (failed = false ∧ a.removes t.response) m .FAILURE m := fun h =>
    ⟨by simp [h], by simp [hresponse], rfl, .inl rfl, [], by simp, by simp⟩
  have hne : t.response ≠ t.rule :=
    artifact_path_ne_rule_path t.store t.rules t.name.name t.name.name
  unfold remove_response
  split
  · rename_i hfailed
    exact hkept (by simp [hfailed])
  rename_i hfailed
  refine wp_bind.mpr (decided_default_remove (fun hr _ => ?_) (fun _ hnone => ?_) fun hr => ?_)
  · refine ⟨by simp [hfailed, hr], ?_, Disk.look_unlink_ne hne.symm, .inr rfl,
      [.unlinked t.response], rfl, by simpa [Quiet] using hne⟩
    have hgone : (m.unlink t.response).look t.response = none := Disk.look_unlink_self
    simp [hgone]
  · simp [hnone] at hresponse
  · exact hkept (by simp [hr])

theorem content_congr {m m' : Machine} (h : m'.disk = m.disk) (path : CString) :
    m'.content path = m.content path := by
  unfold Machine.content Machine.look
  rw [h]

theorem Ends.after {m1 : Machine} {succeeds succeeds' : Prop} {r : Exit} {m' : Machine}
    (h : Ends t succeeds m1 r m') (hrests : Rests t m m1) (hiff : succeeds ↔ succeeds') :
    Ends t succeeds' m r m' := by
  obtain ⟨hdisk, l, hl, hquiet⟩ := hrests
  obtain ⟨hresult, hresponse, hrule, hcontent, l', hl', hquiet'⟩ := h
  refine ⟨hresult.trans hiff, hresponse, hrule.trans (congrArg (Disk.look · _) hdisk),
    hcontent.imp_left (·.trans (content_congr hdisk _)), l ++ l', by simp [hl', hl], fun d hd => ?_⟩
  exact (List.mem_append.mp hd).elim (hquiet d) (hquiet' d)

/-- The rule goes, and what follows is the activation with the source that could be read. -/
structure Removed (a : UninstallAttempt) (t : Target) (m : Machine) (r : Exit) (m' : Machine) :
    Prop where
  activation : ∃ source l l', (∀ s, t.recorded_source m = some s → a.reads t → source = some s) ∧
    m'.log = m.log ++ l ++ .unlinked t.rule :: (a.activation_deeds source ++ l') ∧
    (∀ d ∈ l, Quiet t d) ∧ (∀ d ∈ l', Quiet t d) ∧ (r = .SUCCESS → a.activates source)
  response : (m'.look t.response).isSome ↔ r ≠ .SUCCESS
  rule : m'.look t.rule = none

theorem decided_uninstall_stages (hresponse : (m.look t.response).isSome) :
    wp (answer a.pid) (DecidedBy a) (fun _ => False)
      (uninstall_stages t.response t.rule t.unit t.program_name) (fun r m' =>
        (a.removes t.rule → (m.look t.rule).isSome → Removed a t m r m') ∧
        (¬(a.removes t.rule ∧ (m.look t.rule).isSome) → Ends t (a.stops t ∧ a.disables t ∧
          a.removes t.rule ∧ a.removes t.response) m r m')) m := by
  refine wp_bind.mpr (wp_mono decided_managed_stage (fun _ h => h) ?_)
  rintro stop_result m1 ⟨hstop, h1⟩
  refine wp_bind.mpr (wp_mono decided_managed_stage (fun _ h => h) ?_)
  rintro disable_result m2 ⟨hdisable, h2⟩
  replace h2 := h1.trans h2
  refine wp_bind.mpr (wp_mono decided_response_file_read (fun _ h => h) ?_)
  rintro argv m3 ⟨rfl, hsource⟩
  have hlook : m3.look = m.look := congrArg Disk.look h2.disk
  have hrecorded : t.recorded_source m3 = t.recorded_source m :=
    congrArg (fun c : Option Bytes => (c.bind (response_file_argv t.program_name)).bind
      fun argv => source_from_response (argv.drop 2)) (content_congr h2.disk t.response)
  rw [← hlook] at hresponse
  have hfailed : ∀ {result} {P : Prop}, (result ≠ StageResult.FAILED ↔ P) →
      (decide (result = .FAILED) = false ↔ P) := fun h => by simpa using h
  refine wp_bind.mpr (decided_default_remove (fun hr hrule => ?_) (fun hr hrule => ?_) fun hr => ?_)
  · refine wp_bind.mpr (wp_mono (decided_activate_removal _) (fun _ h => h) ?_)
    intro activated m5 h5
    have hne : t.response ≠ t.rule :=
      artifact_path_ne_rule_path t.store t.rules t.name.name t.name.name
    have hlook5 : m5.look = (m3.unlink t.rule).look := congrArg Disk.look h5.disk
    have hresponse5 : (m5.look t.response).isSome := by
      rw [hlook5]
      exact (congrArg Option.isSome (Disk.look_unlink_ne hne)).trans hresponse
    refine wp_mono (decided_remove_response hresponse5) (fun _ h => h) fun r m' h => ?_
    refine ⟨fun _ _ => ?_, fun hno => absurd ⟨hr, hlook ▸ hrule⟩ hno⟩
    obtain ⟨l, hl, hquiet⟩ := h2.log
    obtain ⟨l', hl', hquiet'⟩ := h.log
    refine ⟨⟨_, l, l', fun s hs => hsource s (hrecorded ▸ hs), ?_, hquiet, hquiet', ?_⟩,
      h.response, ?_⟩
    · rw [hl', h5.log]
      change (m3.log ++ [_] ++ _) ++ _ = _
      simp [hl]
    · intro hs
      have := (h.result.mp hs).1
      simp only [Bool.or_eq_false_iff, Bool.not_eq_false'] at this
      exact h5.result.mp this.2
    · rw [h.rule, hlook5]
      exact Disk.look_unlink_self
  · -- the rule is gone already
    refine wp_mono (decided_remove_response hresponse) (fun _ h => h) fun r m' h => ?_
    refine ⟨fun _ hsome => by simp [← hlook, hrule] at hsome, fun _ => h.after h2 ?_⟩
    simp only [Bool.or_eq_false_iff, hfailed hstop, hfailed hdisable, hr, true_and, and_assoc]
    simp [UninstallAttempt.stops, UninstallAttempt.disables]
  · refine wp_mono (decided_remove_response hresponse) (fun _ h => h) fun r m' h => ?_
    exact ⟨fun hr' => absurd hr' hr, fun _ => h.after h2 (by simp [hr])⟩

/-- What one attempt comes to where the artifact is there. -/
theorem UninstallAttempt.run_cases (a : UninstallAttempt) (hresponse : (m.look t.response).isSome) :
    ∃ r, (a.run t m).1 = some r ∧
      (a.removes_rule t → (m.look t.rule).isSome → Removed a t m r (a.run t m).2) ∧
      (¬(a.removes_rule t ∧ (m.look t.rule).isSome) → Ends t (a.finishes t) m r (a.run t m).2) := by
  rcases a.run_eq t m with ⟨hstarts, -, hrun⟩ | ⟨hno, hrun⟩
  · have hwp := decided_uninstall_stages (a := a) hresponse
    rcases run_of_wp hwp (along_of_forall fun k c _ => ⟨k + 7, by omega, rfl⟩) with
      ⟨-, h⟩ | ⟨r, hr, hremoved, hends⟩
    · exact h.elim
    · rw [hrun]
      refine ⟨r, hr, fun h => hremoved h.2, fun h => ?_⟩
      have hstages := hends fun h' => h ⟨⟨hstarts, h'.1⟩, h'.2⟩
      exact { hstages with
        result := hstages.result.trans (by simp [UninstallAttempt.finishes, hstarts]) }
  · have hstarts : ¬a.starts t := fun h => hno ⟨h, hresponse⟩
    rw [hrun]
    refine ⟨.FAILURE, rfl, fun h => absurd h.1 hstarts, fun _ => ?_⟩
    exact ⟨by simp [UninstallAttempt.finishes, hstarts], by simp [hresponse], rfl, .inl rfl, [],
      by simp, by simp⟩

/-- Where the artifact is gone, an attempt is refused. -/
theorem UninstallAttempt.run_refused (a : UninstallAttempt) (hresponse : m.look t.response = none) :
    a.run t m = (some .FAILURE, m) := by
  rcases a.run_eq t m with ⟨-, hsome, -⟩ | ⟨-, hrun⟩
  · simp [hresponse] at hsome
  · exact hrun

end attempt

/-! ## Sequences of attempts -/

/-- What a sequence of attempts leaves, first attempt first. -/
def attempts_after (t : Target) (attempts : List UninstallAttempt) (m : Machine) : Machine :=
  attempts.foldl (fun m a => (a.run t m).2) m

/-- After the removal of the rule, its rules were reloaded; and where the recorded source was there
and the artifact readable in every attempt, the source was triggered and settled. -/
def Reactivated (t : Target) (attempts : List UninstallAttempt) (m0 m : Machine) : Prop :=
  ∃ before after, m.log = before ++ .unlinked t.rule :: after ∧ .ran RELOAD 0 ∈ after ∧
    ∀ s, t.recorded_source m0 = some s → (∀ a ∈ attempts, a.present s = true ∧ a.reads t) →
      (∃ a ∈ attempts, ∃ path, a.device s = some path ∧ .ran (TRIGGER path) 0 ∈ after) ∧
        .ran SETTLE 0 ∈ after

section sequences

variable {t : Target} {m0 m : Machine} {a : UninstallAttempt} {attempts : List UninstallAttempt}

theorem mem_activation_deeds {d : Deed} {source : Option CString} :
    d ∈ a.activation_deeds source ↔ d = a.deed RELOAD ∨ ∃ s, source = some s ∧ a.reloads ∧
      a.present s = true ∧ ((∃ path, a.device s = some path ∧ d = a.deed (TRIGGER path)) ∨
        (a.triggers s ∧ d = a.deed SETTLE)) := by
  unfold UninstallAttempt.activation_deeds UninstallAttempt.reloads UninstallAttempt.triggers
    UninstallAttempt.trigger_deeds
  cases source with
  | none => simp
  | some s =>
    by_cases h : a.status RELOAD = 0 ∧ a.present s = true
    · simp [h, @eq_comm _ d]
    · simp [h]
      tauto

theorem finishes_removes_rule (h : a.finishes t) : a.removes_rule t := ⟨h.1, h.2.2.2.1⟩

/-- The attempt removed the rule, and only its activation spoke to udev. -/
def Activation (t : Target) (m0 : Machine) (a : UninstallAttempt) (m : Machine) : Prop :=
  ∃ source l l', (∀ s, t.recorded_source m0 = some s → a.reads t → source = some s) ∧
    m.log = l ++ .unlinked t.rule :: (a.activation_deeds source ++ l') ∧
    (∀ d ∈ l, Quiet t d) ∧ ∀ d ∈ l', Quiet t d

theorem Activation.append {m' : Machine} {l : List Deed} (h : Activation t m0 a m)
    (hl : m'.log = m.log ++ l) (hquiet : ∀ d ∈ l, Quiet t d) : Activation t m0 a m' := by
  obtain ⟨source, before, after, hsource, hlog, hbefore, hafter⟩ := h
  refine ⟨source, before, after ++ l, hsource, by simp [hl, hlog], hbefore, fun d hd => ?_⟩
  exact (List.mem_append.mp hd).elim (hafter d) (hquiet d)

/-- Of all attempts, only the one that removed the rule can have told udev. -/
theorem Activation.reactivated_iff (h : Activation t m0 a m) (ha : a ∈ attempts) :
    Reactivated t attempts m0 m ↔ a.reloads ∧ ∀ s, t.recorded_source m0 = some s →
      (∀ b ∈ attempts, b.present s = true ∧ b.reads t) → a.triggers s ∧ a.settles := by
  obtain ⟨source, before, after, hsource, hlog, hbefore, hafter⟩ := h
  constructor
  · rintro ⟨before', after', hlog', hreload, hrest⟩
    -- a command to udev is one of the activation
    have hmem : ∀ rest status, .ran (cstr "udevadm" :: rest) status ∈ after' →
        .ran (cstr "udevadm" :: rest) status ∈ a.activation_deeds source := by
      intro rest status hd
      have hall : .ran (cstr "udevadm" :: rest) status ∈ m.log := by simp [hlog', hd]
      rw [hlog] at hall
      rcases List.mem_append.mp hall with hd | hd
      · exact absurd rfl (hbefore _ hd)
      rcases List.mem_cons.mp hd with hd | hd
      · contradiction
      rcases List.mem_append.mp hd with hd | hd
      · exact hd
      · exact absurd rfl (hafter _ hd)
    have hreloads : a.reloads := by
      rcases mem_activation_deeds.mp (hmem _ _ hreload) with hd | ⟨s, -, h, -⟩
      · exact (Deed.ran.inj hd).2.symm
      · exact h
    refine ⟨hreloads, fun s hs hall => ?_⟩
    obtain ⟨-, hsettle⟩ := hrest s hs hall
    obtain rfl := hsource s hs (hall a ha).2
    have hsettles : a.triggers s ∧ a.settles := by
      rcases mem_activation_deeds.mp (hmem _ _ hsettle) with
        hd | ⟨s', hs', -, -, ⟨p, -, hd⟩ | ⟨h, hd⟩⟩
      · exact absurd (Deed.ran.inj hd).1 (by decide)
      · exact absurd (congrArg List.length (Deed.ran.inj hd).1) (by simp [TRIGGER])
      · exact ⟨Option.some.inj hs' ▸ h, (Deed.ran.inj hd).2.symm⟩
    exact hsettles
  · rintro ⟨hreloads, hrest⟩
    have hstatus : ∀ {arguments}, a.status arguments = 0 →
        a.deed arguments = .ran arguments 0 := fun h => by simp [UninstallAttempt.deed, h]
    refine ⟨before, _, hlog, List.mem_append_left _ ?_, fun s hs hall => ?_⟩
    · exact mem_activation_deeds.mpr (.inl (hstatus hreloads).symm)
    · obtain ⟨htriggers, hsettles⟩ := hrest s hs hall
      obtain ⟨path, hdevice, htrigger⟩ := htriggers
      obtain rfl := hsource s hs (hall a ha).2
      have hpresent := (hall a ha).1
      refine ⟨⟨a, ha, path, hdevice, List.mem_append_left _ ?_⟩, List.mem_append_left _ ?_⟩
      · exact mem_activation_deeds.mpr (.inr ⟨s, rfl, hreloads, hpresent,
          .inl ⟨path, hdevice, (hstatus htrigger).symm⟩⟩)
      · exact mem_activation_deeds.mpr (.inr ⟨s, rfl, hreloads, hpresent,
          .inr ⟨⟨path, hdevice, htrigger⟩, (hstatus hsettles).symm⟩⟩)

/-- The rule has not been removed yet. -/
structure Ruled (t : Target) (m0 m : Machine) : Prop where
  response : (m.look t.response).isSome
  rule : (m.look t.rule).isSome
  content : m.content t.response = m0.content t.response
  log : ∀ d ∈ m.log, Quiet t d

/-- This attempt removed the rule, and none has succeeded since. -/
structure Unfinished (t : Target) (m0 : Machine) (a : UninstallAttempt) (m : Machine) : Prop where
  response : (m.look t.response).isSome
  rule : m.look t.rule = none
  activation : Activation t m0 a m

theorem recorded_source_congr (h : m.content t.response = m0.content t.response) :
    t.recorded_source m = t.recorded_source m0 := by
  unfold Target.recorded_source
  rw [h]

theorem Ruled.goes_on (h : Ruled t m0 m) (hno : ∀ b ∈ attempts, ¬b.removes_rule t) :
    Ruled t m0 (attempts_after t attempts m) := by
  induction attempts generalizing m with
  | nil => exact h
  | cons b rest ih =>
    have hb := hno b List.mem_cons_self
    refine ih ?_ fun c hc => hno c (List.mem_cons_of_mem _ hc)
    obtain ⟨r, hr, -, hends⟩ := b.run_cases h.response
    obtain ⟨hresult, hresponse, hrule, hcontent, l, hl, hquiet⟩ := hends fun h' => hb h'.1
    have hfail : r ≠ .SUCCESS := fun hs => hb (finishes_removes_rule (hresult.mp hs))
    refine ⟨hresponse.mpr hfail, hrule ▸ h.rule, (hcontent.resolve_right hfail).trans h.content, ?_⟩
    intro d hd
    rw [hl] at hd
    exact (List.mem_append.mp hd).elim (h.log d) (hquiet d)

theorem Unfinished.goes_on (h : Unfinished t m0 a m) (hno : ∀ b ∈ attempts, ¬b.finishes t) :
    Unfinished t m0 a (attempts_after t attempts m) := by
  induction attempts generalizing m with
  | nil => exact h
  | cons b rest ih =>
    have hb := hno b List.mem_cons_self
    refine ih ?_ fun c hc => hno c (List.mem_cons_of_mem _ hc)
    obtain ⟨r, hr, -, hends⟩ := b.run_cases h.response
    obtain ⟨hresult, hresponse, hrule, -, l, hl, hquiet⟩ := hends fun h' => by
      simp [h.rule] at h'
    have hfail : r ≠ .SUCCESS := fun hs => hb (hresult.mp hs)
    exact ⟨hresponse.mpr hfail, hrule ▸ h.rule, h.activation.append hl hquiet⟩

/-- After a success there is nothing to uninstall. -/
theorem attempts_refused (h : m.look t.response = none) : attempts_after t attempts m = m := by
  induction attempts with
  | nil => rfl
  | cons b rest ih =>
    change attempts_after t rest (b.run t m).2 = m
    rw [b.run_refused h]
    exact ih

/-- The attempt that removes the rule. -/
theorem Ruled.removed {r : Exit} {m' : Machine} (h : Ruled t m0 m) (hr : Removed a t m r m') :
    Activation t m0 a m' := by
  obtain ⟨source, l, l', hsource, hlog, hl, hl', -⟩ := hr.activation
  refine ⟨source, m.log ++ l, l', recorded_source_congr h.content ▸ hsource, hlog, fun d hd => ?_,
    hl'⟩
  exact (List.mem_append.mp hd).elim (h.log d) (hl d)

theorem exists_first {α : Type} {P : α → Prop} {l : List α} (h : ∃ x ∈ l, P x) :
    ∃ before x after, l = before ++ x :: after ∧ P x ∧ ∀ y ∈ before, ¬P y := by
  classical
  have hsome : (l.find? fun x => decide (P x)).isSome := by simpa using h
  obtain ⟨y, hy⟩ := Option.isSome_iff_exists.mp hsome
  obtain ⟨hPy, before, after, hl, hbefore⟩ := List.find?_eq_some_iff_append.mp hy
  exact ⟨before, y, after, hl, of_decide_eq_true hPy, fun z hz => by simpa using hbefore z hz⟩

theorem attempts_after_append (attempts attempts' : List UninstallAttempt) :
    attempts_after t (attempts ++ attempts') m =
      attempts_after t attempts' (attempts_after t attempts m) :=
  List.foldl_append

/-- Where the attempt that removes the rule does not succeed itself, the later ones find the
artifact and no rule, up to the first that succeeds. -/
theorem Removed.unfinished {r : Exit} {m' : Machine} (hruled : Ruled t m0 m)
    (h : Removed a t m r m') (hr : r ≠ .SUCCESS) : Unfinished t m0 a m' :=
  ⟨h.response.mpr hr, h.rule, hruled.removed h⟩

/-- Where the attempt that removes the rule succeeds itself, it told udev. -/
theorem Removed.told {m' : Machine} (hruled : Ruled t m0 m) (h : Removed a t m .SUCCESS m')
    (ha : a ∈ attempts) : a.reloads ∧ ∀ s, t.recorded_source m0 = some s →
      (∀ b ∈ attempts, b.present s = true ∧ b.reads t) → a.triggers s ∧ a.settles := by
  obtain ⟨source, _, _, hsource, -, -, -, hactivates⟩ := h.activation
  obtain ⟨hreloads, hrest⟩ := hactivates rfl
  rw [recorded_source_congr hruled.content] at hsource
  exact ⟨hreloads, fun s hs hall => hrest s (hsource s hs (hall a ha).2) (hall a ha).1⟩

theorem Unfinished.run (h : Unfinished t m0 a m) (b : UninstallAttempt) :
    ∃ r, (b.run t m).1 = some r ∧ (r = .SUCCESS ↔ b.finishes t) ∧
      (r = .SUCCESS → (b.run t m).2.look t.response = none) ∧ Activation t m0 a (b.run t m).2 := by
  obtain ⟨r, hr, -, hends⟩ := b.run_cases h.response
  obtain ⟨hresult, hresponse, -, -, l, hl, hquiet⟩ := hends fun h' => by simp [h.rule] at h'
  refine ⟨r, hr, hresult, fun hs => ?_, h.activation.append hl hquiet⟩
  simpa [hs] using hresponse

end sequences

/-- Exactly when a success at the end of a sequence of attempts means that udev was told of the
removed rule: the attempt that removed it told udev itself, or the sequence does not come to a
success after it. -/
theorem a_retry_completes_what_the_removal_of_the_rule_began (t : Target) (m0 : Machine)
    (hlog : m0.log = []) (hrule : (m0.look t.rule).isSome) (hresponse : (m0.look t.response).isSome)
    (attempts : List UninstallAttempt) (last : UninstallAttempt) :
    ((last.run t (attempts_after t attempts m0)).1 = some .SUCCESS →
      Reactivated t (attempts ++ [last]) m0 (attempts_after t (attempts ++ [last]) m0)) ↔
    (last.finishes t → ∀ before a middle, attempts = before ++ a :: middle →
      (∀ b ∈ before, ¬b.removes_rule t) → a.removes_rule t → (∀ b ∈ middle, ¬b.finishes t) →
      a.reloads ∧ ∀ s, t.recorded_source m0 = some s →
        (∀ b ∈ attempts ++ [last], b.present s = true ∧ b.reads t) → a.triggers s ∧ a.settles) := by
  have hstart : Ruled t m0 m0 := ⟨hresponse, hrule, rfl, by simp [hlog]⟩
  have hafter : attempts_after t (attempts ++ [last]) m0 =
      (last.run t (attempts_after t attempts m0)).2 := attempts_after_append ..
  rw [hafter]
  constructor
  · rintro hproperty hfinishes before a middle rfl hbefore ha hmiddle
    have hmem : a ∈ before ++ a :: middle ++ [last] := by simp
    have hruled := hstart.goes_on hbefore
    obtain ⟨r, hr, hremoved, -⟩ := a.run_cases hruled.response
    replace hremoved := hremoved ha hruled.rule
    by_cases hsuccess : r = .SUCCESS
    · subst hsuccess
      exact hremoved.told hruled hmem
    · have hunfinished := (hremoved.unfinished hruled hsuccess).goes_on hmiddle
      obtain ⟨r', hr', hresult, -, hactivation⟩ := hunfinished.run last
      rw [attempts_after_append] at hproperty
      exact (hactivation.reactivated_iff hmem).mp (hproperty (hresult.mpr hfinishes ▸ hr'))
  · intro hcondition hsuccess
    by_cases hremoves : ∃ b ∈ attempts, b.removes_rule t
    · obtain ⟨before, a, middle, rfl, ha, hbefore⟩ := exists_first hremoves
      have hmem : a ∈ before ++ a :: middle ++ [last] := by simp
      have hruled := hstart.goes_on hbefore
      obtain ⟨r, hr, hremoved, -⟩ := a.run_cases hruled.response
      replace hremoved := hremoved ha hruled.rule
      rw [attempts_after_append] at hsuccess ⊢
      change (last.run t (attempts_after t middle (a.run t _).2)).1 = _ at hsuccess
      change Reactivated t _ m0 (last.run t (attempts_after t middle (a.run t _).2)).2
      have hrefused : ∀ {m}, m.look t.response = none → (last.run t m).1 ≠ some .SUCCESS :=
        fun h => by simp [last.run_refused h]
      by_cases hr' : r = .SUCCESS
      · have hgone : (a.run t (attempts_after t before m0)).2.look t.response = none := by
          simpa [hr'] using hremoved.response
        rw [attempts_refused hgone] at hsuccess
        exact absurd hsuccess (hrefused hgone)
      have hunfinished := hremoved.unfinished hruled hr'
      by_cases hfinished : ∃ b ∈ middle, b.finishes t
      · -- the first success in between leaves nothing to uninstall
        obtain ⟨between, b, rest, rfl, hb, hbetween⟩ := exists_first hfinished
        obtain ⟨_, -, hresult, hgone, -⟩ := (hunfinished.goes_on hbetween).run b
        replace hgone := hgone (hresult.mpr hb)
        rw [attempts_after_append] at hsuccess
        change (last.run t (attempts_after t rest (b.run t _).2)).1 = _ at hsuccess
        rw [attempts_refused hgone] at hsuccess
        exact absurd hsuccess (hrefused hgone)
      · have hmiddle : ∀ b ∈ middle, ¬b.finishes t := fun b hb hf => hfinished ⟨b, hb, hf⟩
        obtain ⟨r'', hr'', hresult, -, hactivation⟩ := (hunfinished.goes_on hmiddle).run last
        refine (hactivation.reactivated_iff hmem).mpr ?_
        have hlast : last.finishes t := hresult.mp (Option.some.inj (hr''.symm.trans hsuccess))
        exact hcondition hlast before a middle rfl hbefore ha hmiddle
    · -- the last attempt removed the rule itself
      have hno : ∀ b ∈ attempts, ¬b.removes_rule t := fun b hb hr => hremoves ⟨b, hb, hr⟩
      have hruled := hstart.goes_on hno
      obtain ⟨r, hr, hremoved, hends⟩ := last.run_cases hruled.response
      obtain rfl := Option.some.inj (hr.symm.trans hsuccess)
      have hlast : last.removes_rule t := by
        by_contra h
        exact h (finishes_removes_rule ((hends fun h' => h h'.1).result.mp rfl))
      replace hremoved := hremoved hlast hruled.rule
      exact ((hruled.removed hremoved).reactivated_iff (by simp)).mpr
        (hremoved.told hruled (by simp))

def mouse_target : Target := ⟨etc_store, UDEV_RULE_DIRECTORY, cstr "input-proxy", mouse⟩

/-- The mouse with its artifact and its rule. -/
def installed_mouse : Machine :=
  { (Process.run (answer 0) (installation_plan_apply 2 etc_store
      ⟨UDEV_RULE_DIRECTORY, false, false⟩ mouse_plan) (fun _ _ => some calm) empty_machine).2 with
    log := [] }

theorem installed_mouse_is_there : (installed_mouse.look mouse_target.rule).isSome ∧
    (installed_mouse.look mouse_target.response).isSome := by decide +kernel

/-- Only this command fails. -/
def failing_choice (arguments : List CString) : SystemCall → Choice
  | .run_command command => if command = arguments then { calm with status := 1 } else calm
  | _ => calm

def failing (arguments : List CString) : UninstallAttempt :=
  ⟨1, fun _ => failing_choice arguments, fun _ _ _ _ => rfl⟩

theorem a_stop_that_failed_is_retried :
    Reactivated mouse_target
      [failing [cstr "systemctl", cstr "stop", mouse_target.unit], failing []]
      installed_mouse (attempts_after mouse_target
        [failing [cstr "systemctl", cstr "stop", mouse_target.unit], failing []]
        installed_mouse) := by
  refine (a_retry_completes_what_the_removal_of_the_rule_began mouse_target installed_mouse rfl
    installed_mouse_is_there.1 installed_mouse_is_there.2
    [failing [cstr "systemctl", cstr "stop", mouse_target.unit]] (failing [])).mpr ?_
    (by decide +kernel)
  rintro - (_ | ⟨b, before⟩) a middle h - - -
  · obtain ⟨rfl, rfl⟩ := List.cons.inj h
    have hstatus : ∀ command ∈ [RELOAD, TRIGGER (cstr "/sys/class/input/event0"), SETTLE],
        (failing [cstr "systemctl", cstr "stop", mouse_target.unit]).status command = 0 := by
      decide +kernel
    refine ⟨hstatus _ (by simp), fun s hs _ => ?_⟩
    have hs : some (cstr "/dev/input/by-id/mouse") = some s :=
      (show mouse_target.recorded_source installed_mouse = _ by decide +kernel).symm.trans hs
    obtain rfl := Option.some.inj hs
    exact ⟨⟨cstr "/sys/class/input/event0", by decide +kernel, hstatus _ (by simp)⟩,
      hstatus _ (by simp)⟩
  · simp at h

/-- The first attempt removes the rule but cannot have it reloaded, the second finds no rule and
succeeds. -/
theorem a_reload_that_failed_is_not_retried :
    ¬∀ (t : Target) (m0 : Machine), m0.log = [] → (m0.look t.rule).isSome →
      (m0.look t.response).isSome → ∀ attempts (last : UninstallAttempt),
      (last.run t (attempts_after t attempts m0)).1 = some .SUCCESS →
      Reactivated t (attempts ++ [last]) m0 (attempts_after t (attempts ++ [last]) m0) := by
  intro h
  obtain ⟨before, after, hlog, hreload, -⟩ := h mouse_target installed_mouse rfl
    installed_mouse_is_there.1 installed_mouse_is_there.2 [failing RELOAD] (failing [])
    (by decide +kernel)
  have hmem : .ran RELOAD 0 ∈
      (attempts_after mouse_target ([failing RELOAD] ++ [failing []]) installed_mouse).log := by
    rw [hlog]
    simp [hreload]
  exact absurd hmem (by decide +kernel)

end input_proxy
