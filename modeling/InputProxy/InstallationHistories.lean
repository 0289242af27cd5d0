-- Histories of applications and uninstalls (docs/ARCHITECTURE.md, "Instance-owned
-- artifacts and removal"): no rule is without its artifact, and from every state
-- that a history leaves, the next operation that meets no fault goes through.
import InputProxy.RuleArtifacts

open c_strings disks processes

namespace input_proxy

/-! ## Histories -/

/-- An operation on the two directories. -/
inductive InstallationCall
  | apply (fuel : Nat) (plan : InstallationPlan)
      (inject_rule_publication_failure inject_response_rollback_failure : Bool)
  | uninstall (effective_uid : Nat) (selection : Option Nat) (program_name : CString)
      (argument : Option CString)

/-- The name that an operation is given. -/
def InstallationCall.name : InstallationCall → Option CString
  | .apply _ plan _ _ => plan.config.instance_name
  | .uninstall _ _ _ argument => argument

/-- An operation, and how the system takes it; where the choices end, the process is killed. -/
structure InstallationRun where
  pid : Nat
  call : InstallationCall
  choices : Nat → SystemCall → Option Choice

/-- What an operation leaves. -/
def InstallationRun.after (store : Store) (rules : CString) (m : Machine) (r : InstallationRun) :
    Machine :=
  match r.call with
  | .apply fuel plan inject_rule inject_rollback =>
    (Process.run (answer r.pid) (installation_plan_apply fuel store
      ⟨rules, inject_rule, inject_rollback⟩ plan) r.choices m).2
  | .uninstall effective_uid selection program_name argument =>
    (Process.run (answer r.pid) (uninstall_command
      ⟨effective_uid, store.directory, rules, selection⟩ program_name argument) r.choices m).2

/-- What a history of operations leaves, oldest operation first. -/
def installation_history (store : Store) (rules : CString) (history : List InstallationRun)
    (m : Machine) : Machine :=
  history.foldl (InstallationRun.after store rules) m

section laws

variable {store : Store} {rules name other : CString} {m m' : Machine}

/-- Each operation is about one name, which is the one that it is given. -/
theorem after_moved (r : InstallationRun) :
    ∃ name, (∀ k, r.call.name = some k → k = name) ∧
      Moved store rules name m (r.after store rules m) := by
  unfold InstallationRun.after
  cases hcall : r.call with
  | apply fuel plan inject_rule inject_rollback =>
    have hname : ∀ k, plan.config.instance_name = some k →
        k = plan.config.instance_name.getD (cstr "") := by simp +contextual
    refine ⟨_, hname, ?_⟩
    rcases run_spec m r.pid r.choices (@wp_installation_plan_apply _ _ rules _ m fuel
      ⟨rules, inject_rule, inject_rollback⟩ plan rfl hname) with ⟨-, h⟩ | ⟨_, -, h⟩
    · exact h
    · exact h
  | uninstall effective_uid selection program_name argument =>
    rcases run_spec m r.pid r.choices (@wp_uninstall_command _ _ rules m
      ⟨effective_uid, store.directory, rules, selection⟩ program_name argument rfl rfl) with
      ⟨-, name, hname, h⟩ | ⟨_, -, name, hname, h⟩
    · exact ⟨name, fun k hk => (hname k hk).symm, h⟩
    · exact ⟨name, fun k hk => (hname k hk).symm, h⟩

theorem elsewhere_artifact (h : other ≠ name) :
    Elsewhere store rules name (artifact_path store other) :=
  ⟨artifact_not_scratch store rules other, mt artifact_path_inj.mp h,
    artifact_path_ne_rule_path store rules other name⟩

theorem elsewhere_rule (h : other ≠ name) : Elsewhere store rules name (rule_path rules other) :=
  ⟨rule_not_scratch store rules rules other,
    (artifact_path_ne_rule_path store rules name other).symm, mt rule_path_inj.mp h⟩

/-- A rule is there with its artifact only. -/
def NoOrphan (store : Store) (rules : CString) (m : Machine) : Prop :=
  ∀ name, (m.look (rule_path rules name)).isSome → (m.look (artifact_path store name)).isSome

theorem NoOrphan.moved (h : NoOrphan store rules m) (hm : Moved store rules name m m') :
    NoOrphan store rules m' := by
  intro other hrule
  by_cases hname : other = name
  · subst hname
    rcases hm.paired with hsome | hnone | ⟨hr, ha⟩
    · exact hsome
    · simp [hnone] at hrule
    · rw [ha]
      exact h other (hr ▸ hrule)
  · have hr : m'.look (rule_path rules other) = m.look (rule_path rules other) :=
      hm.keeps.look _ (elsewhere_rule hname)
    have ha : m'.look (artifact_path store other) = m.look (artifact_path store other) :=
      hm.keeps.look _ (elsewhere_artifact hname)
    rw [ha]
    exact h other (hr ▸ hrule)

theorem no_orphan_history {m0 : Machine} (history : List InstallationRun)
    (h : NoOrphan store rules m0) :
    NoOrphan store rules (installation_history store rules history m0) := by
  induction history generalizing m0 with
  | nil => exact h
  | cons r history ih =>
    obtain ⟨name, -, hm⟩ := after_moved r
    exact ih (h.moved hm)

end laws

/-! ## Operations that meet no fault -/

/-- A command has nothing to complain of. The two queries answer where there is no need for
more. -/
def Regular (arguments : List CString) (status : Int) : Prop :=
  status = 0 ∨ (arguments.take 2 = [cstr "systemctl", cstr "is-active"] ∧ status = 3) ∨
    (arguments.take 2 = [cstr "systemctl", cstr "is-enabled"] ∧ status = 1)

instance (arguments : List CString) (status : Int) : Decidable (Regular arguments status) :=
  inferInstanceAs (Decidable (_ ∨ _))

/-- What there is no error number for: a write takes something, a temporary file finds a free
path, commands do their work, and a source that is there is a device. -/
def Choice.serves (e : Choice) (m : Machine) : SystemCall → Bool
  | .write _ _ => 0 < e.taken
  | .mkstemp template => (m.look (fill template e.letters)).isNone
  | .run_command arguments => Regular arguments e.status
  | .realpath _ => (e.resolved.bind (source_sysfs_path · 4096)).isSome
  | _ => true

/-- No kill and no fault. -/
def Faultless : Option Choice → SystemCall → Machine → Prop := fun choice c m =>
  ∃ e, choice = some e ∧ e.fault = none ∧ e.serves m c = true

instance : ∀ choice c m, Decidable (Faultless choice c m)
  | none, _, _ => .isFalse (by simp [Faultless])
  | some e, c, m =>
    decidable_of_iff (e.fault = none ∧ e.serves m c = true) (by simp [Faultless])

section faultless

open Process

variable {pid : Nat} {I : Machine → Prop} {m : Machine} {path path' : CString}

theorem wp_faultless {c : SystemCall} {Q : Reply c → Machine → Prop}
    (h : ∀ e : Choice, e.fault = none → Faultless (some e) c m →
      Q (answer pid e c m).1 (answer pid e c m).2) :
    wp (answer pid) Faultless I (ask c) Q m := by
  refine wp_ask.mpr ⟨?_, ?_⟩
  · rintro ⟨_, ⟨⟩, _⟩
  · rintro choice ⟨_, ⟨⟩, hf, hc⟩
    exact h choice hf ⟨_, rfl, hf, hc⟩

theorem faultless_of_smooth {α : Type} {p : Proc α} {Q : α → Machine → Prop}
    (h : wp (answer pid) Smooth I p Q m) : wp (answer pid) Faultless I p Q m :=
  wp_can_mono h fun _ _ _ ⟨e, he, hf, _⟩ => ⟨e, he, hf⟩

theorem faultless_status {call : Proc Bool} {Q : Bool → Machine → Prop} (hcall : StatusCall call)
    (h : Q true m) : wp (answer pid) Faultless I call Q m :=
  faultless_of_smooth (smooth_status hcall h)

theorem faultless_lstat {Q : Option Errno → Machine → Prop}
    (h : Q (if (m.look path).isSome then none else some .ENOENT) m) :
    wp (answer pid) Faultless I (lstat path) Q m := by
  refine wp_faultless fun e hf _ => ?_
  simp only [answer, failure_of_fault hf]
  split <;> simpa [*] using h

theorem faultless_mkstemp {template : CString} {Q : Except Errno Nat × CString → Machine → Prop}
    (h : ∀ letters, m.look (fill template letters) = none →
      Q (.ok m.disk.next, fill template letters) (m.create (fill template letters) pid)) :
    wp (answer pid) Faultless I (mkstemp template) Q m := by
  refine wp_faultless fun e hf hfree => ?_
  obtain ⟨_, ⟨⟩, -, hfree⟩ := hfree
  have hnone : m.look (fill template e.letters) = none := by simpa [Choice.serves] using hfree
  simp only [answer, hf, hnone]
  exact h _ hnone

theorem faultless_write {descriptor : Nat} {bytes : Bytes} {Q : Except Errno Nat → Machine → Prop}
    (h : ∀ n, (bytes ≠ [] → 0 < n) → n ≤ bytes.length →
      Q (.ok n) (m.append descriptor (bytes.take n))) :
    wp (answer pid) Faultless I (write descriptor bytes) Q m := by
  refine wp_faultless fun e hf htaken => ?_
  obtain ⟨_, ⟨⟩, -, htaken⟩ := htaken
  simp only [answer, hf]
  refine h _ (fun hne => ?_) (Nat.min_le_right _ _)
  have hlength := List.length_pos_iff.mpr hne
  simp only [Choice.serves, decide_eq_true_eq] at htaken
  omega

theorem faultless_link {Q : Option Errno → Machine → Prop} (hpath : (m.look path).isSome)
    (hfree : m.look path' = none) (h : Q none (m.link path path')) :
    wp (answer pid) Faultless I (link path path') Q m := by
  refine wp_faultless fun e hf _ => ?_
  have hsome : (m.look path).isNone = false := by simpa using hpath
  simp only [answer, failure_of_fault hf, hsome, hfree]
  exact h

theorem faultless_unlink {Q : Option Errno → Machine → Prop}
    (h : (m.look path).isSome → Q none (m.unlink path))
    (hnone : m.look path = none → Q (some .ENOENT) m) :
    wp (answer pid) Faultless I (unlink path) Q m := by
  refine wp_faultless fun e hf _ => ?_
  simp only [answer, failure_of_fault hf]
  cases hlook : m.look path with
  | none => exact hnone hlook
  | some node => exact h (Option.isSome_of_eq_some hlook)

theorem faultless_run_command {arguments : List CString} {Q : Int → Machine → Prop}
    (h : ∀ status m', Regular arguments status → m'.disk = m.disk → Q status m') :
    wp (answer pid) Faultless I (run_command arguments) Q m := by
  refine wp_faultless fun e _ hr => ?_
  obtain ⟨_, ⟨⟩, -, hr⟩ := hr
  have hregular : Regular arguments e.status := by simpa [Choice.serves] using hr
  exact h _ _ hregular rfl

/-! ## The uninstall that meets no fault -/

variable {store : Store} {rules name : CString}

theorem faultless_installed_instance_path {Q : Except StoreResult CString → Machine → Prop}
    (n : InstanceName) (h : Q (.ok (artifact_path store n.name)) m) :
    wp (answer pid) Faultless I (installed_instance_path store n.name) Q m := by
  have hvalid : store_validate_name (some n.name) = .SUCCESS := by
    simp [store_validate_name, n.accepted]
  unfold installed_instance_path
  rw [hvalid]
  exact wp_bind.mpr (faultless_status .malloc h)

theorem faultless_managed_stage {query command : String} {not_required : Int} {unit : CString}
    (hquery : ∀ status, Regular [cstr "systemctl", cstr query, cstr "--quiet", unit] status →
      status = not_required ∨ status = 0)
    (hcommand : ∀ status, Regular [cstr "systemctl", cstr command, unit] status → status = 0) :
    wp (answer pid) Faultless I (managed_stage query command not_required unit)
      (fun r m' => r ≠ .FAILED ∧ m'.disk = m.disk) m := by
  refine wp_bind.mpr (faultless_run_command fun status m1 hs h1 => ?_)
  split
  · exact ⟨by decide, h1⟩
  rename_i hne
  have hzero := (hquery status hs).resolve_left hne
  rw [if_neg (not_not.mpr hzero)]
  refine wp_bind.mpr (faultless_run_command fun status m2 hs h2 => ?_)
  rw [if_pos (hcommand status hs)]
  exact ⟨by decide, h2.trans h1⟩

theorem regular_zero {arguments : List CString} {status : Int} (h : Regular arguments status)
    (hactive : arguments.take 2 ≠ [cstr "systemctl", cstr "is-active"])
    (henabled : arguments.take 2 ≠ [cstr "systemctl", cstr "is-enabled"]) : status = 0 := by
  rcases h with h | ⟨h, -⟩ | ⟨h, -⟩
  · exact h
  · contradiction
  · contradiction

theorem faultless_udevadm {rest : List CString} {Q : Bool → Machine → Prop}
    (h : ∀ m', m'.disk = m.disk → Q true m') :
    wp (answer pid) Faultless I
      (do return (← run_command (cstr "udevadm" :: rest)) = 0 : Proc Bool) Q m := by
  refine wp_bind.mpr (faultless_run_command fun status m' hs hm => ?_)
  have hother : ∀ query, (cstr "udevadm" :: rest).take 2 ≠ [cstr "systemctl", query] :=
    fun query h => absurd (List.cons.inj h).1 (by decide)
  have hzero := regular_zero hs (hother _) (hother _)
  simpa [hzero] using h m' hm

theorem faultless_activate_removal (source : Option CString) :
    wp (answer pid) Faultless I (activate_removal source)
      (fun r m' => r = true ∧ m'.disk = m.disk) m := by
  refine wp_bind.mpr (faultless_udevadm fun m1 h1 => ?_)
  cases source with
  | none => exact ⟨rfl, h1⟩
  | some source =>
  refine wp_bind.mpr (wp_faultless fun e _ _ => ?_)
  split
  · refine wp_bind.mpr (wp_bind.mpr (wp_faultless fun e _ hresolved => ?_))
    obtain ⟨_, ⟨⟩, -, hresolved⟩ := hresolved
    obtain ⟨path, hpath⟩ := Option.isSome_iff_exists.mp hresolved
    obtain ⟨resolved, hresolved, hpath⟩ := Option.bind_eq_some_iff.mp hpath
    simp only [answer, hresolved, hpath]
    refine faultless_udevadm fun m2 h2 => ?_
    exact faultless_udevadm fun m3 h3 => ⟨rfl, h3.trans (h2.trans h1)⟩
  · exact ⟨rfl, h1⟩

/-- A removal removes what there is. -/
theorem faultless_default_remove {Q : StageResult → Machine → Prop}
    (h : (m.look path).isSome → Q .SUCCESS (m.unlink path))
    (hnone : m.look path = none → Q .NOT_REQUIRED m) :
    wp (answer pid) Faultless I (default_remove path) Q m :=
  wp_bind.mpr (faultless_unlink h hnone)

/-- No stage fails, so the artifact goes, after the rule. -/
theorem faultless_uninstall_stages {unit program_name : CString}
    (hartifact : (m.look (artifact_path store name)).isSome) :
    wp (answer pid) Faultless I
      (uninstall_stages (artifact_path store name) (rule_path rules name) unit program_name)
      (fun r m' => r = .SUCCESS ∧ m'.look (artifact_path store name) = none ∧
        m'.look (rule_path rules name) = none) m := by
  have hne := artifact_path_ne_rule_path store rules name name
  refine wp_bind.mpr (wp_mono (faultless_managed_stage ?_ ?_) (fun _ h => h) ?_)
  · rintro status (h | ⟨-, h⟩ | ⟨h, -⟩)
    · exact .inr h
    · exact .inl h
    · simp [show cstr "is-active" ≠ cstr "is-enabled" by decide] at h
  · have hother : ∀ query ∈ [cstr "is-active", cstr "is-enabled"],
        [cstr "systemctl", cstr "stop"] ≠ [cstr "systemctl", query] := by decide
    exact fun status h => regular_zero h (hother _ (by simp)) (hother _ (by simp))
  rintro stop_result m1 ⟨hstop, h1⟩
  refine wp_bind.mpr (wp_mono (faultless_managed_stage ?_ ?_) (fun _ h => h) ?_)
  · rintro status (h | ⟨h, -⟩ | ⟨-, h⟩)
    · exact .inr h
    · simp [show cstr "is-enabled" ≠ cstr "is-active" by decide] at h
    · exact .inl h
  · have hother : ∀ query ∈ [cstr "is-active", cstr "is-enabled"],
        [cstr "systemctl", cstr "disable"] ≠ [cstr "systemctl", query] := by decide
    exact fun status h => regular_zero h (hother _ (by simp)) (hother _ (by simp))
  rintro disable_result m2 ⟨hdisable, h2⟩
  replace h2 := h2.trans h1
  have hread : ∀ {c m'}, Faultless none c m' → False := by rintro c m' ⟨_, ⟨⟩, _⟩
  refine wp_bind.mpr (wp_mono (wp_of_idle
    ((uses_response_file_read ..).mono fun _ => Reading.idle) fun h _ => (hread h).elim)
    (fun _ h => h) ?_)
  intro argv m3 h3
  replace h3 := h3.trans h2
  have hlook : m3.look = m.look := congrArg Disk.look h3
  -- after the rule, whether it was there or not
  have hend : ∀ {m4 : Machine} {rule_result : StageResult}, rule_result ≠ .FAILED →
      (m4.look (artifact_path store name)).isSome → m4.look (rule_path rules name) = none →
      wp (answer pid) Faultless I (do
        let activated ← activation rule_result (source_from_response ((argv.getD []).drop 2))
        remove_response (stop_result = .FAILED || disable_result = .FAILED ||
          rule_result = .FAILED || !activated) (artifact_path store name))
        (fun r m' => r = .SUCCESS ∧ m'.look (artifact_path store name) = none ∧
          m'.look (rule_path rules name) = none) m4 := by
    intro m4 rule_result hrule ha hr
    have hactivation : wp (answer pid) Faultless I
        (activation rule_result (source_from_response ((argv.getD []).drop 2)))
        (fun r m' => r = true ∧ m'.disk = m4.disk) m4 := by
      unfold activation
      split
      · exact faultless_activate_removal _
      · exact ⟨rfl, rfl⟩
    refine wp_bind.mpr (wp_mono hactivation (fun _ h => h) ?_)
    rintro _ m5 ⟨rfl, h5⟩
    have hlook5 : m5.look = m4.look := congrArg Disk.look h5
    unfold remove_response
    rw [if_neg (by simp [hstop, hdisable, hrule])]
    refine wp_bind.mpr (faultless_default_remove (fun _ => ?_) fun hnone => ?_)
    · refine ⟨rfl, Disk.look_unlink_self, (Disk.look_unlink_ne hne.symm).trans ?_⟩
      exact (congrFun hlook5 _).trans hr
    · rw [hlook5] at hnone
      simp [hnone] at ha
  refine wp_bind.mpr (faultless_default_remove (fun _ => ?_) fun hnone => ?_)
  · refine hend (by decide) ?_ Disk.look_unlink_self
    exact (congrArg Option.isSome ((Disk.look_unlink_ne hne).trans (congrFun hlook _))).trans
      hartifact
  · exact hend (by decide) (hlook ▸ hartifact) hnone

theorem faultless_installed_instance_exists {n : InstanceName}
    (hartifact : (m.look (artifact_path store n.name)).isSome) :
    wp (answer pid) Faultless I (installed_instance_exists store n.name)
      (fun r m' => r = .ok true ∧ m' = m) m := by
  refine wp_bind.mpr (faultless_installed_instance_path n ?_)
  refine wp_bind.mpr (faultless_lstat ?_)
  rw [if_pos hartifact]
  exact ⟨rfl, rfl⟩

theorem faultless_uninstall_command (n : InstanceName) (program_name : CString)
    (selection : Option Nat) (hartifact : (m.look (artifact_path store n.name)).isSome) :
    wp (answer pid) Faultless I
      (uninstall_command ⟨0, store.directory, rules, selection⟩ program_name n.name)
      (fun r m' => r = .SUCCESS ∧ m'.look (artifact_path store n.name) = none ∧
        m'.look (rule_path rules n.name) = none) m := by
  have hhelp : ¬(some n.name = some (cstr "--help")) := by
    intro h
    have := n.accepted
    rw [h] at this
    exact absurd this (by decide)
  unfold uninstall_command
  rw [if_neg (not_not.mpr rfl), if_neg hhelp, dif_neg store.nonempty]
  refine wp_bind.mpr (faultless_status .malloc (wp_bind.mpr (faultless_status .malloc ?_)))
  refine wp_bind.mpr (faultless_status .malloc (wp_bind.mpr ?_))
  refine wp_mono (faultless_installed_instance_exists hartifact) (fun _ h => h) ?_
  rintro _ m' ⟨rfl, rfl⟩
  refine wp_bind.mpr (faultless_installed_instance_path n ?_)
  refine wp_bind.mpr (faultless_status .malloc ?_)
  simp only [unit_name_eq, Bool.not_true, Bool.false_eq_true, if_false]
  rw [uninstall_rule_path_eq]
  exact faultless_uninstall_stages hartifact

/-! ## The application that meets no fault -/

/-- The paths stand for what they stood for. -/
def SameLook (m m' : Machine) : Prop := ∀ path, m'.look path = m.look path

theorem SameLook.append {m m' : Machine} {id : Nat} {bytes : Bytes} (h : SameLook m m') :
    SameLook m (m'.append id bytes) := h

theorem length_drop_lt {content : Bytes} {written : Nat} (hne : content ≠ [])
    (hpos : content ≠ [] → 0 < written) : (content.drop written).length < content.length := by
  have := List.length_pos_iff.mpr hne
  have := hpos hne
  rw [List.length_drop]
  omega

theorem faultless_store_write_all {fuel descriptor : Nat} {content : Bytes}
    (hfuel : content.length < fuel) :
    wp (answer pid) Faultless I (store_write_all fuel descriptor content)
      (fun r m' => r = true ∧ SameLook m m') m := by
  refine wp_loop_total (fun _ => SameLook m) List.length ?_ (fun _ => rfl) hfuel
  intro rest m' h
  split
  · exact ⟨rfl, h⟩
  · rename_i hne
    exact wp_bind.mpr (faultless_write fun n hpos _ => ⟨h.append, length_drop_lt hne hpos⟩)

theorem faultless_rule_write_all {fuel descriptor : Nat} {content : Bytes}
    (hfuel : content.length < fuel) :
    wp (answer pid) Faultless I (rule_write_all fuel descriptor content)
      (fun r m' => r = true ∧ SameLook m m') m := by
  refine wp_loop_total (fun _ => SameLook m) List.length ?_ (fun _ => rfl) hfuel
  intro rest m' h
  split
  · exact ⟨rfl, h⟩
  · rename_i hne
    refine wp_bind.mpr (faultless_write fun n hpos _ => ?_)
    cases n with
    | zero => exact absurd (hpos hne) (Nat.lt_irrefl 0)
    | succ n => exact ⟨h.append, length_drop_lt hne hpos⟩

/-- The temporary file is there to be linked, and the path that it gets is free. -/
theorem ready_to_link {m' : Machine} (hne : path' ≠ path) (hfree : m.look path' = none)
    (h : SameLook (m.create path pid) m') : (m'.look path).isSome ∧ m'.look path' = none := by
  rw [h, h]
  refine ⟨?_, (Disk.look_create_ne hne).trans hfree⟩
  exact Option.isSome_of_eq_some (Disk.look_create_self (d := m.disk))

theorem faultless_create_artifact {fuel : Nat} {final_path : CString} {content : Bytes}
    (hpath : ¬Temporary store final_path) (hfree : m.look final_path = none)
    (hfuel : content.length < fuel) :
    wp (answer pid) Faultless I (create_artifact fuel store final_path content)
      (fun r _ => r = .SUCCESS) m := by
  refine wp_bind.mpr (faultless_mkstemp fun letters _ => ?_)
  refine wp_bind.mpr (faultless_status (.fchmod _) (wp_bind.mpr ?_))
  refine wp_mono (faultless_store_write_all hfuel) (fun _ h => h) ?_
  rintro _ m' ⟨rfl, h⟩
  have hne : final_path ≠ fill (store.directory ++ ARTIFACT_TEMPLATE) letters :=
    fun heq => hpath ⟨letters, heq⟩
  obtain ⟨hsome, hnone⟩ := ready_to_link hne hfree h
  refine wp_bind.mpr (faultless_status (.fsync _) ?_)
  refine wp_bind.mpr (faultless_status (.close _) ?_)
  refine wp_bind.mpr (faultless_link hsome hnone ?_)
  refine wp_bind.mpr (faultless_unlink (fun _ => ?_) fun _ => ?_)
  · exact rfl
  · exact wp_bind.mpr (faultless_unlink (fun _ => rfl) fun _ => rfl)

theorem faultless_installed_instance_create {fuel : Nat} {config : RunConfig}
    {source_path : CString} {n : InstanceName} (hsource : config.source_path = some source_path)
    (hline : newline ∉ source_path.bytes) (hname : config.instance_name = some n.name)
    (hfree : m.look (artifact_path store n.name) = none)
    (hfuel : (render_response source_path.bytes n.name.bytes config).length < fuel) :
    wp (answer pid) Faultless I (installed_instance_create fuel store config)
      (fun r _ => r = .SUCCESS) m := by
  unfold installed_instance_create
  simp only [hsource, if_neg hline, hname]
  refine wp_bind.mpr (faultless_installed_instance_path n ?_)
  refine wp_bind.mpr (faultless_status .malloc (wp_bind.mpr (faultless_status .malloc ?_)))
  exact faultless_create_artifact (artifact_not_temporary store n.name) hfree hfuel

theorem faultless_publish_rule {fuel : Nat} {content : Bytes}
    (hpath : ¬RuleTemporary rules path) (hfree : m.look path = none)
    (hfuel : content.length < fuel) :
    wp (answer pid) Faultless I (publish_rule fuel rules path content false)
      (fun r _ => r = true) m := by
  refine wp_bind.mpr (faultless_status .malloc ?_)
  refine wp_bind.mpr (faultless_mkstemp fun letters _ => ?_)
  refine wp_bind.mpr (faultless_status (.fchmod _) (wp_bind.mpr ?_))
  refine wp_mono (faultless_rule_write_all hfuel) (fun _ h => h) ?_
  rintro _ m' ⟨rfl, h⟩
  have hne : path ≠ fill (rules ++ RULE_TEMPORARY_TEMPLATE) letters :=
    fun heq => hpath ⟨letters, heq⟩
  obtain ⟨hsome, hnone⟩ := ready_to_link hne hfree h
  refine wp_bind.mpr (faultless_status (.fsync _) ?_)
  refine wp_bind.mpr (faultless_status (.close _) ?_)
  refine wp_bind.mpr (faultless_link hsome hnone ?_)
  exact wp_bind.mpr (faultless_unlink (fun _ => rfl) fun _ => rfl)

end faultless

/-- A plan that nothing is wrong with, for a name, with turns enough to write what it writes. -/
structure InstallationPlan.Applicable (plan : InstallationPlan) (n : InstanceName) (fuel : Nat) :
    Prop where
  name : plan.config.instance_name = some n.name
  source : ∃ source_path, plan.config.source_path = some source_path ∧
    newline ∉ source_path.bytes ∧
    (render_response source_path.bytes n.name.bytes plan.config).length < fuel
  resolution : ∃ resolution identity, plan.resolution = some resolution ∧
    plan.readiness = some identity ∧ resolution.choices_resolved = true ∧
    resolution.application_ready = true ∧ (resolution.libinput_ignore_action = true →
      ∃ content, render_libinput_ignore_rule identity = some content ∧ content.length < fuel)

theorem faultless_installation_plan_apply {pid fuel : Nat} {I : Machine → Prop} {m : Machine}
    {store : Store} {rules : CString} {plan : InstallationPlan} {n : InstanceName}
    (happlicable : plan.Applicable n fuel) (hartifact : m.look (artifact_path store n.name) = none)
    (hrule : m.look (rule_path rules n.name) = none) :
    Process.wp (answer pid) Faultless I
      (installation_plan_apply fuel store ⟨rules, false, false⟩ plan)
      (fun r _ => r = ⟨.SUCCESS, cstr ""⟩) m := by
  obtain ⟨hname, ⟨source_path, hsource, hline, hfuel⟩, resolution, identity, hresolution,
    hreadiness, hchoices, hready, hcontent⟩ := happlicable
  have hcreate : Process.wp (answer pid) Faultless I
      (installed_instance_create fuel store plan.config)
      (fun r m' => r = .SUCCESS ∧ Installed store plan.config m m') m := by
    have hspec := Process.wp_can_mono (@wp_installed_instance_create pid store m fuel plan.config)
      fun choice c s (_ : Faultless choice c s) => trivial
    refine Process.wp_mono (Process.wp_and (faultless_installed_instance_create (I := I)
      hsource hline hname hartifact hfuel) hspec) (fun _ h => h.1) ?_
    exact fun r m' h => ⟨h.1, h.2.2 h.1⟩
  unfold installation_plan_apply
  simp only [hresolution, hreadiness, hchoices, hready, Bool.not_true, Bool.or_self,
    Bool.false_eq_true, if_false]
  split
  · refine Process.wp_bind.mpr (Process.wp_mono hcreate (fun _ h => h) ?_)
    rintro _ m' ⟨rfl, -⟩
    exact rfl
  · rename_i haction
    obtain ⟨content, hrender, hfuel'⟩ := hcontent (by simpa using haction)
    simp only [hrender, hname]
    refine Process.wp_bind.mpr (faultless_status .malloc ?_)
    refine Process.wp_bind.mpr (faultless_status .malloc ?_)
    refine Process.wp_bind.mpr (faultless_lstat ?_)
    rw [hrule]
    refine Process.wp_bind.mpr (Process.wp_mono hcreate (fun _ h => h) ?_)
    rintro _ m' ⟨rfl, hinstalled⟩
    have hunruled : Unruled store rules n.name m m' :=
      .of_installed (fun k hk => Option.some.inj (hk.symm.trans hname)) hrule hinstalled
    refine Process.wp_bind.mpr (Process.wp_mono (faultless_publish_rule
      (fun ht => rule_not_scratch store rules rules n.name (.inr ht)) hunruled.rule hfuel')
      (fun _ h => h) ?_)
    rintro _ m'' rfl
    exact rfl

/-- A run that meets no fault ends, and does what its weakest precondition says. -/
theorem faultless_run {α : Type} {pid : Nat} {m : Machine} {p : Proc α}
    {choices : Nat → SystemCall → Option Choice} {Q : α → Machine → Prop}
    (h : Process.wp (answer pid) Faultless (fun _ => False) p Q m)
    (hchoices : Process.Along (answer pid) Faultless p choices m) :
    ∃ r, (Process.run (answer pid) p choices m).1 = some r ∧
      Q r (Process.run (answer pid) p choices m).2 := by
  rcases Process.run_of_wp h hchoices with ⟨-, h⟩ | h
  · exact h.elim
  · exact h

/-- Over every history of applications and uninstalls, with every fault and every kill. -/
theorem no_rule_is_orphaned_and_no_name_is_stuck (store : Store) (rules : CString) (m0 : Machine)
    (hempty : ∀ name, m0.look (rule_path rules name) = none) (history : List InstallationRun) :
    let m := installation_history store rules history m0
    (∀ name, (m.look (rule_path rules name)).isSome →
      (m.look (artifact_path store name)).isSome) ∧
    -- the next operation, wherever it stops, is about one name
    (∀ r : InstallationRun, ∃ name, (∀ k, r.call.name = some k → k = name) ∧
      ∀ other, other ≠ name →
        SameAt m (r.after store rules m) (artifact_path store other) ∧
        SameAt m (r.after store rules m) (rule_path rules other)) ∧
    -- an uninstall that meets no fault
    (∀ (n : InstanceName) pid choices selection program_name,
      (m.look (artifact_path store n.name)).isSome →
      let uninstall :=
        uninstall_command ⟨0, store.directory, rules, selection⟩ program_name n.name
      Process.Along (answer pid) Faultless uninstall choices m →
      let r := Process.run (answer pid) uninstall choices m
      r.1 = some .SUCCESS ∧ r.2.look (artifact_path store n.name) = none ∧
        r.2.look (rule_path rules n.name) = none) ∧
    -- an application that meets no fault
    ∀ (n : InstanceName) pid choices fuel plan,
      m.look (artifact_path store n.name) = none → plan.Applicable n fuel →
      let apply := installation_plan_apply fuel store ⟨rules, false, false⟩ plan
      Process.Along (answer pid) Faultless apply choices m →
      (Process.run (answer pid) apply choices m).1 = some ⟨.SUCCESS, cstr ""⟩ := by
  intro m
  have horphan : NoOrphan store rules m :=
    no_orphan_history history fun name h => by simp [hempty name] at h
  refine ⟨horphan, fun r => ?_, ?_, ?_⟩
  · obtain ⟨name, hname, hm⟩ := @after_moved store rules m r
    exact ⟨name, hname, fun other ho => ⟨sameAt_of_keeps hm.keeps (elsewhere_artifact ho),
      sameAt_of_keeps hm.keeps (elsewhere_rule ho)⟩⟩
  · intro n pid choices selection program_name hartifact uninstall hc
    obtain ⟨_, hr, rfl, h⟩ := faultless_run
      (@faultless_uninstall_command pid _ m store rules n program_name selection hartifact) hc
    exact ⟨hr, h⟩
  · intro n pid choices fuel plan hartifact happlicable apply hc
    have hrule : m.look (rule_path rules n.name) = none := by
      by_contra hne
      have := horphan n.name (Option.isSome_iff_ne_none.mpr hne)
      simp [hartifact] at this
    obtain ⟨_, hr, rfl⟩ := faultless_run
      (faultless_installation_plan_apply happlicable hartifact hrule) hc
    exact hr

/-- A mouse with a rule of its own. -/
def mouse_plan : InstallationPlan where
  config :=
    ⟨some (cstr "/dev/input/by-id/mouse"), some mouse.name, 1000, 0, true, true, false, false⟩
  readiness := some ⟨cstr "046d", cstr "c077", cstr "pci-0", cstr "", cstr "", cstr ""⟩
  resolution := some ⟨true, true, true⟩

/-- Killed in front of the removal of its temporary rule. -/
def killed_application : InstallationRun :=
  ⟨0, .apply 2 mouse_plan false false, fun k _ => if k < 20 then some calm else none⟩

theorem a_killed_application_is_uninstalled :
    let m := installation_history etc_store UDEV_RULE_DIRECTORY [killed_application] empty_machine
    let r := Process.run (answer 1) (uninstall_command ⟨0, etc_store.directory, UDEV_RULE_DIRECTORY,
      none⟩ (cstr "input-proxy") mouse.name) (fun _ _ => some calm) m
    (m.look (rule_path UDEV_RULE_DIRECTORY mouse.name)).isSome ∧ r.1 = some .SUCCESS ∧
      r.2.look (artifact_path etc_store mouse.name) = none ∧
      r.2.look (rule_path UDEV_RULE_DIRECTORY mouse.name) = none :=
  ⟨by decide +kernel, (no_rule_is_orphaned_and_no_name_is_stuck etc_store UDEV_RULE_DIRECTORY
    empty_machine (fun _ => rfl) [killed_application]).2.2.1 mouse 1 (fun _ _ => some calm) none
    (cstr "input-proxy") (by decide +kernel) (by decide +kernel)⟩

end input_proxy
