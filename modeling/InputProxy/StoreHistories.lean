-- Histories of calls on one store: the laws of its entries, over every failure
-- and every kill, and what the reader of an artifact makes of it.
import InputProxy.ArtifactStore

open c_strings disks processes

namespace input_proxy

/-! ## Histories -/

/-- A call of a process on the store. -/
inductive StoreCall
  | create (fuel : Nat) (config : RunConfig)
  | remove (name : Option CString)
  | exists_ (name : Option CString)
  | enumerate

/-- A call, and how the system takes it; where the choices end, the process is killed. -/
structure StoreRun where
  pid : Nat
  call : StoreCall
  choices : Nat → SystemCall → Option Choice

/-- What a call leaves. -/
def StoreRun.after (store : Store) (m : Machine) (r : StoreRun) : Machine :=
  match r.call with
  | .create fuel config =>
    (Process.run (answer r.pid) (installed_instance_create fuel store config) r.choices m).2
  | .remove name =>
    (Process.run (answer r.pid) (installed_instance_remove store name) r.choices m).2
  | .exists_ name =>
    (Process.run (answer r.pid) (installed_instance_exists store name) r.choices m).2
  | .enumerate =>
    (Process.run (answer r.pid) (installed_instance_enumerate store) r.choices m).2

/-- What a history of calls leaves, oldest call first. -/
def store_history (store : Store) (history : List StoreRun) (m : Machine) : Machine :=
  history.foldl (StoreRun.after store) m

/-- An entry is as it was, with its content. -/
def SameAt (m m' : Machine) (path : CString) : Prop :=
  m'.look path = m.look path ∧ m'.content path = m.content path

theorem sameAt_of_keeps {P : CString → Prop} {m m' : Machine} {path : CString}
    (h : m.disk.Keeps P m'.disk) (hp : P path) : SameAt m m' path := by
  have hlook : m'.look path = m.look path := h.look path hp
  refine ⟨hlook, ?_⟩
  unfold Machine.content
  rw [hlook]
  split
  · rename_i id hid
    rw [h.files id (Disk.look_lt hid)]
  · rfl

/-! ## Single calls -/

section calls

variable (store : Store) (m : Machine) (pid : Nat) (choices : Nat → SystemCall → Option Choice)

/-- A run of any program does what its weakest precondition says, whatever fails. -/
theorem run_spec {α : Type} {p : Proc α} {I : Machine → Prop} {Q : α → Machine → Prop}
    (h : Process.wp (answer pid) Process.Any I p Q m) :
    ((Process.run (answer pid) p choices m).1 = none ∧
      I (Process.run (answer pid) p choices m).2) ∨
    ∃ a, (Process.run (answer pid) p choices m).1 = some a ∧
      Q a (Process.run (answer pid) p choices m).2 :=
  Process.run_of_wp h Process.along_any

theorem create_spec (fuel : Nat) (config : RunConfig) :
    let r := Process.run (answer pid) (installed_instance_create fuel store config) choices m
    (r.1 ≠ some .SUCCESS ∧ Unchanged store m r.2) ∨
      ((r.1 = none ∨ r.1 = some .SUCCESS) ∧ Installed store config m r.2) := by
  rcases run_spec m pid choices (wp_installed_instance_create fuel config) with
    ⟨hn, h | h⟩ | ⟨result, hr, hfail, hok⟩
  · exact .inl ⟨by simp [hn], h⟩
  · exact .inr ⟨.inl hn, h⟩
  · by_cases hs : result = .SUCCESS
    · exact .inr ⟨.inr (hs ▸ hr), hok hs⟩
    · exact .inl ⟨by simpa [hr] using hs, hfail hs⟩

theorem remove_spec (name : Option CString) :
    let r := Process.run (answer pid) (installed_instance_remove store name) choices m
    (r.1 ≠ some .SUCCESS ∧ r.2 = m) ∨ (r.1 = some .SUCCESS ∧ ∃ n : InstanceName,
      name = some n.name ∧ (m.look (artifact_path store n.name)).isSome ∧
      r.2 = m.unlink (artifact_path store n.name)) := by
  rcases run_spec m pid choices (wp_installed_instance_remove name) with
    ⟨hn, h⟩ | ⟨result, hr, ⟨rfl, h⟩ | ⟨hs, h⟩⟩
  · exact .inl ⟨by simp [hn], h⟩
  · exact .inr ⟨hr, h⟩
  · exact .inl ⟨by simpa [hr] using hs, h⟩

theorem exists_spec (name : Option CString) :
    let r := Process.run (answer pid) (installed_instance_exists store name) choices m
    r.2 = m ∧ ∀ found, r.1 = some (.ok found) → ∃ n : InstanceName, name = some n.name ∧
      (found = true ↔ (m.look (artifact_path store n.name)).isSome) := by
  rcases run_spec m pid choices (wp_installed_instance_exists (I := (· = m)) name rfl) with
    ⟨hn, h⟩ | ⟨result, hr, h, hfound⟩
  · exact ⟨h, by simp [hn]⟩
  · refine ⟨h, fun found hf => hfound found ?_⟩
    rw [hr] at hf
    exact Option.some.inj hf

/-- The valid names whose entry is a regular file, each once, in the order of `strcmp`. -/
theorem enumerate_spec :
    let r := Process.run (answer pid) (installed_instance_enumerate store) choices m
    r.2 = m ∧ ∀ names, r.1 = some (.ok names) → names.Pairwise CString.Lt ∧
      ∀ name, name ∈ names ↔ (∃ n : InstanceName, n.name = name) ∧
        ∃ id, m.look (artifact_path store name) = some (.file id) := by
  rcases run_spec m pid choices (wp_installed_instance_enumerate) with
    ⟨hn, h⟩ | ⟨result, hr, h, hnames⟩
  · exact ⟨h, by simp [hn]⟩
  · refine ⟨h, fun names hok => ?_⟩
    rw [hr] at hok
    obtain ⟨before, rfl⟩ := hnames names (Option.some.inj hok)
    exact ⟨sort_names_strict listing_nodup, fun name => mem_sort_names.trans mem_listing⟩

end calls

/-! ## Laws of histories -/

section laws

variable {store : Store} {m : Machine}

/-- What one call of a history can do. -/
theorem after_cases (r : StoreRun) :
    Unchanged store m (r.after store m) ∨
    (∃ fuel config, r.call = .create fuel config ∧ Installed store config m (r.after store m)) ∨
    ∃ n : InstanceName, r.call = .remove (some n.name) ∧ r.after store m =
      m.unlink (artifact_path store n.name) := by
  unfold StoreRun.after
  cases hcall : r.call with
  | create fuel config =>
    rcases create_spec store m r.pid r.choices fuel config with ⟨-, h⟩ | ⟨-, h⟩
    · exact .inl h
    · exact .inr (.inl ⟨fuel, config, rfl, h⟩)
  | remove name =>
    rcases remove_spec store m r.pid r.choices name with ⟨-, h⟩ | ⟨-, n, rfl, -, h⟩
    · exact .inl (.of_eq h)
    · exact .inr (.inr ⟨n, rfl, h⟩)
  | exists_ name =>
    exact .inl (.of_eq (exists_spec store m r.pid r.choices name).1)
  | enumerate =>
    exact .inl (.of_eq (enumerate_spec store m r.pid r.choices).1)

/-- The entry of a name is absent, or has all of what a call of the history rendered. -/
def Rendered (store : Store) (history : List StoreRun) (n : InstanceName) (m : Machine) : Prop :=
  m.look (artifact_path store n.name) = none ∨
    ∃ r ∈ history, ∃ fuel config source_path, r.call = .create fuel config ∧
      config.source_path = some source_path ∧ config.instance_name = some n.name ∧
      m.content (artifact_path store n.name) =
        some (render_response source_path.bytes n.name.bytes config)

theorem Rendered.same {history : List StoreRun} {n : InstanceName} {m' : Machine}
    (h : Rendered store history n m) (hs : SameAt m m' (artifact_path store n.name)) :
    Rendered store history n m' := by
  unfold Rendered
  rw [hs.1, hs.2]
  exact h

theorem Rendered.after {history : List StoreRun} {n : InstanceName} (r : StoreRun)
    (h : Rendered store history n m) : Rendered store (history ++ [r]) n (r.after store m) := by
  have hmore : Rendered store (history ++ [r]) n m :=
    h.imp_right fun ⟨r', hr', hrest⟩ => ⟨r', List.mem_append_left _ hr', hrest⟩
  have hpath := artifact_not_temporary store n.name
  rcases after_cases (m := m) r with hu | ⟨fuel, config, hcall, hi⟩ | ⟨n', hcall, hu⟩
  · exact hmore.same (sameAt_of_keeps hu hpath)
  · obtain ⟨source_path, n', hsource, hname, -, hp⟩ := hi
    by_cases hn : n'.name = n.name
    · exact .inr
        ⟨r, by simp, fuel, config, source_path, hcall, hsource, hn ▸ hname, hn ▸ hp.content⟩
    · refine hmore.same (sameAt_of_keeps hp.keeps ⟨hpath, ?_⟩)
      exact fun h => hn (artifact_path_inj.mp h).symm
  · by_cases hn : n'.name = n.name
    · refine .inl ?_
      rw [hu, hn]
      exact Disk.look_unlink_self
    · refine hmore.same ?_
      rw [hu]
      refine sameAt_of_keeps (P := (· ≠ artifact_path store n'.name))
        (Disk.Keeps.refl.unlink (by simp)) ?_
      exact fun h => hn (artifact_path_inj.mp h).symm

/-- An entry that was absent never has a part of what was rendered for it. -/
theorem rendered_of_absent {m0 : Machine} (history : List StoreRun) (n : InstanceName)
    (h : m0.look (artifact_path store n.name) = none) :
    Rendered store history n (store_history store history m0) := by
  induction history using List.reverseRecOn with
  | nil => exact .inl h
  | append_singleton history r ih =>
    rw [store_history, List.foldl_append]
    exact ih.after r

end laws

/-- The store over every history of calls, from any files that were there before it. -/
theorem the_artifact_store_is_a_crash_safe_map (store : Store) (m0 : Machine)
    (history : List StoreRun) (pid : Nat) (choices : Nat → SystemCall → Option Choice) :
    let m := store_history store history m0
    -- an entry that was absent is absent or complete
    (∀ n : InstanceName, m0.look (artifact_path store n.name) = none →
      Rendered store history n m) ∧
    (∀ fuel config,
      let r := Process.run (answer pid) (installed_instance_create fuel store config) choices m
      (r.1 = some .SUCCESS → ∃ source_path, ∃ n : InstanceName,
        config.source_path = some source_path ∧ config.instance_name = some n.name ∧
        m.look (artifact_path store n.name) = none ∧
        r.2.content (artifact_path store n.name) =
          some (render_response source_path.bytes n.name.bytes config)) ∧
      ((∃ result, r.1 = some result ∧ result ≠ .SUCCESS) ∨ (∃ name, config.instance_name =
          some name ∧ (m.look (artifact_path store name)).isSome) →
        ∀ path, ¬Temporary store path → SameAt m r.2 path)) ∧
    (∀ name path, name.map (artifact_path store) ≠ some path →
      SameAt m (Process.run (answer pid) (installed_instance_remove store name) choices m).2
        path) ∧
    (∀ name, (Process.run (answer pid) (installed_instance_exists store name) choices m).2 = m) ∧
    (let r := Process.run (answer pid) (installed_instance_enumerate store) choices m
     r.2 = m ∧ ∀ names, r.1 = some (.ok names) → names.Pairwise CString.Lt ∧
      (∀ name, name ∈ names ↔ instance_name_validate (some name) = .SUCCESS ∧
        ∃ id, m.look (artifact_path store name) = some (.file id)) ∧
      ∀ name ∈ names, ¬Temporary store (artifact_path store name)) := by
  intro m
  refine ⟨fun n => rendered_of_absent history n, fun fuel config => ?_, fun name path hpath => ?_,
    fun name => (exists_spec store m pid choices name).1, ?_⟩
  · rcases create_spec store m pid choices fuel config with ⟨hr, h⟩ | ⟨hr, h⟩
    · exact ⟨fun hs => absurd hs hr, fun _ path hp => sameAt_of_keeps h hp⟩
    · obtain ⟨source_path, n, hsource, hname, -, hp⟩ := h
      refine ⟨fun _ => ⟨source_path, n, hsource, hname, hp.free, hp.content⟩, ?_⟩
      rintro (⟨result, hresult, hne⟩ | ⟨name, hname', hsome⟩)
      · rcases hr with hr | hr
        · simp [hr] at hresult
        · exact absurd (Option.some.inj (hresult.symm.trans hr)) hne
      · obtain rfl := Option.some.inj (hname.symm.trans hname')
        simp [hp.free] at hsome
  · rcases remove_spec store m pid choices name with ⟨-, h⟩ | ⟨-, n, rfl, -, h⟩
    · rw [h]
      exact ⟨rfl, rfl⟩
    · rw [h]
      refine sameAt_of_keeps (P := (· ≠ artifact_path store n.name))
        (Disk.Keeps.refl.unlink (by simp)) ?_
      exact fun heq => hpath (congrArg some heq.symm)
  · obtain ⟨h, hnames⟩ := enumerate_spec store m pid choices
    refine ⟨h, fun names hr => ⟨(hnames names hr).1, fun name => ?_, ?_⟩⟩
    · rw [(hnames names hr).2 name]
      refine and_congr_left fun _ => ⟨?_, fun hn => ⟨⟨name, hn⟩, rfl⟩⟩
      rintro ⟨n, rfl⟩
      exact n.accepted
    · exact fun name _ => artifact_not_temporary store name

/-! ## What the reader makes of an artifact -/

section reader

open Process

variable {pid : Nat} {m : Machine} {I : Machine → Prop}

theorem smooth_read_lines (argc : Nat) (rest : List Bytes) :
    wp (answer pid) Smooth I (response_file_read_lines argc rest)
      (fun r m' => r = response_file_lines argc rest ∧ m' = m) m := by
  induction rest generalizing argc with
  | nil => exact wp_bind.mpr (smooth_status .getline ⟨rfl, rfl⟩)
  | cons line rest ih =>
    unfold response_file_read_lines response_file_lines
    refine wp_bind.mpr (smooth_status .getline ?_)
    simp only [Bool.not_true, Bool.false_eq_true, if_false]
    split
    · exact ⟨rfl, rfl⟩
    split
    · exact ⟨rfl, rfl⟩
    refine wp_bind.mpr (smooth_status .malloc (wp_bind.mpr (smooth_status .malloc ?_)))
    refine wp_bind.mpr (wp_mono (ih (argc + 1)) (fun _ h => h) ?_)
    rintro _ m' ⟨rfl, rfl⟩
    cases response_file_lines (argc + 1) rest <;> exact ⟨rfl, rfl⟩

/-- Without faults, only the bytes of the file decide. -/
theorem smooth_response_file_read {path program_name : CString} {content : Bytes}
    (hpath : path.bytes ≠ []) (hcontent : m.content path = some content) :
    wp (answer pid) Smooth I (response_file_read path program_name)
      (fun r m' => r = response_file_argv program_name content ∧ m' = m) m := by
  unfold response_file_read response_file_argv
  rw [if_neg hpath]
  refine wp_bind.mpr (smooth_fopen hcontent (wp_bind.mpr (smooth_status .malloc ?_)))
  refine wp_bind.mpr (wp_mono (smooth_read_lines 2 (lines content)) (fun _ h => h) ?_)
  rintro _ m' ⟨rfl, rfl⟩
  cases response_file_lines 2 (lines content) with
  | none => exact wp_bind.mpr (smooth_status .fclose ⟨rfl, rfl⟩)
  | some arguments => exact wp_bind.mpr (smooth_status .fclose ⟨rfl, rfl⟩)

end reader

theorem artifact_path_ne_nil (store : Store) (name : CString) :
    (artifact_path store name).bytes ≠ [] := by
  rw [artifact_path_eq]
  simp [path_in, cstr, CString.of, ascii]

/-- What a creation published has the configuration in it, whatever the path of the source. -/
theorem response_file_round_trip {config : RunConfig} {source_path instance_name : CString}
    {n : InstanceName} (program_name : CString) (hname : instance_name = n.name)
    (hline : newline ∉ source_path.bytes) (ha : config.activity_timeout_ms ≤ UINT32_MAX)
    (hd : config.detection_throttle_ms ≤ UINT32_MAX) :
    ∃ argv, response_file_argv program_name
        (render_response source_path.bytes instance_name.bytes config) = some argv ∧
      parse_run_config argv = .ok { config with
        source_path := some source_path, instance_name := some instance_name
        verbose := false } := by
  refine ⟨_, ?_, @parse_run_config_response_arguments program_name _ _ _ ha hd⟩
  rw [render_response_eq]
  refine response_file_argv_flatMap (fun a h => ?_) (by simp [response_arguments, INT_MAX])
  have hname : newline ∉ instance_name.bytes := by
    rw [hname]
    exact n.not_mem (by simp [NameByte, is_ascii_letter, newline, underscore, hyphen])
  have hdecimal : ∀ k, newline ∉ (decimal_text k).bytes := fun k => not_mem_decimal (by decide)
  have hflag : ∀ b, newline ∉ (on_off_text b).bytes := fun b => on_off_free (by decide)
  simp only [response_arguments, List.mem_cons, List.not_mem_nil, or_false] at h
  rcases h with rfl | rfl | rfl | rfl | rfl | rfl | rfl | rfl | rfl | rfl | rfl | rfl | rfl | rfl
  all_goals first
    | assumption
    | exact hdecimal _
    | exact hflag _
    | decide

/-- An artifact that was written is read back as the configuration that it was written for, by
any program that can read it. -/
theorem an_installed_configuration_is_read_back (store : Store) (config : RunConfig)
    (source_path : CString) (n : InstanceName) (hsource : config.source_path = some source_path)
    (hline : newline ∉ source_path.bytes) (hname : config.instance_name = some n.name)
    (ha : config.activity_timeout_ms ≤ UINT32_MAX) (hd : config.detection_throttle_ms ≤ UINT32_MAX)
    (m : Machine) (creator fuel : Nat) (choices : Nat → SystemCall → Option Choice)
    (hwritten :
      let r := Process.run (answer creator) (installed_instance_create fuel store config) choices m
      r.1 = some .SUCCESS ∨ (m.look (artifact_path store n.name) = none ∧
        r.2.look (artifact_path store n.name) ≠ none))
    (reader : Nat) (program_name : CString) (choices' : Nat → SystemCall → Option Choice)
    (hread : ∀ k c, ∃ choice, choices' k c = some choice ∧ choice.fault = none) :
    let m' := (Process.run (answer creator) (installed_instance_create fuel store config) choices
      m).2
    ∃ argv, (Process.run (answer reader) (response_file_read (artifact_path store n.name)
        program_name) choices' m').1 = some (some argv) ∧
      parse_run_config argv = .ok { config with verbose := false } := by
  intro m'
  have hinstalled : Installed store config m m' := by
    rcases create_spec store m creator choices fuel config with ⟨hr, hu⟩ | ⟨-, hi⟩
    · rcases hwritten with h | ⟨habsent, h⟩
      · exact absurd h hr
      · exact absurd ((hu.look_eq (artifact_not_temporary store n.name)).trans habsent) h
    · exact hi
  clear_value m'
  obtain ⟨source_path', n', hsource', hname', -, hp⟩ := hinstalled
  obtain rfl := Option.some.inj (hsource.symm.trans hsource')
  obtain hn : n.name = n'.name := Option.some.inj (hname.symm.trans hname')
  obtain ⟨argv, hargv, hparse⟩ := response_file_round_trip program_name hn.symm hline ha hd
  refine ⟨argv, ?_, ?_⟩
  · have hcontent : m'.content (artifact_path store n.name) =
        some (render_response source_path.bytes n'.name.bytes config) := by
      rw [hn]
      exact hp.content
    have hwp : Process.wp (answer reader) Smooth (fun _ => False)
        (response_file_read (artifact_path store n.name) program_name)
        (fun r m'' => r = some argv ∧ m'' = m') m' :=
      hargv ▸ smooth_response_file_read (artifact_path_ne_nil store n.name) hcontent
    rcases Process.run_of_wp hwp (Process.along_of_forall fun k c _ => hread k c) with
      ⟨-, h⟩ | ⟨r, hr, rfl, -⟩
    · exact h.elim
    · exact hr
  · rw [hparse, ← hn]
    obtain ⟨_, _, _, _, _, _, _, _⟩ := config
    simp_all

def empty_machine : Machine where
  disk :=
    { entries := ∅, files := fun _ => ⟨none, []⟩, next := 0, made := fun _ _ h => by simp at h }
  sockets := ∅
  log := []

/-- Nothing fails, and `write` takes all it can be given here. -/
def calm : Choice where
  fault := none
  taken := 1000
  letters := ⟨cstr "AAAAAA", by decide, by decide +kernel⟩
  before _ _ := true
  status := 0
  present := true
  resolved := some (cstr "/dev/input/event0")
  foreign := []

def mouse : InstanceName := ⟨cstr "mouse", by decide⟩

def etc_store : Store := ⟨cstr "/etc/input-proxy/instances", by decide⟩

/-- The source of this configuration is called like an option. -/
def option_config : RunConfig :=
  ⟨some (cstr "--name\r "), some mouse.name, 0, UINT32_MAX, true, false, true, true⟩

theorem a_source_named_like_an_option_is_read_back :
    let m' := (Process.run (answer 0) (installed_instance_create 2 etc_store option_config)
      (fun _ _ => some calm) empty_machine).2
    ∃ argv, (Process.run (answer 1) (response_file_read (artifact_path etc_store mouse.name)
        (cstr "input-proxy")) (fun _ _ => some calm) m').1 = some (some argv) ∧
      parse_run_config argv = .ok { option_config with verbose := false } :=
  an_installed_configuration_is_read_back etc_store option_config (cstr "--name\r ") mouse rfl
    (by decide) rfl (by decide) (by decide) empty_machine 0 2 (fun _ _ => some calm)
    (.inl (by decide +kernel)) 1 (cstr "input-proxy") (fun _ _ => some calm)
    (fun _ _ => ⟨calm, rfl, rfl⟩)

end input_proxy
