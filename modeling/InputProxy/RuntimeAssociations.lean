-- Which of the instances that run are found at the inspection of their device: a
-- device has its event node and any number of links, and the inspection looks for
-- the node and for one of the links (src/device_inspection.c, src/runtime_discovery.c).
import InputProxy.DeviceInspection

open c_strings

namespace input_proxy

/-! ## Links -/

/-- The path is one of the character device. -/
def leads_to (fs : Filesystem) (status : FileStatus) (path : CString) : Bool :=
  (fs.stat path).any fun path_status => path_status.character_device ∧ same_rdev path_status status

/-- The paths of a directory. -/
def paths_in (fs : Filesystem) (directory : CString) : List CString :=
  ((fs.scandir directory).getD []).map (join directory)

/-- The links of a device, in their order. -/
def links (fs : Filesystem) (device_input_path : CString) (status : FileStatus) : List CString :=
  (link_directories device_input_path).flatMap fun directory =>
    (paths_in fs directory).filter (leads_to fs status)

/-- A link that an inspection looks at: its name does not begin with a dot, and its path fits. -/
def shown_paths_in (fs : Filesystem) (directory : CString) : List CString :=
  (((fs.scandir directory).getD []).filter fun name =>
    name.bytes.head? ≠ some dot ∧ (join directory name).length < PATH_MAX).map (join directory)

def first_link (fs : Filesystem) (device_input_path : CString) (status : FileStatus) :
    Option CString :=
  ((link_directories device_input_path).flatMap fun directory =>
    (shown_paths_in fs directory).filter (leads_to fs status)).head?

section links

variable {fs : Filesystem} {status : FileStatus} {device_input_path : CString}

theorem persistent_candidate_eq (directory name : CString) :
    persistent_candidate fs status directory name =
      if (name.bytes.head? ≠ some dot ∧ (join directory name).length < PATH_MAX) ∧
          leads_to fs status (join directory name) then some (join directory name)
      else none := by
  unfold persistent_candidate leads_to
  dsimp only
  split
  · rename_i hskipped
    rw [if_neg fun h => ?_]
    rcases hskipped with hdot | hlong
    · exact h.1.1 hdot
    · exact absurd h.1.2 (by omega)
  · rename_i hshown
    rw [not_or] at hshown
    cases hstat : fs.stat (join directory name) with
    | none => simp
    | some candidate_status =>
      have hlength : (join directory name).length < PATH_MAX := by omega
      simp [hshown.1, hlength]

theorem length_le_length_join (directory name : CString) :
    directory.length ≤ (join directory name).length := by
  unfold join
  simp only [CString.length_append]
  omega

/-- In a directory, the first of the links that are shown is found. -/
theorem persistent_path_in_eq (directory : CString) : persistent_path_in fs status directory =
    ((shown_paths_in fs directory).filter (leads_to fs status)).head? := by
  have hcandidates : ∀ entries : List CString,
      entries.findSome? (persistent_candidate fs status directory) =
        (((entries.filter fun name => name.bytes.head? ≠ some dot ∧
          (join directory name).length < PATH_MAX).map (join directory)).filter
            (leads_to fs status)).head? := by
    intro entries
    induction entries with
    | nil => rfl
    | cons name entries ih =>
      rw [List.findSome?_cons, persistent_candidate_eq]
      by_cases hshown : name.bytes.head? ≠ some dot ∧ (join directory name).length < PATH_MAX
      · rw [List.filter_cons_of_pos (by simpa using hshown), List.map_cons]
        by_cases hleads : leads_to fs status (join directory name) = true
        · rw [if_pos ⟨hshown, hleads⟩, List.filter_cons_of_pos hleads]
          rfl
        · rw [if_neg fun h => hleads h.2, List.filter_cons_of_neg hleads, ← ih]
      · rw [if_neg fun h => hshown h.1, List.filter_cons_of_neg (by simpa using hshown), ← ih]
  unfold persistent_path_in shown_paths_in
  split
  · rename_i hlong
    -- no path in a directory that is too long fits
    have hnone : (((fs.scandir directory).getD []).filter fun name =>
        name.bytes.head? ≠ some dot ∧ (join directory name).length < PATH_MAX) = [] := by
      refine List.filter_eq_nil_iff.mpr fun name _ => ?_
      have hlength := length_le_length_join directory name
      simp only [decide_eq_true_eq, not_and]
      omega
    rw [hnone]
    rfl
  · split
    · rename_i hscan
      rw [hscan]
      rfl
    · rename_i entries hscan
      rw [hcandidates, hscan]
      rfl

theorem find_persistent_input_path_eq :
    find_persistent_input_path fs device_input_path status =
      first_link fs device_input_path status := by
  unfold find_persistent_input_path first_link
  rw [List.head?_flatMap]
  exact congrArg (List.findSome? · _) (funext persistent_path_in_eq)

theorem first_link_mem {path : CString} (h : first_link fs device_input_path status = some path) :
    path ∈ links fs device_input_path status := by
  unfold first_link at h
  obtain ⟨directory, hdirectory, hpath⟩ := List.mem_flatMap.mp (List.mem_of_mem_head? h)
  obtain ⟨hshown, hleads⟩ := List.mem_filter.mp hpath
  obtain ⟨name, hname, rfl⟩ := List.mem_map.mp hshown
  exact List.mem_flatMap.mpr ⟨directory, hdirectory, List.mem_filter.mpr
    ⟨List.mem_map.mpr ⟨name, (List.mem_filter.mp hname).1, rfl⟩, hleads⟩⟩

theorem first_link_ne_empty {path : CString}
    (h : first_link fs device_input_path status = some path) : path.bytes ≠ [] := by
  obtain ⟨directory, -, hpath⟩ := List.mem_flatMap.mp (first_link_mem h)
  obtain ⟨name, -, rfl⟩ := List.mem_map.mp (List.mem_filter.mp hpath).1
  have hslash : (cstr "/").bytes ≠ [] := by decide
  unfold join
  rw [CString.bytes_append, CString.bytes_append]
  simp [hslash]

end links

/-! ## Proxies of a device -/

/-- A path that resolves to a device. -/
structure ResolvedDevice (fs : Filesystem) (paths : InputPaths) where
  device_path : CString
  status : FileStatus
  event_node : CString
  sysfs_path : CString
  stat_eq : fs.stat device_path = some status
  character_device : status.character_device = true
  resolves : resolve_event_node fs paths status = some (event_node, sysfs_path)

section devices

variable {fs : Filesystem} {paths : InputPaths}

/-- The configured source is the event node of the device, or one of its links. -/
def proxies (device : ResolvedDevice fs paths) (record : RuntimeRecord) : Bool :=
  record.source_path = device.event_node ∨
    record.source_path ∈ links fs paths.device_input_path device.status

def persistent_path (device : ResolvedDevice fs paths) : Option CString :=
  find_persistent_input_path fs paths.device_input_path device.status

/-- The proxies of the device are counted and printed, no others, and where there is one,
no other is suggested. -/
structure FindsEveryProxy (device : ResolvedDevice fs paths) (snapshot : RuntimeSnapshot) :
    Prop where
  counted : runtime_association_count snapshot device.event_node (persistent_path device) =
    (snapshot.records.filter (proxies device)).length
  printed : ∀ installed, snapshot.available = true →
    print_runtime_associations snapshot device.event_node (persistent_path device) installed =
      .listed ((snapshot.records.filter (proxies device)).map (association_line installed))
  no_suggestion : ∀ result environment installed report,
    inspect_device fs paths device.device_path (some snapshot) result environment installed =
      some report →
    (∃ record ∈ snapshot.records, proxies device record = true) →
    report.suggested_run = none ∧ report.suggested_install = none

variable {device : ResolvedDevice fs paths} {snapshot : RuntimeSnapshot}

theorem runtime_discover_unavailable (services : Option (List (CString × Lookup)))
    (h : (runtime_discover services).available = false) :
    (runtime_discover services).records = [] := by
  unfold runtime_discover at h ⊢
  split
  · rfl
  · split
    · rfl
    · rename_i services _ snapshot hbuild
      simp only [hbuild] at h
      unfold runtime_snapshot_build at hbuild
      split at hbuild
      · cases hbuild
      · obtain rfl := Except.ok.inj hbuild
        cases h

/-- A record that is found is one of a proxy. -/
theorem proxies_of_matches {record : RuntimeRecord}
    (h : runtime_record_matches_device record device.event_node (persistent_path device) = true) :
    proxies device record = true := by
  simp only [runtime_record_matches_device, decide_eq_true_eq] at h
  simp only [proxies, decide_eq_true_eq]
  rcases h with h | ⟨path, hpath, -, hsource⟩
  · exact .inl h
  · refine .inr ?_
    unfold persistent_path at hpath
    rw [find_persistent_input_path_eq] at hpath
    rw [hsource]
    exact first_link_mem hpath

theorem matches_iff {record : RuntimeRecord} :
    runtime_record_matches_device record device.event_node (persistent_path device) = true ↔
      record.source_path = device.event_node ∨
        first_link fs paths.device_input_path device.status = some record.source_path := by
  simp only [runtime_record_matches_device, decide_eq_true_eq, persistent_path,
    find_persistent_input_path_eq]
  refine or_congr_right ⟨?_, fun h => ⟨_, h, first_link_ne_empty h, rfl⟩⟩
  rintro ⟨path, hpath, -, rfl⟩
  exact hpath

theorem suggestions_of_inspect {result : ServiceIdentityResult}
    {environment : Option DeploymentEnvironment} {installed : Option (List CString)}
    {report : Inspection}
    (h : inspect_device fs paths device.device_path (some snapshot) result environment installed =
      some report)
    (hcount : runtime_association_count snapshot device.event_node (persistent_path device) ≠ 0) :
    report.suggested_run = none ∧ report.suggested_install = none := by
  unfold persistent_path at hcount
  unfold inspect_device at h
  rw [device.stat_eq] at h
  simp only [device.character_device, Bool.not_true, Bool.false_eq_true, if_false, device.resolves,
    associated_instance_count] at h
  obtain rfl := Option.some.inj h
  simp [should_suggest_run, hcount]

/-- Where all proxies are counted, each of them is found. -/
theorem FindsEveryProxy.matches {record : RuntimeRecord} (h : FindsEveryProxy device snapshot)
    (havailable : snapshot.available = true) (hrecord : record ∈ snapshot.records)
    (hproxy : proxies device record = true) :
    runtime_record_matches_device record device.event_node (persistent_path device) = true := by
  have hcounted := h.counted
  unfold runtime_association_count at hcounted
  rw [if_neg (by simp [havailable])] at hcounted
  -- the records that are found are some of the proxies, and as many
  have hfound : (snapshot.records.filter (proxies device)).filter (fun record =>
      runtime_record_matches_device record device.event_node (persistent_path device)) =
      snapshot.records.filter fun record =>
        runtime_record_matches_device record device.event_node (persistent_path device) := by
    rw [List.filter_filter]
    refine List.filter_congr fun record _ => ?_
    rw [Bool.and_eq_left_iff_imp]
    exact proxies_of_matches
  rw [← hfound] at hcounted
  exact List.length_filter_eq_length_iff.mp hcounted record
    (List.mem_filter.mpr ⟨hrecord, hproxy⟩)

theorem finds_every_proxy (hunavailable : snapshot.available = false → snapshot.records = [])
    (hmatches : ∀ record ∈ snapshot.records, proxies device record = true →
      runtime_record_matches_device record device.event_node (persistent_path device) = true) :
    FindsEveryProxy device snapshot := by
  have hfilter : (snapshot.records.filter fun record =>
      runtime_record_matches_device record device.event_node (persistent_path device)) =
      snapshot.records.filter (proxies device) := by
    refine List.filter_congr fun record hrecord => ?_
    rw [Bool.eq_iff_iff]
    exact ⟨proxies_of_matches, hmatches record hrecord⟩
  have hcounted : runtime_association_count snapshot device.event_node
      (persistent_path device) = (snapshot.records.filter (proxies device)).length := by
    unfold runtime_association_count
    split
    · rename_i hnot
      rw [hunavailable (by simpa using hnot)]
      rfl
    · rw [hfilter]
  refine ⟨hcounted, fun installed havailable => ?_, fun _ _ _ report hreport hproxy => ?_⟩
  · unfold print_runtime_associations
    rw [if_neg (by simp [havailable]), hfilter]
  · refine suggestions_of_inspect hreport ?_
    obtain ⟨record, hrecord, hproxies⟩ := hproxy
    rw [hcounted]
    exact (List.length_pos_of_mem (List.mem_filter.mpr ⟨hrecord, hproxies⟩)).ne'

/-- The proxies of a device are found exactly if those that were started with a link were
started with the first one. -/
theorem every_proxy_is_found_iff_links_are_the_first (device : ResolvedDevice fs paths)
    (services : Option (List (CString × Lookup))) :
    FindsEveryProxy device (runtime_discover services) ↔
      ∀ record ∈ (runtime_discover services).records,
        record.source_path ∈ links fs paths.device_input_path device.status →
          record.source_path = device.event_node ∨
            first_link fs paths.device_input_path device.status = some record.source_path := by
  have hunavailable := runtime_discover_unavailable services
  constructor
  · intro h record hrecord hlink
    rw [← matches_iff]
    have havailable : (runtime_discover services).available = true := by
      by_contra hnot
      rw [hunavailable (by simpa using hnot)] at hrecord
      cases hrecord
    exact h.matches havailable hrecord (by simp [proxies, hlink])
  · intro hlinks
    refine finds_every_proxy hunavailable fun record hrecord hproxies => matches_iff.mpr ?_
    simp only [proxies, decide_eq_true_eq] at hproxies
    exact hproxies.elim .inl (hlinks record hrecord)

end devices

/-! ## A keyboard with two links -/

def system_paths : InputPaths where
  sysfs_input_path := cstr "/sys/class/input"
  device_input_path := cstr "/dev/input"
  uinput_path := cstr "/dev/uinput"
  udev_data_path := udev_data

def keyboard_node : CString := cstr "/dev/input/event8"

def keyboard_by_id : CString := cstr "/dev/input/by-id/usb-keyboard-event-kbd"

def keyboard_by_path : CString := cstr "/dev/input/by-path/pci-0000:00:14.0-event-kbd"

def keyboard_files : Filesystem where
  stat := fun path =>
    if path ∈ [keyboard_node, keyboard_by_id, keyboard_by_path] then some event_device else none
  scandir := fun path =>
    if path = cstr "/sys/class/input" then some [cstr "event8"]
    else if path = cstr "/dev/input/by-id" then some [cstr "usb-keyboard-event-kbd"]
    else if path = cstr "/dev/input/by-path" then some [cstr "pci-0000:00:14.0-event-kbd"]
    else none
  sysfs := {
    fopen := fun path =>
      if path = cstr "/sys/class/input/event8/dev" then some (cstr "13:72\n") else none
    realpath := some }
  records := fun _ => none
  opens_for_reading := fun _ => true
  opens_for_writing := fun _ => true

theorem keyboard_resolves : keyboard_files.stat keyboard_node = some event_device ∧
    resolve_event_node keyboard_files system_paths event_device =
      some (keyboard_node, cstr "/sys/class/input/event8") := by decide +kernel

def keyboard_device_node : ResolvedDevice keyboard_files system_paths where
  device_path := keyboard_node
  status := event_device
  event_node := keyboard_node
  sysfs_path := cstr "/sys/class/input/event8"
  stat_eq := keyboard_resolves.1
  character_device := rfl
  resolves := keyboard_resolves.2

/-- The instance `desk` runs, and was started with this source. -/
def desk_services (source_path : CString) : Option (List (CString × Lookup)) :=
  some [(cstr DBUS_SERVICE_PREFIX ++ cstr "desk", ⟨some source_path, true, true⟩)]

/-- An instance that was started with the link of the second directory is not found. -/
theorem a_proxy_by_path_is_not_found : ¬∀ (fs : Filesystem) (paths : InputPaths)
    (device : ResolvedDevice fs paths) (services : Option (List (CString × Lookup))),
    FindsEveryProxy device (runtime_discover services) := by
  intro h
  have hcounted := (h _ _ keyboard_device_node (desk_services keyboard_by_path)).counted
  exact absurd hcounted (by decide +kernel)

end input_proxy
