-- The running instances that the system bus tells of (src/runtime_discovery.c):
-- which names of the bus are instances, the snapshot that is built of them, and
-- the devices that its records belong to.
import InputProxy.InstanceNames
import InputProxy.RuntimeControl

open c_strings

namespace input_proxy

/-- `'.'` -/
abbrev dot : UInt8 := 46

/-- `struct input_proxy_runtime_record`. -/
structure RuntimeRecord where
  instance_name : CString
  source_path : CString

/-- `struct input_proxy_runtime_snapshot`. -/
structure RuntimeSnapshot where
  available : Bool
  records : List RuntimeRecord

/-- What answers for one name of the bus: its property `Source`, where the lookup gives a
path, and the memory for its record. -/
structure Lookup where
  source_path : Option CString
  copied : Bool
  grown : Bool

/-! ## The snapshot -/

/-- The instance that a name of the bus stands for. -/
def service_instance_name (service_name : CString) : Option CString :=
  let dbus_service_prefix := cstr DBUS_SERVICE_PREFIX
  if ! dbus_service_prefix.bytes.isPrefixOf service_name.bytes ∨
      (service_name.drop dbus_service_prefix.length).bytes = [] then none
  else
    match service_name.after_last dot with
    | none => none
    | some instance_name => if instance_name.bytes = [] then none else some instance_name

/-- The loop over the names, with the records so far. -/
def snapshot_records :
    List (CString × Lookup) → List RuntimeRecord → Except Errno (List RuntimeRecord)
  | [], records => .ok records
  | (service_name, lookup) :: rest, records =>
    match service_instance_name service_name, lookup.source_path with
    | some instance_name, some source_path =>
      if !lookup.copied then .error .ENOMEM
      else if !lookup.grown then .error .ENOMEM
      else snapshot_records rest (records ++ [⟨instance_name, source_path⟩])
    | _, _ => snapshot_records rest records

/-- `qsort` with `compare_records`. -/
def sort_records (records : List RuntimeRecord) : List RuntimeRecord :=
  records.mergeSort fun left right => left.instance_name.le right.instance_name

def runtime_snapshot_build (services : List (CString × Lookup)) :
    Except Errno RuntimeSnapshot :=
  match snapshot_records services [] with
  | .error errno => .error errno
  | .ok records => .ok ⟨true, sort_records records⟩

/-- `none` stands for a bus that could not be opened, or did not list its names. -/
def runtime_discover (services : Option (List (CString × Lookup))) : RuntimeSnapshot :=
  match services with
  | none => ⟨false, []⟩
  | some services =>
    match runtime_snapshot_build services with
    | .error _ => ⟨false, []⟩
    | .ok snapshot => snapshot

/-- The record that a name of the bus gives. -/
def service_record (service : CString × Lookup) : Option RuntimeRecord :=
  match service_instance_name service.1, service.2.source_path with
  | some instance_name, some source_path => some ⟨instance_name, source_path⟩
  | _, _ => none

theorem snapshot_records_eq {services : List (CString × Lookup)}
    {records result : List RuntimeRecord} (h : snapshot_records services records = .ok result) :
    result = records ++ services.filterMap service_record := by
  induction services generalizing records with
  | nil =>
    simp only [snapshot_records, Except.ok.injEq] at h
    simp [h]
  | cons service rest ih =>
    obtain ⟨service_name, lookup⟩ := service
    unfold snapshot_records at h
    rw [List.filterMap_cons]
    split at h
    · rename_i instance_name source_path hname hsource
      split_ifs at h
      have hrecord : service_record (service_name, lookup) =
          some ⟨instance_name, source_path⟩ := by
        simp [service_record, hname, hsource]
      rw [ih h, hrecord]
      simp
    · rename_i hnone
      have hrecord : service_record (service_name, lookup) = none := by
        unfold service_record
        split
        · rename_i hname hsource
          exact absurd hsource (hnone _ _ hname)
        · rfl
      rw [ih h, hrecord]

/-- The snapshot has the records of the names, no others. -/
theorem mem_runtime_snapshot {services : List (CString × Lookup)} {snapshot : RuntimeSnapshot}
    (h : runtime_snapshot_build services = .ok snapshot) (record : RuntimeRecord) :
    record ∈ snapshot.records ↔ ∃ service ∈ services, service_record service = some record := by
  unfold runtime_snapshot_build at h
  split at h
  · cases h
  · rename_i records hrecords
    obtain rfl := Except.ok.inj h
    have hperm : (sort_records records).Perm records := List.mergeSort_perm _ _
    rw [hperm.mem_iff, snapshot_records_eq hrecords, List.nil_append, List.mem_filterMap]

/-! ## Association with devices -/

def runtime_record_matches_device (record : RuntimeRecord) (event_node : CString)
    (preferred_source : Option CString) : Bool :=
  record.source_path = event_node ∨
    ∃ path ∈ preferred_source, path.bytes ≠ [] ∧ record.source_path = path

def runtime_association_count (snapshot : RuntimeSnapshot) (event_node : CString)
    (preferred_source : Option CString) : Nat :=
  if !snapshot.available then 0
  else
    (snapshot.records.filter fun record =>
      runtime_record_matches_device record event_node preferred_source).length

/-! ## Names that are read back -/

theorem InstanceName.service_instance_name_append (n : InstanceName) :
    service_instance_name (cstr DBUS_SERVICE_PREFIX ++ n.name) = some n.name := by
  have hsplit : cstr DBUS_SERVICE_PREFIX =
      cstr "net.controlforge.InputProxy1.Instance" ++ cstr "." := by decide +kernel
  have hnonempty : n.name.bytes ≠ [] := List.length_pos_iff.mp n.length_pos
  have hlast : (cstr DBUS_SERVICE_PREFIX ++ n.name).after_last dot = some n.name := by
    rw [hsplit]
    exact CString.after_last_append _ (n.not_mem not_name_byte_dot) (by decide)
  unfold service_instance_name
  dsimp only
  rw [if_neg, hlast]
  · exact if_neg hnonempty
  · simp [CString.length, hnonempty]

end input_proxy
