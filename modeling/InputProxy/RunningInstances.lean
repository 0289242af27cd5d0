-- The instances that run, and what is discovered of them. Each has its name on the system bus
-- and its source as a property there; the bus lists its names in any order and among any
-- others. What the discovery makes of the list is one record an instance again.
import InputProxy.DerivedIdentifiers
import InputProxy.DeviceInspection

open c_strings

namespace input_proxy

/-! ## Snapshots -/

/-- There is memory for the record of a name, if it gives one. -/
def Remembered (service : CString × Lookup) : Prop :=
  (service_record service).isSome → service.2.copied = true ∧ service.2.grown = true

/-- The loop ends with the records, or without the memory for one of them. -/
theorem snapshot_records_ok_iff (services : List (CString × Lookup))
    (records : List RuntimeRecord) : (∃ result, snapshot_records services records = .ok result) ↔
      ∀ service ∈ services, Remembered service := by
  induction services generalizing records with
  | nil => simp [snapshot_records]
  | cons service rest ih =>
    obtain ⟨service_name, lookup⟩ := service
    have hservice : Remembered (service_name, lookup) ↔
        ((service_record (service_name, lookup)).isSome →
          lookup.copied = true ∧ lookup.grown = true) := Iff.rfl
    rw [List.forall_mem_cons, hservice]
    unfold snapshot_records service_record
    split
    · rename_i instance_name source_path hname hsource
      simp only [hname, hsource, Option.isSome_some, true_imp_iff]
      by_cases hcopied : lookup.copied = true
      · by_cases hgrown : lookup.grown = true
        · simp [hcopied, hgrown, ih]
        · simp [hcopied, hgrown]
      · simp [hcopied]
    · simp [ih]

/-- A discovery has all records or, without the memory for one of them, none. -/
theorem runtime_discover_of_remembered {services : List (CString × Lookup)}
    (h : ∀ service ∈ services, Remembered service) : runtime_discover (some services) =
      ⟨true, sort_records (services.filterMap service_record)⟩ := by
  obtain ⟨records, hrecords⟩ := (snapshot_records_ok_iff services []).mpr h
  have heq := snapshot_records_eq hrecords
  rw [List.nil_append] at heq
  simp only [runtime_discover, runtime_snapshot_build, hrecords, heq]

theorem runtime_discover_of_not_remembered {services : List (CString × Lookup)}
    (h : ¬∀ service ∈ services, Remembered service) :
    runtime_discover (some services) = ⟨false, []⟩ := by
  simp only [runtime_discover, runtime_snapshot_build]
  cases hrecords : snapshot_records services [] with
  | error errno => rfl
  | ok records => exact absurd ((snapshot_records_ok_iff services []).mp ⟨_, hrecords⟩) h

/-! ## The order of the records -/

/-- The order of the names. -/
def RuntimeRecord.Precedes (left right : RuntimeRecord) : Prop :=
  left.instance_name.Lt right.instance_name

theorem sort_records_sorted {records : List RuntimeRecord}
    (h : (records.map RuntimeRecord.instance_name).Nodup) :
    (sort_records records).Pairwise RuntimeRecord.Precedes := by
  have hsorted : (sort_records records).Pairwise fun left right =>
      left.instance_name.le right.instance_name = true := by
    apply List.pairwise_mergeSort
    · intro left middle right hleft hright
      simp only [CString.le, decide_eq_true_eq] at *
      exact List.le_trans hleft hright
    · intro left right
      simp only [CString.le, Bool.or_eq_true, decide_eq_true_eq]
      apply List.le_total
  have hnames : (sort_records records).Pairwise fun left right =>
      left.instance_name ≠ right.instance_name := by
    apply List.pairwise_map.mp
    have hperm : (sort_records records).Perm records := List.mergeSort_perm _ _
    exact (hperm.map _).nodup_iff.mpr h
  apply (hsorted.and hnames).imp
  intro left right hpair
  obtain ⟨hle, hne⟩ := hpair
  simp only [CString.le, decide_eq_true_eq] at hle
  rcases List.le_iff_lt_or_eq.mp hle with hlt | heq
  · exact hlt
  · exact absurd (CString.ext heq) hne

/-- Records of the same instances in the order of their names are one list. -/
theorem eq_of_sorted {records others : List RuntimeRecord}
    (h : records.Pairwise RuntimeRecord.Precedes) (h' : others.Pairwise RuntimeRecord.Precedes)
    (hperm : records.Perm others) : records = others := by
  apply hperm.eq_of_pairwise _ h h'
  intro left right _ _ hlt hgt
  exact absurd hgt (List.lt_asymm hlt)

/-! ## Instances on the bus -/

section instances

variable {service_name_is_valid : String → Bool}

/-- An instance that has its name on the bus, where its property `Source` is the path that it
was started with. -/
structure RunningInstance (service_name_is_valid : String → Bool) where
  instance_name : InstanceName
  source_path : CString
  service_name : String
  derived : runtime_control_derive_service_name service_name_is_valid SERVICE_NAME_SIZE
    instance_name.name.text = .ok service_name

/-- Its record. -/
def RunningInstance.record (running : RunningInstance service_name_is_valid) : RuntimeRecord :=
  ⟨running.instance_name.name, running.source_path⟩

/-- Its name and what answers there, with this memory for the copy and for the record. -/
def RunningInstance.service (running : RunningInstance service_name_is_valid)
    (memory : Bool × Bool) : CString × Lookup :=
  (cstr running.service_name, ⟨some running.source_path, memory.1, memory.2⟩)

@[simp] theorem RunningInstance.service_record (running : RunningInstance service_name_is_valid)
    (memory : Bool × Bool) :
    service_record (running.service memory) = some running.record := by
  unfold input_proxy.service_record service
  rw [running.instance_name.derived_instance_name running.derived]
  rfl

/-- The instances that run. No two of them have one name. -/
structure RunningInstances (service_name_is_valid : String → Bool) where
  instances : List (RunningInstance service_name_is_valid)
  nodup : (instances.map fun running => running.instance_name.name).Nodup

/-- The names of the bus: those of the instances, in any order and among others that are no
service of an instance or answer with no source. -/
structure BusNames (running : RunningInstances service_name_is_valid) where
  services : List (CString × Lookup)
  memory : RunningInstance service_name_is_valid → Bool × Bool
  others : List (CString × Lookup)
  foreign : ∀ other ∈ others, service_record other = none
  perm : services.Perm
    ((running.instances.map fun proxy => proxy.service (memory proxy)) ++ others)

variable {running : RunningInstances service_name_is_valid}

/-- There is memory for the record of each instance. -/
def BusNames.remembered (names : BusNames running) : Prop :=
  ∀ proxy ∈ running.instances, names.memory proxy = (true, true)

theorem BusNames.remembered_iff (names : BusNames running) :
    (∀ service ∈ names.services, Remembered service) ↔ names.remembered := by
  have hservice : ∀ (proxy : RunningInstance service_name_is_valid) memory,
      Remembered (proxy.service memory) ↔ memory = (true, true) := by
    intro proxy memory
    unfold Remembered
    rw [RunningInstance.service_record]
    simp [RunningInstance.service, Prod.ext_iff]
  have hother : ∀ other ∈ names.others, Remembered other := by
    intro other hmem hsome
    rw [names.foreign other hmem] at hsome
    cases hsome
  constructor
  · intro h proxy hmem
    apply (hservice proxy _).mp
    apply h
    apply names.perm.mem_iff.mpr
    exact List.mem_append_left _ (List.mem_map_of_mem hmem)
  · intro h service hmem
    rcases List.mem_append.mp (names.perm.mem_iff.mp hmem) with hown | hforeign
    · obtain ⟨proxy, hproxy, rfl⟩ := List.mem_map.mp hown
      exact (hservice proxy _).mpr (h proxy hproxy)
    · exact hother service hforeign

/-- The records of the names are those of the instances. -/
theorem BusNames.records_perm (names : BusNames running) :
    (names.services.filterMap service_record).Perm
      (running.instances.map RunningInstance.record) := by
  have hown : (running.instances.map fun proxy =>
      proxy.service (names.memory proxy)).filterMap service_record =
        running.instances.map RunningInstance.record := by
    rw [List.filterMap_map, ← List.filterMap_eq_map]
    apply List.filterMap_congr
    intro proxy _
    exact proxy.service_record _
  have hforeign : names.others.filterMap service_record = [] :=
    List.filterMap_eq_nil_iff.mpr names.foreign
  have hperm := names.perm.filterMap service_record
  rw [List.filterMap_append, hown, hforeign, List.append_nil] at hperm
  exact hperm

/-- The snapshot of the instances that run. -/
structure Discovers (running : RunningInstances service_name_is_valid)
    (snapshot : RuntimeSnapshot) : Prop where
  available : snapshot.available = true
  records : snapshot.records.Perm (running.instances.map RunningInstance.record)
  sorted : snapshot.records.Pairwise RuntimeRecord.Precedes

/-- There is one such snapshot. -/
theorem Discovers.unique {snapshot other : RuntimeSnapshot} (h : Discovers running snapshot)
    (h' : Discovers running other) : snapshot = other := by
  obtain ⟨available, records⟩ := snapshot
  obtain ⟨available', records'⟩ := other
  obtain rfl : available = true := h.available
  obtain rfl : available' = true := h'.available
  have hperm : records.Perm records' := h.records.trans h'.records.symm
  obtain rfl : records = records' := eq_of_sorted h.sorted h'.sorted hperm
  rfl

/-- The instances of a device are counted. -/
theorem Discovers.association_count {snapshot : RuntimeSnapshot} (h : Discovers running snapshot)
    (event_node : CString) (preferred_source : Option CString) :
    runtime_association_count snapshot event_node preferred_source =
      running.instances.countP fun proxy =>
        runtime_record_matches_device proxy.record event_node preferred_source := by
  unfold runtime_association_count
  rw [if_neg (by simp [h.available]), ← List.countP_eq_length_filter, h.records.countP_eq,
    List.countP_map]
  rfl

theorem BusNames.discovers (names : BusNames running) (h : names.remembered) :
    Discovers running (runtime_discover (some names.services)) := by
  have hdiscover := runtime_discover_of_remembered (names.remembered_iff.mpr h)
  have hsort : (sort_records (names.services.filterMap service_record)).Perm
      (names.services.filterMap service_record) := List.mergeSort_perm _ _
  have hnodup : ((names.services.filterMap service_record).map
      RuntimeRecord.instance_name).Nodup := by
    apply (names.records_perm.map _).nodup_iff.mpr
    rw [List.map_map]
    exact running.nodup
  rw [hdiscover]
  exact ⟨rfl, hsort.trans names.records_perm, sort_records_sorted hnodup⟩

/-- Whatever the bus lists, and in whatever order, the discovery gives one record for each
instance that runs, in the order of their names, and counts the instances of each device; without
the memory for one of the records it gives none. -/
theorem discovery_gives_the_instances_that_run
    (running : RunningInstances service_name_is_valid) (names : BusNames running) :
    (names.remembered ↔ Discovers running (runtime_discover (some names.services))) ∧
    (¬names.remembered → runtime_discover (some names.services) = ⟨false, []⟩) ∧
    (names.remembered → ∀ others : BusNames running, others.remembered →
      runtime_discover (some others.services) = runtime_discover (some names.services)) ∧
    (names.remembered → ∀ event_node preferred_source,
      runtime_association_count (runtime_discover (some names.services)) event_node
          preferred_source =
        running.instances.countP fun proxy =>
          runtime_record_matches_device proxy.record event_node preferred_source) := by
  have hnone : ¬names.remembered → runtime_discover (some names.services) = ⟨false, []⟩ := by
    intro h
    apply runtime_discover_of_not_remembered
    rwa [names.remembered_iff]
  refine ⟨⟨names.discovers, ?_⟩, hnone, ?_, ?_⟩
  · intro hdiscovers
    by_contra h
    have havailable := hdiscovers.available
    rw [hnone h] at havailable
    cases havailable
  · intro h others hothers
    exact (others.discovers hothers).unique (names.discovers h)
  · intro h event_node preferred_source
    exact (names.discovers h).association_count event_node preferred_source

end instances

/-- An instance on a bus that keeps to the grammar. -/
def instance_on_bus (n : InstanceName) (source_path : CString) :
    RunningInstance is_well_known_name where
  instance_name := n
  source_path
  service_name := DBUS_SERVICE_PREFIX ++ n.name.text
  derived := n.derive_service_name_eq (fun _ hname => hname) (Nat.le_refl _)

def mouse_on_bus : RunningInstance is_well_known_name :=
  instance_on_bus mouse (cstr "/dev/input/event3")

def longest_on_bus : RunningInstance is_well_known_name :=
  instance_on_bus longest_name (cstr "/dev/input/event8")

def two_instances : RunningInstances is_well_known_name where
  instances := [mouse_on_bus, longest_on_bus]
  nodup := by decide +kernel

/-- The bus lists its own name between theirs. -/
def bus_of_two : BusNames two_instances where
  services := [mouse_on_bus.service (true, true),
    (cstr "org.freedesktop.DBus", ⟨none, true, true⟩), longest_on_bus.service (true, true)]
  memory := fun _ => (true, true)
  others := [(cstr "org.freedesktop.DBus", ⟨none, true, true⟩)]
  foreign := by
    intro other hmem
    obtain rfl := List.mem_singleton.mp hmem
    decide +kernel
  perm := (List.Perm.swap _ _ _).cons _

theorem two_instances_are_discovered :
    Discovers two_instances (runtime_discover (some bus_of_two.services)) ∧
      runtime_association_count (runtime_discover (some bus_of_two.services))
        (cstr "/dev/input/event8") none = 1 := by
  obtain ⟨hdiscovers, -, -, hcount⟩ :=
    discovery_gives_the_instances_that_run two_instances bus_of_two
  have hremembered : bus_of_two.remembered := fun _ _ => rfl
  refine ⟨hdiscovers.mp hremembered, ?_⟩
  rw [hcount hremembered]
  decide +kernel

end input_proxy
