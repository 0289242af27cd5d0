-- The input devices as the kernel shows them in sysfs and in `/dev/input`. The listing
-- (src/device_discovery.c) and the inspection (src/device_inspection.c) go through the same
-- files in two ways, and come to the same devices, whose kinds are those of the kernel.
import InputProxy.DeviceListings
import InputProxy.RuntimeAssociations

open c_strings

namespace input_proxy

/-! ## Capabilities -/

/-- What a device can report, as the kernel has it. -/
structure DeviceBitmaps where
  keys : CapabilityBits
  absolute : CapabilityBits
  relative : CapabilityBits
  switches : CapabilityBits
  properties : CapabilityBits

namespace DeviceBitmaps

def HasPosition (d : DeviceBitmaps) : Prop :=
  {ABS_X, ABS_Y} ⊆ d.absolute.bits ∨ {ABS_MT_POSITION_X, ABS_MT_POSITION_Y} ⊆ d.absolute.bits

instance (d : DeviceBitmaps) : Decidable d.HasPosition :=
  inferInstanceAs (Decidable (_ ∨ _))

/-- What kind of device these are the capabilities of. -/
def kind (d : DeviceBitmaps) : Classification :=
  if BTN_TOOL_PEN ∈ d.keys.bits ∨ BTN_STYLUS ∈ d.keys.bits then .Tablet
  else if INPUT_PROP_DIRECT ∈ d.properties.bits ∧ BTN_TOUCH ∈ d.keys.bits ∧ d.HasPosition then
    .Touchscreen
  else if INPUT_PROP_POINTER ∈ d.properties.bits ∧ BTN_TOUCH ∈ d.keys.bits ∧ d.HasPosition then
    .Touchpad
  else if {KEY_A, KEY_Z, KEY_ENTER} ⊆ d.keys.bits then .Keyboard
  else if {REL_X, REL_Y} ⊆ d.relative.bits ∧ BTN_MOUSE ∈ d.keys.bits then .Mouse
  else .Other_input

/-- Something other than switches and system buttons. -/
def HasControls (d : DeviceBitmaps) : Prop :=
  d.absolute.bits.Nonempty ∨ d.relative.bits.Nonempty ∨
    ¬d.keys.bits ⊆ {KEY_POWER, KEY_SLEEP, KEY_WAKEUP}

end DeviceBitmaps

/-- The file of a bitmap holds its line. -/
def BitmapFile (w : MachineWord) (sysfs : Sysfs) (event_path name : CString)
    (bits : CapabilityBits) : Prop :=
  sysfs.fopen (event_path ++ cstr "/device/" ++ name) = some (capability_line w bits ++ cstr "\n")

/-- The files of a device show its capabilities. -/
structure ShowsBitmaps (w : MachineWord) (sysfs : Sysfs) (event_path : CString)
    (d : DeviceBitmaps) : Prop where
  room : event_path.length + 24 < PATH_MAX
  keys : BitmapFile w sysfs event_path (cstr "capabilities/key") d.keys
  absolute : BitmapFile w sysfs event_path (cstr "capabilities/abs") d.absolute
  relative : BitmapFile w sysfs event_path (cstr "capabilities/rel") d.relative
  switches : BitmapFile w sysfs event_path (cstr "capabilities/sw") d.switches
  properties : BitmapFile w sysfs event_path (cstr "properties") d.properties

section capabilities

variable {w : MachineWord} {sysfs : Sysfs} {event_path name : CString} {bits : CapabilityBits}
  {d : DeviceBitmaps}

/-- A line that fits is read whole, without its end. -/
theorem read_line_text {text : CString} {size : Nat}
    (hfile : sysfs.fopen (event_path ++ cstr "/device/" ++ name) = some (text ++ cstr "\n"))
    (hroom : (event_path ++ cstr "/device/" ++ name).length < PATH_MAX)
    (hends : ∀ b ∈ text.bytes, ends_line b = false) (hlength : text.length < size)
    (hsize : 1 < size) : read_line sysfs event_path name size = some text := by
  have hbytes : (text ++ cstr "\n").bytes = text.bytes ++ [newline] := rfl
  have htrim : trim (text.bytes ++ [newline]) = text.bytes := by
    rw [trim_append (by simp [ends_line])]
    unfold trim
    rw [List.rdropWhile_eq_self_iff]
    intro hne
    simpa using hends _ (List.getLast_mem hne)
  have hnewline : newline ∉ text.bytes := by
    intro hmem
    have hends := hends newline hmem
    simp [ends_line] at hends
  obtain ⟨piece, hpiece⟩ : ∃ piece, (fgets size (text ++ cstr "\n").bytes).head? = some piece := by
    rw [hbytes]
    obtain ⟨b, rest, hcons⟩ := List.exists_cons_of_ne_nil
      (List.append_ne_nil_of_right_ne_nil text.bytes (List.cons_ne_nil newline []))
    rw [hcons]
    obtain ⟨piece, later, hpieces⟩ := List.exists_cons_of_ne_nil
      (@pieces_ne_nil (size - 1) (size - 1) b rest)
    exact ⟨piece, by unfold fgets; rw [hpieces]; rfl⟩
  have hmem : piece ∈ fgets size (text ++ cstr "\n").bytes := List.mem_of_mem_head? hpiece
  have hfree : 0 ∉ piece := fun hzero =>
    (text ++ cstr "\n").nul_free (subset_of_mem_pieces hmem hzero)
  have hline : trim piece = text.bytes := by
    rw [← htrim, ← hbytes]
    refine (trim_first_piece hsize hpiece).mpr ?_
    rw [hbytes, htrim]
    exact ⟨hlength, hnewline⟩
  unfold read_line
  dsimp only
  rw [if_neg (Nat.not_le.mpr hroom), hfile]
  dsimp only
  rw [hpiece, Option.map_some]
  refine congrArg some (CString.ext ?_)
  rw [bytes_buffered_line hfree, hline]

theorem capability_line_ends {b : UInt8} (h : b ∈ (capability_line w bits).bytes) :
    ends_line b = false := by
  rcases mem_intercalate h with rfl | ⟨text, htext, hb⟩
  · decide
  · obtain ⟨n, -, rfl⟩ := List.mem_map.mp htext
    apply decide_eq_false
    rintro (rfl | rfl)
    · exact not_mem_hexadecimal (by decide) hb
    · exact not_mem_hexadecimal (by decide) hb

theorem length_capability_line : (capability_line w bits).length < 1024 := by
  have hword : ∀ text ∈ (written_words w bits).map hexadecimal, text.length ≤ 16 := by
    intro text htext
    obtain ⟨n, hn, rfl⟩ := List.mem_map.mp htext
    apply length_hexadecimal (by decide)
    exact (written_words_fit hn).trans_le (by cases w <;> decide)
  have hline := @length_intercalate 32 _ _ hword
  have hcount := @length_written_words w bits
  rw [List.length_map] at hline
  change ([32].intercalate ((written_words w bits).map hexadecimal)).length < 1024
  omega

theorem read_line_bitmap (hfile : BitmapFile w sysfs event_path name bits)
    (hroom : event_path.length + 24 < PATH_MAX) (hname : name.length ≤ 16) :
    read_line sysfs event_path name 1024 = some (capability_line w bits) := by
  apply read_line_text hfile
  · have hdevice : (cstr "/device/").length = 8 := by decide +kernel
    rw [CString.length_append, CString.length_append, hdevice]
    omega
  · intro b hb
    exact capability_line_ends hb
  · exact length_capability_line
  · decide

/-- The bits of a file are those of the kernel. -/
theorem capability_has_bit_eq (hfile : BitmapFile w sysfs event_path name bits)
    (hroom : event_path.length + 24 < PATH_MAX) (hname : name.length ≤ 16) {bit : Nat}
    (hbit : bit ≤ KEY_MAX) :
    capability_has_bit w sysfs event_path name bit = decide (bit ∈ bits.bits) := by
  unfold capability_has_bit
  rw [read_line_bitmap hfile hroom hname, Option.any_some]
  exact capability_line_bit hbit

theorem any_bit_line :
    bitmap_has_any_bit w (capability_line w bits) = true ↔ bits.bits.Nonempty := by
  rw [bitmap_has_any_bit_iff]
  constructor
  · rintro ⟨bit, hmax, hhas⟩
    rw [capability_line_bit hmax, decide_eq_true_iff] at hhas
    exact ⟨bit, hhas⟩
  · rintro ⟨bit, hbit⟩
    have hmax := bits.bound bit hbit
    refine ⟨bit, hmax, ?_⟩
    rw [capability_line_bit hmax, decide_eq_true_iff]
    exact hbit

namespace ShowsBitmaps

theorem key_bit (h : ShowsBitmaps w sysfs event_path d) {bit : Nat} (hbit : bit ≤ KEY_MAX) :
    capability_has_bit w sysfs event_path (cstr "capabilities/key") bit =
      decide (bit ∈ d.keys.bits) :=
  capability_has_bit_eq h.keys h.room (by decide +kernel) hbit

theorem absolute_bit (h : ShowsBitmaps w sysfs event_path d) {bit : Nat} (hbit : bit ≤ KEY_MAX) :
    capability_has_bit w sysfs event_path (cstr "capabilities/abs") bit =
      decide (bit ∈ d.absolute.bits) :=
  capability_has_bit_eq h.absolute h.room (by decide +kernel) hbit

theorem relative_bit (h : ShowsBitmaps w sysfs event_path d) {bit : Nat} (hbit : bit ≤ KEY_MAX) :
    capability_has_bit w sysfs event_path (cstr "capabilities/rel") bit =
      decide (bit ∈ d.relative.bits) :=
  capability_has_bit_eq h.relative h.room (by decide +kernel) hbit

theorem property_bit (h : ShowsBitmaps w sysfs event_path d) {bit : Nat} (hbit : bit ≤ KEY_MAX) :
    capability_has_bit w sysfs event_path (cstr "properties") bit =
      decide (bit ∈ d.properties.bits) :=
  capability_has_bit_eq h.properties h.room (by decide +kernel) hbit

theorem classify_eq (h : ShowsBitmaps w sysfs event_path d) :
    classify_device w sysfs event_path = d.kind := by
  unfold classify_device DeviceBitmaps.kind DeviceBitmaps.HasPosition
  dsimp only
  rw [h.key_bit (by decide), h.key_bit (by decide), h.key_bit (by decide), h.key_bit (by decide),
    h.key_bit (by decide), h.key_bit (by decide), h.key_bit (by decide),
    h.absolute_bit (by decide), h.absolute_bit (by decide), h.absolute_bit (by decide),
    h.absolute_bit (by decide), h.relative_bit (by decide), h.relative_bit (by decide),
    h.property_bit (by decide), h.property_bit (by decide)]
  simp [Finset.insert_subset_iff, and_assoc]

theorem plausible_iff (h : ShowsBitmaps w sysfs event_path d) :
    is_plausible_source w sysfs event_path = true ↔ d.HasControls := by
  unfold is_plausible_source DeviceBitmaps.HasControls
  rw [read_line_bitmap h.keys h.room (by decide +kernel),
    read_line_bitmap h.absolute h.room (by decide +kernel),
    read_line_bitmap h.relative h.room (by decide +kernel),
    read_line_bitmap h.switches h.room (by decide +kernel)]
  dsimp only
  have hkeys : (∃ bit, OrdinaryKey bit ∧
      bitmap_has_bit w (capability_line w d.keys) bit = true) ↔
      ¬d.keys.bits ⊆ {KEY_POWER, KEY_SLEEP, KEY_WAKEUP} := by
    rw [Finset.not_subset]
    constructor
    · rintro ⟨bit, ⟨hmax, hordinary⟩, hhas⟩
      rw [capability_line_bit hmax, decide_eq_true_iff] at hhas
      exact ⟨bit, hhas, by simpa using hordinary⟩
    · rintro ⟨bit, hbit, hordinary⟩
      have hmax := d.keys.bound bit hbit
      refine ⟨bit, ⟨hmax, by simpa using hordinary⟩, ?_⟩
      rw [capability_line_bit hmax, decide_eq_true_iff]
      exact hbit
  by_cases habsolute : d.absolute.bits.Nonempty
  · rw [any_bit_line.mpr habsolute]
    simp [habsolute]
  by_cases hrelative : d.relative.bits.Nonempty
  · rw [any_bit_line.mpr hrelative]
    simp [hrelative]
  have hnone : (bitmap_has_any_bit w (capability_line w d.absolute) ||
      bitmap_has_any_bit w (capability_line w d.relative)) = false := by
    rw [Bool.or_eq_false_iff, Bool.eq_false_iff, Bool.eq_false_iff, ne_eq, ne_eq, any_bit_line,
      any_bit_line]
    exact ⟨habsolute, hrelative⟩
  rw [hnone, if_neg Bool.false_ne_true, ordinary_key_iff, hkeys]
  simp [habsolute, hrelative]

end ShowsBitmaps

end capabilities

/-! ## Trees -/

/-- The files of the input devices. Each node has a number of its own, which the kernel writes
into its `dev` file. -/
structure InputTree (w : MachineWord) where
  fs : Filesystem
  paths : InputPaths
  entries : Directory
  status : CString → FileStatus
  bitmaps : CString → DeviceBitmaps
  scandir_eq : fs.scandir paths.sysfs_input_path = some entries.names
  slash_free : ∀ name ∈ entries.names, 47 ∉ name.bytes
  room : ∀ name ∈ entries.names, (join paths.device_input_path name).length < PATH_MAX
  stat_eq : ∀ name ∈ entries.names, is_event_node_name name = true →
    fs.stat (join paths.device_input_path name) = some (status name)
  character_device : ∀ name ∈ entries.names, is_event_node_name name = true →
    (status name).character_device = true
  numbered : ∀ name ∈ entries.names, is_event_node_name name = true →
    ∃ content, fs.sysfs.fopen (join (join paths.sysfs_input_path name) (cstr "dev")) =
        some content ∧
      scan_device_number content.bytes = some ((status name).major, (status name).minor)
  distinct : ∀ name ∈ entries.names, ∀ other ∈ entries.names, is_event_node_name name = true →
    is_event_node_name other = true → same_rdev (status name) (status other) = true → name = other
  shows : ∀ name ∈ entries.names, is_event_node_name name = true →
    ShowsBitmaps w fs.sysfs (join paths.sysfs_input_path name) (bitmaps name)

section trees

variable {w : MachineWord} (tree : InputTree w) {name : CString}

/-- The two checks of a name are one for the names of a directory. -/
theorem event_name_of_slash_free (h : 47 ∉ name.bytes) :
    event_name name = if is_event_node_name name = true then some name else none := by
  have hbase : name.after_last 47 = none := if_neg h
  unfold event_name is_event_node_name
  rw [hbase, Option.getD_none]
  simp [and_assoc]

namespace InputTree

/-- The node that has the numbers of the status. -/
def NodeOf (status : FileStatus) (name : CString) : Prop :=
  name ∈ tree.entries.names ∧ is_event_node_name name = true ∧
    same_rdev (tree.status name) status = true

theorem sysfs_room (hname : name ∈ tree.entries.names) (hevent : is_event_node_name name = true) :
    (join (join tree.paths.sysfs_input_path name) (cstr "dev")).length < PATH_MAX ∧
      (join tree.paths.sysfs_input_path name).length < PATH_MAX := by
  have hroom := (tree.shows name hname hevent).room
  have hdev : (cstr "dev").length = 3 := by decide +kernel
  have hslash : (cstr "/").length = 1 := by decide +kernel
  have hlength : (join (join tree.paths.sysfs_input_path name) (cstr "dev")).length =
      (join tree.paths.sysfs_input_path name).length + 1 + 3 := by
    rw [← hslash, ← hdev, ← CString.length_append, ← CString.length_append]
    rfl
  omega

theorem event_candidate_eq_some {status : FileStatus} {found : CString × CString}
    (hname : name ∈ tree.entries.names) :
    event_candidate tree.fs tree.paths status name = some found ↔ tree.NodeOf status name ∧
      found = (join tree.paths.device_input_path name, join tree.paths.sysfs_input_path name) := by
  have hslash := event_name_of_slash_free (tree.slash_free name hname)
  unfold event_candidate NodeOf same_rdev
  dsimp only
  by_cases hevent : is_event_node_name name = true
  · obtain ⟨content, hopen, hscan⟩ := tree.numbered name hname hevent
    obtain ⟨hdev, hsysfs⟩ := tree.sysfs_room hname hevent
    have hroom := tree.room name hname
    rw [hslash, if_pos hevent, if_neg (by simp [hdev]), hopen]
    dsimp only
    rw [hscan]
    by_cases hsame : (tree.status name).major = status.major ∧
        (tree.status name).minor = status.minor
    · have hnumbers : some ((tree.status name).major, (tree.status name).minor) =
          some (status.major, status.minor) := by rw [hsame.1, hsame.2]
      rw [if_pos ⟨hnumbers, hroom, hsysfs⟩, Option.some_inj, eq_comm, and_iff_right]
      exact ⟨hname, hevent, decide_eq_true hsame⟩
    · simp [hsame]
  · rw [hslash, if_neg hevent, if_pos (.inl rfl)]
    simp [hevent]

theorem node_unique {status : FileStatus} {other : CString} (h : tree.NodeOf status name)
    (h' : tree.NodeOf status other) : name = other := by
  apply tree.distinct name h.1 other h'.1 h.2.1 h'.2.1
  have hsame := h.2.2
  have hsame' := h'.2.2
  simp only [same_rdev, decide_eq_true_eq] at hsame hsame' ⊢
  exact ⟨hsame.1.trans hsame'.1.symm, hsame.2.trans hsame'.2.symm⟩

/-- The search finds the node of the device, wherever it stands in the directory. -/
theorem resolve_event_node_eq_some {status : FileStatus} {found : CString × CString} :
    resolve_event_node tree.fs tree.paths status = some found ↔
      ∃ name, tree.NodeOf status name ∧ found =
        (join tree.paths.device_input_path name, join tree.paths.sysfs_input_path name) := by
  unfold resolve_event_node
  rw [tree.scandir_eq]
  dsimp only
  constructor
  · intro h
    obtain ⟨name, hname, hfound⟩ := List.exists_of_findSome?_eq_some h
    exact ⟨name, (tree.event_candidate_eq_some hname).mp hfound⟩
  · rintro ⟨name, hnode, rfl⟩
    have hsome : (tree.entries.names.findSome?
        (event_candidate tree.fs tree.paths status)).isSome = true := by
      rw [List.findSome?_isSome_iff]
      refine ⟨name, hnode.1, ?_⟩
      rw [(tree.event_candidate_eq_some hnode.1).mpr ⟨hnode, rfl⟩]
      rfl
    obtain ⟨found, hfound⟩ := Option.isSome_iff_exists.mp hsome
    obtain ⟨other, hother, hcandidate⟩ := List.exists_of_findSome?_eq_some hfound
    obtain ⟨hnode', rfl⟩ := (tree.event_candidate_eq_some hother).mp hcandidate
    rw [hfound, tree.node_unique hnode hnode']

/-- A node of the tree that the listing shows. -/
theorem listed_iff : name ∈ listed_nodes w tree.fs.sysfs tree.paths.sysfs_input_path
      tree.paths.device_input_path tree.entries.names ↔
    name ∈ tree.entries.names ∧ is_event_node_name name = true ∧
      is_virtual_input tree.fs.sysfs (join tree.paths.sysfs_input_path name) = false ∧
      (tree.bitmaps name).HasControls := by
  rw [mem_listed_nodes]
  constructor
  · rintro ⟨hname, hlisted⟩
    refine ⟨hname, hlisted.event_node, hlisted.physical, ?_⟩
    exact (tree.shows name hname hlisted.event_node).plausible_iff.mp hlisted.is_source
  · rintro ⟨hname, hevent, hphysical, hcontrols⟩
    refine ⟨hname, ?_⟩
    exact {
      event_node := hevent
      sysfs_room := (tree.sysfs_room hname hevent).2
      device_room := tree.room name hname
      physical := hphysical
      is_source := (tree.shows name hname hevent).plausible_iff.mpr hcontrols }

end InputTree

section inspections

variable {fs : Filesystem} {paths : InputPaths} {device_path event_node sysfs_path : CString}
  {status : FileStatus} {snapshot : Option RuntimeSnapshot} {result : ServiceIdentityResult}
  {environment : Option DeploymentEnvironment} {installed : Option (List CString)}
  {inspection : Inspection}

theorem inspect_device_resolves
    (h : inspect_device fs paths device_path snapshot result environment installed =
      some inspection) :
    ∃ status sysfs_path, fs.stat device_path = some status ∧ status.character_device = true ∧
      resolve_event_node fs paths status = some (inspection.event_node, sysfs_path) ∧
      inspection.virtual_device = is_virtual_input fs.sysfs sysfs_path := by
  unfold inspect_device at h
  split at h
  · cases h
  · rename_i status hstat
    split at h
    · cases h
    · rename_i hdevice
      split at h
      · cases h
      · rename_i event_node sysfs_path hresolve
        obtain rfl := Option.some.inj h
        exact ⟨status, sysfs_path, hstat, by simpa using hdevice, hresolve, rfl⟩

theorem inspect_device_of_resolves (hstat : fs.stat device_path = some status)
    (hdevice : status.character_device = true)
    (hresolve : resolve_event_node fs paths status = some (event_node, sysfs_path)) :
    ∃ inspection, inspect_device fs paths device_path snapshot result environment installed =
        some inspection ∧ inspection.event_node = event_node ∧
      inspection.virtual_device = is_virtual_input fs.sysfs sysfs_path := by
  unfold inspect_device
  rw [hstat]
  dsimp only
  rw [hdevice, Bool.not_true, if_neg Bool.false_ne_true, hresolve]
  exact ⟨_, rfl, rfl, rfl⟩

end inspections

/-- In a tree of the kernel the listing and the inspection come to the same devices. A line of
the listing is of the kind that the capabilities have; its node can be inspected, and is found to
be this node and no virtual one. Any path of a device that can be inspected leads to a node, and
this node is listed exactly if it is not virtual and has controls. -/
theorem the_listing_shows_what_can_be_inspected (w : MachineWord) (tree : InputTree w)
    (snapshot : Option RuntimeSnapshot) (result : ServiceIdentityResult)
    (environment : Option DeploymentEnvironment) (installed : Option (List CString)) :
    ∃ lines, (∀ names, names.Perm tree.entries.names →
        list_devices w tree.fs.sysfs (fun _ => some names) tree.paths.sysfs_input_path
          tree.paths.device_input_path = some lines) ∧
      (∀ line ∈ lines, ∃ name ∈ tree.entries.names,
        line.devnode = join tree.paths.device_input_path name ∧
        line.metadata.classification = (tree.bitmaps name).kind ∧
        ∃ inspection, inspect_device tree.fs tree.paths line.devnode snapshot result environment
            installed = some inspection ∧
          inspection.event_node = line.devnode ∧ inspection.virtual_device = false) ∧
      ∀ device_path inspection, inspect_device tree.fs tree.paths device_path snapshot result
          environment installed = some inspection →
        ∃ name ∈ tree.entries.names,
          inspection.event_node = join tree.paths.device_input_path name ∧
          ((∃ line ∈ lines, line.devnode = inspection.event_node) ↔
            inspection.virtual_device = false ∧ (tree.bitmaps name).HasControls) := by
  refine ⟨(listed_nodes w tree.fs.sysfs tree.paths.sysfs_input_path tree.paths.device_input_path
    tree.entries.names).map (line_of w tree.fs.sysfs tree.paths.sysfs_input_path
      tree.paths.device_input_path), ?_, ?_, ?_⟩
  · intro names hperm
    rw [list_devices_eq]
    unfold listed_nodes
    rw [scan_event_nodes_perm tree.entries.nodup hperm]
  · intro line hline
    obtain ⟨name, hlisted, rfl⟩ := List.mem_map.mp hline
    obtain ⟨hname, hevent, hphysical, -⟩ := tree.listed_iff.mp hlisted
    have hnode : tree.NodeOf (tree.status name) name := by
      refine ⟨hname, hevent, ?_⟩
      simp [same_rdev]
    obtain ⟨inspection, hinspect, hnodename, hvirtual⟩ := inspect_device_of_resolves
      (tree.stat_eq name hname hevent) (tree.character_device name hname hevent)
      (tree.resolve_event_node_eq_some.mpr ⟨name, hnode, rfl⟩)
    refine ⟨name, hname, rfl, (tree.shows name hname hevent).classify_eq, inspection, hinspect,
      hnodename, ?_⟩
    rw [hvirtual, hphysical]
  · intro device_path inspection hinspect
    obtain ⟨status, sysfs_path, -, -, hresolve, hvirtual⟩ := inspect_device_resolves hinspect
    obtain ⟨name, hnode, hfound⟩ := tree.resolve_event_node_eq_some.mp hresolve
    obtain ⟨hevent_node, rfl⟩ := Prod.mk.inj hfound
    refine ⟨name, hnode.1, hevent_node, ?_⟩
    rw [hvirtual, hevent_node]
    constructor
    · rintro ⟨line, hline, hdevnode⟩
      obtain ⟨other, hlisted, rfl⟩ := List.mem_map.mp hline
      obtain rfl : other = name := CString.append_right_inj.mp hdevnode
      obtain ⟨-, -, hphysical, hcontrols⟩ := tree.listed_iff.mp hlisted
      exact ⟨hphysical, hcontrols⟩
    · rintro ⟨hphysical, hcontrols⟩
      refine ⟨_, List.mem_map_of_mem ?_, rfl⟩
      exact tree.listed_iff.mpr ⟨hnode.1, hnode.2.1, hphysical, hcontrols⟩

end trees

/-! ## A keyboard -/

def no_bits : CapabilityBits := ⟨∅, by simp⟩

/-- Three keys, as many as the listing looks for. -/
def keyboard_bitmaps : DeviceBitmaps where
  keys := ⟨{KEY_A, KEY_Z, KEY_ENTER}, by decide⟩
  absolute := no_bits
  relative := no_bits
  switches := no_bits
  properties := no_bits

def keyboard_capabilities : List (CString × CapabilityBits) :=
  [(cstr "capabilities/key", keyboard_bitmaps.keys), (cstr "capabilities/abs", no_bits),
    (cstr "capabilities/rel", no_bits), (cstr "capabilities/sw", no_bits),
    (cstr "properties", no_bits)]

/-- The files of the keyboard, with those of its capabilities. -/
def keyboard_capability_files : Filesystem := { keyboard_files with
  sysfs := { keyboard_files.sysfs with
    fopen := fun path =>
      match keyboard_capabilities.find? fun file =>
          path = cstr "/sys/class/input/event8/device/" ++ file.1 with
      | some file => some (capability_line .BITS_64 file.2 ++ cstr "\n")
      | none => keyboard_files.sysfs.fopen path } }

def keyboard_tree : InputTree .BITS_64 where
  fs := keyboard_capability_files
  paths := system_paths
  entries := ⟨[cstr "event8"], List.nodup_singleton _⟩
  status := fun _ => event_device
  bitmaps := fun _ => keyboard_bitmaps
  scandir_eq := by decide +kernel
  slash_free := by decide +kernel
  room := by decide +kernel
  stat_eq := by decide +kernel
  character_device := by decide +kernel
  numbered := by
    intro name hname _
    obtain rfl := List.mem_singleton.mp hname
    exact ⟨cstr "13:72\n", by decide +kernel, by decide +kernel⟩
  distinct := by
    intro name hname other hother _ _ _
    rw [List.mem_singleton.mp hname, List.mem_singleton.mp hother]
  shows := by
    intro name hname _
    obtain rfl := List.mem_singleton.mp hname
    exact {
      room := by decide +kernel
      keys := by unfold BitmapFile; decide +kernel
      absolute := by unfold BitmapFile; decide +kernel
      relative := by unfold BitmapFile; decide +kernel
      switches := by unfold BitmapFile; decide +kernel
      properties := by unfold BitmapFile; decide +kernel }

theorem the_keyboard_is_listed_and_inspected :
    ∃ line inspection, list_devices .BITS_64 keyboard_tree.fs.sysfs
        (fun _ => some [cstr "event8"]) (cstr "/sys/class/input") (cstr "/dev/input") =
          some [line] ∧
      line.metadata.classification = .Keyboard ∧ line.devnode = keyboard_node ∧
      inspect_device keyboard_tree.fs keyboard_tree.paths keyboard_node none .IDENTITY_VALID none
        none = some inspection ∧
      inspection.event_node = keyboard_node ∧ inspection.virtual_device = false := by
  obtain ⟨lines, hlist, hlines, -⟩ :=
    the_listing_shows_what_can_be_inspected .BITS_64 keyboard_tree none .IDENTITY_VALID none none
  have hlisted := hlist [cstr "event8"] (.refl _)
  have hnodes : ((list_devices .BITS_64 keyboard_tree.fs.sysfs (fun _ => some [cstr "event8"])
      (cstr "/sys/class/input") (cstr "/dev/input")).map fun lines =>
        lines.map DeviceLine.devnode) = some [keyboard_node] := by decide +kernel
  obtain ⟨lines', heq, hline⟩ := Option.map_eq_some_iff.mp hnodes
  obtain rfl : lines = lines' := Option.some.inj (hlisted.symm.trans heq)
  obtain ⟨line, rfl, hdevnode⟩ := List.map_eq_singleton_iff.mp hline
  obtain ⟨_, -, -, hkind, inspection, hinspect, hnode, hvirtual⟩ :=
    hlines line List.mem_cons_self
  rw [hdevnode] at hinspect hnode
  have hkeyboard : keyboard_bitmaps.kind = .Keyboard := by decide +kernel
  exact ⟨line, inspection, heq, hkind.trans hkeyboard, hdevnode, hinspect, hnode, hvirtual⟩

end input_proxy
