-- Rules that match their device: when the values that a rule compares with are the
-- current values of the device, and not what is left of them after they went
-- through the buffers (src/device_inspection.c, src/libinput_status.c).
import InputProxy.RuleIdentities

open c_strings udev_rules

namespace input_proxy

/-! ## Properties of a record -/

/-- What `fgets` gives of a line after its first piece. -/
def continuations (line : Bytes) : List Bytes := (fgets 1024 line).tail

/-- The last line of the property fits into the buffers, and the continuation of no later line
is read as this property with another value. -/
def WholeProperty (content : Bytes) (name : CString) (size : Nat) : Prop :=
  ∃ before line after value, lines content = before ++ line :: after ∧
    piece_property line = some (name, value) ∧ value.length < size ∧
    (∀ later ∈ after, ∀ property ∈ piece_property later, property.1 ≠ name) ∧
    ∀ foreign ∈ last_value name ((after.flatMap continuations).filterMap piece_property),
      snprintf size foreign = value

section properties

variable {content line piece : Bytes} {name value : CString}

theorem name_of_piece_property {property : CString × CString}
    (h : piece_property piece = some property) : 61 ∉ property.1.bytes := by
  unfold piece_property record_property at h
  split at h
  · exact CString.not_mem_of_split_first (u := property.2) h
  · cases h

theorem piece_property_of_trim (hz : 0 ∉ piece) (hname : 61 ∉ name.bytes)
    (h : trim piece = PROPERTY ++ (name.bytes ++ 61 :: value.bytes)) :
    piece_property piece = some (name, value) := by
  unfold piece_property record_property
  rw [bytes_buffered_line hz, h, if_pos (List.isPrefixOf_iff_prefix.mpr (List.prefix_append ..))]
  refine CString.split_first_append ?_ hname
  rw [CString.bytes_drop, bytes_buffered_line hz, h]
  rfl

/-- The first piece of a line is no property of a name that the line itself does not have. -/
theorem name_of_first_piece (hz : 0 ∉ line) {property : CString × CString}
    (h : piece_property (line.take BUFFERED) = some property) :
    ∃ whole, piece_property line = some (property.1, whole) := by
  have htake : 0 ∉ line.take BUFFERED := fun hmem => hz (List.mem_of_mem_take hmem)
  have htrim := trim_of_piece_property htake h
  obtain ⟨rest, hrest⟩ : trim (line.take BUFFERED) <+: trim line :=
    isPrefix_trim (trim_isPrefix.trans (List.take_prefix ..)) trim_trim
  have hfree : 0 ∉ property.2.bytes ++ rest := by
    rw [List.mem_append, not_or]
    refine ⟨property.2.nul_free, fun hmem => hz (trim_isPrefix.subset ?_)⟩
    rw [← hrest]
    exact List.mem_append_right _ hmem
  refine ⟨⟨property.2.bytes ++ rest, hfree⟩, ?_⟩
  refine piece_property_of_trim hz (name_of_piece_property h) ?_
  rw [← hrest, htrim]
  simp

/-- A line that fits leaves nothing but its end. -/
theorem continuations_of_short (hline : IsLine line) (h : (trim line).length ≤ BUFFERED) :
    ∀ piece ∈ continuations line, piece_property piece = none := by
  intro piece hpiece
  obtain ⟨ending, hending, hends⟩ := exists_ending line
  have htail : continuations line = pieces 1023 1023 (line.drop BUFFERED) := by
    unfold continuations fgets
    rw [pieces_of_isLine hline (by decide)]
    rfl
  have hdrop : line.drop BUFFERED = ending.drop (BUFFERED - (trim line).length) := by
    conv_lhs => rw [hending]
    rw [List.drop_append, List.drop_eq_nil_iff.mpr h, List.nil_append]
  have hpieceends : ∀ b ∈ piece, ends_line b = true := by
    intro b hb
    rw [htail] at hpiece
    have hmem : b ∈ line.drop BUFFERED := subset_of_mem_pieces hpiece hb
    rw [hdrop] at hmem
    exact hends b (List.mem_of_mem_drop hmem)
  have htrim : trim piece = [] := by
    have hnil : trim ([] ++ piece) = trim [] := trim_append hpieceends
    exact hnil
  have hfree : 0 ∉ piece := fun hmem => absurd (hpieceends 0 hmem) (by decide)
  rw [piece_property_eq_none hfree, htrim]
  rintro ⟨hstart, -⟩
  exact absurd (List.prefix_nil.mp hstart) (by decide)

theorem last_value_eq_none {properties : List (CString × CString)} :
    last_value name properties = none ↔ ∀ property ∈ properties, property.1 ≠ name := by
  unfold last_value
  simp

/-- The lines after the last one of a property give only what their continuations give. -/
theorem last_value_of_later {later : List Bytes} (hlines : ∀ line ∈ later, IsLine line)
    (hz : ∀ line ∈ later, 0 ∉ line)
    (hother : ∀ line ∈ later, ∀ property ∈ piece_property line, property.1 ≠ name) :
    last_value name (later.flatMap fun line => (fgets 1024 line).filterMap piece_property) =
      last_value name ((later.flatMap continuations).filterMap piece_property) := by
  induction later with
  | nil => rfl
  | cons line later ih =>
    obtain ⟨hline, hlines⟩ := List.forall_mem_cons.mp hlines
    obtain ⟨hfree, hz⟩ := List.forall_mem_cons.mp hz
    obtain ⟨hnone, hother⟩ := List.forall_mem_cons.mp hother
    have hfirst : last_value name (piece_property (line.take BUFFERED)).toList = none := by
      refine last_value_eq_none.mpr fun property hproperty hname => ?_
      obtain ⟨whole, hwhole⟩ := name_of_first_piece hfree (Option.mem_toList.mp hproperty)
      exact hnone (property.1, whole) hwhole hname
    rw [List.flatMap_cons, List.flatMap_cons, List.filterMap_append, filterMap_fgets hline,
      last_value_append, last_value_append, last_value_append, ih hlines hz hother, hfirst,
      Option.or_none]
    rfl

theorem last_value_iff (lines : List Bytes) :
    last_value name (lines.filterMap piece_property) = some value ↔
      ∃ before line after, lines = before ++ line :: after ∧
        piece_property line = some (name, value) ∧
        ∀ later ∈ after, ∀ property ∈ piece_property later, property.1 ≠ name := by
  constructor
  · intro h
    induction lines using List.reverseRecOn with
    | nil => cases h
    | append_singleton lines line ih =>
      rw [List.filterMap_append, last_value_append] at h
      by_cases hline : ∃ other, piece_property line = some (name, other)
      · obtain ⟨other, hline⟩ := hline
        rw [List.filterMap_cons_some hline, List.filterMap_nil, last_value_singleton,
          if_pos rfl] at h
        obtain rfl := Option.some.inj h
        exact ⟨lines, line, [], rfl, hline, by simp⟩
      · have hnone : last_value name ([line].filterMap piece_property) = none := by
          refine last_value_eq_none.mpr fun property hproperty hname => hline ⟨property.2, ?_⟩
          obtain ⟨line', hmem, hline'⟩ := List.mem_filterMap.mp hproperty
          rw [List.mem_singleton.mp hmem] at hline'
          rw [hline', ← hname]
        rw [hnone, Option.none_or] at h
        obtain ⟨before, line', after, rfl, hline', hafter⟩ := ih h
        refine ⟨before, line', after ++ [line], by simp, hline', fun later hlater => ?_⟩
        rcases List.mem_append.mp hlater with hlater | hlater
        · exact hafter later hlater
        · rw [List.mem_singleton.mp hlater]
          exact fun property hproperty hname => hline ⟨property.2, by rw [← hname]; exact hproperty⟩
  · rintro ⟨before, line, after, rfl, hline, hafter⟩
    have hnone : last_value name (after.filterMap piece_property) = none := by
      refine last_value_eq_none.mpr fun property hproperty hname => ?_
      obtain ⟨later, hmem, hlater⟩ := List.mem_filterMap.mp hproperty
      exact hafter later hmem property hlater hname
    rw [List.filterMap_append, List.filterMap_cons_some hline, last_value_append,
      ← List.singleton_append, last_value_append, hnone, last_value_singleton, if_pos rfl]
    rfl

/-- What is read last of a property that fits: the continuation of a later line that looks like
it, or else its value. -/
theorem last_value_read (hz : 0 ∉ content) {before after : List Bytes}
    (hlines : lines content = before ++ line :: after)
    (hline : piece_property line = some (name, value))
    (hshort : name.length + value.length + 3 ≤ BUFFERED)
    (hafter : ∀ later ∈ after, ∀ property ∈ piece_property later, property.1 ≠ name) :
    last_value name ((fgets 1024 content).filterMap piece_property) =
      (last_value name ((after.flatMap continuations).filterMap piece_property)).or
        (some value) := by
  have hisline : ∀ l ∈ lines content, IsLine l := fun l => isLine_of_mem_lines
  have hfree : ∀ l ∈ lines content, 0 ∉ l := fun l hmem hzero =>
    hz (subset_of_mem_lines hmem hzero)
  rw [hlines] at hisline hfree
  have hmem : line ∈ before ++ line :: after := List.mem_append_right _ (List.mem_cons_self ..)
  have hlater : ∀ l ∈ after, l ∈ before ++ line :: after := fun l hl =>
    List.mem_append_right _ (List.mem_cons_of_mem _ hl)
  have hfits : (trim line).length ≤ BUFFERED := by
    rw [trim_of_piece_property (hfree line hmem) hline]
    have hlength : PROPERTY.length = 2 := rfl
    simp only [List.length_append, List.length_cons, hlength]
    unfold CString.length at hshort
    omega
  -- the line itself is read as its property
  have hread : (fgets 1024 line).filterMap piece_property = [(name, value)] := by
    have hrest : (fgets 1024 line).tail.filterMap piece_property = [] :=
      List.filterMap_eq_nil_iff.mpr (continuations_of_short (hisline line hmem) hfits)
    rw [filterMap_fgets (hisline line hmem), first_piece_property (hfree line hmem) fun _ => hfits,
      hline, hrest]
    rfl
  rw [read_properties_eq, hlines, List.flatMap_append, List.flatMap_cons, hread, last_value_append,
    last_value_append, last_value_singleton, if_pos rfl,
    last_value_of_later (fun l hl => hisline l (hlater l hl)) (fun l hl => hfree l (hlater l hl))
      hafter]
  cases last_value name ((after.flatMap continuations).filterMap piece_property) <;> rfl

/-- What the buffer holds of a property is its current value exactly if the property is whole. -/
theorem property_is_current_iff (hz : 0 ∉ content) {size : Nat} (hsize : 0 < size)
    (hroom : name.length + size + 2 ≤ BUFFERED) {read : CString}
    (hread : last_value name ((fgets 1024 content).filterMap piece_property) = some read) :
    last_value name (line_properties content) = some (snprintf size read) ↔
      WholeProperty content name size := by
  have hroom' : ∀ {value : CString}, value.length < size →
      name.length + value.length + 3 ≤ BUFFERED := by
    intro value hvalue
    omega
  unfold line_properties WholeProperty
  rw [last_value_iff]
  constructor
  · rintro ⟨before, line, after, hlines, hline, hafter⟩
    have hshort := length_snprintf_lt hsize read
    refine ⟨before, line, after, _, hlines, hline, hshort, hafter, fun foreign hforeign => ?_⟩
    rw [last_value_read hz hlines hline (hroom' hshort) hafter, Option.mem_def.mp hforeign] at hread
    rw [Option.some.inj hread]
  · rintro ⟨before, line, after, value, hlines, hline, hshort, hafter, hforeign⟩
    refine ⟨before, line, after, hlines, ?_, hafter⟩
    rw [last_value_read hz hlines hline (hroom' hshort) hafter] at hread
    rw [hline]
    cases hlast : last_value name ((after.flatMap continuations).filterMap piece_property) with
    | none =>
      rw [hlast, Option.none_or] at hread
      rw [← Option.some.inj hread, snprintf_eq hshort]
    | some foreign =>
      rw [hlast, Option.some_or] at hread
      rw [← Option.some.inj hread, hforeign foreign hlast]

end properties

/-! ## Attributes -/

/-- The file of an attribute, whose text is one line that fits into the buffer. -/
def WholeAttribute (sysfs : Sysfs) (event_path file : CString) : Prop :=
  ∃ content, sysfs.fopen (event_path ++ cstr "/device/" ++ file) = some content ∧
    content.trim.length < 16 ∧ newline ∉ content.trim.bytes

/-- The line that was read of an attribute is its value exactly if the attribute is whole. -/
theorem attribute_is_current_iff {sysfs : Sysfs} {event_path file read : CString}
    (hread : read_line sysfs event_path file 16 = some read) :
    (sysfs.fopen (event_path ++ cstr "/device/" ++ file)).map CString.trim =
        some (snprintf 16 read) ↔
      WholeAttribute sysfs event_path file := by
  unfold read_line at hread
  dsimp only at hread
  split at hread
  · cases hread
  · split at hread
    · cases hread
    · rename_i content hopen
      obtain ⟨piece, hpiece, rfl⟩ := Option.map_eq_some_iff.mp hread
      have hmem : piece ∈ fgets 16 content.bytes := List.mem_of_mem_head? hpiece
      have hfree : 0 ∉ piece := fun hzero => content.nul_free (subset_of_mem_pieces hmem hzero)
      have hbuffer : snprintf 16 (buffered_line piece) = buffered_line piece := by
        refine snprintf_eq ?_
        unfold CString.length
        rw [bytes_buffered_line hfree]
        exact Nat.lt_of_le_of_lt trim_isPrefix.length_le
          (Nat.lt_succ_of_le (length_le_of_mem_fgets (by decide) hmem))
      rw [hbuffer, hopen, Option.map_some, Option.some_inj]
      unfold WholeAttribute
      rw [hopen]
      have hiff := trim_first_piece (by decide) hpiece
      constructor
      · intro heq
        obtain ⟨hlength, hnewline⟩ := hiff.mp (by
          rw [← bytes_buffered_line hfree, ← heq]
          rfl)
        exact ⟨content, rfl, hlength, hnewline⟩
      · rintro ⟨content', hopen', hlength, hnewline⟩
        obtain rfl := Option.some.inj hopen'
        refine CString.ext ?_
        rw [bytes_buffered_line hfree]
        exact (hiff.mpr ⟨hlength, hnewline⟩).symm

/-! ## Devices -/

/-- A device as udev and sysfs show it. The records of udev are texts. -/
structure ShownDevice where
  udev_data_path : CString
  device_status : FileStatus
  fopen : CString → Option OpenFile
  nul_free : ∀ path file, fopen path = some file → 0 ∉ file.content
  sysfs : Sysfs
  event_path : CString

namespace ShownDevice

/-- What can be read of the record. -/
def record (device : ShownDevice) : Bytes :=
  match device.fopen (record_path device.udev_data_path device.device_status) with
  | none => []
  | some file => file.content

/-- The identity that is collected of the device. -/
def identity (device : ShownDevice) : RuleBuffers :=
  collected_buffers
    (read_libinput_status device.udev_data_path device.device_status device.fopen).2
    (read_device_identity device.sysfs device.event_path)

end ShownDevice

/-- What a term compares a value with. -/
inductive Compared
  | property (name : CString)
  | attr (file : CString)

/-- A term that compares a property or an attribute of the device. -/
def compared (term : Term) : Option Compared :=
  if term.operator ≠ .equal then none
  else
    match term.attr with
    | none => none
    | some attr =>
      if term.key = ascii "ENV" then some (.property (.of attr))
      else if term.key = ascii "ATTRS" then some (.attr (.of attr))
      else none

/-- The value that the device has now. -/
def current_value (device : ShownDevice) : Compared → Option CString
  | .property name => last_value name (line_properties device.record)
  | .attr file =>
    (device.sysfs.fopen (device.event_path ++ cstr "/device/" ++ file)).map CString.trim

/-- A term that compares with the complete current value. -/
def Complete (device : ShownDevice) (term : Term) : Prop :=
  ∀ what ∈ compared term, (current_value device what).map CString.bytes = some term.value

/-- The size of the buffer of a property. -/
def property_size (name : CString) : Nat := if name = cstr "ID_PATH" then 512 else 32

/-- The device shows a property or an attribute that the buffers can hold. -/
def Whole (device : ShownDevice) : Compared → Prop
  | .property name => WholeProperty device.record name (property_size name)
  | .attr file => WholeAttribute device.sysfs device.event_path file

/-! ## Terms and devices -/

section terms

variable {device : ShownDevice} {field : CString} {name : String}

theorem compared_property (value : Bytes) :
    compared (match_term "ENV" name value) = some (.property (cstr name)) := by
  simp [compared, match_term, cstr]

theorem compared_attr (value : Bytes) :
    compared (match_term "ATTRS" name value) = some (.attr (cstr name)) := by
  have hne : ascii "ATTRS" ≠ ascii "ENV" := by decide
  simp [compared, match_term, cstr, hne]

theorem compared_fixed (key : String) (value : Bytes) :
    compared (match_term key none value) = none := by
  simp [compared, match_term]

theorem compared_ignore : compared ignore_term = none := rfl

theorem not_safe_empty : rule_value_is_safe (cstr "") = false := by decide +kernel

theorem calls_of_record (device : ShownDevice) :
    (read_libinput_status device.udev_data_path device.device_status
      device.fopen).2 = (fgets 1024 device.record).filterMap piece_property ∨
    (read_libinput_status device.udev_data_path device.device_status device.fopen).2 = [] := by
  unfold read_libinput_status ShownDevice.record
  dsimp only
  split
  · exact .inr rfl
  · split
    · exact .inr rfl
    · left
      rw [read_pieces]
      split <;> simp_all

theorem nul_free_record : 0 ∉ device.record := by
  unfold ShownDevice.record
  split
  · simp
  · rename_i file hopen
    exact device.nul_free _ file hopen

/-- A safe value was read from the record. -/
theorem read_of_safe_property {size : Nat}
    (hfield : field = ((last_value (cstr name) (read_libinput_status device.udev_data_path
      device.device_status device.fopen).2).map (snprintf size)).getD (cstr ""))
    (hsafe : rule_value_is_safe field = true) :
    ∃ read, last_value (cstr name) ((fgets 1024 device.record).filterMap piece_property) =
      some read ∧ field = snprintf size read := by
  rcases calls_of_record device with hcalls | hcalls
  · rw [hcalls] at hfield
    cases hread : last_value (cstr name) ((fgets 1024 device.record).filterMap piece_property) with
    | none =>
      rw [hread] at hfield
      rw [hfield] at hsafe
      exact absurd hsafe (by rw [Option.map_none, Option.getD_none, not_safe_empty]; decide)
    | some read =>
      rw [hread] at hfield
      exact ⟨read, rfl, hfield⟩
  · rw [hcalls] at hfield
    rw [hfield] at hsafe
    exact absurd hsafe (by
      rw [show last_value (cstr name) [] = none from rfl, Option.map_none, Option.getD_none,
        not_safe_empty]
      decide)

/-- A term is complete exactly if what it compares is whole, given that this is so of the value
of the device. -/
theorem complete_iff {term : Term} {what : Compared} {value : CString}
    (hcompared : compared term = some what) (hvalue : term.value = value.bytes)
    (hiff : current_value device what = some value ↔ Whole device what) :
    Complete device term ↔ Whole device what := by
  unfold Complete
  rw [← hiff, hcompared, hvalue]
  simp only [Option.mem_some_iff, forall_eq', Option.map_eq_some_iff]
  constructor
  · rintro ⟨current, hcurrent, hbytes⟩
    rw [hcurrent, CString.ext hbytes]
  · exact fun hcurrent => ⟨_, hcurrent, rfl⟩

theorem complete_property_iff
    (hfield : field = ((last_value (cstr name) (read_libinput_status device.udev_data_path
      device.device_status device.fopen).2).map (snprintf (property_size (cstr name)))).getD
        (cstr ""))
    (hname : (cstr name).length ≤ 20) (hsafe : rule_value_is_safe field = true) :
    Complete device (match_term "ENV" name field.bytes) ↔ Whole device (.property (cstr name)) := by
  obtain ⟨read, hread, rfl⟩ := read_of_safe_property hfield hsafe
  have hsize : 0 < property_size (cstr name) ∧ property_size (cstr name) ≤ 512 := by
    unfold property_size
    split <;> decide
  have hroom : (cstr name).length + property_size (cstr name) + 2 ≤ BUFFERED := by
    have hbuffered : BUFFERED = 1023 := rfl
    omega
  exact complete_iff (compared_property _) rfl
    (property_is_current_iff nul_free_record hsize.1 hroom hread)

theorem complete_attribute_iff {read : CString}
    (hread : read_line device.sysfs device.event_path (cstr name) 16 = some read) :
    Complete device (match_term "ATTRS" name (snprintf 16 read).bytes) ↔
      Whole device (.attr (cstr name)) :=
  complete_iff (compared_attr _) rfl (attribute_is_current_iff hread)

/-- A safe value was read from an attribute. -/
theorem read_of_safe_attribute {read : Option CString}
    (hfield : field = snprintf 16 (read.getD (cstr "")))
    (hsafe : rule_value_is_safe field = true) :
    ∃ text, read = some text ∧ field = snprintf 16 text := by
  subst hfield
  cases read with
  | none =>
    have hempty : snprintf 16 (cstr "") = cstr "" := snprintf_eq (by decide)
    rw [Option.getD_none, hempty, not_safe_empty] at hsafe
    cases hsafe
  | some text => exact ⟨text, rfl, rfl⟩

end terms

/-! ## Rules and devices -/

/-- What a rule compares, beside that it is about an event device. -/
def compared_of_rule (identity : RuleIdentity) : List Compared :=
  (rule_terms identity).filterMap compared

section rules

variable {device : ShownDevice}

theorem compared_of_rule_eq (identity : RuleIdentity) : compared_of_rule identity =
    (if rule_identity_has_udev_identity identity then
        [.property (cstr "ID_VENDOR_ID"), .property (cstr "ID_MODEL_ID")]
      else [.attr (cstr "id/bustype"), .attr (cstr "id/vendor"), .attr (cstr "id/product")]) ++
    [.property (cstr "ID_PATH")] := by
  unfold compared_of_rule rule_terms identity_terms fixed_terms udev_terms kernel_terms path_term
  split
  · simp only [List.cons_append, List.nil_append, List.filterMap_cons, List.filterMap_nil,
      compared_fixed, compared_property, compared_ignore]
  · simp only [List.cons_append, List.nil_append, List.filterMap_cons, List.filterMap_nil,
      compared_fixed, compared_property, compared_attr, compared_ignore]

theorem complete_of_none {term : Term} (h : compared term = none) : Complete device term := by
  unfold Complete
  rw [h]
  simp

/-- The terms that compare no value of the device are complete as they are. -/
theorem complete_terms_iff (identity : RuleIdentity) :
    (∀ term ∈ rule_terms identity, Complete device term) ↔
      (∀ term ∈ identity_terms identity, Complete device term) ∧
        Complete device (path_term identity) := by
  have hfixed : ∀ term ∈ fixed_terms, Complete device term := by
    unfold fixed_terms
    simp only [List.forall_mem_cons, List.not_mem_nil, false_imp_iff, implies_true, and_true]
    exact ⟨complete_of_none (compared_fixed _ _), complete_of_none (compared_fixed _ _),
      complete_of_none (compared_fixed _ _)⟩
  have hignore : Complete device ignore_term := complete_of_none compared_ignore
  unfold rule_terms
  simp only [List.forall_mem_append, List.forall_mem_cons, List.not_mem_nil, false_imp_iff,
    implies_true, and_true]
  exact ⟨fun h => ⟨h.1.2, h.2.1⟩, fun h => ⟨⟨hfixed, h.1⟩, h.2, hignore⟩⟩

theorem bus_of_safe (hsafe : rule_value_is_safe device.identity.bus = true) : ∃ text,
    read_line device.sysfs device.event_path (cstr "id/bustype") 16 = some text ∧
      device.identity.bus = snprintf 16 text := by
  have hbus : device.identity.bus =
      snprintf 16 (read_device_identity device.sysfs device.event_path).bus_id := rfl
  have hempty : snprintf 16 (cstr "") = cstr "" := snprintf_eq (by decide)
  rw [hbus] at hsafe ⊢
  unfold read_device_identity at hsafe ⊢
  dsimp only at hsafe ⊢
  split at hsafe
  · rename_i text hread
    split at hsafe
    · rename_i haccepts
      exact ⟨text, hread, by rw [if_pos haccepts]⟩
    · rw [hempty, not_safe_empty] at hsafe
      cases hsafe
  · rw [hempty, not_safe_empty] at hsafe
    cases hsafe

theorem complete_udev_terms_iff
    (hvendor : rule_value_is_safe device.identity.udev_vendor = true)
    (hmodel : rule_value_is_safe device.identity.udev_model = true) :
    (∀ term ∈ udev_terms device.identity.toRuleIdentity, Complete device term) ↔
      ∀ what ∈ [Compared.property (cstr "ID_VENDOR_ID"), .property (cstr "ID_MODEL_ID")],
        Whole device what := by
  obtain ⟨hvendorfield, hmodelfield, -⟩ := collected_properties
    (read_libinput_status device.udev_data_path device.device_status device.fopen).2
  unfold udev_terms
  simp only [List.forall_mem_cons, List.not_mem_nil, false_imp_iff, implies_true, and_true]
  exact and_congr (complete_property_iff hvendorfield (by decide +kernel) hvendor)
    (complete_property_iff hmodelfield (by decide +kernel) hmodel)

theorem complete_kernel_terms_iff (hbus : rule_value_is_safe device.identity.bus = true)
    (hvendor : rule_value_is_safe device.identity.vendor = true)
    (hproduct : rule_value_is_safe device.identity.product = true) :
    (∀ term ∈ kernel_terms device.identity.toRuleIdentity, Complete device term) ↔
      ∀ what ∈ [Compared.attr (cstr "id/bustype"), .attr (cstr "id/vendor"),
        .attr (cstr "id/product")], Whole device what := by
  have hvendorfield : device.identity.vendor = snprintf 16
    ((read_line device.sysfs device.event_path (cstr "id/vendor") 16).getD (cstr "")) := rfl
  have hproductfield : device.identity.product = snprintf 16
    ((read_line device.sysfs device.event_path (cstr "id/product") 16).getD (cstr "")) := rfl
  obtain ⟨bus, hbusread, hbus⟩ := bus_of_safe hbus
  obtain ⟨vendor, hvendorread, hvendor⟩ := read_of_safe_attribute hvendorfield hvendor
  obtain ⟨product, hproductread, hproduct⟩ := read_of_safe_attribute hproductfield hproduct
  unfold kernel_terms
  simp only [List.forall_mem_cons, List.not_mem_nil, false_imp_iff, implies_true, and_true]
  rw [hbus, hvendor, hproduct]
  exact and_congr (complete_attribute_iff hbusread)
    (and_congr (complete_attribute_iff hvendorread) (complete_attribute_iff hproductread))

/-- Each value that a rendered rule compares is the complete current value of the device exactly
if the device shows it whole. -/
theorem a_rule_matches_its_device_iff_its_values_are_whole (device : ShownDevice) (rule : CString)
    (h : render_libinput_ignore_rule device.identity.toRuleIdentity = some rule) :
    read_rule rule.bytes = some (rule_terms device.identity.toRuleIdentity) ∧
      ((∀ term ∈ rule_terms device.identity.toRuleIdentity, Complete device term) ↔
        ∀ what ∈ compared_of_rule device.identity.toRuleIdentity, Whole device what) := by
  refine ⟨read_of_rendered _ h, ?_⟩
  obtain ⟨hpathsafe, hsafe⟩ := narrow_values (narrow_of_rendered h)
  obtain ⟨-, -, hpath⟩ := collected_properties
    (read_libinput_status device.udev_data_path device.device_status device.fopen).2
  have hpathiff : Complete device (path_term device.identity.toRuleIdentity) ↔
      Whole device (.property (cstr "ID_PATH")) :=
    complete_property_iff hpath (by decide +kernel) hpathsafe
  rw [complete_terms_iff, compared_of_rule_eq, List.forall_mem_append, List.forall_mem_singleton,
    hpathiff]
  refine and_congr_left' ?_
  unfold identity_terms
  split
  · rename_i hudev
    rw [if_pos hudev] at hsafe
    exact complete_udev_terms_iff hsafe.1 hsafe.2
  · rename_i hudev
    rw [if_neg hudev] at hsafe
    exact complete_kernel_terms_iff hsafe.1 hsafe.2.1 hsafe.2.2

end rules

/-! ## Two keyboards -/

def no_sysfs : Sysfs where
  fopen := fun _ => none
  realpath := fun _ => none

/-- A device with this record. -/
def device_of (record : CString) : ShownDevice where
  udev_data_path := udev_data
  device_status := event_device
  fopen := always_reads record.bytes
  nul_free := fun _ _ h => Option.some.inj h ▸ record.nul_free
  sysfs := no_sysfs
  event_path := cstr "/sys/class/input/event8"

def path_line : CString := cstr "E:ID_PATH=pci-0000:00:14.0-usb-0:2:1.0\n"

def vendor_line : CString := cstr "E:ID_VENDOR_ID=046d\n"

def model_line : CString := cstr "E:ID_MODEL_ID=c31c\n"

/-- A model of 32 bytes, for which the buffer has no room. -/
def long_model_line : CString :=
  cstr "E:ID_MODEL_ID=" ++ .of (List.replicate 32 99) ++ cstr "\n"

def keyboard_device : ShownDevice := device_of (path_line ++ vendor_line ++ model_line)

def long_model_device : ShownDevice := device_of (path_line ++ vendor_line ++ long_model_line)

theorem whole_keyboard_values : ∀ what ∈ compared_of_rule keyboard_device.identity.toRuleIdentity,
    Whole keyboard_device what := by
  have hudev : rule_identity_has_udev_identity keyboard_device.identity.toRuleIdentity = true := by
    decide +kernel
  rw [compared_of_rule_eq, if_pos hudev]
  simp only [List.cons_append, List.nil_append, List.forall_mem_cons, List.not_mem_nil,
    false_imp_iff, implies_true, and_true]
  refine ⟨⟨[path_line.bytes], vendor_line.bytes, [model_line.bytes], cstr "046d", ?_⟩,
    ⟨[path_line.bytes, vendor_line.bytes], model_line.bytes, [], cstr "c31c", ?_⟩,
    ⟨[], path_line.bytes, [vendor_line.bytes, model_line.bytes],
      cstr "pci-0000:00:14.0-usb-0:2:1.0", ?_⟩⟩ <;> decide +kernel

theorem a_keyboard_rule_matches_its_keyboard : ∃ rule,
    render_libinput_ignore_rule keyboard_device.identity.toRuleIdentity = some rule ∧
      ∀ term ∈ rule_terms keyboard_device.identity.toRuleIdentity,
        Complete keyboard_device term := by
  have hrule : (render_libinput_ignore_rule keyboard_device.identity.toRuleIdentity).isSome := by
    decide +kernel
  obtain ⟨rule, hrule⟩ := Option.isSome_iff_exists.mp hrule
  exact ⟨rule, hrule, (a_rule_matches_its_device_iff_its_values_are_whole _ _ hrule).2.mpr
    whole_keyboard_values⟩

/-- A rule for a model that it does not name. -/
theorem a_rule_compares_with_a_shortened_model :
    ¬∀ (device : ShownDevice) (rule : CString),
      render_libinput_ignore_rule device.identity.toRuleIdentity = some rule →
      ∀ terms, read_rule rule.bytes = some terms → ∀ term ∈ terms, Complete device term := by
  intro h
  have hrule : (render_libinput_ignore_rule long_model_device.identity.toRuleIdentity).isSome := by
    decide +kernel
  obtain ⟨rule, hrule⟩ := Option.isSome_iff_exists.mp hrule
  have hterm : match_term "ENV" "ID_MODEL_ID" long_model_device.identity.udev_model.bytes ∈
      rule_terms long_model_device.identity.toRuleIdentity := by decide +kernel
  have hcomplete := h _ _ hrule _ (read_of_rendered _ hrule) _ hterm
  have hvalue := hcomplete (.property (cstr "ID_MODEL_ID")) (compared_property _)
  have hlengths : ((current_value long_model_device (.property (cstr "ID_MODEL_ID"))).map
      CString.bytes).map List.length = some 32 ∧
        long_model_device.identity.udev_model.length = 31 := by decide +kernel
  rw [hvalue, Option.map_some, Option.some_inj] at hlengths
  have hshort : long_model_device.identity.udev_model.bytes.length = 31 := hlengths.2
  exact absurd (hshort.symm.trans hlengths.1) (by decide)

end input_proxy
