-- The records of udev, as `input_proxy_read_libinput_status` reads them
-- (src/libinput_status.c): into a buffer of 1024 bytes, each piece as a line.
import InputProxy.BufferedLines
import InputProxy.ResponseFiles
import InputProxy.World

open c_strings

namespace input_proxy

/-! ## Files -/

def PATH_MAX : Nat := 4096

/-- `struct stat`, as far as it is read. -/
structure FileStatus where
  /-- `S_ISCHR(st_mode)`. -/
  character_device : Bool
  major : Nat
  minor : Nat
  uid : Nat
  gid : Nat
  /-- The permission bits of `st_mode`. -/
  mode : Nat
deriving DecidableEq

/-- A file that was opened: what can be read of it, whether the reading ends with an error, and
whether it can be closed. -/
structure OpenFile where
  content : Bytes
  read_failed : Bool
  close_failed : Bool

/-! ## The reader -/

/-- `"E:"` -/
def PROPERTY : Bytes := ascii "E:"

/-- The text before and after the first `=` of a line that begins with `E:`. -/
def record_property (line : CString) : Option (CString × CString) :=
  if PROPERTY.isPrefixOf line.bytes then (line.drop 2).split_first 61 else none

/-- `LIBINPUT_IGNORE_DEVICE=1` -/
def ignores (property : CString × CString) : Bool :=
  property.1 = cstr "LIBINPUT_IGNORE_DEVICE" ∧ property.2 = cstr "1"

/-- What the buffer holds after `fgets`, as a line without its end. -/
def buffered_line (piece : Bytes) : CString := (CString.of piece).trim

def piece_property (piece : Bytes) : Option (CString × CString) :=
  record_property (buffered_line piece)

/-- One turn of the loop: whether the device is ignored, and the calls of the handler. -/
def read_piece (state : Bool × List (CString × CString)) (piece : Bytes) :
    Bool × List (CString × CString) :=
  match piece_property piece with
  | none => state
  | some property => (state.1 || ignores property, state.2 ++ [property])

/-- The path of the record of a device. -/
def record_path (udev_data_path : CString) (device_status : FileStatus) : CString :=
  udev_data_path ++ cstr "/c" ++ decimal_text device_status.major ++ cstr ":" ++
    decimal_text device_status.minor

/-- The status, and the calls of the handler in their order. -/
def read_libinput_status (udev_data_path : CString) (device_status : FileStatus)
    (fopen : CString → Option OpenFile) : LibinputStatus × List (CString × CString) :=
  let path := record_path udev_data_path device_status
  if !device_status.character_device || path.length ≥ PATH_MAX then (.INDETERMINATE, [])
  else
    match fopen path with
    | none => (.INDETERMINATE, [])
    | some file =>
      let (ignored, calls) := (fgets 1024 file.content).foldl read_piece (false, [])
      if file.read_failed || file.close_failed then (.INDETERMINATE, calls)
      else (if ignored then .IGNORED else .NOT_IGNORED, calls)

/-! ## The loop -/

section loop

variable {piece line content : Bytes}

theorem read_pieces (pieces : List Bytes) (ignored : Bool) (calls : List (CString × CString)) :
    pieces.foldl read_piece (ignored, calls) =
      (ignored || (pieces.filterMap piece_property).any ignores,
        calls ++ pieces.filterMap piece_property) := by
  induction pieces generalizing ignored calls with
  | nil => simp
  | cons piece pieces ih =>
    rw [List.foldl_cons]
    cases hp : piece_property piece with
    | none =>
      have hread : read_piece (ignored, calls) piece = (ignored, calls) := by
        unfold read_piece
        rw [hp]
      rw [hread, ih, List.filterMap_cons_none hp]
    | some property =>
      have hread : read_piece (ignored, calls) piece =
          (ignored || ignores property, calls ++ [property]) := by
        unfold read_piece
        rw [hp]
      rw [hread, ih, List.filterMap_cons_some hp]
      simp [Bool.or_assoc]

theorem bytes_buffered_line (h : 0 ∉ piece) : (buffered_line piece).bytes = trim piece := by
  have hof : (CString.of piece).bytes = piece := by
    refine List.takeWhile_eq_self_iff.mpr fun b hb => ?_
    simpa using fun hz : b = 0 => h (hz ▸ hb)
  rw [buffered_line, CString.bytes_trim, hof]

/-- A property tells the line that it was read from. -/
theorem trim_of_piece_property (hz : 0 ∉ piece) {property : CString × CString}
    (h : piece_property piece = some property) :
    trim piece = PROPERTY ++ (property.1.bytes ++ 61 :: property.2.bytes) := by
  unfold piece_property record_property at h
  split at h
  · rename_i hstart
    rw [bytes_buffered_line hz] at hstart
    obtain ⟨rest, hrest⟩ := List.isPrefixOf_iff_prefix.mp hstart
    have hsplit := CString.bytes_of_split_first (t := property.1) (u := property.2) h
    rw [CString.bytes_drop, bytes_buffered_line hz, ← hrest] at hsplit
    rw [← hrest, ← hsplit]
    rfl
  · cases h

/-- A line of a property begins as one, and has an equals sign after that. -/
theorem piece_property_eq_none (hz : 0 ∉ piece) :
    piece_property piece = none ↔ ¬(PROPERTY <+: trim piece ∧ 61 ∈ (trim piece).drop 2) := by
  unfold piece_property record_property
  rw [← bytes_buffered_line hz]
  by_cases hstart : PROPERTY <+: (buffered_line piece).bytes
  · rw [if_pos (List.isPrefixOf_iff_prefix.mpr hstart), CString.split_first_eq_none]
    simp [hstart]
  · rw [if_neg fun h => hstart (List.isPrefixOf_iff_prefix.mp h)]
    simp [hstart]

end loop

/-! ## Lines that fit -/

/-- The bytes that the buffer holds beside its NUL. -/
abbrev BUFFERED : Nat := 1023

/-- The line of a property fits into the buffer, and no later piece of a line is itself read as
a property. -/
def Fits (line : Bytes) : Prop :=
  (piece_property line ≠ none → (trim line).length ≤ BUFFERED) ∧
    ∀ piece ∈ (fgets 1024 line).tail, piece_property piece = none

instance (line : Bytes) : Decidable (Fits line) :=
  inferInstanceAs (Decidable ((piece_property line ≠ none → (trim line).length ≤ BUFFERED) ∧
    ∀ piece ∈ (fgets 1024 line).tail, piece_property piece = none))

/-- The properties of the lines that end where a newline is. -/
def line_properties (content : Bytes) : List (CString × CString) :=
  (lines content).filterMap piece_property

section lines

variable {line content : Bytes}

theorem fgets_line (h : IsLine line) :
    fgets 1024 line = line.take BUFFERED :: (fgets 1024 line).tail := by
  unfold fgets
  rw [pieces_of_isLine h (by decide)]
  rfl

theorem not_mem_piece {piece : Bytes} (hz : 0 ∉ content) (hlines : line ∈ lines content)
    (h : piece ∈ fgets 1024 line) : 0 ∉ piece := fun hp =>
  hz (subset_of_mem_lines hlines (subset_of_mem_pieces h hp))

/-- A line of a property that fits is read as this property, and no line is read as another. -/
theorem first_piece_property (hz : 0 ∉ line)
    (hfits : piece_property line ≠ none → (trim line).length ≤ BUFFERED) :
    piece_property (line.take BUFFERED) = piece_property line := by
  have htake : 0 ∉ line.take BUFFERED := fun h => hz (List.mem_of_mem_take h)
  by_cases hp : piece_property line = none
  · rw [hp]
    rw [piece_property_eq_none hz] at hp
    rw [piece_property_eq_none htake]
    rintro ⟨hstart, hequals⟩
    -- the first piece without its end begins the line without its end
    have hbegins : trim (line.take BUFFERED) <+: trim line :=
      isPrefix_trim (trim_isPrefix.trans (List.take_prefix ..)) trim_trim
    refine hp ⟨hstart.trans hbegins, ?_⟩
    obtain ⟨rest, hrest⟩ := hbegins
    rw [← hrest]
    by_cases hlength : 2 ≤ (trim (line.take BUFFERED)).length
    · rw [List.drop_append_of_le_length hlength]
      exact List.mem_append_left _ hequals
    · rw [List.drop_eq_nil_iff.mpr (by omega)] at hequals
      simp at hequals
  · obtain ⟨ending, hending, hends⟩ := exists_ending line
    have htrim : trim (line.take BUFFERED) = trim line := by
      conv_lhs => rw [hending]
      rw [List.take_append, List.take_of_length_le (hfits hp), trim_append, trim_trim]
      exact fun b hb => hends b (List.mem_of_mem_take hb)
    have hbuffered : buffered_line (line.take BUFFERED) = buffered_line line :=
      CString.ext (by rw [bytes_buffered_line htake, bytes_buffered_line hz, htrim])
    unfold piece_property
    rw [hbuffered]

theorem read_properties_eq : (fgets 1024 content).filterMap piece_property =
    (lines content).flatMap fun line => (fgets 1024 line).filterMap piece_property := by
  unfold fgets
  rw [pieces_eq_flatMap, List.filterMap_flatMap]

/-- What a line gives: the property of its first piece, and those of the later ones. -/
theorem filterMap_fgets (h : IsLine line) : (fgets 1024 line).filterMap piece_property =
    (piece_property (line.take BUFFERED)).toList ++
      (fgets 1024 line).tail.filterMap piece_property := by
  conv_lhs => rw [fgets_line h]
  cases hp : piece_property (line.take BUFFERED) with
  | none => rw [List.filterMap_cons_none hp]; rfl
  | some property => rw [List.filterMap_cons_some hp]; rfl

theorem length_flatMap_toList {α β : Type} (e : α → Option β) (later : α → List β)
    (as : List α) : (as.flatMap fun a => (e a).toList ++ later a).length =
      (as.filterMap e).length + (as.map fun a => (later a).length).sum := by
  induction as with
  | nil => rfl
  | cons a as ih =>
    rw [List.flatMap_cons, List.length_append, ih, List.map_cons, List.sum_cons]
    cases he : e a with
    | none =>
      rw [List.filterMap_cons_none he]
      simp only [Option.toList_none, List.nil_append]
      omega
    | some b =>
      rw [List.filterMap_cons_some he]
      simp only [Option.toList_some, List.length_append, List.length_cons, List.length_nil]
      omega

/-- The properties that are read are those of the lines exactly if the lines fit. -/
theorem read_properties_iff (hz : 0 ∉ content) :
    (fgets 1024 content).filterMap piece_property = line_properties content ↔
      ∀ line ∈ lines content, Fits line := by
  have hline : ∀ line ∈ lines content, IsLine line := fun line => isLine_of_mem_lines
  have hfree : ∀ line ∈ lines content, 0 ∉ line := fun line hmem hzero =>
    hz (subset_of_mem_lines hmem hzero)
  have hread : (fgets 1024 content).filterMap piece_property =
      (lines content).flatMap fun line => (piece_property (line.take BUFFERED)).toList ++
        (fgets 1024 line).tail.filterMap piece_property := by
    rw [read_properties_eq]
    exact List.flatMap_congr fun line hmem => filterMap_fgets (hline line hmem)
  -- with lines that fit, the first pieces give the properties of the lines
  have hfirst (hfits : ∀ line ∈ lines content,
      piece_property line ≠ none → (trim line).length ≤ BUFFERED) :
      (fgets 1024 content).filterMap piece_property =
        (lines content).flatMap fun line => (piece_property line).toList ++
          (fgets 1024 line).tail.filterMap piece_property := by
    rw [hread]
    refine List.flatMap_congr fun line hmem => ?_
    rw [first_piece_property (hfree line hmem) (hfits line hmem)]
  constructor
  · intro heq
    have hfits : ∀ line ∈ lines content,
        piece_property line ≠ none → (trim line).length ≤ BUFFERED := by
      intro line hmem hp
      obtain ⟨property, hproperty⟩ := Option.ne_none_iff_exists'.mp hp
      -- the property was read from some piece, which is as long as its line
      have hprop : property ∈ (fgets 1024 content).filterMap piece_property := by
        rw [heq]
        exact List.mem_filterMap.mpr ⟨line, hmem, hproperty⟩
      rw [read_properties_eq] at hprop
      obtain ⟨line', hmem', hprop⟩ := List.mem_flatMap.mp hprop
      obtain ⟨piece, hpiece, hread'⟩ := List.mem_filterMap.mp hprop
      have htrim : trim line = trim piece := by
        rw [trim_of_piece_property (hfree line hmem) hproperty,
          trim_of_piece_property (not_mem_piece hz hmem' hpiece) hread']
      rw [htrim]
      exact trim_isPrefix.length_le.trans
        (length_le_of_mem_pieces (by decide) (hline line' hmem') hpiece)
    refine fun line hmem => ⟨hfits line hmem, fun piece hpiece => ?_⟩
    have hlengths := length_flatMap_toList piece_property
      (fun line => (fgets 1024 line).tail.filterMap piece_property) (lines content)
    rw [← hfirst hfits, heq] at hlengths
    have hsum : ((lines content).map fun line =>
        ((fgets 1024 line).tail.filterMap piece_property).length).sum = 0 := by
      unfold line_properties at hlengths
      omega
    have hnil : (fgets 1024 line).tail.filterMap piece_property = [] := by
      refine List.length_eq_zero_iff.mp (List.sum_eq_zero_iff_forall_eq_nat.mp hsum _ ?_)
      exact List.mem_map.mpr ⟨line, hmem, rfl⟩
    exact List.filterMap_eq_nil_iff.mp hnil piece hpiece
  · intro hfits
    rw [hfirst fun line hmem => (hfits line hmem).1]
    unfold line_properties
    rw [List.filterMap_eq_flatMap_toList]
    refine List.flatMap_congr fun line hmem => ?_
    rw [List.filterMap_eq_nil_iff.mpr (hfits line hmem).2, List.append_nil]

end lines

/-! ## The reader and the lines -/

/-- The handler was called for the properties of the lines, and the status tells whether one of
them is `LIBINPUT_IGNORE_DEVICE=1`. -/
def ReadFaithfully (r : LibinputStatus × List (CString × CString)) (content : Bytes) : Prop :=
  r.2 = line_properties content ∧
    (r.1 = .IGNORED ↔ (cstr "LIBINPUT_IGNORE_DEVICE", cstr "1") ∈ line_properties content)

section reader

variable {udev_data_path : CString} {device_status : FileStatus}
  {fopen : CString → Option OpenFile} {content : Bytes}

theorem any_ignores (properties : List (CString × CString)) :
    properties.any ignores = true ↔
      (cstr "LIBINPUT_IGNORE_DEVICE", cstr "1") ∈ properties := by
  rw [List.any_eq_true]
  constructor
  · rintro ⟨⟨name, value⟩, hmem, hignores⟩
    simp only [ignores, decide_eq_true_eq] at hignores
    obtain ⟨rfl, rfl⟩ := hignores
    exact hmem
  · exact fun hmem => ⟨_, hmem, by decide⟩

/-- A record that is read to its end. -/
theorem read_libinput_status_eq (hdevice : device_status.character_device = true)
    (hpath : (record_path udev_data_path device_status).length < PATH_MAX)
    (hopen : fopen (record_path udev_data_path device_status) = some ⟨content, false, false⟩) :
    read_libinput_status udev_data_path device_status fopen =
      (if ((fgets 1024 content).filterMap piece_property).any ignores then .IGNORED
        else .NOT_IGNORED, (fgets 1024 content).filterMap piece_property) := by
  unfold read_libinput_status
  have hopens : (!device_status.character_device ||
      decide ((record_path udev_data_path device_status).length ≥ PATH_MAX)) = false := by
    simp only [hdevice, Bool.not_true, Bool.false_or, decide_eq_false_iff_not]
    omega
  simp only [hopens, hopen, read_pieces]
  simp

/-- The reader is faithful to the lines of a record exactly if they fit. -/
theorem the_record_reader_is_faithful_iff_the_lines_fit
    (hdevice : device_status.character_device = true)
    (hpath : (record_path udev_data_path device_status).length < PATH_MAX)
    (hopen : fopen (record_path udev_data_path device_status) = some ⟨content, false, false⟩)
    (hz : 0 ∉ content) :
    ReadFaithfully (read_libinput_status udev_data_path device_status fopen) content ↔
      ∀ line ∈ lines content, Fits line := by
  rw [read_libinput_status_eq hdevice hpath hopen, ← read_properties_iff hz]
  constructor
  · exact fun h => h.1
  · intro heq
    refine ⟨heq, ?_⟩
    rw [heq, ← any_ignores]
    split
    · simp_all
    · simp_all

end reader

/-! ## Two records -/

def event_device : FileStatus := ⟨true, 13, 72, 0, 0, 0o660⟩

def udev_data : CString := cstr "/run/udev/data"

/-- Each file has this content. -/
def always_reads (content : Bytes) : CString → Option OpenFile :=
  fun _ => some ⟨content, false, false⟩

def keyboard_record : Bytes := ascii "I:72\nE:ID_INPUT=1\nE:LIBINPUT_IGNORE_DEVICE=1\n"

/-- A serial number that fills the buffer, and goes on like a property. -/
def long_record : Bytes :=
  ascii "E:ID_SERIAL=" ++ List.replicate 1011 97 ++ ascii "E:LIBINPUT_IGNORE_DEVICE=1\n"

theorem a_short_record_is_read_faithfully :
    ReadFaithfully (read_libinput_status udev_data event_device (always_reads keyboard_record))
      keyboard_record :=
  (the_record_reader_is_faithful_iff_the_lines_fit rfl (by decide +kernel) rfl
    (by decide +kernel)).mpr (by decide +kernel)

/-- The device of the long record is not ignored, but it is taken for one that is. -/
theorem a_long_value_is_read_as_another_property :
    ¬∀ (udev_data_path : CString) (device_status : FileStatus)
      (fopen : CString → Option OpenFile) (content : Bytes),
      device_status.character_device = true →
      (record_path udev_data_path device_status).length < PATH_MAX →
      fopen (record_path udev_data_path device_status) = some ⟨content, false, false⟩ →
      0 ∉ content →
      ReadFaithfully (read_libinput_status udev_data_path device_status fopen) content := by
  intro h
  have hstatus := (h udev_data event_device (always_reads long_record) long_record rfl
    (by decide +kernel) rfl (by decide +kernel)).2
  have hignored : (read_libinput_status udev_data event_device (always_reads long_record)).1 =
      .IGNORED := by decide +kernel
  have hlines : (cstr "LIBINPUT_IGNORE_DEVICE", cstr "1") ∉ line_properties long_record := by
    decide +kernel
  exact hlines (hstatus.mp hignored)

end input_proxy
