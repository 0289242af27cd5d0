-- The lists of an inspection (src/device_inspection.c): the event types, the codes and the
-- properties of a device, by name, each list under its label and wrapped into lines. From the
-- text they can be read again, so two devices have one text where they can do the same.
import InputProxy.Device
import InputProxy.WrappedLists

open c_strings packings

namespace input_proxy

/-! ## Printing -/

/-- A name that does not look like something else in a list. -/
structure ListedName extends ReportValue where
  flush : text.bytes.head? ≠ some blank
  not_none : text.bytes ≠ ascii "None"

/-- `libevdev_event_type_get_name`, `libevdev_event_code_get_name` and
`libevdev_property_get_name`. What has a name has one of its own. -/
structure EventNames where
  type : Nat → Option ListedName
  code : Nat → Nat → Option ListedName
  property : Nat → Option ListedName
  type_inj : ∀ {t t' name}, type t = some name → type t' = some name → t = t'
  code_inj : ∀ {t c c' name}, code t c = some name → code t c' = some name → c = c'
  property_inj : ∀ {p p' name}, property p = some name → property p' = some name → p = p'

/-- `"?"` -/
def no_name : ListedName where
  text := cstr "?"
  nonempty := by decide
  newline_free := by decide
  comma_free := by decide
  flush := by decide
  not_none := by decide

/-- The loop over the codes up to a maximum. -/
def print_list (label : CString) (maximum : Nat) (has : Nat → Bool)
    (name : Nat → Option ListedName) : Bytes :=
  end_list ((List.range (maximum + 1)).foldl (fun p code =>
    if !has code then p else append_list_value p ((name code).getD no_name).text)
      (begin_list label))

/-- The types that it is called with have a maximum; for another one its loop has no end. -/
def print_codes (c : Capabilities) (names : EventNames) (type : Nat) (label : CString) : Bytes :=
  print_list label ((event_type_get_max type).getD 0) (c.has_event_code type) (names.code type)

def print_event_types (c : Capabilities) (names : EventNames) : Bytes :=
  print_list (cstr "Event types:") EV_MAX c.has_event_type names.type

def print_properties (c : Capabilities) (names : EventNames) : Bytes :=
  print_list (cstr "Input properties:") INPUT_PROP_MAX c.has_property names.property

/-- The lists of `input_proxy_inspect_device_with_service_environment`. -/
def print_characteristics (c : Capabilities) (names : EventNames) : Bytes :=
  print_event_types c names ++ print_codes c names EV_KEY (cstr "Keys/buttons:") ++
    print_codes c names EV_REL (cstr "Relative axes:") ++
    print_codes c names EV_ABS (cstr "Absolute axes:") ++ print_properties c names

/-! ## Reading -/

/-- The line goes on with the list of the line in front of it. -/
def continues (line : Bytes) : Bool := indent.isPrefixOf line

/-- The lines of each list. -/
def grouped : List Bytes → List (List Bytes)
  | [] => []
  | line :: rest =>
    match grouped rest with
    | [] => [[line]]
    | group :: groups =>
      if group.head?.any continues then (line :: group) :: groups else [line] :: group :: groups

def read_values (group : List Bytes) : List Bytes :=
  let text := group.flatMap line_text
  if text = ascii "None" then [] else (text.splitOn comma).map (List.dropWhile (· = blank))

def read_report (text : Bytes) : List (List Bytes) := (grouped (lines text)).map read_values

section lines

variable {first text rest : Bytes} {later : List Bytes}

/-- What is in front of a line, is in front of it. -/
theorem lines_prepend {heading : Bytes} (h : newline ∉ heading)
    (hrest : lines rest = first :: later) :
    lines (heading ++ rest) = (heading ++ first) :: later := by
  induction heading with
  | nil => exact hrest
  | cons b heading ih =>
    rw [List.mem_cons, not_or] at h
    rw [List.cons_append, lines, if_neg (Ne.symm h.1), ih h.2]
    rfl

theorem first_line_ne_nil (h : lines text = first :: later) : first ≠ [] := by
  have hmem : first ∈ lines text := by
    rw [h]
    exact List.mem_cons_self ..
  exact (isLine_of_mem_lines hmem).1

theorem lines_append_newline (text rest : Bytes) :
    lines (text ++ [newline] ++ rest) = lines (text ++ [newline]) ++ lines rest := by
  induction text with
  | nil => simp [lines]
  | cons b text ih =>
    simp only [List.cons_append, lines]
    split
    · rw [ih]
      rfl
    · rw [ih]
      cases hlines : lines (text ++ [newline]) with
      | nil => exact absurd (lines_eq_nil.mp hlines) (by simp)
      | cons line later => rfl

theorem chomp_append (heading : Bytes) (h : first ≠ []) :
    chomp (heading ++ first) = heading ++ chomp first := by
  unfold chomp
  rw [List.getLast?_append_of_ne_nil _ h, List.dropLast_append_of_ne_nil h]
  split <;> rfl

end lines

section groups

variable {first : Bytes} {group rest : List Bytes}

/-- A list ends where a line begins another one. -/
theorem grouped_append (hgroup : ∀ line ∈ group, continues line = true)
    (hrest : rest.head?.any continues = false) :
    grouped (first :: (group ++ rest)) = (first :: group) :: grouped rest := by
  induction group generalizing first with
  | nil =>
    rw [List.nil_append, grouped]
    cases rest with
    | nil => rfl
    | cons line rest =>
      have hhead : ∀ groups, grouped (line :: rest) = groups →
          groups.head?.any (·.head?.any continues) = false := by
        rintro _ rfl
        unfold grouped
        split
        · exact hrest
        · split <;> exact hrest
      cases hgroups : grouped (line :: rest) with
      | nil => rfl
      | cons next groups =>
        have hnext := hhead _ hgroups
        simp only [List.head?_cons, Option.any_some] at hnext
        simp only [hnext]
        rfl
  | cons line group ih =>
    obtain ⟨hline, hlater⟩ := List.forall_mem_cons.mp hgroup
    rw [List.cons_append, grouped, ih hlater]
    simp [hline]

end groups

/-! ## What is printed is read -/

/-- The text of a list, that is read as these values. -/
structure ListText (text : Bytes) (values : List Bytes) : Prop where
  ends : ∃ body, text = body ++ [newline]
  opens : ∃ first later, lines text = first :: later ∧ continues first = false ∧
    ∀ line ∈ later, continues line = true
  reads : read_values (lines text) = values

theorem lines_flatten {texts : List Bytes} {values : List (List Bytes)}
    (h : List.Forall₂ ListText texts values) :
    grouped (lines texts.flatten) = texts.map lines ∧
      (lines texts.flatten).head?.any continues = false := by
  induction h with
  | nil => exact ⟨rfl, rfl⟩
  | @cons text _ texts _ htext _ ih =>
    obtain ⟨body, hbody⟩ := htext.ends
    obtain ⟨first, later, hlines, hfirst, hlater⟩ := htext.opens
    have happend : lines (text :: texts).flatten = first :: (later ++ lines texts.flatten) := by
      rw [List.flatten_cons, hbody, lines_append_newline, ← hbody, hlines]
      rfl
    rw [happend]
    refine ⟨?_, hfirst⟩
    rw [grouped_append hlater ih.2, ih.1, List.map_cons, hlines]

theorem read_report_flatten {texts : List Bytes} {values : List (List Bytes)}
    (h : List.Forall₂ ListText texts values) : read_report texts.flatten = values := by
  unfold read_report
  rw [(lines_flatten h).1, List.map_map]
  induction h with
  | nil => rfl
  | cons htext _ ih => exact congrArg₂ List.cons htext.reads ih

section values

variable {label : Label} {values : List ListedName} {text lead : Bytes}

theorem dropWhile_lead (value : ListedName) (hlead : lead = [] ∨ lead = [blank]) :
    (lead ++ value.text.bytes).dropWhile (· = blank) = value.text.bytes := by
  have hflush := value.flush
  obtain ⟨b, rest, hbytes⟩ := List.exists_cons_of_ne_nil value.nonempty
  rw [hbytes, List.head?_cons, ne_eq, Option.some_inj] at hflush
  rw [hbytes]
  rcases hlead with rfl | rfl
  · simp [hflush]
  · simp [hflush]

/-- Values with commas between them are read one by one, whether blanks follow the commas or
not. -/
theorem splitOn_separated (hvalues : values ≠ [])
    (h : Separated (values.map ListedName.toReportValue) text)
    (hlead : lead = [] ∨ lead = [blank]) :
    ((lead ++ text).splitOn comma).map (List.dropWhile (· = blank)) =
      values.map (·.text.bytes) := by
  induction values generalizing text lead with
  | nil => exact absurd rfl hvalues
  | cons value values ih =>
    have hfree : comma ∉ lead ++ value.text.bytes := by
      rw [List.mem_append, not_or]
      refine ⟨?_, value.comma_free⟩
      rcases hlead with rfl | rfl <;> decide
    cases values with
    | nil =>
      obtain rfl : text = value.text.bytes := h
      rw [List.splitOn_eq_singleton hfree, List.map_singleton, dropWhile_lead value hlead]
      rfl
    | cons next values =>
      obtain ⟨later, hlater, htext⟩ := h
      obtain ⟨lead', hlead', rfl⟩ : ∃ lead', (lead' = [] ∨ lead' = [blank]) ∧
          text = value.text.bytes ++ comma :: (lead' ++ later) := by
        rcases htext with rfl | rfl
        · exact ⟨[blank], .inr rfl, by simp⟩
        · exact ⟨[], .inl rfl, by simp⟩
      rw [← List.append_assoc, List.splitOn_append_cons_self_of_not_mem hfree, List.map_cons,
        dropWhile_lead value hlead, ih (List.cons_ne_nil _ _) hlater hlead']
      rfl

theorem separated_ne_none (hvalues : values ≠ [])
    (h : Separated (values.map ListedName.toReportValue) text) : text ≠ ascii "None" := by
  match values with
  | [value] =>
    obtain rfl : text = value.text.bytes := h
    exact value.not_none
  | value :: next :: values =>
    obtain ⟨later, -, htext⟩ := h
    have hcomma : comma ∈ text := by
      rcases htext with rfl | rfl <;> simp
    rintro rfl
    exact absurd hcomma (by decide)

/-- A label that begins a list. -/
structure Heading extends Label where
  flush : text.bytes.head?.any (· ≠ blank) = true
  newline_free : newline ∉ text.bytes

variable {heading : Heading}

theorem length_indent : indent.length = REPORT_VALUE_COLUMN := List.length_replicate

theorem indent_free : newline ∉ indent :=
  fun h => absurd (List.eq_of_mem_replicate h) (by decide)

theorem heading_free : newline ∉ (begin_list heading.text).output := by
  have hblanks : newline ∉ List.replicate (22 - heading.text.length) blank :=
    fun h => absurd (List.eq_of_mem_replicate h) (by decide)
  have hends : newline ∉ [blank, blank] ∧ newline ∉ [blank] := by decide
  simp only [begin_list, List.mem_append, not_or]
  exact ⟨⟨⟨hends.1, heading.newline_free⟩, hblanks⟩, hends.2⟩

theorem continues_indent (text : Bytes) : continues (indent ++ text) = true :=
  List.isPrefixOf_iff_prefix.mpr (List.prefix_append ..)

theorem not_continues_heading (text : Bytes) :
    continues ((begin_list heading.text).output ++ text) = false := by
  apply Bool.eq_false_iff.mpr
  intro h
  obtain ⟨rest, hrest⟩ := List.isPrefixOf_iff_prefix.mp h
  obtain ⟨hsame, -⟩ := List.append_inj hrest (by
    rw [length_heading heading.toLabel, length_indent])
  obtain ⟨b, hb, hne⟩ := (Option.any_eq_true _ _).mp heading.flush
  -- the label has a byte that is no blank
  have hmem : b ∈ indent := by
    rw [hsame]
    simp only [begin_list, List.mem_append]
    exact .inl (.inl (.inr (List.mem_of_mem_head? hb)))
  exact absurd (List.eq_of_mem_replicate hmem) (by simpa using hne)

theorem continues_printed {rows : List (List ReportValue)} :
    ∀ line ∈ printed rows, continues line = true := by
  apply (forall_mem_printed (P := (continues · = true))).mpr
  constructor
  · intro line _
    rw [List.append_assoc]
    exact continues_indent _
  · intro line _
    rw [List.append_assoc]
    exact continues_indent _

theorem continues_report_lines :
    ∀ line ∈ report_lines (print_wrapped_values heading.text
      ((values.map ListedName.toReportValue).map ReportValue.text)), continues line = true := by
  by_cases hvalues : values = []
  · subst hvalues
    rw [List.map_nil, List.map_nil, @report_lines_none heading.toLabel, List.forall_mem_singleton,
      List.append_assoc]
    exact continues_indent _
  · rw [@report_lines_eq heading.toLabel _ (by simpa using hvalues)]
    exact continues_printed

theorem separated_joined (hvalues : values ≠ []) :
    Separated (values.map ListedName.toReportValue) (joined (print_wrapped_values heading.text
      ((values.map ListedName.toReportValue).map ReportValue.text))) := by
  have hmap : values.map ListedName.toReportValue ≠ [] := by simpa using hvalues
  have hflatten : (packed_lines (values.map ListedName.toReportValue)).flatten =
      values.map ListedName.toReportValue := flatten_pack
  have hrows : packed_lines (values.map ListedName.toReportValue) ≠ [] := by
    intro h
    rw [h] at hflatten
    exact hmap hflatten.symm
  have hjoined := separated_printed hrows fun line hline => (packed_of_mem_pack hline).ne_nil
  unfold joined
  rw [@report_lines_eq heading.toLabel _ hmap]
  rwa [hflatten] at hjoined

/-- Nothing is lost between the lines, nor in the first one. -/
theorem read_joined : (let text := joined (print_wrapped_values heading.text
      ((values.map ListedName.toReportValue).map ReportValue.text))
    if text = ascii "None" then [] else (text.splitOn comma).map (List.dropWhile (· = blank))) =
      values.map (·.text.bytes) := by
  dsimp only
  by_cases hvalues : values = []
  · subst hvalues
    have htext : joined (print_wrapped_values heading.text []) = ascii "None" := by
      unfold joined
      rw [@report_lines_none heading.toLabel, List.flatMap_singleton, line_text_eq]
    rw [List.map_nil, List.map_nil, htext]
    rfl
  · have hseparated := @separated_joined values heading hvalues
    rw [if_neg (separated_ne_none hvalues hseparated)]
    exact splitOn_separated hvalues hseparated (.inl rfl)

theorem list_text_print :
    ListText (print_wrapped_values heading.text
      ((values.map ListedName.toReportValue).map ReportValue.text))
      (values.map (·.text.bytes)) := by
  have hread := @read_joined values heading
  have hcontinues := @continues_report_lines values heading
  generalize houtput : print_wrapped_values heading.text
    ((values.map ListedName.toReportValue).map ReportValue.text) = output at hread hcontinues ⊢
  have hends : ∃ body, output = body ++ [newline] := by
    rw [← houtput]
    unfold print_wrapped_values end_list
    split
    · exact ⟨_, rfl⟩
    · have hnone : ascii "None\n" = ascii "None" ++ [newline] := by decide
      rw [hnone, ← List.append_assoc]
      exact ⟨_, rfl⟩
  have hheading : ∃ rest, output = (begin_list heading.text).output ++ rest ∧ rest ≠ [] := by
    by_cases hvalues : values = []
    · subst hvalues
      exact ⟨ascii "None\n", houtput.symm, by simp [ascii]⟩
    · have hmap : values.map ListedName.toReportValue ≠ [] := by simpa using hvalues
      rw [print_wrapped_values_eq hmap, List.append_assoc] at houtput
      exact ⟨_, houtput.symm, by simp⟩
  obtain ⟨rest, hrest, hne⟩ := hheading
  obtain ⟨first, later, hlines⟩ :=
    List.exists_cons_of_ne_nil fun hnil => hne (lines_eq_nil.mp hnil)
  have hdrop : output.drop REPORT_VALUE_COLUMN = rest := by
    rw [hrest]
    exact List.drop_left' (length_heading heading.toLabel)
  have hopened : lines output = ((begin_list heading.text).output ++ first) :: later := by
    rw [hrest]
    exact lines_prepend heading_free hlines
  have hreport : report_lines output = (indent ++ first) :: later := by
    unfold report_lines
    rw [hdrop]
    exact lines_prepend indent_free hlines
  refine ⟨hends, ⟨_, later, hopened, not_continues_heading first, ?_⟩, ?_⟩
  · intro line hline
    apply hcontinues
    rw [hreport]
    exact List.mem_cons_of_mem _ hline
  · have hfirst : line_text ((begin_list heading.text).output ++ first) =
        line_text (indent ++ first) := by
      have hfirst := first_line_ne_nil hlines
      unfold line_text
      rw [chomp_append _ hfirst, chomp_append _ hfirst,
        List.drop_left' (length_heading heading.toLabel), List.drop_left' length_indent]
    have hjoined : (lines output).flatMap line_text = joined output := by
      unfold joined
      rw [hreport, hopened, List.flatMap_cons, List.flatMap_cons, hfirst]
    unfold read_values
    rw [hjoined]
    exact hread

end values

/-! ## What a device can do -/

/-- The names of a list, in order. -/
def listed_names (maximum : Nat) (has : Nat → Bool) (name : Nat → Option ListedName) :
    List ListedName :=
  ((List.range (maximum + 1)).filter has).map fun code => (name code).getD no_name

/-- The names of all lists. -/
def characteristic_names (c : Capabilities) (names : EventNames) : List (List ListedName) :=
  [listed_names EV_MAX c.has_event_type names.type,
    listed_names KEY_MAX (c.has_event_code EV_KEY) (names.code EV_KEY),
    listed_names REL_MAX (c.has_event_code EV_REL) (names.code EV_REL),
    listed_names ABS_MAX (c.has_event_code EV_ABS) (names.code EV_ABS),
    listed_names INPUT_PROP_MAX c.has_property names.property]

/-- All that the device has is known to libevdev by name. -/
structure Named (names : EventNames) (c : Capabilities) : Prop where
  type : ∀ type, c.has_event_type type = true → (names.type type).isSome
  code : ∀ type ∈ [EV_KEY, EV_REL, EV_ABS], ∀ code, c.has_event_code type code = true →
    (names.code type code).isSome
  property : ∀ property, c.has_property property = true → (names.property property).isSome

structure SameCharacteristics (c c' : Capabilities) : Prop where
  type : c.has_event_type = c'.has_event_type
  code : ∀ type ∈ [EV_KEY, EV_REL, EV_ABS], c.has_event_code type = c'.has_event_code type
  property : c.has_property = c'.has_property

section characteristics

variable {maximum : Nat} {has has' : Nat → Bool} {name : Nat → Option ListedName}
  {c c' : Capabilities} {names : EventNames}

theorem ListText.of_heading (heading : Heading) :
    ListText (print_list heading.text maximum has name)
      ((listed_names maximum has name).map (·.text.bytes)) := by
  have hprint : print_list heading.text maximum has name = print_wrapped_values heading.text
      (((listed_names maximum has name).map ListedName.toReportValue).map ReportValue.text) := by
    unfold print_list print_wrapped_values listed_names
    rw [List.foldl_map, List.foldl_map, List.foldl_map, List.foldl_filter]
    congr 2
    funext p code
    cases has code <;> rfl
  rw [hprint]
  exact list_text_print

theorem list_text_of_label {label : CString} (hshort : label.length ≤ 22)
    (hflush : label.bytes.head?.any (· ≠ blank) = true) (hfree : newline ∉ label.bytes) :
    ListText (print_list label maximum has name)
      ((listed_names maximum has name).map (·.text.bytes)) :=
  ListText.of_heading ⟨⟨label, hshort⟩, hflush, hfree⟩

theorem lists_of_characteristics :
    List.Forall₂ ListText [print_event_types c names,
        print_codes c names EV_KEY (cstr "Keys/buttons:"),
        print_codes c names EV_REL (cstr "Relative axes:"),
        print_codes c names EV_ABS (cstr "Absolute axes:"), print_properties c names]
      ((characteristic_names c names).map (·.map (·.text.bytes))) := by
  refine .cons ?_ (.cons ?_ (.cons ?_ (.cons ?_ (.cons ?_ .nil))))
  all_goals exact list_text_of_label (by decide) (by decide) (by decide)

/-- The lists of the report are read as the names of what the device has. -/
theorem read_characteristics : read_report (print_characteristics c names) =
    (characteristic_names c names).map (·.map (·.text.bytes)) := by
  have hprint : print_characteristics c names = [print_event_types c names,
      print_codes c names EV_KEY (cstr "Keys/buttons:"),
      print_codes c names EV_REL (cstr "Relative axes:"),
      print_codes c names EV_ABS (cstr "Absolute axes:"),
      print_properties c names].flatten := by
    simp [print_characteristics]
  rw [hprint]
  exact read_report_flatten lists_of_characteristics

theorem ListedName.ext_bytes {value other : ListedName} (h : value.text.bytes = other.text.bytes) :
    value = other := by
  obtain ⟨⟨text, _, _, _⟩, _, _⟩ := value
  obtain ⟨⟨text', _, _, _⟩, _, _⟩ := other
  obtain rfl : text = text' := CString.ext h
  rfl

/-- Names that are each of one code tell the codes. -/
theorem has_of_listed {code : Nat}
    (hinj : ∀ {code code' text}, name code = some text → name code' = some text → code = code')
    (hmaximum : ∀ code, has code = true → code ≤ maximum)
    (hnamed : ∀ code, has code = true → (name code).isSome)
    (hnamed' : ∀ code, has' code = true → (name code).isSome)
    (h : (listed_names maximum has name).map (·.text.bytes) =
      (listed_names maximum has' name).map (·.text.bytes)) (hhas : has code = true) :
    has' code = true := by
  have hlists : listed_names maximum has name = listed_names maximum has' name :=
    List.map_injective_iff.mpr (fun _ _ => ListedName.ext_bytes) h
  have hmem : (name code).getD no_name ∈ listed_names maximum has' name := by
    rw [← hlists]
    refine List.mem_map_of_mem (List.mem_filter.mpr ⟨?_, hhas⟩)
    exact List.mem_range.mpr (Nat.lt_succ_of_le (hmaximum code hhas))
  obtain ⟨other, hother, hsame⟩ := List.mem_map.mp hmem
  have hhas' := (List.mem_filter.mp hother).2
  obtain ⟨text, htext⟩ := Option.isSome_iff_exists.mp (hnamed code hhas)
  obtain ⟨text', htext'⟩ := Option.isSome_iff_exists.mp (hnamed' other hhas')
  rw [htext, htext', Option.getD_some, Option.getD_some] at hsame
  subst hsame
  obtain rfl := hinj htext htext'
  exact hhas'

theorem has_eq_of_listed
    (hinj : ∀ {code code' text}, name code = some text → name code' = some text → code = code')
    (hmaximum : ∀ code, has code = true → code ≤ maximum)
    (hmaximum' : ∀ code, has' code = true → code ≤ maximum)
    (hnamed : ∀ code, has code = true → (name code).isSome)
    (hnamed' : ∀ code, has' code = true → (name code).isSome)
    (h : (listed_names maximum has name).map (·.text.bytes) =
      (listed_names maximum has' name).map (·.text.bytes)) : has = has' := by
  funext code
  apply Bool.eq_iff_iff.mpr
  constructor
  · exact has_of_listed hinj hmaximum hnamed hnamed' h
  · exact has_of_listed hinj hmaximum' hnamed' hnamed h.symm

theorem le_of_has_event_type {type : Nat} (h : c.has_event_type type = true) : type ≤ EV_MAX := by
  unfold Capabilities.has_event_type at h
  simp only [Bool.or_eq_true, beq_iff_eq, Bool.and_eq_true, decide_eq_true_eq] at h
  rcases h with rfl | h
  · decide
  · exact h.1

theorem le_of_has_event_code {type maximum code : Nat} (htype : type ≠ EV_SYN)
    (hmaximum : event_type_get_max type = some maximum)
    (h : c.has_event_code type code = true) : code ≤ maximum := by
  unfold Capabilities.has_event_code at h
  rw [hmaximum] at h
  simp only [Bool.and_eq_true, Bool.or_eq_true, beq_iff_eq, decide_eq_true_eq, htype,
    false_or] at h
  exact h.2.1

theorem le_of_has_property {property : Nat} (h : c.has_property property = true) :
    property ≤ INPUT_PROP_MAX := by
  unfold Capabilities.has_property at h
  simp only [Bool.and_eq_true, decide_eq_true_eq] at h
  exact h.1

theorem same_of_texts (hnamed : Named names c) (hnamed' : Named names c')
    (h : print_characteristics c names = print_characteristics c' names) :
    SameCharacteristics c c' := by
  have hread := congrArg read_report h
  rw [read_characteristics, read_characteristics] at hread
  simp only [characteristic_names, List.map_cons, List.map_nil, List.cons.injEq, and_true] at hread
  obtain ⟨htypes, hkeys, hrelative, habsolute, hproperties⟩ := hread
  have hcodes : ∀ type maximum, type ∈ [EV_KEY, EV_REL, EV_ABS] → type ≠ EV_SYN →
      event_type_get_max type = some maximum →
      (listed_names maximum (c.has_event_code type) (names.code type)).map (·.text.bytes) =
        (listed_names maximum (c'.has_event_code type) (names.code type)).map (·.text.bytes) →
      c.has_event_code type = c'.has_event_code type := by
    intro type maximum hmem htype hmaximum hlists
    exact has_eq_of_listed names.code_inj (fun _ => le_of_has_event_code htype hmaximum)
      (fun _ => le_of_has_event_code htype hmaximum) (hnamed.code type hmem)
      (hnamed'.code type hmem) hlists
  refine ⟨?_, ?_, ?_⟩
  · exact has_eq_of_listed names.type_inj (fun _ => le_of_has_event_type)
      (fun _ => le_of_has_event_type) hnamed.type hnamed'.type htypes
  · intro type hmem
    simp only [List.mem_cons, List.not_mem_nil, or_false] at hmem
    rcases hmem with rfl | rfl | rfl
    · exact hcodes EV_KEY KEY_MAX (by simp) (by decide) rfl hkeys
    · exact hcodes EV_REL REL_MAX (by simp) (by decide) rfl hrelative
    · exact hcodes EV_ABS ABS_MAX (by simp) (by decide) rfl habsolute
  · exact has_eq_of_listed names.property_inj (fun _ => le_of_has_property)
      (fun _ => le_of_has_property) hnamed.property hnamed'.property hproperties

theorem text_of_same (h : SameCharacteristics c c') :
    print_characteristics c names = print_characteristics c' names := by
  unfold print_characteristics print_event_types print_codes print_properties
  rw [h.type, h.property, h.code EV_KEY (by simp), h.code EV_REL (by simp),
    h.code EV_ABS (by simp)]

end characteristics

/-- From the lists of an inspection the names of all that the device has are read, in the order of
their codes, however the lists were wrapped. Where all of it has names, two devices have the same
lists exactly if they can do the same. -/
theorem the_lists_say_what_a_device_can_do (names : EventNames) :
    (∀ c, read_report (print_characteristics c names) =
      (characteristic_names c names).map (·.map (·.text.bytes))) ∧
    ∀ c c', Named names c → Named names c' →
      (print_characteristics c names = print_characteristics c' names ↔
        SameCharacteristics c c') :=
  ⟨fun _ => read_characteristics, fun _ _ hnamed hnamed' =>
    ⟨same_of_texts hnamed hnamed', text_of_same⟩⟩

/-! A pointer with one axis, and one with two. -/

def pointer_type_names : List ListedName :=
  [⟨⟨cstr "EV_SYN", by decide, by decide, by decide⟩, by decide, by decide⟩,
    ⟨⟨cstr "EV_KEY", by decide, by decide, by decide⟩, by decide, by decide⟩,
    ⟨⟨cstr "EV_REL", by decide, by decide, by decide⟩, by decide, by decide⟩]

def pointer_axis_names : List ListedName :=
  [⟨⟨cstr "REL_X", by decide, by decide, by decide⟩, by decide, by decide⟩,
    ⟨⟨cstr "REL_Y", by decide, by decide, by decide⟩, by decide, by decide⟩]

theorem code_of_table {table : List ListedName} {n n' : Nat} {name : ListedName}
    (hnodup : (table.map (·.text.bytes)).Nodup) (h : table[n]? = some name)
    (h' : table[n']? = some name) : n = n' :=
  ((List.getElem?_inj (List.getElem?_eq_some_iff.mp h').1 (List.Nodup.of_map _ hnodup)).mp
    (h'.trans h.symm)).symm

def pointer_names : EventNames where
  type type := pointer_type_names[type]?
  code type code := if type = EV_REL then pointer_axis_names[code]? else none
  property _ := none
  type_inj := code_of_table (by decide)
  code_inj {type _ _ _} h h' := by
    by_cases htype : type = EV_REL
    · rw [if_pos htype] at h h'
      exact code_of_table (by decide) h h'
    · rw [if_neg htype] at h
      cases h
  property_inj h := by cases h

/-- A pointer with this many axes. -/
def pointer (axes : Nat) : Capabilities where
  uniq := none
  bustype := 0
  vendor := 0
  product := 0
  version := 0
  property _ := false
  event_type type := type = EV_REL
  event_code type code := decide (type = EV_REL ∧ code < axes)
  abs_info _ := ⟨0, 0, 0, 0, 0⟩
  repeat_value _ := 0

theorem named_pointer {axes : Nat} (haxes : axes ≤ 2) : Named pointer_names (pointer axes) := by
  refine ⟨?_, ?_, ?_⟩
  · intro type htype
    simp only [Capabilities.has_event_type, pointer, Bool.or_eq_true, beq_iff_eq,
      Bool.and_eq_true, decide_eq_true_eq] at htype
    rcases htype with rfl | ⟨-, rfl⟩ <;> decide
  · intro type hmem code hcode
    have hne : type ≠ EV_SYN := by
      rintro rfl
      exact absurd hmem (by decide)
    have haxis : type = EV_REL ∧ code < axes := by
      unfold Capabilities.has_event_code at hcode
      cases hmaximum : event_type_get_max type with
      | none => simp [hmaximum, hne] at hcode
      | some maximum =>
        simp only [hmaximum, Bool.and_eq_true, Bool.or_eq_true, beq_iff_eq, hne, false_or] at hcode
        exact of_decide_eq_true hcode.2.2
    obtain ⟨rfl, haxis⟩ := haxis
    have hlisted : code < pointer_axis_names.length := Nat.lt_of_lt_of_le haxis haxes
    simp [pointer_names, List.getElem?_eq_getElem hlisted]
  · intro property hproperty
    simp [Capabilities.has_property, pointer] at hproperty

theorem a_second_axis_is_listed :
    print_characteristics (pointer 1) pointer_names ≠
      print_characteristics (pointer 2) pointer_names := by
  intro h
  have hsame := ((the_lists_say_what_a_device_can_do pointer_names).2 _ _
    (named_pointer (by decide)) (named_pointer (by decide))).mp h
  have hcodes := congrFun (hsame.code EV_REL (by simp)) 1
  exact absurd hcodes (by decide)

end input_proxy
