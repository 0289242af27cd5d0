-- The lists of a report (src/device_inspection.c): values with commas between them,
-- which go on in a new line where a value has no room left. The comma in front of
-- the line break is not counted.
import InputProxy.BufferedLines
import InputProxy.Packings

open c_strings packings

namespace input_proxy

/-! ## Printing -/

def REPORT_VALUE_COLUMN : Nat := 25

def REPORT_WIDTH : Nat := 79

/-- `','` -/
abbrev comma : UInt8 := 44

/-- `' '` -/
abbrev blank : UInt8 := 32

/-- `"%*s"` with the column of the values. -/
def indent : Bytes := List.replicate REPORT_VALUE_COLUMN blank

/-- What was written, and the variables of `input_proxy_print_wrapped_values`. -/
structure ListPrinter where
  output : Bytes
  any : Bool
  column : Nat

/-- `"  %-22s "` -/
def begin_list (label : CString) : ListPrinter where
  output := [blank, blank] ++ label.bytes ++ List.replicate (22 - label.length) blank ++ [blank]
  any := false
  column := REPORT_VALUE_COLUMN

/-- The line break in front of a value that has no room. -/
def break_line (p : ListPrinter) (value : CString) : ListPrinter :=
  let separator := if p.any then 2 else 0
  if p.any ∧ p.column + separator + value.length > REPORT_WIDTH then
    { output := p.output ++ ([comma, newline] ++ indent), any := false,
      column := REPORT_VALUE_COLUMN }
  else p

def append_list_value (p : ListPrinter) (value : CString) : ListPrinter :=
  let p := break_line p value
  let p := if p.any then { p with output := p.output ++ [comma, blank], column := p.column + 2 }
    else p
  { output := p.output ++ value.bytes, any := true, column := p.column + value.length }

def end_list (p : ListPrinter) : Bytes :=
  p.output ++ if p.any then [newline] else ascii "None\n"

def print_wrapped_values (label : CString) (values : List CString) : Bytes :=
  end_list (values.foldl append_list_value (begin_list label))

/-! ## Reports -/

/-- A label that the column of the values leaves room for. -/
structure Label where
  text : CString
  short : text.length ≤ 22

structure ReportValue where
  text : CString
  nonempty : text.bytes ≠ []
  newline_free : newline ∉ text.bytes
  comma_free : comma ∉ text.bytes

/-- The lines of a list. The label takes the columns in front of the values. -/
def report_lines (output : Bytes) : List Bytes :=
  lines (indent ++ output.drop REPORT_VALUE_COLUMN)

/-- The columns of a line, without its newline. -/
def columns (line : Bytes) : Nat := (chomp line).length

/-- A line without the line break and the indent. -/
def line_text (line : Bytes) : Bytes := (chomp line).drop REPORT_VALUE_COLUMN

/-- The line has only this value, and a comma, if others follow. -/
def Shows (line : Bytes) (value : ReportValue) : Prop :=
  line_text line = value.text.bytes ∨ line_text line = value.text.bytes ++ [comma]

/-- No line is too wide, but for a single value that has more than `longest` bytes. -/
def Respects (longest : Nat) (values : List ReportValue) (output : Bytes) : Prop :=
  ∀ line ∈ report_lines output, columns line ≤ REPORT_WIDTH ∨
    ∃ value ∈ values, Shows line value ∧ longest < value.text.length

/-- The values in order, with commas between them, that a blank may follow. -/
def Separated : List ReportValue → Bytes → Prop
  | [], text => text = []
  | [value], text => text = value.text.bytes
  | value :: next :: rest, text => ∃ later, Separated (next :: rest) later ∧
    (text = value.text.bytes ++ [comma, blank] ++ later ∨
      text = value.text.bytes ++ [comma] ++ later)

/-- The lines without line breaks and indents. -/
def joined (output : Bytes) : Bytes := (report_lines output).flatMap line_text

/-! ## Lines of values -/

/-- The size of a value in a line. -/
def ReportValue.length (value : ReportValue) : Nat := value.text.length

/-- The lines of the values, packed greedily. -/
def packed_lines (values : List ReportValue) : List (List ReportValue) :=
  pack ReportValue.length 2 (REPORT_WIDTH - REPORT_VALUE_COLUMN) values

/-- The text of a line. -/
def row (line : List ReportValue) : Bytes :=
  [comma, blank].intercalate (line.map fun value => value.text.bytes)

section rows

variable {line : List ReportValue} {value : ReportValue} {values : List ReportValue}

@[simp] theorem row_singleton : row [value] = value.text.bytes := List.intercalate_singleton

@[simp] theorem row_cons_cons {next : ReportValue} : row (value :: next :: line) =
    value.text.bytes ++ [comma, blank] ++ row (next :: line) :=
  List.intercalate_cons_cons

theorem length_row : (row line).length = extent ReportValue.length 2 line := by
  induction line with
  | nil => rfl
  | cons value line ih =>
    cases line with
    | nil =>
      rw [row_singleton]
      rfl
    | cons next line =>
      rw [row_cons_cons, List.length_append, List.length_append, ih]
      rfl

theorem row_concat (hline : line ≠ []) (value : ReportValue) :
    row (line ++ [value]) = row line ++ [comma, blank] ++ value.text.bytes := by
  induction line with
  | nil => exact absurd rfl hline
  | cons first line ih =>
    cases line with
    | nil => simp
    | cons next line =>
      have hrest := ih (List.cons_ne_nil _ _)
      rw [List.cons_append] at hrest
      rw [List.cons_append, List.cons_append, row_cons_cons, hrest, row_cons_cons]
      simp only [List.append_assoc]

end rows

section printing

variable {p : ListPrinter} {start : Bytes} {line values : List ReportValue} {value : ReportValue}

/-- The printer is in a line with these values. -/
structure Writes (p : ListPrinter) (start : Bytes) (line : List ReportValue) : Prop where
  nonempty : line ≠ []
  output : p.output = start ++ row line
  any : p.any = true
  column : p.column = REPORT_VALUE_COLUMN + (row line).length

theorem writes_first {label : CString} : Writes (append_list_value (begin_list label) value.text)
    (begin_list label).output [value] where
  nonempty := List.cons_ne_nil _ _
  output := by rw [row_singleton]; rfl
  any := rfl
  column := by rw [row_singleton]; rfl

/-- A value goes to the line if it has room there, and to a new one, if it has not. -/
theorem Writes.append (h : Writes p start line) (value : ReportValue) :
    if extent ReportValue.length 2 line + 2 + value.length > REPORT_WIDTH - REPORT_VALUE_COLUMN then
      Writes (append_list_value p value.text) (start ++ row line ++ ([comma, newline] ++ indent))
        [value]
    else Writes (append_list_value p value.text) start (line ++ [value]) := by
  obtain ⟨hne, houtput, hany, hcolumn⟩ := h
  rw [length_row] at hcolumn
  have hroom : (p.any = true ∧
        p.column + (if p.any then 2 else 0) + value.text.length > REPORT_WIDTH) ↔
      extent ReportValue.length 2 line + 2 + value.length > REPORT_WIDTH - REPORT_VALUE_COLUMN := by
    rw [hany, hcolumn]
    unfold ReportValue.length REPORT_WIDTH REPORT_VALUE_COLUMN
    simp
    omega
  split
  · rename_i hlarge
    have hbreak : break_line p value.text = ⟨p.output ++ ([comma, newline] ++ indent), false,
        REPORT_VALUE_COLUMN⟩ := if_pos (hroom.mpr hlarge)
    unfold append_list_value
    rw [hbreak, houtput]
    exact ⟨List.cons_ne_nil _ _, by rw [row_singleton]; rfl, rfl, by rw [row_singleton]; rfl⟩
  · rename_i hsmall
    have hbreak : break_line p value.text = p := if_neg (hroom.not.mpr hsmall)
    unfold append_list_value
    simp only [hbreak, hany, if_true, houtput, hcolumn]
    refine ⟨by simp, ?_, rfl, ?_⟩
    · rw [row_concat hne]
      simp only [List.append_assoc]
    · rw [length_row, extent_concat hne]
      change _ + _ + 2 + value.length = _
      omega

/-- The rest of the values is printed as the lines that they are packed into. -/
theorem Writes.end_list (h : Writes p start line) :
    end_list ((values.map ReportValue.text).foldl append_list_value p) =
      start ++ ([comma, newline] ++ indent).intercalate
        ((pack_from ReportValue.length 2 (REPORT_WIDTH - REPORT_VALUE_COLUMN) line values).map
          row) ++ [newline] := by
  induction values generalizing p start line with
  | nil =>
    unfold pack_from
    rw [List.map_singleton, List.intercalate_singleton, ← h.output, List.map_nil, List.foldl_nil]
    unfold input_proxy.end_list
    rw [h.any]
    rfl
  | cons value values ih =>
    have hnext := h.append value
    rw [List.map_cons, List.foldl_cons]
    unfold pack_from
    split
    · rename_i hlarge
      rw [if_pos hlarge] at hnext
      rw [ih hnext, List.map_cons, List.intercalate_cons_of_ne_nil (by simp [pack_from_ne_nil])]
      simp only [List.append_assoc]
    · rename_i hsmall
      rw [if_neg hsmall] at hnext
      exact ih hnext

theorem print_wrapped_values_eq {label : CString} (hvalues : values ≠ []) :
    print_wrapped_values label (values.map ReportValue.text) = (begin_list label).output ++
      ([comma, newline] ++ indent).intercalate ((packed_lines values).map row) ++ [newline] := by
  cases values with
  | nil => exact absurd rfl hvalues
  | cons value values => exact writes_first.end_list

theorem length_heading (label : Label) :
    (begin_list label.text).output.length = REPORT_VALUE_COLUMN := by
  have hshort := label.short
  unfold CString.length at hshort
  simp only [begin_list, CString.length, List.length_append, List.length_replicate,
    List.length_cons, List.length_nil, REPORT_VALUE_COLUMN]
  omega

end printing

/-! ## The printed lines -/

/-- The lines of rows. -/
def printed : List (List ReportValue) → List Bytes
  | [] => []
  | [line] => [indent ++ row line ++ [newline]]
  | line :: next :: rest => (indent ++ row line ++ [comma, newline]) :: printed (next :: rest)

section printed

variable {line values : List ReportValue} {rows : List (List ReportValue)} {value : ReportValue}

theorem newline_not_mem_row : newline ∉ row line := by
  induction line with
  | nil => exact List.not_mem_nil
  | cons value line ih =>
    cases line with
    | nil => exact row_singleton ▸ value.newline_free
    | cons next line =>
      rw [row_cons_cons, List.mem_append, List.mem_append]
      rintro ((h | h) | h)
      · exact value.newline_free h
      · exact absurd h (by decide)
      · exact ih h

/-- The commas of a line are between its values. -/
theorem comma_not_mem_row (hline : line ≠ []) : comma ∉ row line ↔ ∃ value, line = [value] := by
  match line with
  | [value] => simp [value.comma_free]
  | value :: next :: line => simp

theorem lines_printed (hrows : rows ≠ []) :
    lines (indent ++ (([comma, newline] ++ indent).intercalate (rows.map row) ++ [newline])) =
      printed rows := by
  have hindent : newline ∉ indent :=
    fun h => absurd (List.eq_of_mem_replicate h) (by decide)
  induction rows with
  | nil => exact absurd rfl hrows
  | cons line rows ih =>
    cases rows with
    | nil =>
      have hfree : newline ∉ indent ++ row line := by simp [hindent, newline_not_mem_row]
      have hline := lines_append hfree []
      rw [List.append_assoc] at hline
      rw [List.map_singleton, List.intercalate_singleton, hline, lines_nil]
      rfl
    | cons next rows =>
      have hcomma : newline ∉ [comma] := by decide
      have hfree : newline ∉ indent ++ row line ++ [comma] := by
        simp [hindent, newline_not_mem_row, hcomma]
      have hrest := ih (List.cons_ne_nil _ _)
      have hline := lines_append hfree
        (indent ++ (([comma, newline] ++ indent).intercalate ((next :: rows).map row) ++ [newline]))
      rw [hrest] at hline
      rw [List.map_cons, List.intercalate_cons_of_ne_nil (by simp)]
      simp only [List.append_assoc, List.cons_append, List.nil_append] at hline ⊢
      rw [hline]
      simp only [printed, List.append_assoc]

theorem forall_mem_printed {P : Bytes → Prop} : (∀ text ∈ printed rows, P text) ↔
    (∀ line ∈ rows.dropLast, P (indent ++ row line ++ [comma, newline])) ∧
      ∀ line ∈ rows.getLast?, P (indent ++ row line ++ [newline]) := by
  induction rows with
  | nil => simp [printed]
  | cons line rows ih =>
    cases rows with
    | nil => simp [printed]
    | cons next rows =>
      unfold printed
      rw [List.forall_mem_cons, ih, List.dropLast_cons_cons, List.forall_mem_cons,
        List.getLast?_cons_cons, and_assoc]

/-- The columns of a line, and its text. -/
theorem columns_eq {text : Bytes} : columns (indent ++ text ++ [newline]) =
    REPORT_VALUE_COLUMN + text.length := by
  unfold columns indent
  rw [chomp_append_newline, List.length_append, List.length_replicate]

theorem line_text_eq {text : Bytes} : line_text (indent ++ text ++ [newline]) = text := by
  unfold line_text indent
  rw [chomp_append_newline]
  exact List.drop_left' List.length_replicate

theorem line_text_break {text : Bytes} :
    line_text (indent ++ text ++ [comma, newline]) = text ++ [comma] := by
  have hline := @line_text_eq (text ++ [comma])
  simpa only [List.append_assoc, List.singleton_append] using hline

theorem separated_row (hline : line ≠ []) : Separated line (row line) := by
  induction line with
  | nil => exact absurd rfl hline
  | cons value line ih =>
    cases line with
    | nil => exact row_singleton
    | cons next line => exact ⟨_, ih (List.cons_ne_nil _ _), .inl row_cons_cons⟩

theorem Separated.append {later : Bytes} (hline : line ≠ []) (hvalues : values ≠ [])
    (h : Separated values later) : Separated (line ++ values) (row line ++ [comma] ++ later) := by
  induction line with
  | nil => exact absurd rfl hline
  | cons value line ih =>
    cases line with
    | nil =>
      obtain ⟨next, rest, rfl⟩ := List.exists_cons_of_ne_nil hvalues
      exact ⟨later, h, .inr (by rw [row_singleton])⟩
    | cons next line =>
      refine ⟨_, ih (List.cons_ne_nil _ _), .inl ?_⟩
      rw [row_cons_cons]
      simp only [List.append_assoc]

/-- Nothing is lost between the lines. -/
theorem separated_printed (hrows : rows ≠ []) (hlines : ∀ line ∈ rows, line ≠ []) :
    Separated rows.flatten ((printed rows).flatMap line_text) := by
  induction rows with
  | nil => exact absurd rfl hrows
  | cons line rows ih =>
    obtain ⟨hline, hothers⟩ := List.forall_mem_cons.mp hlines
    cases rows with
    | nil =>
      have htext : (printed [line]).flatMap line_text = row line := by
        simp only [printed, List.flatMap_singleton, line_text_eq]
      rw [htext, List.flatten_singleton]
      exact separated_row hline
    | cons next rows =>
      have hrest := ih (List.cons_ne_nil _ _) hothers
      have hnext : (next :: rows).flatten ≠ [] := by
        simp [(List.forall_mem_cons.mp hothers).1]
      unfold printed
      rw [List.flatMap_cons, line_text_break, List.flatten_cons]
      exact hrest.append hline hnext

/-- A line in front of another one is as wide as the report allows, or a single value, if it does
not fill the report. -/
theorem fits_iff {longest : Nat} (hlongest : longest ≤ REPORT_WIDTH - REPORT_VALUE_COLUMN)
    (hpacked : Packed ReportValue.length 2 (REPORT_WIDTH - REPORT_VALUE_COLUMN) line)
    (hmem : ∀ value ∈ line, value ∈ values) :
    (columns (indent ++ row line ++ [comma, newline]) ≤ REPORT_WIDTH ∨
      ∃ value ∈ values, Shows (indent ++ row line ++ [comma, newline]) value ∧
        longest < value.text.length) ↔
    ¬(extent ReportValue.length 2 line = REPORT_WIDTH - REPORT_VALUE_COLUMN ∧
      ¬∃ value, line = [value] ∧ longest < value.text.length) := by
  have hcolumns : columns (indent ++ row line ++ [comma, newline]) =
      REPORT_VALUE_COLUMN + (extent ReportValue.length 2 line + 1) := by
    have hline := @columns_eq (row line ++ [comma])
    rw [List.length_append, length_row, List.length_singleton] at hline
    simpa only [List.append_assoc, List.singleton_append] using hline
  have hsingle : (∃ value ∈ values, Shows (indent ++ row line ++ [comma, newline]) value ∧
      longest < value.text.length) ↔ ∃ value, line = [value] ∧ longest < value.text.length := by
    unfold Shows
    rw [line_text_break]
    constructor
    · rintro ⟨value, -, hshows, hlong⟩
      rcases hshows with hshows | hshows
      · exact absurd (hshows ▸ List.mem_append_right _ (List.mem_singleton_self _))
          value.comma_free
      · have hrow : row line = value.text.bytes := List.append_cancel_right hshows
        have hcomma : comma ∉ row line := hrow ▸ value.comma_free
        obtain ⟨other, rfl⟩ := (comma_not_mem_row hpacked.ne_nil).mp hcomma
        rw [row_singleton] at hrow
        refine ⟨other, rfl, ?_⟩
        unfold CString.length at hlong ⊢
        rwa [hrow]
    · rintro ⟨value, rfl, hlong⟩
      exact ⟨value, hmem value (List.mem_singleton_self _), .inr (by rw [row_singleton]), hlong⟩
  rw [hcolumns, hsingle]
  unfold REPORT_VALUE_COLUMN REPORT_WIDTH at *
  rcases hpacked with ⟨value, rfl⟩ | ⟨hne, hextent⟩
  · have hlength : extent ReportValue.length 2 [value] = value.text.length := rfl
    have hexists : (∃ other, [value] = [other] ∧ longest < other.text.length) ↔
        longest < value.text.length := by simp
    rw [hlength, hexists]
    omega
  · by_cases hwide : ∃ value, line = [value] ∧ longest < value.text.length
    · simp [hwide]
    · simp only [hwide, or_false, not_false_eq_true, and_true]
      omega

/-- In the last line there is no comma. -/
theorem last_fits {longest : Nat} (hlongest : longest ≤ REPORT_WIDTH - REPORT_VALUE_COLUMN)
    (hpacked : Packed ReportValue.length 2 (REPORT_WIDTH - REPORT_VALUE_COLUMN) line)
    (hmem : ∀ value ∈ line, value ∈ values) :
    columns (indent ++ row line ++ [newline]) ≤ REPORT_WIDTH ∨
      ∃ value ∈ values, Shows (indent ++ row line ++ [newline]) value ∧
        longest < value.text.length := by
  unfold Shows
  rw [columns_eq, line_text_eq, length_row]
  unfold REPORT_VALUE_COLUMN REPORT_WIDTH at *
  rcases hpacked with ⟨value, rfl⟩ | ⟨-, hextent⟩
  · have hlength : extent ReportValue.length 2 [value] = value.text.length := rfl
    by_cases hlong : longest < value.text.length
    · exact .inr ⟨value, hmem value (List.mem_singleton_self _), .inl row_singleton, hlong⟩
    · exact .inl (by omega)
  · exact .inl (by omega)

end printed

/-! ## The report width -/

section report

variable {label : Label} {values : List ReportValue}

theorem report_lines_eq (hvalues : values ≠ []) :
    report_lines (print_wrapped_values label.text (values.map ReportValue.text)) =
      printed (packed_lines values) := by
  have hrows : packed_lines values ≠ [] := by
    intro h
    have hflatten : (packed_lines values).flatten = values := flatten_pack
    rw [h] at hflatten
    exact hvalues hflatten.symm
  unfold report_lines
  rw [print_wrapped_values_eq hvalues, List.append_assoc, List.drop_left' (length_heading label),
    lines_printed hrows]

/-- Without values there is one line. -/
theorem report_lines_none :
    report_lines (print_wrapped_values label.text []) = [indent ++ ascii "None" ++ [newline]] := by
  have hprint : print_wrapped_values label.text [] =
      (begin_list label.text).output ++ (ascii "None" ++ [newline]) := rfl
  unfold report_lines
  rw [hprint, List.drop_left' (length_heading label), ← List.append_assoc]
  exact lines_append (by decide) []

theorem mem_of_mem_packed_lines {line : List ReportValue} {value : ReportValue}
    (hline : line ∈ packed_lines values) (h : value ∈ line) : value ∈ values := by
  have hflatten : (packed_lines values).flatten = values := flatten_pack
  exact hflatten ▸ List.mem_flatten.mpr ⟨line, hline, h⟩

theorem respects_iff {longest : Nat} (hlongest : longest ≤ REPORT_WIDTH - REPORT_VALUE_COLUMN)
    (hvalues : values ≠ []) :
    Respects longest values (print_wrapped_values label.text (values.map ReportValue.text)) ↔
      ∀ line ∈ (packed_lines values).dropLast,
        ¬(extent ReportValue.length 2 line = REPORT_WIDTH - REPORT_VALUE_COLUMN ∧
          ¬∃ value, line = [value] ∧ longest < value.text.length) := by
  have hpacked : ∀ line ∈ packed_lines values,
      Packed ReportValue.length 2 (REPORT_WIDTH - REPORT_VALUE_COLUMN) line :=
    fun line hline => packed_of_mem_pack hline
  unfold Respects
  rw [report_lines_eq hvalues, forall_mem_printed, and_iff_left]
  · refine forall_congr' fun line => forall_congr' fun hmem => ?_
    have hline := List.mem_of_mem_dropLast hmem
    exact fits_iff hlongest (hpacked line hline) fun _ => mem_of_mem_packed_lines hline
  · intro line hlast
    have hline := List.mem_of_mem_getLast? hlast
    exact last_fits hlongest (hpacked line hline) fun _ => mem_of_mem_packed_lines hline

end report

/-- A line is too wide exactly where it fills the report before another value follows, whether a
value that is as wide as a whole line is too long to fit or not. The values are all there, in
their order. -/
theorem wrapped_values_fit_iff_no_line_is_full (label : Label) (values : List ReportValue) :
    let output := print_wrapped_values label.text (values.map ReportValue.text)
    (∀ longest ∈ [53, 54], Respects longest values output ↔
      ¬∃ line ∈ (packed_lines values).dropLast, extent ReportValue.length 2 line = 54 ∧
        ¬∃ value, line = [value] ∧ longest < value.text.length) ∧
    if values = [] then joined output = ascii "None" else Separated values (joined output) := by
  intro output
  by_cases hvalues : values = []
  · subst hvalues
    have hlines : report_lines output = [indent ++ ascii "None" ++ [newline]] := report_lines_none
    refine ⟨fun longest _ => ?_, ?_⟩
    · unfold Respects
      rw [hlines, List.forall_mem_singleton, columns_eq]
      exact iff_of_true (.inl (by decide)) (by simp [packed_lines, pack])
    · unfold joined
      rw [if_pos rfl, hlines, List.flatMap_singleton, line_text_eq]
  · refine ⟨fun longest hmem => ?_, ?_⟩
    · have hlongest : longest ≤ REPORT_WIDTH - REPORT_VALUE_COLUMN := by
        unfold REPORT_WIDTH REPORT_VALUE_COLUMN
        simp only [List.mem_cons, List.not_mem_nil, or_false] at hmem
        omega
      rw [respects_iff hlongest hvalues]
      simp only [not_exists, not_and]
      rfl
    · have hflatten : (packed_lines values).flatten = values := flatten_pack
      have hrows : packed_lines values ≠ [] := fun h => hvalues (by rw [← hflatten, h]; rfl)
      have hjoined := separated_printed hrows fun line hline => (packed_of_mem_pack hline).ne_nil
      unfold joined
      rw [if_neg hvalues, report_lines_eq hvalues]
      rwa [hflatten] at hjoined

/-- `KEY_1` to `KEY_9` -/
def digit_key (d : Fin 9) : ReportValue where
  text := ⟨ascii "KEY_" ++ [49 + d.val.toUInt8], by revert d; decide⟩
  nonempty := by simp
  newline_free := by revert d; decide
  comma_free := by revert d; decide

/-- Eight of these keys fill the first line, whose comma is its 80th column. -/
theorem the_keys_of_the_digits_are_too_wide :
    let output := print_wrapped_values (cstr "Keys/buttons:")
      (((List.finRange 9).map digit_key).map ReportValue.text)
    (cstr "Keys/buttons:").length ≤ 22 ∧
      ∀ longest, ¬Respects longest ((List.finRange 9).map digit_key) output := by
  intro output
  refine ⟨by decide, fun longest h => ?_⟩
  let line : Bytes := indent ++ ascii "KEY_1, KEY_2, KEY_3, KEY_4, KEY_5, KEY_6, KEY_7, KEY_8" ++
    [comma, newline]
  have hline : line ∈ report_lines output := by decide +kernel
  have hcolumns : columns line = 80 := by decide +kernel
  have hshows : ∀ d : Fin 9, line_text line ≠ (digit_key d).text.bytes ∧
      line_text line ≠ (digit_key d).text.bytes ++ [comma] := by decide +kernel
  rcases h line hline with hwidth | ⟨value, hvalue, hshown, -⟩
  · rw [hcolumns] at hwidth
    exact absurd hwidth (by decide)
  · obtain ⟨d, -, rfl⟩ := List.mem_map.mp hvalue
    exact hshown.elim (hshows d).1 (hshows d).2

end input_proxy
