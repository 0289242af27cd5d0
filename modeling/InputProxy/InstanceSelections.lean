-- The selection of an instance to uninstall (src/uninstall_command.c): a number is
-- read with `strtoul`, which takes a minus sign and negates.
import InputProxy.BufferedLines
import InputProxy.Installation
import InputProxy.Numerals
import InputProxy.RuleArtifacts
import InputProxy.StoreHistories

open c_strings processes

namespace input_proxy

/-! ## The reader -/

/-- The number that a line is read as. The end is at the start of the line where it is as long as
the line. -/
def read_selection (bits : Nat) (line : CString) : Option Nat :=
  let c := strtoul bits 10 line.bytes
  let rest := c.rest.dropWhile isblank
  if c.range_error ∨ rest.length = line.length ∨ (rest ≠ [] ∧ rest.head? ≠ some newline) then none
  else some c.value

/-- `select_instance`, up to `strdup`; `getline` gives no line where it fails. -/
def select_instance (bits : Nat) (names : List CString) (interactive : Bool)
    (line : Option CString) : Option CString :=
  if !interactive then none
  else
    match line.bind (read_selection bits) with
    | none => none
    | some selection =>
      if selection = 0 ∨ selection > names.length then none else names[selection - 1]?

/-! ## What the operator typed -/

/-- A line as `getline` gives it, without a NUL. -/
structure InputLine where
  text : CString
  line : IsLine text.bytes

/-- The names of the instances. A `size_t` counts them, which is as wide as an `unsigned long`. -/
structure InstanceList (bits : Nat) where
  names : List CString
  fits : names.length < 2 ^ bits

/-- White space, this sign, a decimal numeral with this value, blanks, and the newline, which may
be missing. -/
def InputLine.Has (line : InputLine) (sign : Bytes) (value : Nat) : Prop :=
  ∃ n : Numeral 10 line.text.bytes, n.sign = sign ∧ of_digits 10 n.digits = value ∧
    ∃ blanks ending, n.rest = blanks ++ ending ∧ (∀ b ∈ blanks, isblank b = true) ∧
      (ending = [] ∨ ending = [newline])

/-- The operator typed this number. -/
def InputLine.Names (line : InputLine) (value : Nat) : Prop :=
  line.Has [] value ∨ line.Has [43] value

/-- The operator typed minus this number. -/
def InputLine.Negates (line : InputLine) (value : Nat) : Prop := line.Has [45] value

section lines

variable {bits : Nat} {line : InputLine} {value : Nat} {sign rest : Bytes}

/-- The end of a line, after blanks. -/
theorem ends_iff (hline : ∃ before, line.text.bytes = before ++ rest) :
    (rest.dropWhile isblank = [] ∨ (rest.dropWhile isblank).head? = some newline) ↔
      ∃ blanks ending, rest = blanks ++ ending ∧ (∀ b ∈ blanks, isblank b = true) ∧
        (ending = [] ∨ ending = [newline]) := by
  constructor
  · intro h
    refine ⟨rest.takeWhile isblank, rest.dropWhile isblank,
      List.takeWhile_append_dropWhile.symm, fun b hb => List.mem_takeWhile_imp hb, ?_⟩
    refine h.imp id fun hhead => ?_
    obtain ⟨later, hlater⟩ := List.head?_eq_some_iff.mp hhead
    obtain ⟨before, hbefore⟩ := hline
    -- a newline is the last byte of the line
    have hnewline := line.line.2
    rw [hbefore, ← @List.takeWhile_append_dropWhile _ isblank rest, hlater] at hnewline
    cases later with
    | nil => exact hlater
    | cons b later => simp [List.dropLast_append_of_ne_nil] at hnewline
  · rintro ⟨blanks, ending, rfl, hblanks, hending⟩
    rw [List.dropWhile_append_of_pos hblanks]
    rcases hending with rfl | rfl
    · exact .inl rfl
    · exact .inr rfl

/-- A number that fits is read, and minus a number is read as the number that an `unsigned long`
has for it. -/
theorem read_selection_of_has (h : line.Has sign value) :
    read_selection bits line.text =
      if 2 ^ bits ≤ value then none
      else if sign = [45] then some ((2 ^ bits - value) % 2 ^ bits) else some value := by
  obtain ⟨n, rfl, rfl, blanks, ending, hrest, hblanks, hending⟩ := h
  have hends := (ends_iff ⟨_, n.text_eq⟩).mpr ⟨blanks, ending, hrest, hblanks, hending⟩
  have hlength : (n.rest.dropWhile isblank).length ≠ line.text.length := by
    have hdigits := List.length_pos_iff.mpr n.digits_ne_nil
    have htext := congrArg List.length n.text_eq
    have hle := (@List.dropWhile_sublist _ n.rest isblank).length_le
    simp only [List.length_append] at htext
    unfold CString.length
    omega
  have haccepted : ¬(false = true ∨ (n.rest.dropWhile isblank).length = line.text.length ∨
      (n.rest.dropWhile isblank ≠ [] ∧ (n.rest.dropWhile isblank).head? ≠ some newline)) := by
    tauto
  unfold read_selection
  rw [n.strtoul_eq (by decide) (skip_prefix_of_ne (by decide))]
  split
  · exact if_pos (.inl rfl)
  · split
    · exact if_neg haccepted
    · exact if_neg haccepted

/-- No other line is read as a number but zero. -/
theorem has_of_read_selection (h : read_selection bits line.text = some value)
    (hpos : 0 < value) : ∃ sign value, line.Has sign value := by
  by_cases hnumeral : IsEmpty (Numeral 10 line.text.bytes)
  · unfold read_selection at h
    rw [strtoul_eq_none (by decide) hnumeral] at h
    simp at h
    omega
  · obtain ⟨n⟩ := not_isEmpty_iff.mp hnumeral
    refine ⟨n.sign, _, n, rfl, rfl, (ends_iff ⟨_, n.text_eq⟩).mp ?_⟩
    have hrest : (strtoul bits 10 line.text.bytes).rest = n.rest := by
      rw [n.strtoul_eq (by decide) (skip_prefix_of_ne (by decide))]
      split
      · rfl
      · split <;> rfl
    unfold read_selection at h
    simp only [hrest] at h
    by_contra hends
    rw [if_pos (.inr (.inr (not_or.mp hends)))] at h
    cases h

theorem Has.sign_unique {sign' : Bytes} {value' : Nat} (h : line.Has sign value)
    (h' : line.Has sign' value') : sign = sign' := by
  obtain ⟨n, rfl, -⟩ := h
  obtain ⟨n', rfl, -⟩ := h'
  exact (n.sign_eq (by decide)).trans (n'.sign_eq (by decide)).symm

theorem Has.sign_cases (h : line.Has sign value) : sign = [] ∨ sign = [43] ∨ sign = [45] := by
  obtain ⟨n, rfl, -⟩ := h
  exact n.sign_cases

end lines

section selections

variable {bits : Nat} {list : InstanceList bits} {line : InputLine} {name : CString}

theorem select_instance_iff {names : List CString} {text : CString} :
    select_instance bits names true (some text) = some name ↔
      ∃ selection, read_selection bits text = some selection ∧ 0 < selection ∧
        names[selection - 1]? = some name := by
  unfold select_instance
  simp only [Bool.not_true, Bool.false_eq_true, if_false, Option.bind_some]
  cases hread : read_selection bits text with
  | none => simp
  | some selection =>
    simp only [Option.some_inj, exists_eq_left']
    by_cases hzero : selection = 0
    · simp [hzero]
    · have hpos : 0 < selection := Nat.pos_of_ne_zero hzero
      have hrange : names[selection - 1]? = some name → ¬selection > names.length := by
        intro h
        obtain ⟨hlt, -⟩ := List.getElem?_eq_some_iff.mp h
        omega
      by_cases hlarge : selection > names.length
      · rw [if_pos (.inr hlarge)]
        simp only [reduceCtorEq, false_iff, not_and]
        exact fun _ h => hrange h hlarge
      · rw [if_neg (not_or.mpr ⟨hzero, hlarge⟩)]
        exact (and_iff_right hpos).symm

/-- A number is selected where it, or minus what an `unsigned long` negates to it, was typed. -/
theorem select_instance_of_has {sign : Bytes} {value : Nat} (h : line.Has sign value) :
    select_instance bits list.names true (some line.text) = some name ↔
      value < 2 ^ bits ∧
        if sign = [45] then 0 < value ∧ list.names[2 ^ bits - value - 1]? = some name
        else 0 < value ∧ list.names[value - 1]? = some name := by
  rw [select_instance_iff, read_selection_of_has h]
  by_cases hlarge : 2 ^ bits ≤ value
  · simp [hlarge]
  rw [if_neg hlarge, and_iff_right (Nat.lt_of_not_le hlarge)]
  split
  · by_cases hzero : value = 0
    · simp [hzero]
    · have hmod : (2 ^ bits - value) % 2 ^ bits = 2 ^ bits - value :=
        Nat.mod_eq_of_lt (by omega)
      have hpos : 0 < 2 ^ bits - value := by omega
      simp [hmod, hpos, Nat.pos_of_ne_zero hzero]
  · simp

/-- The selection is right, whatever was typed, but for minus a number that is negated to one of
the numbers in the list. -/
theorem selected_iff_typed_iff :
    (∀ name, select_instance bits list.names true (some line.text) = some name ↔
      ∃ value, line.Names value ∧ 0 < value ∧ list.names[value - 1]? = some name) ↔
    ¬∃ value, line.Negates value ∧ 2 ^ bits ≤ value + list.names.length ∧ value < 2 ^ bits := by
  have hfits := list.fits
  have hindex : ∀ {i name}, list.names[i]? = some name → i < list.names.length :=
    fun h => (List.getElem?_eq_some_iff.mp h).1
  constructor
  · rintro hall ⟨value, hnegates, hlow, hhigh⟩
    have hin : 2 ^ bits - value - 1 < list.names.length := by omega
    have hselected : select_instance bits list.names true (some line.text) =
        some list.names[2 ^ bits - value - 1] := by
      refine (select_instance_of_has hnegates).mpr ⟨hhigh, ?_⟩
      rw [if_pos rfl]
      exact ⟨by omega, List.getElem?_eq_getElem hin⟩
    obtain ⟨other, hnames, -⟩ := (hall _).mp hselected
    rcases hnames with hnames | hnames
    · exact absurd (Has.sign_unique hnegates hnames) (by decide)
    · exact absurd (Has.sign_unique hnegates hnames) (by decide)
  · intro hnone name
    constructor
    · intro hselected
      obtain ⟨selection, hread, hpos, -⟩ := select_instance_iff.mp hselected
      obtain ⟨sign, value, hhas⟩ := has_of_read_selection hread hpos
      obtain ⟨hvalue, hname⟩ := (select_instance_of_has hhas).mp hselected
      rcases Has.sign_cases hhas with rfl | rfl | rfl
      · exact ⟨value, .inl hhas, hname⟩
      · exact ⟨value, .inr hhas, hname⟩
      · rw [if_pos rfl] at hname
        have hin := hindex hname.2
        exact absurd ⟨value, hhas, by omega, hvalue⟩ hnone
    · rintro ⟨value, hnames, hpos, hname⟩
      have hin := hindex hname
      rcases hnames with hhas | hhas
      · exact (select_instance_of_has hhas).mpr ⟨by omega, hpos, hname⟩
      · exact (select_instance_of_has hhas).mpr ⟨by omega, hpos, hname⟩

end selections

/-! ## What is uninstalled -/

/-- The names of the instances on a machine, in their order. -/
def Enumerates (store : Store) (m : Machine) (names : List CString) : Prop :=
  names.Pairwise CString.Lt ∧ ∀ name, name ∈ names ↔ (∃ n : InstanceName, n.name = name) ∧
    ∃ id, m.look (artifact_path store name) = some (.file id)

section uninstall

open Process

variable {bits pid : Nat} {store : Store} {m : Machine} {line : CString}

/-- Without a name in the arguments, nothing is changed but for an instance that was selected. -/
theorem wp_uninstall_selection (effective_uid : Nat) (rules program_name : CString) :
    wp (answer pid) Any
      (fun m' => m' = m ∨ ∃ names, Enumerates store m names ∧
        ∃ name, select_instance bits names true (some line) = some name)
      (uninstall_command ⟨effective_uid, store.directory, rules, read_selection bits line⟩
        program_name none)
      (fun _ m' => m' = m ∨ ∃ names, Enumerates store m names ∧
        ∃ name, select_instance bits names true (some line) = some name) m := by
  unfold uninstall_command
  split
  · exact .inl rfl
  split
  · exact .inl rfl
  rw [dif_neg store.nonempty]
  refine wp_bind.mpr (wp_status .malloc (.inl rfl) fun r => wp_unless (.inl rfl) fun _ => ?_)
  refine wp_bind.mpr (wp_status .malloc (.inl rfl) fun r => wp_unless (.inl rfl) fun _ => ?_)
  refine wp_bind.mpr (wp_mono wp_installed_instance_enumerate (fun _ h => .inl h) ?_)
  rintro result m' ⟨rfl, hnames⟩
  split
  · exact .inl rfl
  · exact .inl rfl
  rename_i names _
  split
  · exact .inl rfl
  rename_i selection hread
  split
  · exact .inl rfl
  rename_i hzero
  split
  · exact .inl rfl
  rename_i name hname
  obtain ⟨before, rfl⟩ := hnames names rfl
  have hselected := select_instance_iff.mpr ⟨selection, hread, Nat.pos_of_ne_zero hzero, hname⟩
  refine wp_of_forall (fun _ => .inr ⟨_, ?_, name, hselected⟩)
    (fun _ _ => .inr ⟨_, ?_, name, hselected⟩)
  all_goals exact ⟨sort_names_strict listing_nodup, fun name => mem_sort_names.trans mem_listing⟩

end uninstall

/-- The instance that is selected is the one whose number was typed, if the line is not minus a
number that an `unsigned long` negates to a number in the list. Where none is selected, the
uninstall command changes nothing. -/
theorem a_selection_was_typed_iff_no_number_is_negated (bits : Nat) (list : InstanceList bits)
    (line : InputLine) :
    ((∀ name, select_instance bits list.names true (some line.text) = some name ↔
        ∃ value, line.Names value ∧ 0 < value ∧ list.names[value - 1]? = some name) ↔
      ¬∃ value, line.Negates value ∧ 2 ^ bits ≤ value + list.names.length ∧ value < 2 ^ bits) ∧
    ∀ (store : Store) (m : Machine) (effective_uid : Nat) (rules program_name : CString) (pid : Nat)
      (choices : Nat → SystemCall → Option Choice),
      (Process.run (answer pid) (uninstall_command
        ⟨effective_uid, store.directory, rules, read_selection bits line.text⟩ program_name none)
        choices m).2 = m ∨
      ∃ names, Enumerates store m names ∧
        ∃ name, select_instance bits names true (some line.text) = some name := by
  refine ⟨selected_iff_typed_iff, fun store m effective_uid rules program_name pid choices => ?_⟩
  rcases run_spec m pid choices (wp_uninstall_selection effective_uid rules program_name) with
    ⟨-, h⟩ | ⟨_, -, h⟩
  · exact h
  · exact h

/-- `strtoul` negates: with 64 bits, this line is read as a one. -/
theorem minus_a_large_number_selects_the_first_instance :
    let line := cstr "-18446744073709551615\n"
    (∃ h : IsLine line.bytes, ∀ value, ¬(InputLine.mk line h).Names value) ∧
      select_instance 64 [cstr "keyboard", cstr "mouse"] true (some line) =
        some (cstr "keyboard") := by
  intro line
  have hsign : (line.bytes.dropWhile isspace).head?.toList.filter (fun b => b = 43 ∨ b = 45) =
      [45] := by decide +kernel
  refine ⟨⟨⟨by decide, by decide +kernel⟩, ?_⟩, by decide +kernel⟩
  rintro value (⟨n, hnone, -⟩ | ⟨n, hplus, -⟩)
  · exact absurd (hnone.symm.trans ((n.sign_eq (by decide)).trans hsign)) (by decide)
  · exact absurd (hplus.symm.trans ((n.sign_eq (by decide)).trans hsign)) (by decide)

end input_proxy
