-- What the readers make of a response file (src/response_file.c): an argument for
-- each line, and the source that `uninstall` (src/uninstall_command.c) looks for in
-- the arguments is the one that `run` would open.
import InputProxy.BufferedLines
import InputProxy.Installation
import InputProxy.RunArguments
import InputProxy.StoreHistories

open c_strings processes

namespace input_proxy

/-! ## One argument for each line -/

/-- The file with a line for each argument. -/
def response_file (arguments : List CString) : Bytes :=
  (arguments.map CString.bytes).flatMap (· ++ [newline])

section lines

variable {program_name : CString} {arguments : List CString} {content : Bytes}

/-- The reader fails on a NUL, and where it has `INT_MAX` arguments and another line. -/
theorem response_file_lines_eq_none {argc : Nat} {rest : List Bytes} (hargc : argc ≤ INT_MAX) :
    response_file_lines argc rest = none ↔
      (∃ line ∈ rest, 0 ∈ line) ∨ INT_MAX < argc + rest.length := by
  induction rest generalizing argc with
  | nil =>
    simp only [response_file_lines, reduceCtorEq, List.not_mem_nil, false_and, exists_false,
      List.length_nil, false_or, false_iff]
    omega
  | cons line rest ih =>
    unfold response_file_lines
    rw [List.exists_mem_cons_iff, List.length_cons]
    by_cases hzero : 0 ∈ line
    · simp [hzero]
    by_cases hfull : argc = INT_MAX
    · have hmore : INT_MAX < argc + (rest.length + 1) := by omega
      simp [hzero, hfull]
    have hrest := @ih (argc + 1) (by omega)
    have hlength : argc + (rest.length + 1) = argc + 1 + rest.length := by omega
    rw [dif_neg hzero, if_neg hfull, hlength, or_iff_right hzero, ← hrest]
    cases response_file_lines (argc + 1) rest <;> simp

theorem response_file_argv_eq_none : response_file_argv program_name content = none ↔
    0 ∈ content ∨ INT_MAX - 2 < (lines content).length := by
  have hzero : (∃ line ∈ lines content, 0 ∈ line) ↔ 0 ∈ content := by
    conv_rhs => rw [← flatten_lines content]
    exact List.mem_flatten.symm
  have hmany : INT_MAX < 2 + (lines content).length ↔ INT_MAX - 2 < (lines content).length := by
    unfold INT_MAX
    omega
  unfold response_file_argv
  rw [Option.map_eq_none_iff, response_file_lines_eq_none (by decide), hzero, hmany]

/-- The last line may lack its newline, where it has another byte. -/
theorem response_file_argv_unterminated {last : CString} (hne : last.bytes ≠ [])
    (hlines : ∀ a ∈ arguments ++ [last], newline ∉ a.bytes)
    (hlength : (arguments ++ [last]).length + 2 ≤ INT_MAX) :
    response_file_argv program_name (response_file (arguments ++ [last])).dropLast =
      some (program_name :: RUN :: (arguments ++ [last])) := by
  have hlast : newline ∉ last.bytes :=
    hlines last (List.mem_append_right _ (List.mem_singleton.mpr rfl))
  have hothers : ∀ text ∈ arguments.map CString.bytes, newline ∉ text := by
    intro text htext
    obtain ⟨a, ha, rfl⟩ := List.mem_map.mp htext
    exact hlines a (List.mem_append_left _ ha)
  have hcontent : (response_file (arguments ++ [last])).dropLast =
      (arguments.map CString.bytes).flatMap (· ++ [newline]) ++ last.bytes := by
    unfold response_file
    rw [List.map_append, List.flatMap_append, List.map_singleton, List.flatMap_singleton,
      ← List.append_assoc, List.dropLast_concat]
  have hchomp : chomp last.bytes = last.bytes :=
    if_neg fun h => hlast (List.mem_of_mem_getLast? h)
  have hread : response_file_lines 2 ((arguments.map CString.bytes).map (· ++ [newline]) ++
      [last.bytes]) = some (arguments ++ [last]) := by
    refine response_file_lines_eq_some ?_ ?_ ?_
    · intro line hline
      rcases List.mem_append.mp hline with hline | hline
      · obtain ⟨text, htext, rfl⟩ := List.mem_map.mp hline
        obtain ⟨a, -, rfl⟩ := List.mem_map.mp htext
        simp [a.nul_free, newline]
      · rw [List.mem_singleton.mp hline]
        exact last.nul_free
    · simp only [List.length_append, List.length_map, List.length_singleton] at hlength ⊢
      omega
    · simp [hchomp, Function.comp_def]
  unfold response_file_argv
  rw [hcontent, lines_flatMap_append hothers, lines_of_not_mem hne hlast, hread]
  rfl

end lines

section reader

variable {path program_name : CString} {content : Bytes} {pid : Nat} {m : Machine}
  {choices : Nat → SystemCall → Option Choice}

/-- A read where no call fails has what the bytes of the file decide. -/
theorem run_response_file_read (hpath : path.bytes ≠ [])
    (hcontent : m.content path = some content)
    (hread : ∀ k c, ∃ choice, choices k c = some choice ∧ choice.fault = none) :
    (Process.run (answer pid) (response_file_read path program_name) choices m).1 =
      some (response_file_argv program_name content) := by
  have hwp : Process.wp (answer pid) Smooth (fun _ => False)
      (response_file_read path program_name)
      (fun r m' => r = response_file_argv program_name content ∧ m' = m) m :=
    smooth_response_file_read hpath hcontent
  rcases Process.run_of_wp hwp (Process.along_of_forall fun k c _ => hread k c) with
    ⟨-, h⟩ | ⟨r, hr, rfl, -⟩
  · exact h.elim
  · exact hr

end reader

/-- A machine with one file. -/
def file_machine (path : CString) (content : Bytes) : Machine :=
  (empty_machine.create path 0).append 0 content

theorem content_file_machine {path : CString} {content : Bytes} :
    (file_machine path content).content path = some content := by
  have hlook : (file_machine path content).look path = some (.file 0) :=
    @disks.Disk.look_create_self _ _ _ _ empty_machine.disk path 0
  have hfile : (file_machine path content).disk.files 0 = ⟨some 0, content⟩ := rfl
  unfold Machine.content
  rw [hlook]
  exact congrArg (fun file => some file.content) hfile

/-- Reading fails, with the output parameters unset (`none`), exactly if the file has a NUL or
too many lines; other files are read as an argument for each line, whether or not the last one
has its newline. -/
theorem a_response_file_is_an_argument_for_each_line (path program_name : CString)
    (hpath : path.bytes ≠ []) (content : Bytes) (m : Machine)
    (hcontent : m.content path = some content) (pid : Nat)
    (choices : Nat → SystemCall → Option Choice)
    (hread : ∀ k c, ∃ choice, choices k c = some choice ∧ choice.fault = none) :
    ∃ result, (Process.run (answer pid) (response_file_read path program_name) choices m).1 =
        some result ∧
      (∀ arguments : List CString, (∀ a ∈ arguments, newline ∉ a.bytes) →
        arguments.length ≤ INT_MAX - 2 →
        (content = response_file arguments ∨
          content = (response_file arguments).dropLast ∧
            ∃ last ∈ arguments.getLast?, last.bytes ≠ []) →
        result = some ([program_name, RUN] ++ arguments)) ∧
      (result = none ↔ 0 ∈ content ∨ INT_MAX - 2 < (lines content).length) := by
  refine ⟨_, run_response_file_read hpath hcontent hread, ?_, response_file_argv_eq_none⟩
  intro arguments hlines hmany hfile
  have hlength : arguments.length + 2 ≤ INT_MAX := by
    unfold INT_MAX at hmany ⊢
    omega
  rcases hfile with rfl | ⟨rfl, last, hlast, hne⟩
  · exact response_file_argv_flatMap hlines hlength
  · obtain ⟨before, rfl⟩ := List.getLast?_eq_some_iff.mp hlast
    exact response_file_argv_unterminated hne hlines hlength

/-- A file of an argument, whose newline is left out. -/
theorem an_argument_without_a_newline_is_read :
    ∃ result, (Process.run (answer 0) (response_file_read (cstr "/run/a") (cstr "input-proxy"))
        (fun _ _ => some calm) (file_machine (cstr "/run/a") (ascii "@\r"))).1 = some result ∧
      (∀ arguments : List CString, (∀ a ∈ arguments, newline ∉ a.bytes) →
        arguments.length ≤ INT_MAX - 2 →
        (ascii "@\r" = response_file arguments ∨
          ascii "@\r" = (response_file arguments).dropLast ∧
            ∃ last ∈ arguments.getLast?, last.bytes ≠ []) →
        result = some ([cstr "input-proxy", RUN] ++ arguments)) ∧
      (result = none ↔ 0 ∈ ascii "@\r" ∨ INT_MAX - 2 < (lines (ascii "@\r")).length) :=
  a_response_file_is_an_argument_for_each_line (cstr "/run/a") (cstr "input-proxy") (by decide)
    (ascii "@\r") _ content_file_machine 0 (fun _ _ => some calm) fun _ _ => ⟨calm, rfl, rfl⟩

/-- `append_argument` refuses the argument after `INT_MAX` others. -/
theorem empty_arguments_can_be_too_many :
    let path := cstr "/run/a"
    let arguments := List.replicate (INT_MAX - 1) (cstr "")
    (∀ a ∈ arguments, newline ∉ a.bytes) ∧ 0 ∉ response_file arguments ∧
      (Process.run (answer 0) (response_file_read path (cstr "input-proxy"))
        (fun _ _ => some calm) (file_machine path (response_file arguments))).1 = some none := by
  intro path arguments
  have hempty : ∀ a ∈ arguments, a = cstr "" := fun a ha => List.eq_of_mem_replicate ha
  have hlines : ∀ a ∈ arguments, newline ∉ a.bytes := by
    intro a ha
    rw [hempty a ha]
    decide
  have hzero : 0 ∉ response_file arguments := by
    intro h
    obtain ⟨text, htext, hmem⟩ := List.mem_flatMap.mp h
    obtain ⟨a, -, rfl⟩ := List.mem_map.mp htext
    simp [a.nul_free, newline] at hmem
  have hmany : (lines (response_file arguments)).length = INT_MAX - 1 := by
    unfold response_file
    rw [lines_flatMap (by simpa using hlines), List.length_map, List.length_map]
    exact List.length_replicate
  refine ⟨hlines, hzero, ?_⟩
  rw [run_response_file_read (by decide) content_file_machine fun _ _ => ⟨calm, rfl, rfl⟩]
  refine congrArg some (response_file_argv_eq_none.mpr (.inr ?_))
  rw [hmany]
  decide

/-! ## The source of a response file -/

section source

variable {argument text : CString} {rest : List CString} {items : List RunItem}

theorem source_from_response_cons (h : argument ≠ cstr "--source") :
    source_from_response (argument :: rest) = source_from_response rest := by
  cases rest with
  | nil => rfl
  | cons value rest =>
    conv_lhs => unfold source_from_response
    exact if_neg h

/-- Digits and switches are no option. -/
theorem ne_source_of_takes {option : RunOption} (hsource : option ≠ .source)
    (hname : option ≠ .name) (h : option.Takes text) : text ≠ cstr "--source" := by
  rintro rfl
  have hduration : ¬IsDuration (cstr "--source") := by
    rintro ⟨-, hdigits, -⟩
    exact absurd (hdigits hyphen (by decide)) (by decide)
  have hswitch : ¬IsSwitch (cstr "--source") := by
    rintro (h | h) <;> exact absurd h (by decide)
  cases option with
  | source => exact hsource rfl
  | name => exact hname rfl
  | activity_timeout | detection_throttle => exact hduration h
  | running_motion | paused_motion | start_paused => exact hswitch h

/-- A name starts with a letter or an underscore, so it is no option. -/
theorem InstanceName.ne_source (n : InstanceName) : n.name ≠ cstr "--source" := by
  obtain ⟨first, rest, hbytes, -, hstart, -⟩ := n.bytes_eq
  intro h
  rw [h] at hbytes
  have hfirst : first = hyphen := (List.cons.inj hbytes).1.symm
  subst hfirst
  exact absurd hstart (by simp [NameStart, is_ascii_letter, hyphen, underscore])

/-- Past values that are not `--source`, the scan comes to the option that the parser took. -/
theorem source_from_response_items (hvalues : ∀ option text, .given option text ∈ items →
      option ≠ .source → text ≠ cstr "--source") :
    source_from_response (items.flatMap RunItem.arguments) = value_of .source items := by
  induction items with
  | nil => rfl
  | cons item items ih =>
    have hrest := ih fun option text hmem => hvalues option text (List.mem_cons_of_mem _ hmem)
    rw [List.flatMap_cons]
    cases item with
    | verbose =>
      have hflag : cstr "--verbose" ≠ cstr "--source" := by decide
      exact (source_from_response_cons hflag).trans hrest
    | given option text =>
      by_cases hsource : option = .source
      · subst hsource
        exact (if_pos rfl).trans rfl
      · have hargument : option.argument ≠ cstr "--source" := by
          cases option <;> first | exact absurd rfl hsource | decide
        have htext : text ≠ cstr "--source" :=
          hvalues option text (List.mem_cons_self ..) hsource
        have hskip : value_of .source (.given option text :: items) = value_of .source items := by
          unfold value_of
          rw [List.findSome?_cons, RunItem.value, if_neg hsource]
        rw [hskip, ← hrest]
        exact (source_from_response_cons hargument).trans (source_from_response_cons htext)

end source

/-- `uninstall` finds the source that `run` would open in every response file with which `run`
would come to a session: the name has to be valid for that. -/
theorem uninstall_finds_the_source_of_the_run (argv : List CString) (config : RunConfig)
    (n : InstanceName) (hparse : parse_run_config argv = .ok config)
    (hname : config.instance_name = some n.name) :
    ∃ source_path, config.source_path = some source_path ∧
      source_from_response (argv.drop 2) = some source_path := by
  obtain ⟨items, hitems, haccepted, rfl⟩ := parse_run_config_iff.mp hparse
  obtain ⟨source_path, hsource⟩ := haccepted.source
  have hvalue : value_of .source items = some source_path :=
    (value_of_iff haccepted.once).mpr hsource
  refine ⟨source_path, hvalue, ?_⟩
  rw [hitems, ← hvalue]
  refine source_from_response_items fun option text hmem hother => ?_
  by_cases hoption : option = .name
  · subst hoption
    have htext : some text = some n.name :=
      ((value_of_iff haccepted.once).mpr hmem).symm.trans hname
    rw [Option.some.inj htext]
    exact n.ne_source
  · exact ne_source_of_takes hother hoption (haccepted.values option text hmem)

/-- A response file that was edited: the source is called like its option. -/
theorem uninstall_finds_a_source_named_like_its_option :
    ∃ source_path, (⟨some (cstr "--source"), some mouse.name, 5000, 250, true, true, false, true⟩ :
        RunConfig).source_path = some source_path ∧
      source_from_response ([cstr "input-proxy", RUN, cstr "--verbose", cstr "--name", cstr "mouse",
        cstr "--source", cstr "--source"].drop 2) = some source_path :=
  uninstall_finds_the_source_of_the_run _ _ mouse (by rfl) (by rfl)

end input_proxy
