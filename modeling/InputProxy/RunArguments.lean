-- The grammar of the arguments of `run` (src/main.c, src/runtime_policy.c): flags
-- and options with a value, each at most once, in any order. The parser accepts
-- what the grammar has, and its result is read off the items.
import InputProxy.ResponseFiles

open c_strings

namespace input_proxy

/-! ## Items -/

/-- The options that take a value. -/
inductive RunOption
  | source
  | name
  | activity_timeout
  | detection_throttle
  | running_motion
  | paused_motion
  | start_paused
deriving DecidableEq

namespace RunOption

def argument : RunOption → CString
  | source => cstr "--source"
  | name => cstr "--name"
  | activity_timeout => cstr "--activity-timeout-ms"
  | detection_throttle => cstr "--detection-throttle-ms"
  | running_motion => cstr "--running-motion-activity"
  | paused_motion => cstr "--paused-motion-activity"
  | start_paused => cstr "--start-paused"

def parser : RunOption → ValueOption
  | source => source_option
  | name => name_option
  | activity_timeout => activity_timeout_option
  | detection_throttle => detection_throttle_option
  | running_motion => running_motion_option
  | paused_motion => paused_motion_option
  | start_paused => start_paused_option

end RunOption

/-- Decimal digits, with a value of 32 bits. -/
def IsDuration (text : CString) : Prop :=
  text.bytes ≠ [] ∧ (∀ b ∈ text.bytes, isdigit b = true) ∧ of_decimal text.bytes ≤ 4294967295

def IsSwitch (text : CString) : Prop := text = cstr "on" ∨ text = cstr "off"

/-- The values of an option. -/
def RunOption.Takes : RunOption → CString → Prop
  | source, _ => True
  | name, _ => True
  | activity_timeout, text => IsDuration text
  | detection_throttle, text => IsDuration text
  | running_motion, text => IsSwitch text
  | paused_motion, text => IsSwitch text
  | start_paused, text => IsSwitch text

/-- A flag, or an option with its value. -/
inductive RunItem
  | verbose
  | given (option : RunOption) (text : CString)
deriving DecidableEq

namespace RunItem

def arguments : RunItem → List CString
  | verbose => [cstr "--verbose"]
  | given option text => [option.argument, text]

/-- What may be there only once: an option, or the flag. -/
def kind : RunItem → Option RunOption
  | verbose => none
  | given option _ => some option

def value (option : RunOption) : RunItem → Option CString
  | verbose => none
  | given option' text => if option' = option then some text else none

end RunItem

/-- The value that an option has. -/
def value_of (option : RunOption) (items : List RunItem) : Option CString :=
  items.findSome? (RunItem.value option)

/-! ## The grammar -/

/-- Items that the parser goes through. -/
structure WellFormed (items : List RunItem) : Prop where
  once : (items.map RunItem.kind).Nodup
  values : ∀ option text, .given option text ∈ items → option.Takes text

/-- Items that the parser accepts. -/
structure Accepted (items : List RunItem) : Prop extends WellFormed items where
  source : ∃ text, .given .source text ∈ items
  name : ∃ text, .given .name text ∈ items

def duration_of (option : RunOption) (items : List RunItem) (default : Nat) : Nat :=
  ((value_of option items).map fun text => of_decimal text.bytes).getD default

def switch_of (option : RunOption) (items : List RunItem) (default : Bool) : Bool :=
  ((value_of option items).map fun text => decide (text = cstr "on")).getD default

/-- The values that are given, and the defaults of the other options. -/
def config_of (items : List RunItem) : RunConfig where
  source_path := value_of .source items
  instance_name := value_of .name items
  activity_timeout_ms :=
    duration_of .activity_timeout items runtime_policy_defaults.activity_timeout_ms
  detection_throttle_ms :=
    duration_of .detection_throttle items runtime_policy_defaults.detection_throttle_ms
  running_motion_activity :=
    switch_of .running_motion items runtime_policy_defaults.running_motion_activity
  paused_motion_activity :=
    switch_of .paused_motion items runtime_policy_defaults.paused_motion_activity
  start_paused := switch_of .start_paused items runtime_policy_defaults.start_paused
  verbose := .verbose ∈ items

/-- The variables of the parser after these items. -/
def options_of (items : List RunItem) : RunOptions where
  config := config_of items
  activity_timeout_seen := (value_of .activity_timeout items).isSome
  detection_throttle_seen := (value_of .detection_throttle items).isSome
  running_motion_seen := (value_of .running_motion items).isSome
  paused_motion_seen := (value_of .paused_motion items).isSome
  start_paused_seen := (value_of .start_paused items).isSome

/-! ## Values -/

section values

variable {text : CString} {option : RunOption} {items : List RunItem}

theorem parse_duration_iff {n : Nat} : runtime_policy_parse_duration text = some n ↔
    IsDuration text ∧ n = of_decimal text.bytes := by
  have hmax : ∀ value, value > UINTMAX_MAX ∨ value > UINT32_MAX ↔ ¬value ≤ 4294967295 := by
    intro value
    simp only [UINTMAX_MAX, UINT32_MAX]
    omega
  unfold runtime_policy_parse_duration IsDuration
  dsimp only
  split
  · rename_i hempty
    simp [hempty]
  · rename_i hne
    split
    · rename_i hdigits
      simp only [Bool.not_eq_true', List.all_eq_false] at hdigits
      obtain ⟨b, hb, hdigit⟩ := hdigits
      simp only [reduceCtorEq, false_iff]
      exact fun h => hdigit (h.1.2.1 b hb)
    · rename_i hdigits
      simp only [Bool.not_eq_true', Bool.not_eq_false, List.all_eq_true] at hdigits
      split
      · rename_i hlarge
        simp only [reduceCtorEq, false_iff]
        exact fun h => (hmax _).mp hlarge h.1.2.2
      · rename_i hsmall
        rw [hmax, not_not] at hsmall
        rw [Option.some_inj]
        exact ⟨fun h => ⟨⟨hne, hdigits, hsmall⟩, h.symm⟩, fun h => h.2.symm⟩

theorem parse_on_off_iff {enabled : Bool} : runtime_policy_parse_on_off text = some enabled ↔
    IsSwitch text ∧ enabled = decide (text = cstr "on") := by
  have hon : text.bytes = ascii "on" ↔ text = cstr "on" :=
    ⟨fun h => CString.ext (h.trans (by decide)), fun h => h ▸ (by decide)⟩
  have hoff : text.bytes = ascii "off" ↔ text = cstr "off" :=
    ⟨fun h => CString.ext (h.trans (by decide)), fun h => h ▸ (by decide)⟩
  have hne : cstr "off" ≠ cstr "on" := by decide
  unfold runtime_policy_parse_on_off IsSwitch
  simp only [hon, hoff]
  split
  · rename_i h
    simp [h, eq_comm]
  · rename_i hnoton
    split
    · rename_i h
      simp [h, hne, eq_comm]
    · rename_i hnotoff
      simp [hnoton, hnotoff]

theorem value_of_concat (item : RunItem) :
    value_of option (items ++ [item]) = (value_of option items).or (item.value option) := by
  unfold value_of
  rw [List.findSome?_append, List.findSome?_cons, List.findSome?_nil]
  cases item.value option <;> rfl

theorem value_of_eq_none : value_of option items = none ↔
    some option ∉ items.map RunItem.kind := by
  unfold value_of
  rw [List.findSome?_eq_none_iff, List.mem_map, not_exists]
  refine forall_congr' fun item => ?_
  cases item <;> simp [RunItem.value, RunItem.kind]

theorem mem_of_value_of (h : value_of option items = some text) :
    .given option text ∈ items := by
  unfold value_of at h
  obtain ⟨item, hmem, hvalue⟩ := List.exists_of_findSome?_eq_some h
  cases item with
  | verbose => cases hvalue
  | given option' text' =>
    simp only [RunItem.value, Option.ite_none_right_eq_some, Option.some_inj] at hvalue
    obtain ⟨rfl, rfl⟩ := hvalue
    exact hmem

end values

/-! ## Steps of the parser -/

section steps

variable {text : CString} {option : RunOption} {before : List RunItem} {o : RunOptions}

theorem value_option_argument (option : RunOption) :
    value_option option.argument.bytes = some option.parser := by
  cases option <;> rfl

theorem argument_ne_verbose (option : RunOption) : option.argument.bytes ≠ ascii "--verbose" := by
  cases option <;> decide

/-- Only the arguments of the options have a parser. -/
theorem exists_option {argument : CString} {parser : ValueOption}
    (h : value_option argument.bytes = some parser) :
    ∃ option : RunOption, argument = option.argument ∧ parser = option.parser := by
  by_cases hargument : ∃ option : RunOption, argument.bytes = option.argument.bytes
  · obtain ⟨option, hargument⟩ := hargument
    rw [hargument, value_option_argument] at h
    exact ⟨option, CString.ext hargument, (Option.some.inj h).symm⟩
  · rw [not_exists] at hargument
    have hsource : argument.bytes ≠ ascii "--source" := hargument .source
    have hname : argument.bytes ≠ ascii "--name" := hargument .name
    have htimeout : argument.bytes ≠ ascii "--activity-timeout-ms" := hargument .activity_timeout
    have hthrottle : argument.bytes ≠ ascii "--detection-throttle-ms" :=
      hargument .detection_throttle
    have hrunning : argument.bytes ≠ ascii "--running-motion-activity" :=
      hargument .running_motion
    have hpaused : argument.bytes ≠ ascii "--paused-motion-activity" := hargument .paused_motion
    have hstart : argument.bytes ≠ ascii "--start-paused" := hargument .start_paused
    have hnone : value_option argument.bytes = none := by
      unfold value_option
      rw [if_neg hsource, if_neg hname, if_neg htimeout, if_neg hthrottle, if_neg hrunning,
        if_neg hpaused, if_neg hstart]
    rw [hnone] at h
    cases h

theorem pointer_option_iff {pointer : RunConfig → Option CString}
    {set : RunOptions → CString → RunOptions} {o o' : RunOptions} {value : Option CString} :
    pointer_option pointer set o value = .ok o' ↔
      pointer o.config = none ∧ ∃ text, value = some text ∧ o' = set o text := by
  unfold pointer_option
  cases pointer o.config <;> cases value <;> simp [eq_comm]

theorem duration_option_iff {name : String} {seen : RunOptions → Bool}
    {set : RunOptions → Nat → RunOptions} {o o' : RunOptions} {value : Option CString} :
    duration_option name seen set o value = .ok o' ↔
      seen o = false ∧ ∃ text, value = some text ∧ IsDuration text ∧
        o' = set o (of_decimal text.bytes) := by
  unfold duration_option
  cases value with
  | none => cases seen o <;> simp
  | some text =>
    cases hparse : runtime_policy_parse_duration text with
    | none =>
      have hnot : ¬IsDuration text := fun h => by
        rw [parse_duration_iff.mpr ⟨h, rfl⟩] at hparse
        cases hparse
      cases seen o <;> simp [hparse, hnot]
    | some duration =>
      obtain ⟨hduration, rfl⟩ := parse_duration_iff.mp hparse
      cases seen o <;> simp [hparse, hduration, eq_comm]

theorem on_off_option_iff {name : String} {seen : RunOptions → Bool}
    {set : RunOptions → Bool → RunOptions} {o o' : RunOptions} {value : Option CString} :
    on_off_option name seen set o value = .ok o' ↔
      seen o = false ∧ ∃ text, value = some text ∧ IsSwitch text ∧
        o' = set o (decide (text = cstr "on")) := by
  unfold on_off_option
  cases value with
  | none => cases seen o <;> simp
  | some text =>
    cases hparse : runtime_policy_parse_on_off text with
    | none =>
      have hnot : ¬IsSwitch text := fun h => by
        rw [parse_on_off_iff.mpr ⟨h, rfl⟩] at hparse
        cases hparse
      cases seen o <;> simp [hparse, hnot]
    | some enabled =>
      obtain ⟨hswitch, rfl⟩ := parse_on_off_iff.mp hparse
      cases seen o <;> simp [hparse, hswitch, eq_comm]

attribute [local simp] RunOption.Takes options_of config_of duration_of switch_of value_of_concat
  RunItem.value

/-- An option takes its first value, if it is one of its values, and goes on with the variables
after its item. -/
theorem parser_iff {value : Option CString} : option.parser (options_of before) value = .ok o ↔
    value_of option before = none ∧ ∃ text, value = some text ∧ option.Takes text ∧
      o = options_of (before ++ [.given option text]) := by
  cases option with
  | source =>
    simp only [RunOption.parser, source_option, pointer_option_iff]
    refine and_congr_right fun hpointer => exists_congr fun text => ?_
    have hnone : value_of .source before = none := hpointer
    simp [hnone]
  | name =>
    simp only [RunOption.parser, name_option, pointer_option_iff]
    refine and_congr_right fun hpointer => exists_congr fun text => ?_
    have hnone : value_of .name before = none := hpointer
    simp [hnone]
  | activity_timeout =>
    have hseen : (options_of before).activity_timeout_seen = false ↔
        value_of .activity_timeout before = none := by simp
    simp only [RunOption.parser, activity_timeout_option, duration_option_iff, hseen]
    refine and_congr_right fun hnone => exists_congr fun text => ?_
    simp [hnone]
  | detection_throttle =>
    have hseen : (options_of before).detection_throttle_seen = false ↔
        value_of .detection_throttle before = none := by simp
    simp only [RunOption.parser, detection_throttle_option, duration_option_iff, hseen]
    refine and_congr_right fun hnone => exists_congr fun text => ?_
    simp [hnone]
  | running_motion =>
    have hseen : (options_of before).running_motion_seen = false ↔
        value_of .running_motion before = none := by simp
    simp only [RunOption.parser, running_motion_option, on_off_option_iff, hseen]
    refine and_congr_right fun hnone => exists_congr fun text => ?_
    simp [hnone]
  | paused_motion =>
    have hseen : (options_of before).paused_motion_seen = false ↔
        value_of .paused_motion before = none := by simp
    simp only [RunOption.parser, paused_motion_option, on_off_option_iff, hseen]
    refine and_congr_right fun hnone => exists_congr fun text => ?_
    simp [hnone]
  | start_paused =>
    have hseen : (options_of before).start_paused_seen = false ↔
        value_of .start_paused before = none := by simp
    simp only [RunOption.parser, start_paused_option, on_off_option_iff, hseen]
    refine and_congr_right fun hnone => exists_congr fun text => ?_
    simp [hnone]

theorem options_of_verbose :
    { options_of before with config := { (options_of before).config with verbose := true } } =
      options_of (before ++ [.verbose]) := by
  simp

theorem mem_kinds_verbose {items : List RunItem} :
    none ∈ items.map RunItem.kind ↔ RunItem.verbose ∈ items := by
  rw [List.mem_map]
  constructor
  · rintro ⟨item, hmem, hkind⟩
    cases item with
    | verbose => exact hmem
    | given option text => cases hkind
  · exact fun h => ⟨_, h, rfl⟩

theorem WellFormed.concat {item : RunItem} (h : WellFormed before)
    (hkind : item.kind ∉ before.map RunItem.kind)
    (hvalue : ∀ option text, item = .given option text → option.Takes text) :
    WellFormed (before ++ [item]) where
  once := by
    rw [List.map_append, List.map_singleton]
    exact List.nodup_append.mpr ⟨h.once, List.nodup_singleton _, by simpa using hkind⟩
  values option text hmem := by
    rcases List.mem_append.mp hmem with hmem | hmem
    · exact h.values option text hmem
    · exact hvalue option text (List.mem_singleton.mp hmem).symm

/-- An item is not among those in front of it. -/
theorem WellFormed.new {item : RunItem} {items : List RunItem}
    (h : WellFormed (before ++ item :: items)) : item.kind ∉ before.map RunItem.kind := by
  have honce := h.once
  rw [List.map_append, List.map_cons] at honce
  exact fun hmem => (List.nodup_append.mp honce).2.2 _ hmem _ (List.mem_cons_self ..) rfl

end steps

/-! ## Runs of the parser -/

section runs

variable {before : List RunItem} {o : RunOptions}

/-- What the parser gets through are well-formed items. -/
theorem items_of_parse {arguments : List CString} (hbefore : WellFormed before)
    (h : parse_run_options (options_of before) arguments = .ok o) :
    ∃ items, arguments = items.flatMap RunItem.arguments ∧ WellFormed (before ++ items) ∧
      o = options_of (before ++ items) := by
  induction hlength : arguments.length using Nat.strong_induction_on
    generalizing arguments before with
  | _ n ih =>
    cases arguments with
    | nil =>
      refine ⟨[], rfl, by rwa [List.append_nil], ?_⟩
      rw [List.append_nil]
      exact (Except.ok.inj h).symm
    | cons argument rest =>
      -- an item in front, and the items of the rest
      have hitem : ∀ (item : RunItem) (later : List CString), later.length < n →
          argument :: rest = item.arguments ++ later → WellFormed (before ++ [item]) →
          parse_run_options (options_of (before ++ [item])) later = .ok o →
          ∃ items, argument :: rest = items.flatMap RunItem.arguments ∧
            WellFormed (before ++ items) ∧ o = options_of (before ++ items) := by
        intro item later hlater harguments hwell hparse
        obtain ⟨items, hitems, hwellformed, ho⟩ := ih _ hlater hwell hparse rfl
        rw [List.append_assoc, List.singleton_append] at hwellformed ho
        exact ⟨item :: items, by rw [harguments, hitems]; rfl, hwellformed, ho⟩
      rw [List.length_cons] at hlength
      unfold parse_run_options at h
      split at h
      · rename_i hverbose
        split at h
        · cases h
        · rename_i hnew
          have hnew : RunItem.verbose ∉ before := by simpa [options_of, config_of] using hnew
          rw [options_of_verbose] at h
          have hargument : argument = cstr "--verbose" := CString.ext (hverbose.trans (by decide))
          exact hitem .verbose rest (by omega) (by rw [hargument]; rfl)
            (hbefore.concat (mem_kinds_verbose.not.mpr hnew) (by simp)) h
      · split at h
        · cases h
        · -- an option without a value is refused
          rename_i option hoption
          obtain ⟨option', -, rfl⟩ := exists_option hoption
          split at h
          · cases h
          · rename_i o' ho'
            obtain ⟨-, text, htext, -⟩ := parser_iff.mp ho'
            cases htext
        · rename_i option value later hoption
          obtain ⟨option', rfl, rfl⟩ := exists_option hoption
          split at h
          · cases h
          · rename_i o' ho'
            obtain ⟨hnone, text, htext, htakes, rfl⟩ := parser_iff.mp ho'
            obtain rfl := Option.some.inj htext
            rw [List.length_cons] at hlength
            refine hitem (.given option' value) later (by omega) rfl
              (hbefore.concat (value_of_eq_none.mp hnone) ?_) h
            intro option text hgiven
            obtain ⟨rfl, rfl⟩ := RunItem.given.inj hgiven
            exact htakes

/-- The parser gets through well-formed items. -/
theorem parse_of_items {items : List RunItem} (h : WellFormed (before ++ items)) :
    parse_run_options (options_of before) (items.flatMap RunItem.arguments) =
      .ok (options_of (before ++ items)) := by
  induction items generalizing before with
  | nil =>
    rw [List.append_nil]
    rfl
  | cons item items ih =>
    have hnext := @ih (before ++ [item]) (by simpa using h)
    rw [List.append_assoc, List.singleton_append] at hnext
    have hkind : item.kind ∉ before.map RunItem.kind := h.new
    rw [← hnext, List.flatMap_cons]
    cases item with
    | verbose =>
      have hnew : RunItem.verbose ∉ before := mem_kinds_verbose.not.mp hkind
      have hflag : (options_of before).config.verbose = false := by
        simpa [options_of, config_of] using hnew
      rw [← options_of_verbose]
      unfold RunItem.arguments
      rw [List.singleton_append]
      conv_lhs => unfold parse_run_options
      have hverbose : (cstr "--verbose").bytes = ascii "--verbose" := by decide
      rw [if_pos hverbose, if_neg (by simp [hflag])]
    | given option text =>
      have htakes := h.values option text (List.mem_append_right _ (List.mem_cons_self ..))
      exact parse_run_options_cons option.parser (argument_ne_verbose option)
        (value_option_argument option)
        (parser_iff.mpr ⟨value_of_eq_none.mpr hkind, text, rfl, htakes, rfl⟩)

theorem value_of_iff {items : List RunItem} (h : (items.map RunItem.kind).Nodup)
    {option : RunOption} {text : CString} :
    value_of option items = some text ↔ .given option text ∈ items := by
  refine ⟨mem_of_value_of, fun hmem => ?_⟩
  cases hvalue : value_of option items with
  | none => exact absurd (List.mem_map.mpr ⟨_, hmem, rfl⟩) (value_of_eq_none.mp hvalue)
  | some other =>
    have hitem := List.inj_on_of_nodup_map h (mem_of_value_of hvalue) hmem rfl
    obtain ⟨-, rfl⟩ := RunItem.given.inj hitem
    rfl

/-- The order of the items does not matter. -/
theorem config_of_perm {items items' : List RunItem} (h : (items.map RunItem.kind).Nodup)
    (hperm : items.Perm items') : config_of items = config_of items' := by
  have h' : (items'.map RunItem.kind).Nodup := (hperm.map _).nodup_iff.mp h
  have hvalues : ∀ option, value_of option items = value_of option items' := by
    intro option
    refine Option.ext fun text => ?_
    rw [value_of_iff h, value_of_iff h', hperm.mem_iff]
  unfold config_of duration_of switch_of
  simp only [hvalues, hperm.mem_iff]

theorem Accepted.perm {items items' : List RunItem} (h : Accepted items)
    (hperm : items.Perm items') : Accepted items' where
  once := (hperm.map _).nodup_iff.mp h.once
  values option text hmem := h.values option text (hperm.mem_iff.mpr hmem)
  source := h.source.imp fun _ => hperm.mem_iff.mp
  name := h.name.imp fun _ => hperm.mem_iff.mp

/-- Among well-formed items, those with a source and a name are accepted. -/
theorem accepted_iff {items : List RunItem} (h : WellFormed items) :
    Accepted items ↔ (config_of items).source_path ≠ none ∧
      (config_of items).instance_name ≠ none := by
  have hgiven : ∀ option, value_of option items ≠ none ↔ ∃ text, .given option text ∈ items := by
    intro option
    rw [Option.ne_none_iff_exists']
    exact exists_congr fun text => value_of_iff h.once
  have hsource : (config_of items).source_path = value_of .source items := rfl
  have hname : (config_of items).instance_name = value_of .name items := rfl
  rw [hsource, hname, hgiven, hgiven]
  exact ⟨fun h => ⟨h.source, h.name⟩, fun hboth => ⟨h, hboth.1, hboth.2⟩⟩

theorem parse_run_config_iff {argv : List CString} {config : RunConfig} :
    parse_run_config argv = .ok config ↔ ∃ items : List RunItem,
      argv.drop 2 = items.flatMap RunItem.arguments ∧ Accepted items ∧
        config = config_of items := by
  have hempty : WellFormed ([] : List RunItem) := ⟨List.nodup_nil, by simp⟩
  have hdefaults : (⟨runtime_policy_defaults, false, false, false, false, false⟩ : RunOptions) =
      options_of [] := rfl
  unfold parse_run_config
  rw [hdefaults]
  constructor
  · intro h
    split at h
    · cases h
    · rename_i o ho
      obtain ⟨items, harguments, hwell, rfl⟩ := items_of_parse hempty ho
      rw [List.nil_append] at hwell h
      split at h
      · cases h
      · rename_i hgiven
        rw [not_or] at hgiven
        exact ⟨items, harguments, (accepted_iff hwell).mpr hgiven, (Except.ok.inj h).symm⟩
  · rintro ⟨items, harguments, haccepted, rfl⟩
    obtain ⟨hsource, hname⟩ := (accepted_iff haccepted.toWellFormed).mp haccepted
    have hparse := @parse_of_items [] items haccepted.toWellFormed
    rw [harguments, hparse, List.nil_append]
    exact if_neg (not_or.mpr ⟨hsource, hname⟩)

/-- The arguments that are accepted are those of the grammar, the configuration is that of the
values that are given, and the order of flags and pairs does not matter. -/
theorem the_run_arguments_are_exactly_the_grammar (argv : List CString) :
    (∀ config, parse_run_config argv = .ok config ↔ ∃ items : List RunItem,
      argv.drop 2 = items.flatMap RunItem.arguments ∧ Accepted items ∧
        config = config_of items) ∧
    ∀ (items items' : List RunItem) (argv' : List CString),
      argv.drop 2 = items.flatMap RunItem.arguments → Accepted items → items.Perm items' →
      argv'.drop 2 = items'.flatMap RunItem.arguments →
      parse_run_config argv' = parse_run_config argv ∧
        parse_run_config argv = .ok (config_of items) := by
  refine ⟨fun config => parse_run_config_iff, ?_⟩
  intro items items' argv' harguments haccepted hperm harguments'
  have hparse := parse_run_config_iff.mpr ⟨items, harguments, haccepted, rfl⟩
  have hparse' := parse_run_config_iff.mpr ⟨items', harguments', haccepted.perm hperm, rfl⟩
  refine ⟨?_, hparse⟩
  rw [hparse, hparse', config_of_perm haccepted.once hperm]

end runs

end input_proxy
