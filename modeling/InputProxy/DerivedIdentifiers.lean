-- One validation for every identifier: what a name derives is whole in each
-- buffer, no two names derive the same, and what reads a name back reads the
-- name that was accepted.
import InputProxy.ControlRuns
import InputProxy.RuleArtifacts
import InputProxy.RuntimeDiscovery
import InputProxy.SessionCreation

open c_strings disks processes programs

namespace input_proxy

/-! ## Well-known names of D-Bus -/

/-- A letter, a digit, `'_'` or `'-'`. -/
def is_bus_name_character (c : Char) : Bool := c.isAlphanum || c == '_' || c == '-'

/-- Not empty, and no digit first. -/
def is_bus_name_element (element : List Char) : Bool :=
  match element with
  | [] => false
  | first :: rest =>
    !first.isDigit && is_bus_name_character first && rest.all is_bus_name_character

/-- The grammar of well-known bus names: two elements or more, with a dot between them, in no
more than 255 bytes. -/
def is_well_known_name (name : String) : Bool :=
  let elements := name.toList.splitOn '.'
  name.utf8ByteSize ≤ 255 && 2 ≤ elements.length && elements.all is_bus_name_element

/-- `sd_bus_service_name_is_valid` accepts the names of the grammar. -/
def ImplementsGrammar (service_name_is_valid : String → Bool) : Prop :=
  ∀ name, is_well_known_name name = true → service_name_is_valid name = true

theorem NameByte.is_bus_name_character {byte : UInt8} (h : NameByte byte) :
    is_bus_name_character (Char.ofNat byte.toNat) = true := by
  have hall : ∀ k : Fin 256, (is_ascii_letter (.ofFin k) = true ∨
      (48 ≤ UInt8.ofFin k ∧ UInt8.ofFin k ≤ 57) ∨ .ofFin k = underscore ∨ .ofFin k = hyphen) →
      input_proxy.is_bus_name_character (Char.ofNat k) = true := by
    decide +kernel
  exact hall byte.toFin h

theorem NameStart.not_isDigit {byte : UInt8} (h : NameStart byte) :
    (Char.ofNat byte.toNat).isDigit = false := by
  have hall : ∀ k : Fin 256, (is_ascii_letter (.ofFin k) = true ∨ .ofFin k = underscore) →
      (Char.ofNat k).isDigit = false := by
    decide +kernel
  exact hall byte.toFin h

namespace InstanceName

variable (n : InstanceName)

theorem text_size : n.name.text.utf8ByteSize ≤ 79 := by
  rw [CString.utf8ByteSize_text fun b hb => (n.name_byte hb).lt_128]
  exact n.length_le

/-- `'.'` is in no name. -/
theorem dot_not_in_text : '.' ∉ n.name.text.toList := by
  rw [CString.toList_text, List.mem_map]
  rintro ⟨byte, hbyte, hdot⟩
  have hchar := (n.name_byte hbyte).is_bus_name_character
  rw [hdot] at hchar
  exact absurd hchar (by decide)

/-- A name is one element of a bus name. -/
theorem is_bus_name_element : is_bus_name_element n.name.text.toList = true := by
  obtain ⟨first, rest, hbytes, -, hstart, hrest⟩ := n.bytes_eq
  have hchars : (rest.map fun b => Char.ofNat b.toNat).all is_bus_name_character = true := by
    rw [List.all_map, List.all_eq_true]
    exact fun b hb => (hrest b hb).is_bus_name_character
  rw [CString.toList_text, hbytes, List.map_cons]
  simp only [input_proxy.is_bus_name_element, hstart.not_isDigit,
    hstart.name_byte.is_bus_name_character, hchars]
  rfl

theorem service_name_elements : (DBUS_SERVICE_PREFIX ++ n.name.text).toList.splitOn '.' =
    "net.controlforge.InputProxy1.Instance".toList.splitOn '.' ++ [n.name.text.toList] := by
  have hsplit : DBUS_SERVICE_PREFIX.toList =
      "net.controlforge.InputProxy1.Instance".toList ++ ['.'] := by decide +kernel
  rw [String.toList_append, hsplit, List.append_assoc, List.singleton_append,
    List.splitOn_append_cons_self, List.splitOn_eq_singleton n.dot_not_in_text]

/-- The service name that a name derives is a well-known name. -/
theorem is_well_known_name : is_well_known_name (DBUS_SERVICE_PREFIX ++ n.name.text) = true := by
  have hsize : DBUS_SERVICE_PREFIX.utf8ByteSize = 38 := by decide +kernel
  have hprefix : ("net.controlforge.InputProxy1.Instance".toList.splitOn '.').all
      input_proxy.is_bus_name_element = true := by decide +kernel
  have := n.text_size
  simp only [input_proxy.is_well_known_name, n.service_name_elements, String.utf8ByteSize_append,
    hsize, Bool.and_eq_true, decide_eq_true_eq, List.length_append, List.length_singleton,
    List.all_append, hprefix, List.all_cons, n.is_bus_name_element, List.all_nil, and_self,
    and_true]
  refine ⟨by omega, ?_⟩
  have : 0 < ("net.controlforge.InputProxy1.Instance".toList.splitOn '.').length := by
    decide +kernel
  omega

/-- Both buffers are large enough for the service name, and the bus accepts it. -/
theorem derive_service_name_eq {is_valid : String → Bool} (h : ImplementsGrammar is_valid)
    {size : Nat} (hsize : SERVICE_NAME_SIZE ≤ size) :
    runtime_control_derive_service_name is_valid size n.name.text =
      .ok (DBUS_SERVICE_PREFIX ++ n.name.text) := by
  have := n.text_size
  unfold runtime_control_derive_service_name
  dsimp only
  rw [if_neg, if_pos (h _ n.is_well_known_name)]
  rw [String.utf8ByteSize_append]
  unfold SERVICE_NAME_SIZE at hsize
  omega

end InstanceName

/-! ## The name of a running session -/

section names

variable {answers : Nat → Answer} {m m' : Moment}

theorem instance_name_update (m : Moment) (clock : Option Timespec) :
    (m.update clock).session.instance_name = m.session.instance_name :=
  m.update_session Session.instance_name fun _ _ _ _ _ _ _ _ => rfl

theorem instance_name_change (m : Moment) (changes : Changes) (ok : Bool)
    (clock : Option Timespec) :
    (m.change changes ok clock).session.instance_name = m.session.instance_name := by
  unfold Moment.change
  rw [instance_name_update, Moment.apply_session]

theorem instance_name_schedule (m : Moment) (clock : Option Timespec) :
    (m.schedule clock).session.instance_name = m.session.instance_name := by
  cases clock <;> rfl

theorem Times.instance_name (h : Times m m') :
    m'.session.instance_name = m.session.instance_name := by
  obtain ⟨⟨_, _, _, _, hs⟩, _⟩ := h
  rw [hs]

theorem Beside.instance_name {P : Action → Prop} (h : Beside P m m') :
    m'.session.instance_name = m.session.instance_name :=
  h.field Session.instance_name fun _ => rfl

theorem Call.instance_name (h : Call answers m m') :
    m'.session.instance_name = m.session.instance_name := by
  cases h with
  | outside h => exact h.instance_name
  | updated => exact instance_name_update ..
  | available => exact instance_name_change ..
  | committed => rw [instance_name_change, Moment.cancel_session]
  | idle => rfl
  | expired => exact (instance_name_change ..).trans (Moment.tick_times ..).instance_name
  | not_recreated => exact instance_name_schedule ..
  | underivable | refused | recreated | finished | dropped => rfl

theorem Physical.instance_name (h : Physical answers m m') :
    m'.session.instance_name = m.session.instance_name := by
  cases h with
  | lost | unsampled | suppressed => exact instance_name_update ..
  | throttled =>
    rw [instance_name_change, (Moment.throttle_times ..).instance_name, instance_name_update]
  | held => rw [instance_name_change, (Moment.hold_times ..).instance_name, instance_name_update]

/-- No turn changes the name. -/
theorem Turn.instance_name (h : Turn answers m m') :
    m'.session.instance_name = m.session.instance_name := by
  cases h with
  | call h => exact h.instance_name
  | looped | dispatched => rfl
  | read h => exact h.aside.instance_name
  | eligible h _ _ hp => exact hp.instance_name.trans h.aside.instance_name

theorem Started.instance_name {config : SessionConfig} (h : Started answers config m) :
    m.session.instance_name = config.instance_name := by
  cases h with
  | created | refused => rfl
  | failed => exact instance_name_schedule ..

theorem Turns.instance_name (h : Turns answers m m') :
    m'.session.instance_name = m.session.instance_name :=
  invariant_of_step (fun m1 : Moment => m1.session.instance_name = m.session.instance_name)
    (fun _ _ hx hstep => hstep.instance_name.trans hx) rfl h

end names

/-- No creation fails for its identifier. -/
theorem InstanceName.not_refused (n : InstanceName) {a : Answer}
    (h : ImplementsGrammar a.service_name_is_valid) : ¬RefusedBy a n.name.text := by
  have hcontrol := n.derive_service_name_eq h (Nat.le_refl SERVICE_NAME_SIZE)
  have hsession := n.derive_service_name_eq h (show SERVICE_NAME_SIZE ≤ 256 by decide +kernel)
  rintro (hrefused | ⟨errno, hrefused⟩)
  · unfold Answer.control at hrefused
    rw [hcontrol] at hrefused
    split at hrefused
    · cases hrefused
    · dsimp only at hrefused
      split at hrefused
      · rename_i hbus _
        unfold runtime_control_classify_connection_failure at hrefused
        split_ifs at hrefused <;> cases hrefused
      · cases hrefused
      · unfold runtime_control_classify_name_failure at hrefused
        split_ifs at hrefused <;> cases hrefused
      · cases hrefused
  · rw [hsession] at hrefused
    cases hrefused

/-! ## Every identifier of an accepted name -/

/-- No derivation of this name is refused or truncated. -/
structure DerivesWhole (service_name_is_valid : String → Bool) (n : InstanceName) : Prop where
  /-- In `sun_path`, behind the NUL of an abstract address. -/
  address : instance_name_address n.name = .ok (0 :: (INSTANCE_SOCKET_PREFIX ++ n.name).bytes)
  address_fits : (0 :: (INSTANCE_SOCKET_PREFIX ++ n.name).bytes).length ≤ SUN_PATH_SIZE
  control_service_name :
    runtime_control_derive_service_name service_name_is_valid SERVICE_NAME_SIZE n.name.text =
      .ok (DBUS_SERVICE_PREFIX ++ n.name.text)
  session_service_name :
    runtime_control_derive_service_name service_name_is_valid 256 n.name.text =
      .ok (DBUS_SERVICE_PREFIX ++ n.name.text)
  unit : unit_name 256 n.name = some (cstr "input-proxy@" ++ n.name ++ cstr ".service")
  artifact (store : Store) :
    artifact_path store n.name = path_in store.directory (n.name ++ ARTIFACT_SUFFIX)
  rule (directory : CString) :
    rule_path directory n.name = path_in directory (RULE_PREFIX ++ n.name ++ RULE_SUFFIX)
  uninstall_rule (directory : CString) :
    uninstall_rule_path directory n.name = path_in directory (RULE_PREFIX ++ n.name ++ RULE_SUFFIX)

/-- No two names derive the same identifier. -/
structure DerivesApart (service_name_is_valid : String → Bool) : Prop where
  address : Function.Injective fun n : InstanceName => instance_name_address n.name
  control_service_name : Function.Injective fun n : InstanceName =>
    runtime_control_derive_service_name service_name_is_valid SERVICE_NAME_SIZE n.name.text
  session_service_name : Function.Injective fun n : InstanceName =>
    runtime_control_derive_service_name service_name_is_valid 256 n.name.text
  unit : Function.Injective fun n : InstanceName => unit_name 256 n.name
  artifact (store : Store) : Function.Injective fun n : InstanceName => artifact_path store n.name
  rule (directory : CString) : Function.Injective fun n : InstanceName =>
    rule_path directory n.name
  uninstall_rule (directory : CString) : Function.Injective fun n : InstanceName =>
    uninstall_rule_path directory n.name

/-- The names of artifacts and of services give this name back. -/
structure ReadsBack (n : InstanceName) : Prop where
  stripped : strip_artifact_suffix (n.name ++ ARTIFACT_SUFFIX) = some n.name
  enumerated (store : Store) (m : Machine) (pid : Nat)
    (choices : Nat → SystemCall → Option Choice) (names : List CString) :
    (Process.run (answer pid) (installed_instance_enumerate store) choices m).1 =
      some (.ok names) →
    (n.name ∈ names ↔
      ∃ id, m.look (path_in store.directory (n.name ++ ARTIFACT_SUFFIX)) = some (.file id))
  discovered (service_name_is_valid : String → Bool) (size : Nat) (service_name : String) :
    runtime_control_derive_service_name service_name_is_valid size n.name.text =
      .ok service_name →
    service_instance_name (cstr service_name) = some n.name
  recorded (service_name_is_valid : String → Bool) (size : Nat) (service_name : String)
    (services : List (CString × Lookup)) (lookup : Lookup) (source_path : CString)
    (snapshot : RuntimeSnapshot) :
    runtime_control_derive_service_name service_name_is_valid size n.name.text =
      .ok service_name →
    (cstr service_name, lookup) ∈ services → lookup.source_path = some source_path →
    runtime_snapshot_build services = .ok snapshot →
    ⟨n.name, source_path⟩ ∈ snapshot.records

section derivations

variable {service_name_is_valid : String → Bool}

theorem InstanceName.derives_whole (n : InstanceName)
    (h : ImplementsGrammar service_name_is_valid) : DerivesWhole service_name_is_valid n where
  address := n.instance_name_address_eq
  address_fits := by
    have hprefix : INSTANCE_SOCKET_PREFIX.bytes.length = 12 := by decide
    have hname : n.name.bytes.length ≤ 79 := n.length_le
    simp only [List.length_cons, CString.bytes_append, List.length_append, hprefix, SUN_PATH_SIZE]
    omega
  control_service_name := n.derive_service_name_eq h (Nat.le_refl _)
  session_service_name := n.derive_service_name_eq h (by decide +kernel)
  unit := unit_name_eq n
  artifact store := artifact_path_eq store n.name
  rule directory := rule_path_eq directory n.name
  uninstall_rule directory :=
    (uninstall_rule_path_eq directory n.name).trans (rule_path_eq directory n.name)

theorem InstanceName.ext_name {n n' : InstanceName} (h : n.name = n'.name) : n = n' :=
  InstanceName.ext_bytes (congrArg CString.bytes h)

theorem service_name_injective (h : ImplementsGrammar service_name_is_valid) {size : Nat}
    (hsize : SERVICE_NAME_SIZE ≤ size) : Function.Injective fun n : InstanceName =>
      runtime_control_derive_service_name service_name_is_valid size n.name.text := by
  intro n n' heq
  simp only [n.derive_service_name_eq h hsize, n'.derive_service_name_eq h hsize,
    Except.ok.injEq] at heq
  have hlist := congrArg String.toList heq
  rw [String.toList_append, String.toList_append] at hlist
  exact InstanceName.ext_name (CString.text_inj.mp
    (String.toList_injective (List.append_cancel_left hlist)))

theorem derives_apart (h : ImplementsGrammar service_name_is_valid) :
    DerivesApart service_name_is_valid where
  address n n' heq := by
    simp only [n.instance_name_address_eq, n'.instance_name_address_eq, Except.ok.injEq,
      InstanceName.address, CString.bytes_append, List.cons.injEq, true_and,
      List.append_cancel_left_eq] at heq
    exact InstanceName.ext_bytes heq
  control_service_name := service_name_injective h (Nat.le_refl _)
  session_service_name := service_name_injective h (by decide +kernel)
  unit n n' heq := by
    simp only [unit_name_eq, Option.some.injEq, CString.append_left_inj,
      CString.append_right_inj] at heq
    exact InstanceName.ext_name heq
  artifact store _ _ heq := InstanceName.ext_name (artifact_path_inj.mp heq)
  rule directory _ _ heq := InstanceName.ext_name (rule_path_inj.mp heq)
  uninstall_rule directory n n' heq := by
    simp only [uninstall_rule_path_eq] at heq
    exact InstanceName.ext_name (rule_path_inj.mp heq)

theorem InstanceName.derived_instance_name (n : InstanceName) {size : Nat} {service_name : String}
    (h : runtime_control_derive_service_name service_name_is_valid size n.name.text =
      .ok service_name) : service_instance_name (cstr service_name) = some n.name := by
  have hservice : service_name = DBUS_SERVICE_PREFIX ++ n.name.text := by
    unfold runtime_control_derive_service_name at h
    dsimp only at h
    split_ifs at h
    exact (Except.ok.inj h).symm
  rw [hservice, cstr_append_text (by decide +kernel)]
  exact n.service_instance_name_append

theorem InstanceName.reads_back (n : InstanceName) : ReadsBack n where
  stripped := strip_artifact_suffix_append n.length_pos
  enumerated store m pid choices names hrun := by
    rw [((enumerate_spec store m pid choices).2 names hrun).2 n.name, artifact_path_eq]
    exact and_iff_right ⟨n, rfl⟩
  discovered _ _ _ h := n.derived_instance_name h
  recorded _ _ _ services lookup source_path snapshot h hmem hsource hbuild := by
    rw [mem_runtime_snapshot hbuild]
    exact ⟨_, hmem, by simp [service_record, n.derived_instance_name h, hsource]⟩

end derivations

/-- A name that the validator accepts is whole in every identifier that it derives, no two names
derive the same, and artifacts and services give the name back. So no run of a session that was
created comes to where its identifier is refused. -/
theorem one_validation_suffices_for_every_identifier (answers : Nat → Answer)
    (hgrammar : ∀ k, ImplementsGrammar (answers k).service_name_is_valid) :
    (∀ n k, DerivesWhole (answers k).service_name_is_valid n) ∧
    (∀ k, DerivesApart (answers k).service_name_is_valid) ∧
    (∀ n, ReadsBack n) ∧
    ∀ (config : Option RunConfig) (pid : Nat) (machine : Machine)
      (choices : Nat → SystemCall → Option Choice) (created : SessionConfig × Bytes),
      (Process.run (answer pid) (session_create config) choices machine).1 =
        some (.ok created) →
      (∀ m0 m, Started answers created.1 m0 → Turns answers m0 m →
        ∀ k, ¬RefusedBy (answers k) m.session.instance_name) ∧
      ∀ fuel k,
        ¬RefusedBy (answers k) (run_moment created.1 answers fuel).session.instance_name := by
  refine ⟨fun n k => n.derives_whole (hgrammar k), fun k => derives_apart (hgrammar k),
    InstanceName.reads_back, fun config pid machine choices created hrun => ?_⟩
  have hname : ∃ n : InstanceName, created.1.instance_name = n.name.text := by
    have hspec := run_spec machine pid choices (wp_session_create config)
    rcases hspec with ⟨hn, -⟩ | ⟨r, hr, haccepted⟩
    · rw [hn] at hrun
      cases hrun
    · exact haccepted created (Option.some.inj (hr.symm.trans hrun))
  obtain ⟨n, hn⟩ := hname
  have hreached : ∀ m0 m, Started answers created.1 m0 → Turns answers m0 m →
      ∀ k, ¬RefusedBy (answers k) m.session.instance_name := by
    intro m0 m hstart hturns k
    rw [hturns.instance_name, hstart.instance_name, hn]
    exact n.not_refused (hgrammar k)
  refine ⟨hreached, fun fuel => ?_⟩
  obtain ⟨m0, hstart, hturns⟩ := run_turns created.1 answers fuel
  exact hreached m0 _ hstart hturns

theorem longest_name_accepted :
    instance_name_validate (some (.of (List.replicate 79 97))) = .SUCCESS := by decide +kernel

def longest_name : InstanceName := ⟨_, longest_name_accepted⟩

/-- A bus that accepts no names but those of the grammar. -/
def strict_bus (_ : Nat) : Answer := { service_name_is_valid := is_well_known_name }

theorem the_longest_name_is_whole :
    DerivesWhole is_well_known_name longest_name ∧ ReadsBack longest_name :=
  have h := one_validation_suffices_for_every_identifier strict_bus fun _ _ hname => hname
  ⟨h.1 longest_name 0, h.2.2.1 longest_name⟩

end input_proxy
