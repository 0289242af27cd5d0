-- A virtual device is compatible with a source exactly if both represent the
-- same device: what the template copies and what the comparison compares are
-- the same values.
import InputProxy.DeviceLifetime
import InputProxy.SessionRuns
import InputProxy.Templates

open programs Program

namespace input_proxy

/-! ## The represented device -/

/-- The two agree on everything that a virtual device represents: identity, properties, event
types, codes, the ranges of the axes and the repeat settings. -/
structure SameRepresented (c c' : Capabilities) : Prop where
  uniq : c.uniq = c'.uniq
  bustype : c.bustype = c'.bustype
  vendor : c.vendor = c'.vendor
  product : c.product = c'.product
  version : c.version = c'.version
  property : ∀ property, c.has_property property = c'.has_property property
  event_type : ∀ type, c.has_event_type type = c'.has_event_type type
  event_code : ∀ type code, c.has_event_code type code = c'.has_event_code type code
  abs_info : ∀ code, c.get_abs_info code = c'.get_abs_info code
  repeat_value : ∀ code, c'.has_event_code EV_REP code = true →
    c.repeat_value code = c'.repeat_value code

theorem SameRepresented.symm {c c' : Capabilities} (h : SameRepresented c c') :
    SameRepresented c' c where
  uniq := h.uniq.symm
  bustype := h.bustype.symm
  vendor := h.vendor.symm
  product := h.product.symm
  version := h.version.symm
  property property := (h.property property).symm
  event_type type := (h.event_type type).symm
  event_code type code := (h.event_code type code).symm
  abs_info code := (h.abs_info code).symm
  repeat_value code hcode := (h.repeat_value code ((h.event_code _ _).symm.trans hcode)).symm

theorem SameRepresented.trans {c c' c'' : Capabilities} (h : SameRepresented c c')
    (h' : SameRepresented c' c'') : SameRepresented c c'' where
  uniq := h.uniq.trans h'.uniq
  bustype := h.bustype.trans h'.bustype
  vendor := h.vendor.trans h'.vendor
  product := h.product.trans h'.product
  version := h.version.trans h'.version
  property property := (h.property property).trans (h'.property property)
  event_type type := (h.event_type type).trans (h'.event_type type)
  event_code type code := (h.event_code type code).trans (h'.event_code type code)
  abs_info code := (h.abs_info code).trans (h'.abs_info code)
  repeat_value code hcode :=
    (h.repeat_value code ((h'.event_code _ _).trans hcode)).trans (h'.repeat_value code hcode)

/-! ## The comparison -/

section comparison

variable {c c' : Capabilities}

theorem nullable_strings_equal_iff {left right : Option String} :
    nullable_strings_equal left right = true ↔ left = right := by
  cases left <;> cases right <;> simp [nullable_strings_equal]

theorem absolute_info_equal_iff {left right : Option AbsInfo} :
    absolute_info_equal left right = true ↔ left = right := by
  cases left with
  | none => cases right <;> simp [absolute_info_equal]
  | some left =>
    cases right with
    | none => simp [absolute_info_equal]
    | some right =>
      cases left
      cases right
      simp [absolute_info_equal, and_assoc]

theorem event_type_le {type maximum : Nat} (h : event_type_get_max type = some maximum) :
    type ≤ EV_MAX := by
  by_contra hgt
  have hne : ∀ t ≤ EV_MAX, type ≠ t := fun t ht he => hgt (he ▸ ht)
  unfold event_type_get_max at h
  repeat rw [if_neg (hne _ (by decide))] at h
  cases h

/-- A property and a type beyond the range that is compared are in no device. -/
theorem has_property_le {property : Nat} (h : c.has_property property = true) :
    property ≤ INPUT_PROP_MAX := by
  unfold Capabilities.has_property at h
  simpa using (Bool.and_eq_true_iff.mp h).1

theorem has_event_type_le {type : Nat} (h : c.has_event_type type = true) : type ≤ EV_MAX := by
  unfold Capabilities.has_event_type at h
  simp only [Bool.or_eq_true, beq_iff_eq, Bool.and_eq_true, decide_eq_true_eq] at h
  rcases h with rfl | h
  · decide
  · exact h.1

/-- Two values that can be true only in a range are equal if they are equal there. -/
theorem eq_of_range {p q : Nat → Bool} {maximum : Nat} (hp : ∀ n, p n = true → n ≤ maximum)
    (hq : ∀ n, q n = true → n ≤ maximum) (h : ∀ n ≤ maximum, p n = q n) (n : Nat) : p n = q n := by
  by_cases hn : n ≤ maximum
  · exact h n hn
  · rw [Bool.eq_false_iff.mpr fun ht => hn (hp n ht), Bool.eq_false_iff.mpr fun ht => hn (hq n ht)]

theorem get_abs_info_of_code {code : Nat} (h : c.has_event_code EV_ABS code = true) :
    c.get_abs_info code = some (c.abs_info code) := if_pos h

theorem get_abs_info_none {code : Nat} (h : ¬c.has_event_code EV_ABS code = true) :
    c.get_abs_info code = none := if_neg h

theorem same_represented_of_equal (h : capabilities_equal c c' = true) : SameRepresented c c' := by
  have hparts := h
  unfold capabilities_equal at hparts
  simp only [Bool.and_eq_true, List.all_eq_true, List.mem_range, beq_iff_eq,
    nullable_strings_equal_iff] at hparts
  obtain ⟨⟨⟨⟨⟨⟨huniq, hbustype⟩, hvendor⟩, hproduct⟩, hversion⟩, hproperties⟩, htypes⟩ := hparts
  have htype : ∀ type, c.has_event_type type = c'.has_event_type type := by
    refine eq_of_range (fun _ => has_event_type_le) (fun _ => has_event_type_le) fun type hle => ?_
    have ht := htypes type (by omega)
    unfold event_type_equal at ht
    simpa using (Bool.and_eq_true_iff.mp ht).1
  have hcode : ∀ type code, c.has_event_code type code = c'.has_event_code type code := by
    intro type code
    cases hmax : event_type_get_max type with
    | none =>
      unfold Capabilities.has_event_code
      rw [htype, hmax]
    | some maximum =>
      by_cases hsyn : type = EV_SYN
      · subst hsyn
        rfl
      · exact has_event_code_eq_of h (event_type_le hmax) hsyn hmax code
  refine ⟨huniq, hbustype, hvendor, hproduct, hversion, ?_, htype, hcode, fun code => ?_,
    fun code hhas => ?_⟩
  · refine eq_of_range (fun _ => has_property_le) (fun _ => has_property_le) fun property hle => ?_
    exact hproperties property (by omega)
  · by_cases hhas : c'.has_event_code EV_ABS code = true
    · have hle := has_event_code_le (by decide) rfl hhas
      have he : event_code_equal c c' EV_ABS code = true :=
        event_code_equal_of h (by decide) rfl hle
      simp only [event_code_equal, hhas, Bool.not_true, Bool.false_or, Bool.and_eq_true] at he
      simpa [absolute_info_equal_iff] using he.2.1
    · rw [get_abs_info_none hhas, get_abs_info_none (by rwa [hcode])]
  · have hle := has_event_code_le (by decide) rfl hhas
    have he : event_code_equal c c' EV_REP code = true :=
      event_code_equal_of h (by decide) rfl hle
    simp only [event_code_equal, hhas, Bool.not_true, Bool.false_or, Bool.and_eq_true] at he
    simpa using he.2.2

theorem equal_of_same_represented (h : SameRepresented c c') : capabilities_equal c c' = true := by
  unfold capabilities_equal
  simp only [Bool.and_eq_true, List.all_eq_true, beq_iff_eq, nullable_strings_equal_iff]
  refine ⟨⟨⟨⟨⟨⟨h.uniq, h.bustype⟩, h.vendor⟩, h.product⟩, h.version⟩,
    fun property _ => h.property property⟩, fun type _ => ?_⟩
  unfold event_type_equal
  rw [h.event_type, Bool.and_eq_true]
  refine ⟨by simp, ?_⟩
  split
  · rfl
  · refine List.all_eq_true.mpr fun code _ => ?_
    unfold event_code_equal
    rw [h.event_code, h.abs_info]
    by_cases hhas : c'.has_event_code type code = true
    · by_cases hrep : type = EV_REP
      · subst hrep
        simp [absolute_info_equal_iff, h.repeat_value code hhas]
      · simp [absolute_info_equal_iff, hrep]
    · simp [hhas]

theorem capabilities_equal_iff : capabilities_equal c c' = true ↔ SameRepresented c c' :=
  ⟨same_represented_of_equal, equal_of_same_represented⟩

end comparison

/-! ## The template -/

section template

variable (source : Capabilities)

/-- What no step of a loop changes, the loop does not change. -/
theorem foldl_keeps {α β γ : Type} {f : α → β → α} {g : α → γ} (h : ∀ a b, g (f a b) = g a)
    (bs : List β) (a : α) : g (bs.foldl f a) = g a := by
  induction bs generalizing a with
  | nil => rfl
  | cons b bs ih => rw [List.foldl_cons, ih, h]

/-- What `libevdev_get_uniq` and the identity functions return. -/
def Capabilities.identity (c : Capabilities) : Option String × Nat × Nat × Nat × Nat :=
  (c.uniq, c.bustype, c.vendor, c.product, c.version)

theorem copy_event_codes_keeps {γ : Type} {g : Capabilities → γ}
    (h : ∀ c type code, g (enable_event_code c source type code) = g c) (c : Capabilities)
    (type : Nat) : g (copy_event_codes c source type) = g c := by
  unfold copy_event_codes
  split
  · rfl
  · exact foldl_keeps (fun c code => h c type code) _ c

/-- The copy of the types changes neither the identity nor the properties. -/
theorem copy_types_keeps {γ : Type} {g : Capabilities → γ}
    (htype : ∀ c type, g (enable_event_type c type) = g c)
    (hcode : ∀ c type code, g (enable_event_code c source type code) = g c) (types : List Nat)
    (c : Capabilities) :
    g (types.foldl (fun c type => copy_event_codes (enable_event_type c type) source type) c) =
      g c := by
  refine foldl_keeps (fun c type => ?_) types c
  rw [copy_event_codes_keeps source hcode, htype]

theorem create_template_identity : (create_template source).identity = source.identity := by
  unfold create_template copy_capabilities
  rw [copy_types_keeps source (g := Capabilities.identity) (fun _ _ => rfl) fun _ _ _ => rfl]
  exact foldl_keeps (f := enable_property) (g := Capabilities.identity) (fun _ _ => rfl) _ _

theorem enable_properties_property (properties : List Nat) (c : Capabilities) (property : Nat) :
    (properties.foldl enable_property c).property property =
      (properties.contains property || c.property property) := by
  induction properties generalizing c with
  | nil => rfl
  | cons first properties ih =>
    rw [List.foldl_cons, ih, List.contains_cons]
    simp only [enable_property]
    cases property == first <;> cases properties.contains property <;> rfl

theorem create_template_property (property : Nat) :
    (create_template source).has_property property = source.has_property property := by
  have hcopied : (create_template source).property property =
      ((List.range (INPUT_PROP_MAX + 1)).filter source.has_property).contains property := by
    unfold create_template copy_capabilities
    rw [copy_types_keeps source (g := Capabilities.property) (fun _ _ => rfl) fun _ _ _ => rfl,
      enable_properties_property]
    exact Bool.or_false _
  change (decide (property ≤ INPUT_PROP_MAX) && (create_template source).property property) = _
  rw [hcopied, List.contains_eq_mem, Bool.eq_iff_iff]
  simp only [Bool.and_eq_true, decide_eq_true_eq, List.mem_filter, List.mem_range]
  constructor
  · exact fun h => h.2.2
  · intro hp
    have hle := has_property_le hp
    exact ⟨hle, Nat.lt_succ_of_le hle, hp⟩

/-! ### Repeat settings -/

theorem enable_event_codes_repeat (codes : List Nat) (type : Nat) (c : Capabilities) (k : Nat) :
    (codes.foldl (fun c code => enable_event_code c source type code) c).repeat_value k =
      if type = EV_REP ∧ k ∈ codes then source.repeat_value k else c.repeat_value k := by
  induction codes generalizing c with
  | nil => simp
  | cons code codes ih =>
    rw [List.foldl_cons, ih]
    simp only [enable_event_code, List.mem_cons]
    split_ifs <;> simp_all

theorem copy_type_repeat (type : Nat) (c : Capabilities) (k : Nat) :
    (copy_event_codes (enable_event_type c type) source type).repeat_value k =
      if type = EV_REP ∧ k ∈ source.codes EV_REP REP_MAX then source.repeat_value k
      else c.repeat_value k := by
  unfold copy_event_codes
  by_cases ht : type = EV_REP
  · subst ht
    exact enable_event_codes_repeat source _ EV_REP _ k
  · rw [if_neg fun h => ht h.1]
    split
    · rfl
    · rw [enable_event_codes_repeat, if_neg fun h => ht h.1]
      rfl

theorem copy_types_repeat (types : List Nat) (c : Capabilities) (k : Nat) :
    (types.foldl (fun c type => copy_event_codes (enable_event_type c type) source type)
        c).repeat_value k =
      if EV_REP ∈ types ∧ k ∈ source.codes EV_REP REP_MAX then source.repeat_value k
      else c.repeat_value k := by
  induction types generalizing c with
  | nil => simp
  | cons type types ih =>
    rw [List.foldl_cons, ih, copy_type_repeat]
    simp only [List.mem_cons]
    split_ifs <;> simp_all

theorem create_template_repeat {code : Nat} (h : source.has_event_code EV_REP code = true) :
    (create_template source).repeat_value code = source.repeat_value code := by
  unfold create_template copy_capabilities
  have htype : source.has_event_type EV_REP = true := (Bool.and_eq_true_iff.mp h).1
  rw [copy_types_repeat, if_pos]
  refine ⟨List.mem_filter.mpr ⟨List.mem_range.mpr (by decide), htype⟩, ?_⟩
  exact mem_codes.mpr ⟨has_event_code_le (by decide) rfl h, h⟩

/-! ### Types and codes -/

theorem create_template_type (type : Nat) :
    (create_template source).has_event_type type = source.has_event_type type := by
  refine eq_of_range (fun _ => has_event_type_le) (fun _ => has_event_type_le)
    (fun type hle => ?_) type
  obtain ⟨htypes, _, _⟩ := create_template_values source
  change (type == EV_SYN ||
    (decide (type ≤ EV_MAX) && (create_template source).event_type type)) = _
  rw [htypes]
  by_cases hsyn : type = EV_SYN
  · subst hsyn
    rfl
  · simp [hle, hsyn]

theorem create_template_has_code (type code : Nat) :
    (create_template source).has_event_code type code = source.has_event_code type code := by
  by_cases hsyn : type = EV_SYN
  · subst hsyn
    rfl
  · cases hmax : event_type_get_max type with
    | none =>
      unfold Capabilities.has_event_code
      rw [create_template_type, hmax]
    | some maximum => exact create_template_code source (event_type_le hmax) hsyn hmax code

theorem create_template_abs_info (code : Nat) :
    (create_template source).get_abs_info code = source.get_abs_info code := by
  by_cases hcode : source.has_event_code EV_ABS code = true
  · obtain ⟨_, _, habs⟩ := create_template_values source
    have htype : source.has_event_type EV_ABS = true := (Bool.and_eq_true_iff.mp hcode).1
    have hle := has_event_code_le (by decide) rfl hcode
    rw [get_abs_info_of_code hcode,
      get_abs_info_of_code (by rw [create_template_has_code]; exact hcode),
      habs code htype (mem_codes.mpr ⟨hle, hcode⟩)]
  · rw [get_abs_info_none hcode, get_abs_info_none (by rwa [create_template_has_code])]

/-- The template represents its source. -/
theorem template_same : SameRepresented (create_template source) source := by
  have hidentity := create_template_identity source
  simp only [Capabilities.identity, Prod.mk.injEq] at hidentity
  obtain ⟨huniq, hbustype, hvendor, hproduct, hversion⟩ := hidentity
  exact
    { uniq := huniq
      bustype := hbustype
      vendor := hvendor
      product := hproduct
      version := hversion
      property := create_template_property source
      event_type := create_template_type source
      event_code := create_template_has_code source
      abs_info := create_template_abs_info source
      repeat_value := fun _ => create_template_repeat source }

/-- A device made from one source is compatible with the sources that represent the same. -/
theorem template_equal_iff {s s' : Capabilities} :
    capabilities_equal (create_template s) s' = true ↔ SameRepresented s s' := by
  rw [capabilities_equal_iff]
  exact ⟨fun h => (template_same s).symm.trans h, fun h => (template_same s).trans h⟩

end template

/-! ## The session -/

section session

variable {w : World} {source : SourceDevice} {d : VirtualDevice}

theorem KeepsDevices.trans {m m1 m' : Moment} (h : KeepsDevices m m1) (h' : KeepsDevices m1 m') :
    KeepsDevices m m' :=
  ⟨h'.source.trans h.source, h'.virtual_device.trans h.virtual_device, h.adds.trans h'.adds⟩

/-- The control steps keep both devices as they are. -/
theorem controls_keep_devices {m m' : Moment} (h : ControlSteps m m') :
    m'.session.source_device = m.session.source_device ∧
      m'.session.virtual_device = m.session.virtual_device ∧ KeepsDevices m m' := by
  induction h with
  | refl => exact ⟨rfl, rfl, .refl m⟩
  | tail _ hstep ih =>
    obtain ⟨hs, hv, hk⟩ := ih
    exact ⟨hstep.same.1.trans hs, hstep.same.2.1.trans hv, hk.trans hstep.keeps_devices⟩

theorem virtual_device_create.success {w' : World} (hs : w.session.source_device = some source)
    (h : virtual_device_create w = (some .SUCCESS, w')) :
    ∃ d, w'.session.virtual_device = some d ∧
      d.capabilities = create_template source.evdev.capabilities := by
  have hspec : wp (fun _ => False) virtual_device_create (fun r w' => r = .SUCCESS → ∃ d,
      w'.session.virtual_device = some d ∧
        d.capabilities = create_template source.evdev.capabilities) w := by
    unfold virtual_device_create
    simp only [wp_bind, wp_modify_session, wp_session, hs, wp_ask]
    split
    · exact fun hr => by cases hr
    · split
      · refine fun hr => ?_
        unfold virtual_device_create_failed at hr
        split_ifs at hr
      · simp only [wp_bind, wp_new_id, wp_modify_session, wp_record, wp_pure]
        intro _
        refine ⟨_, rfl, ?_⟩
        dsimp only
  obtain ⟨r, w1, hrun, hq⟩ := exists_of_wp hspec
  rw [h] at hrun
  cases hrun
  exact hq rfl

/-- The answer reads the capabilities, and nothing of the values or of the kernel's state. -/
theorem virtual_device_is_compatible.answer (hd : w.session.virtual_device = some d)
    (hs : w.session.source_device = some source) :
    virtual_device_is_compatible w =
      (some (capabilities_equal d.capabilities source.evdev.capabilities),
        { w with
          history := .compared d.id
            (capabilities_equal d.capabilities source.evdev.capabilities) :: w.history }) := by
  have hspec : wp (fun _ => False) virtual_device_is_compatible (fun b w' =>
      b = capabilities_equal d.capabilities source.evdev.capabilities ∧
        w' = { w with
          history := .compared d.id
            (capabilities_equal d.capabilities source.evdev.capabilities) :: w.history }) w := by
    unfold virtual_device_is_compatible
    simp only [wp_bind, wp_session, hd, hs, wp_record, wp_pure]
    exact ⟨trivial, trivial⟩
  obtain ⟨b, w1, hrun, hb, hw⟩ := exists_of_wp hspec
  rw [hrun, hb, hw]

/-- A source that is compatible is never a reason to replace the device. -/
theorem activate_source.keeps (hd : w.session.virtual_device = some d)
    (hs : w.session.source_device = some source)
    (hequal : capabilities_equal d.capabilities source.evdev.capabilities = true) :
    wp (fun _ => False) activate_source (fun _ w' => KeepsDevices w.moment w'.moment) w := by
  unfold activate_source
  simp only [wp_bind, wp_modify_session]
  refine set_source_available.spec _ _ fun w1 h1 => ?_
  refine wp_bind.mpr (report_libinput_status.spec.call trivial fun _ w2 h2 => ?_)
  obtain ⟨hs2, hd2, hk2⟩ := controls_keep_devices (h1.trans h2)
  have hs2 : w2.session.source_device = some source := hs2.trans hs
  have hd2 : w2.session.virtual_device = some d := hd2.trans hd
  have hk2 : KeepsDevices w.moment w2.moment := ⟨hk2.source, hk2.virtual_device, hk2.adds⟩
  unfold virtual_device_is_compatible
  simp only [wp_bind, wp_session, hd2, hs2, wp_record, wp_pure]
  rw [if_pos hequal]
  have hk3 : KeepsDevices w.moment (w2.moment.log (.compared d.id
      (capabilities_equal d.capabilities source.evdev.capabilities))) := hk2.log trivial
  unfold synchronize_unless_paused
  simp only [wp_bind, wp_session]
  split
  · exact hk3
  · refine session_synchronize_state.spec.call ⟨?_, ?_⟩ fun r w4 h4 => hk3.trans h4.keeps_devices
    · simp [hs2]
    · simp [hd2]

/-- Compatibility is exact equality of what a device represents, and a device is compatible
with the source that it was made from. -/
theorem compatibility_is_exact_equality :
    (∀ s s' : Capabilities,
      (capabilities_equal (create_template s) s' = true ↔ SameRepresented s s') ∧
      capabilities_equal (create_template s) s = true) ∧
    (∀ (w w' : World) (source : SourceDevice), w.session.source_device = some source →
      virtual_device_create w = (some .SUCCESS, w') → ∃ d,
        w'.session.virtual_device = some d ∧
        d.capabilities = create_template source.evdev.capabilities) ∧
    ∀ (s : Capabilities) (w : World) (d : VirtualDevice) (source : SourceDevice),
      w.session.virtual_device = some d → d.capabilities = create_template s →
      w.session.source_device = some source →
      (∃ b w', virtual_device_is_compatible w = (some b, w') ∧ w'.session = w.session ∧
        (b = true ↔ SameRepresented s source.evdev.capabilities)) ∧
      (SameRepresented s source.evdev.capabilities → ∃ r w',
        activate_source w = (some r, w') ∧ KeepsDevices w.moment w'.moment) := by
  refine ⟨fun s s' => ⟨template_equal_iff, ?_⟩, fun w w' source hs hcreate => ?_,
    fun s w d source hd hcapabilities hs => ⟨?_, fun hsame => ?_⟩⟩
  · exact capabilities_equal_iff.mpr (template_same s)
  · exact virtual_device_create.success hs hcreate
  · refine ⟨_, _, virtual_device_is_compatible.answer hd hs, rfl, ?_⟩
    rw [hcapabilities]
    exact template_equal_iff
  · have hequal : capabilities_equal d.capabilities source.evdev.capabilities = true := by
      rw [hcapabilities]
      exact template_equal_iff.mpr hsame
    exact exists_of_wp (activate_source.keeps hd hs hequal)

end session

end input_proxy
