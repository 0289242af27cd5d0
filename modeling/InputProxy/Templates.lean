-- A virtual device has the shape of its source: the template copies every key,
-- switch and axis, and a device that is kept was found to have the same ones.
import InputProxy.DeviceStates

open programs

namespace input_proxy

/-! ## Devices that are kept -/

theorem event_code_equal_of {c c' : Capabilities} (h : capabilities_equal c c' = true)
    {type maximum code : Nat} (ht : type ≤ EV_MAX) (hmax : event_type_get_max type = some maximum)
    (hcode : code ≤ maximum) : event_code_equal c c' type code = true := by
  unfold capabilities_equal at h
  simp only [Bool.and_eq_true] at h
  have htypes := List.all_eq_true.mp h.2 type (List.mem_range.mpr (by omega))
  unfold event_type_equal at htypes
  rw [hmax] at htypes
  exact List.all_eq_true.mp (Bool.and_eq_true_iff.mp htypes).2 code (List.mem_range.mpr (by omega))

theorem has_event_code_eq_of {c c' : Capabilities} (h : capabilities_equal c c' = true)
    {type maximum : Nat} (ht : type ≤ EV_MAX) (hsyn : type ≠ EV_SYN)
    (hmax : event_type_get_max type = some maximum) (code : Nat) :
    c.has_event_code type code = c'.has_event_code type code := by
  by_cases hcode : code ≤ maximum
  · have he := event_code_equal_of h ht hmax hcode
    unfold event_code_equal at he
    simpa using (Bool.and_eq_true_iff.mp he).1
  · have hfalse : ∀ c : Capabilities, c.has_event_code type code = false := by
      intro c
      rw [Bool.eq_false_iff]
      exact fun hc => hcode (has_event_code_le hsyn hmax hc)
    rw [hfalse, hfalse]

/-- The slots of a device follow from its codes and from the range of `ABS_MT_SLOT`. -/
theorem slots_eq {c c' : Capabilities}
    (hcode : ∀ code, c.has_event_code EV_ABS code = c'.has_event_code EV_ABS code)
    (hinfo : c'.has_event_code EV_ABS ABS_MT_SLOT = true →
      (c.abs_info ABS_MT_SLOT).maximum = (c'.abs_info ABS_MT_SLOT).maximum) :
    c.slots = c'.slots := by
  unfold Capabilities.slots Capabilities.get_num_slots
  rw [hcode, hcode]
  by_cases hs : c'.has_event_code EV_ABS ABS_MT_SLOT = true
  · rw [hinfo hs]
  · simp [hs]

theorem capabilities_equal_shape {c c' : Capabilities} (h : capabilities_equal c c' = true) :
    SameShape c c' := by
  have hcode : ∀ type code, type = EV_KEY ∨ type = EV_SW ∨ type = EV_ABS →
      c.has_event_code type code = c'.has_event_code type code := by
    rintro type code (rfl | rfl | rfl)
    · exact has_event_code_eq_of h (by decide) (by decide) rfl code
    · exact has_event_code_eq_of h (by decide) (by decide) rfl code
    · exact has_event_code_eq_of h (by decide) (by decide) rfl code
  refine ⟨hcode, slots_eq (fun code => hcode _ code (.inr (.inr rfl))) fun hs => ?_⟩
  have hs' : c.has_event_code EV_ABS ABS_MT_SLOT = true := by
    rw [hcode _ _ (.inr (.inr rfl))]
    exact hs
  have he : event_code_equal c c' EV_ABS ABS_MT_SLOT = true :=
    event_code_equal_of h (by decide) rfl (by decide)
  have hinfo : absolute_info_equal (c.get_abs_info ABS_MT_SLOT) (c'.get_abs_info ABS_MT_SLOT) =
      true := by
    simp only [event_code_equal, hs, Bool.and_eq_true, Bool.or_eq_true, Bool.not_true,
      Bool.false_eq_true, false_or] at he
    simpa using he.2.1
  simp only [Capabilities.get_abs_info, hs, hs', if_true, absolute_info_equal,
    Bool.and_eq_true, beq_iff_eq] at hinfo
  exact hinfo.1.1.1.2

/-! ## Devices that are made -/

section template

variable (source : Capabilities)

theorem enable_event_codes (codes : List Nat) (type : Nat) (c : Capabilities) :
    let c' := codes.foldl (fun c code => enable_event_code c source type code) c
    (∀ t, c'.event_type t = c.event_type t) ∧
    (∀ t k, c'.event_code t k = (c.event_code t k || (t == type && codes.contains k))) ∧
    (∀ k, c'.abs_info k =
      if type = EV_ABS ∧ k ∈ codes then source.abs_info k else c.abs_info k) := by
  induction codes generalizing c with
  | nil => simp
  | cons code codes ih =>
    obtain ⟨h1, h2, h3⟩ := ih (enable_event_code c source type code)
    refine ⟨fun t => ?_, fun t k => ?_, fun k => ?_⟩
    · rw [List.foldl_cons, h1]
      rfl
    · rw [List.foldl_cons, h2]
      simp only [enable_event_code, List.contains_cons]
      cases t == type <;> cases k == code <;> cases c.event_code t k <;> simp
    · rw [List.foldl_cons, h3]
      simp only [enable_event_code, List.mem_cons]
      split_ifs <;> simp_all

/-- What one type of the source adds to the template. -/
theorem copy_type (type : Nat) (c : Capabilities) :
    let c' := copy_event_codes (enable_event_type c type) source type
    (∀ t, c'.event_type t = (c.event_type t || t == type)) ∧
    (∀ t k, c'.event_code t k = (c.event_code t k ||
      (t == type && (event_type_get_max t).any fun maximum =>
        (source.codes t maximum).contains k))) ∧
    (∀ k, c'.abs_info k =
      if type = EV_ABS ∧ k ∈ source.codes EV_ABS ABS_MAX then source.abs_info k
      else c.abs_info k) := by
  dsimp only
  unfold copy_event_codes
  cases hmax : event_type_get_max type with
  | none =>
    refine ⟨fun t => ?_, fun t k => ?_, fun k => ?_⟩
    · simp [enable_event_type, Bool.or_comm]
    · by_cases ht : t = type
      · subst ht
        simp [enable_event_type, hmax]
      · simp [enable_event_type, ht]
    · have hne : type ≠ EV_ABS := by
        rintro rfl
        cases hmax
      simp [enable_event_type, hne]
  | some maximum =>
    obtain ⟨h1, h2, h3⟩ :=
      enable_event_codes source (source.codes type maximum) type (enable_event_type c type)
    refine ⟨fun t => ?_, fun t k => ?_, fun k => ?_⟩
    · rw [h1]
      simp [enable_event_type, Bool.or_comm]
    · rw [h2]
      by_cases ht : t = type
      · subst ht
        simp [enable_event_type, hmax]
      · have htype : (t == type) = false := by simpa using ht
        simp [enable_event_type, htype]
    · rw [h3]
      by_cases ht : type = EV_ABS
      · subst ht
        obtain rfl : ABS_MAX = maximum := Option.some.inj hmax
        rfl
      · simp [enable_event_type, ht]

/-- What a list of types of the source adds to the template. -/
theorem copy_types (types : List Nat) (c : Capabilities) :
    let c' := types.foldl (fun c type => copy_event_codes (enable_event_type c type) source type) c
    (∀ t, c'.event_type t = (c.event_type t || types.contains t)) ∧
    (∀ t k, c'.event_code t k = (c.event_code t k ||
      (types.contains t && (event_type_get_max t).any fun maximum =>
        (source.codes t maximum).contains k))) ∧
    (∀ k, c'.abs_info k =
      if EV_ABS ∈ types ∧ k ∈ source.codes EV_ABS ABS_MAX then source.abs_info k
      else c.abs_info k) := by
  induction types generalizing c with
  | nil => simp
  | cons type types ih =>
    obtain ⟨h1, h2, h3⟩ := ih (copy_event_codes (enable_event_type c type) source type)
    obtain ⟨g1, g2, g3⟩ := copy_type source type c
    refine ⟨fun t => ?_, fun t k => ?_, fun k => ?_⟩
    · rw [List.foldl_cons, h1, g1, List.contains_cons, Bool.or_assoc]
    · rw [List.foldl_cons, h2, g2, List.contains_cons]
      cases t == type <;> cases types.contains t <;> simp
    · rw [List.foldl_cons, h3, g3]
      simp only [List.mem_cons]
      split_ifs <;> simp_all

theorem enable_properties (properties : List Nat) (c : Capabilities) :
    (properties.foldl enable_property c).event_type = c.event_type ∧
      (properties.foldl enable_property c).event_code = c.event_code ∧
      (properties.foldl enable_property c).abs_info = c.abs_info := by
  induction properties generalizing c with
  | nil => exact ⟨rfl, rfl, rfl⟩
  | cons property properties ih => exact ih (enable_property c property)

/-- The template has the types, the codes and the axes of the source. -/
theorem create_template_values :
    (∀ t, (create_template source).event_type t = decide (t ≤ EV_MAX ∧ source.has_event_type t)) ∧
    (∀ t k, (create_template source).event_code t k =
      (decide (t ≤ EV_MAX ∧ source.has_event_type t) && (event_type_get_max t).any fun maximum =>
        (source.codes t maximum).contains k)) ∧
    (∀ k, source.has_event_type EV_ABS = true → k ∈ source.codes EV_ABS ABS_MAX →
      (create_template source).abs_info k = source.abs_info k) := by
  have hcontains : ∀ t, ((List.range (EV_MAX + 1)).filter source.has_event_type).contains t =
      decide (t ≤ EV_MAX ∧ source.has_event_type t) := by
    intro t
    rw [List.contains_eq_mem, decide_eq_decide, List.mem_filter, List.mem_range,
      Nat.lt_succ_iff]
  unfold create_template copy_capabilities
  obtain ⟨h1, h2, h3⟩ := copy_types source
    ((List.range (EV_MAX + 1)).filter source.has_event_type)
    (((List.range (INPUT_PROP_MAX + 1)).filter source.has_property).foldl enable_property
      { libevdev_new with
        uniq := source.uniq
        bustype := source.bustype
        vendor := source.vendor
        product := source.product
        version := source.version })
  obtain ⟨g1, g2, g3⟩ := enable_properties
    ((List.range (INPUT_PROP_MAX + 1)).filter source.has_property)
      { libevdev_new with
        uniq := source.uniq
        bustype := source.bustype
        vendor := source.vendor
        product := source.product
        version := source.version }
  rw [g1] at h1
  rw [g2] at h2
  rw [g3] at h3
  refine ⟨fun t => ?_, fun t k => ?_, fun k hk hcode => ?_⟩
  · rw [h1, hcontains]
    rfl
  · rw [h2, hcontains]
    rfl
  · rw [h3, if_pos]
    refine ⟨List.mem_filter.mpr ⟨List.mem_range.mpr (by decide), hk⟩, hcode⟩

theorem create_template_code {type maximum : Nat} (ht : type ≤ EV_MAX) (hsyn : type ≠ EV_SYN)
    (hmax : event_type_get_max type = some maximum) (code : Nat) :
    (create_template source).has_event_code type code = source.has_event_code type code := by
  obtain ⟨h1, h2, _⟩ := create_template_values source
  have htype : (create_template source).has_event_type type = source.has_event_type type := by
    change (type == EV_SYN || (decide (type ≤ EV_MAX) &&
      (create_template source).event_type type)) = _
    rw [h1]
    simp [ht, hsyn]
  have hcode : (create_template source).has_event_code type code =
      (source.has_event_type type && (decide (code ≤ maximum) &&
        (create_template source).event_code type code)) := by
    unfold Capabilities.has_event_code
    rw [htype, hmax, show (type == EV_SYN) = false by simpa using hsyn, Bool.false_or]
  rw [hcode, h2, hmax, Option.any_some, List.contains_eq_mem]
  by_cases hs : source.has_event_code type code = true
  · have hle := has_event_code_le hsyn hmax hs
    have htrue : source.has_event_type type = true := (Bool.and_eq_true_iff.mp hs).1
    simp [hs, hle, htrue, ht, mem_codes]
  · simp [hs, mem_codes]

theorem create_template_shape : SameShape (create_template source) source := by
  have hcode : ∀ type code, type = EV_KEY ∨ type = EV_SW ∨ type = EV_ABS →
      (create_template source).has_event_code type code = source.has_event_code type code := by
    rintro type code (rfl | rfl | rfl)
    · exact create_template_code source (by decide) (by decide) rfl code
    · exact create_template_code source (by decide) (by decide) rfl code
    · exact create_template_code source (by decide) (by decide) rfl code
  refine ⟨hcode, slots_eq (fun code => hcode _ code (.inr (.inr rfl))) fun hs => ?_⟩
  obtain ⟨_, _, h3⟩ := create_template_values source
  rw [h3 ABS_MT_SLOT (Bool.and_eq_true_iff.mp hs).1 (mem_codes.mpr ⟨by decide, hs⟩)]

end template

end input_proxy
