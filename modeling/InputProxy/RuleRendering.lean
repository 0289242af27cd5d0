-- No rule injection: a rule that is rendered is read by udev as the terms that
-- were meant, with the values of the identity in them as they are.
import InputProxy.Installation
import InputProxy.UdevRules

open c_strings udev_rules

namespace input_proxy

/-! ## Identities -/

/-- The buffers of `struct input_proxy_device_rule_identity`: each has room for its NUL. -/
structure RuleBuffers extends RuleIdentity where
  udev_vendor_lt : udev_vendor.length < 32
  udev_model_lt : udev_model.length < 32
  path_lt : path.length < 512
  bus_lt : bus.length < 16
  vendor_lt : vendor.length < 16
  product_lt : product.length < 16

/-! ## Terms -/

def match_term (key : String) (attr : Option String) (value : Bytes) : Term :=
  ⟨ascii key, attr.map ascii, .equal, value⟩

def fixed_terms : List Term :=
  [match_term "ACTION" none (ascii "add|change"), match_term "SUBSYSTEM" none (ascii "input"),
    match_term "KERNEL" none (ascii "event*")]

def udev_terms (identity : RuleIdentity) : List Term :=
  [match_term "ENV" "ID_VENDOR_ID" identity.udev_vendor.bytes,
    match_term "ENV" "ID_MODEL_ID" identity.udev_model.bytes]

def kernel_terms (identity : RuleIdentity) : List Term :=
  [match_term "ATTRS" "id/bustype" identity.bus.bytes,
    match_term "ATTRS" "id/vendor" identity.vendor.bytes,
    match_term "ATTRS" "id/product" identity.product.bytes]

def identity_terms (identity : RuleIdentity) : List Term :=
  if rule_identity_has_udev_identity identity then udev_terms identity else kernel_terms identity

def path_term (identity : RuleIdentity) : Term := match_term "ENV" "ID_PATH" identity.path.bytes

def ignore_term : Term := ⟨ascii "ENV", some (ascii "LIBINPUT_IGNORE_DEVICE"), .assign, ascii "1"⟩

/-- What a rule says. -/
def rule_terms (identity : RuleIdentity) : List Term :=
  fixed_terms ++ identity_terms identity ++ [path_term identity, ignore_term]

/-! ## Values -/

/-- The bytes that a value may have. -/
def is_safe_byte (byte : UInt8) : Bool := is_alphanumeric byte || byte ∈ [95, 45, 46, 58, 47]

/-- Quotes and backslashes, the bytes of glob patterns and those of substitutions, and the end of
a line. -/
def special_bytes : Bytes := ascii "\"\\*?[]|$%\n"

section values

variable {value : CString} {identity : RuleIdentity}

theorem safe_value_iff : rule_value_is_safe value = true ↔
    value.bytes ≠ [] ∧ ∀ byte ∈ value.bytes, is_safe_byte byte = true := by
  simp only [rule_value_is_safe, is_safe_byte, decide_eq_true_eq, List.all_eq_true]

theorem safe_byte_not_special {byte : UInt8} (h : is_safe_byte byte = true) :
    byte ∉ special_bytes := by
  intro hmem
  have hall : ∀ b ∈ special_bytes, is_safe_byte b = false := by decide +kernel
  rw [hall byte hmem] at h
  cases h

theorem safe_value_not_special (h : rule_value_is_safe value = true) {byte : UInt8}
    (hbyte : byte ∈ special_bytes) : byte ∉ value.bytes := fun hmem =>
  safe_byte_not_special ((safe_value_iff.mp h).2 byte hmem) hbyte

theorem plain_match_term {key : String} {attr : Option String}
    (hkey : ascii key ≠ [] ∧ ∀ b ∈ ascii key, is_key_byte b = true)
    (hattr : ∀ a ∈ attr, end_brace ∉ ascii a ∧ newline ∉ ascii a)
    (h : rule_value_is_safe value = true) :
    (match_term key attr value.bytes).Plain where
  key := hkey.1
  key_bytes := hkey.2
  attr a ha := by
    obtain ⟨a', ha', rfl⟩ := Option.map_eq_some_iff.mp (Option.mem_def.mp ha)
    exact hattr a' ha'
  value := ⟨safe_value_not_special h (by decide), safe_value_not_special h (by decide),
    safe_value_not_special h (by decide)⟩

end values

/-! ## Rendering -/

section rendering

variable {identity : RuleIdentity} {rule : CString}

theorem narrow_of_rendered (h : render_libinput_ignore_rule identity = some rule) :
    rule_identity_is_narrow identity = true := by
  unfold render_libinput_ignore_rule at h
  split at h
  · cases h
  · rename_i hnarrow
    simpa using hnarrow

set_option maxRecDepth 2000 in
/-- The buffer of the identity match has room for both kinds of match. -/
theorem bytes_of_rendered (identity : RuleBuffers)
    (h : render_libinput_ignore_rule identity.toRuleIdentity = some rule) :
    rule.bytes = write_terms (rule_terms identity.toRuleIdentity) ++ [newline] := by
  have h1 := identity.udev_vendor_lt
  have h2 := identity.udev_model_lt
  have h3 := identity.bus_lt
  have h4 := identity.vendor_lt
  have h5 := identity.product_lt
  unfold render_libinput_ignore_rule at h
  rw [if_neg (by simpa using narrow_of_rendered h)] at h
  obtain rfl := Option.some.inj h
  unfold rule_terms identity_terms
  split
  · rw [snprintf_eq]
    · simp [udev_terms, fixed_terms, path_term, ignore_term, match_term, write_terms,
        write_term, write_attribute, Operator.text, cstr, CString.of, ascii, newline]
    · have hlength : (cstr "ENV\x7bID_VENDOR_ID\x7d==\"").length = 20 ∧
          (cstr "\", ENV\x7bID_MODEL_ID\x7d==\"").length = 22 ∧ (cstr "\"").length = 1 := by
        decide +kernel
      simp only [CString.length_append, hlength]
      omega
  · rw [snprintf_eq]
    · simp [kernel_terms, fixed_terms, path_term, ignore_term, match_term, write_terms,
        write_term, write_attribute, Operator.text, cstr, CString.of, ascii, newline]
    · have hlength : (cstr "ATTRS\x7bid/bustype\x7d==\"").length = 20 ∧
          (cstr "\", ATTRS\x7bid/vendor\x7d==\"").length = 22 ∧
          (cstr "\", ATTRS\x7bid/product\x7d==\"").length = 23 ∧ (cstr "\"").length = 1 := by
        decide +kernel
      simp only [CString.length_append, hlength]
      omega

theorem narrow_values (h : rule_identity_is_narrow identity = true) :
    rule_value_is_safe identity.path = true ∧
      if rule_identity_has_udev_identity identity then
        rule_value_is_safe identity.udev_vendor = true ∧
          rule_value_is_safe identity.udev_model = true
      else
        rule_value_is_safe identity.bus = true ∧ rule_value_is_safe identity.vendor = true ∧
          rule_value_is_safe identity.product = true := by
  unfold rule_identity_is_narrow at h
  simp only [Bool.and_eq_true, Bool.or_eq_true] at h
  obtain ⟨hpath, hidentity⟩ := h
  refine ⟨hpath, ?_⟩
  split
  · rename_i hudev
    simpa [rule_identity_has_udev_identity] using hudev
  · rename_i hudev
    obtain ⟨⟨hbus, hvendor⟩, hproduct⟩ := hidentity.resolve_left hudev
    exact ⟨hbus, hvendor, hproduct⟩

/-- The values that a rule compares. -/
def compared_values (identity : RuleIdentity) : List CString :=
  identity.path :: if rule_identity_has_udev_identity identity then
      [identity.udev_vendor, identity.udev_model]
    else [identity.bus, identity.vendor, identity.product]

theorem compared_values_safe (h : rule_identity_is_narrow identity = true) :
    ∀ value ∈ compared_values identity, rule_value_is_safe value = true := by
  obtain ⟨hpath, hvalues⟩ := narrow_values h
  unfold compared_values
  refine List.forall_mem_cons.mpr ⟨hpath, ?_⟩
  by_cases hudev : rule_identity_has_udev_identity identity = true
  · rw [if_pos hudev] at hvalues ⊢
    simpa using hvalues
  · rw [if_neg hudev] at hvalues ⊢
    simpa using hvalues

theorem rule_terms_plain (h : rule_identity_is_narrow identity = true) :
    ∀ term ∈ rule_terms identity, term.Plain := by
  obtain ⟨hpath, hvalues⟩ := narrow_values h
  have hfixed : ∀ term ∈ fixed_terms, term.Plain := by
    unfold fixed_terms match_term
    simp only [List.forall_mem_cons, List.not_mem_nil, false_imp_iff, implies_true, and_true]
    refine ⟨⟨?_, ?_, ?_, ?_⟩, ⟨?_, ?_, ?_, ?_⟩, ⟨?_, ?_, ?_, ?_⟩⟩ <;> decide +kernel
  have hidentity : ∀ term ∈ identity_terms identity, term.Plain := by
    unfold identity_terms
    by_cases hudev : rule_identity_has_udev_identity identity = true
    · rw [if_pos hudev] at hvalues ⊢
      obtain ⟨hvendor, hmodel⟩ := hvalues
      unfold udev_terms
      simp only [List.forall_mem_cons, List.not_mem_nil, false_imp_iff, implies_true, and_true]
      exact ⟨plain_match_term (by decide +kernel) (by decide +kernel) hvendor,
        plain_match_term (by decide +kernel) (by decide +kernel) hmodel⟩
    · rw [if_neg hudev] at hvalues ⊢
      obtain ⟨hbus, hvendor, hproduct⟩ := hvalues
      unfold kernel_terms
      simp only [List.forall_mem_cons, List.not_mem_nil, false_imp_iff, implies_true, and_true]
      exact ⟨plain_match_term (by decide +kernel) (by decide +kernel) hbus,
        plain_match_term (by decide +kernel) (by decide +kernel) hvendor,
        plain_match_term (by decide +kernel) (by decide +kernel) hproduct⟩
  have hlast : ∀ term ∈ [path_term identity, ignore_term], term.Plain := by
    simp only [List.forall_mem_cons, List.not_mem_nil, false_imp_iff, implies_true, and_true]
    refine ⟨plain_match_term (by decide +kernel) (by decide +kernel) hpath, ?_, ?_, ?_, ?_⟩ <;>
      decide +kernel
  unfold rule_terms
  exact List.forall_mem_append.mpr ⟨List.forall_mem_append.mpr ⟨hfixed, hidentity⟩, hlast⟩

theorem read_of_rendered (identity : RuleBuffers)
    (h : render_libinput_ignore_rule identity.toRuleIdentity = some rule) :
    read_rule rule.bytes = some (rule_terms identity.toRuleIdentity) := by
  rw [bytes_of_rendered identity h]
  exact read_rule_write (rule_terms_plain (narrow_of_rendered h))

/-- A rule that is rendered is one line of exactly the terms that were meant: udev reads the
values of the identity in it as they are, and they have nothing in them that means more. -/
theorem a_rendered_rule_says_no_more_than_was_meant (identity : RuleBuffers) (rule : CString)
    (h : render_libinput_ignore_rule identity.toRuleIdentity = some rule) :
    (∃ line, rule.bytes = line ++ [newline] ∧ newline ∉ line) ∧
    read_rule rule.bytes = some (rule_terms identity.toRuleIdentity) ∧
    (∀ value ∈ compared_values identity.toRuleIdentity,
      value.bytes ≠ [] ∧ ∀ byte ∈ special_bytes, byte ∉ value.bytes) ∧
    identity.path.bytes ≠ [] ∧
    ((identity.udev_vendor.bytes ≠ [] ∧ identity.udev_model.bytes ≠ []) ∨
      (identity.bus.bytes ≠ [] ∧ identity.vendor.bytes ≠ [] ∧ identity.product.bytes ≠ [])) := by
  have hnarrow := narrow_of_rendered h
  have hplain := rule_terms_plain hnarrow
  have hbytes := bytes_of_rendered identity h
  obtain ⟨hpath, hvalues⟩ := narrow_values hnarrow
  have hne : ∀ {value : CString}, rule_value_is_safe value = true → value.bytes ≠ [] :=
    fun h => (safe_value_iff.mp h).1
  refine ⟨⟨_, hbytes, newline_not_mem_write_terms hplain⟩, read_of_rendered identity h,
    fun value hvalue => ?_, hne hpath, ?_⟩
  · have hsafe := compared_values_safe hnarrow value hvalue
    exact ⟨hne hsafe, fun byte => safe_value_not_special hsafe⟩
  · split at hvalues
    · exact .inl ⟨hne hvalues.1, hne hvalues.2⟩
    · exact .inr ⟨hne hvalues.1, hne hvalues.2.1, hne hvalues.2.2⟩

end rendering

/-! ## The rule of a keyboard -/

def keyboard_values : RuleIdentity where
  udev_vendor := cstr "046d"
  udev_model := cstr "c31c"
  path := cstr "pci-0000:00:14.0-usb-0:2:1.0"
  bus := cstr "0003"
  vendor := cstr "046d"
  product := cstr "c31c"

theorem keyboard_values_fit : keyboard_values.udev_vendor.length < 32 ∧
    keyboard_values.udev_model.length < 32 ∧ keyboard_values.path.length < 512 ∧
    keyboard_values.bus.length < 16 ∧ keyboard_values.vendor.length < 16 ∧
    keyboard_values.product.length < 16 := by decide +kernel

def keyboard_identity : RuleBuffers where
  toRuleIdentity := keyboard_values
  udev_vendor_lt := keyboard_values_fit.1
  udev_model_lt := keyboard_values_fit.2.1
  path_lt := keyboard_values_fit.2.2.1
  bus_lt := keyboard_values_fit.2.2.2.1
  vendor_lt := keyboard_values_fit.2.2.2.2.1
  product_lt := keyboard_values_fit.2.2.2.2.2

theorem a_keyboard_rule_is_read_as_its_terms : ∃ rule,
    render_libinput_ignore_rule keyboard_identity.toRuleIdentity = some rule ∧
      read_rule rule.bytes = some (rule_terms keyboard_identity.toRuleIdentity) := by
  have hrule : (render_libinput_ignore_rule keyboard_identity.toRuleIdentity).isSome := by
    decide +kernel
  obtain ⟨rule, hrule⟩ := Option.isSome_iff_exists.mp hrule
  exact ⟨rule, hrule, (a_rendered_rule_says_no_more_than_was_meant _ _ hrule).2.1⟩

end input_proxy
