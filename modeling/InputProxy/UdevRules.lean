-- The syntax of udev rules: one line of terms, each a key, an operator and a
-- quoted value, with commas and blanks between them. What is written term by
-- term is read back as these terms.
import InputProxy.CStrings

open c_strings

namespace udev_rules

/-! ## Terms -/

inductive Operator
  | equal
  | not_equal
  | assign
  | assign_final
  | add
  | remove
deriving DecidableEq

/-- `KEY{attribute} op "value"` -/
structure Term where
  key : Bytes
  attr : Option Bytes
  operator : Operator
  value : Bytes
deriving DecidableEq

def is_key_byte (b : UInt8) : Bool := (b ≥ 65 ∧ b ≤ 90) ∨ b = 95

/-- `'"'`, `'{'`, `'}'` and `'\\'` -/
abbrev quote : UInt8 := 34

abbrev brace : UInt8 := 123

abbrev end_brace : UInt8 := 125

abbrev backslash : UInt8 := 92

/-! ## Reading -/

/-- What is in front of the first such byte, and what is after it. -/
def until_byte (b : UInt8) (text : Bytes) : Option (Bytes × Bytes) :=
  if b ∈ text then some (text.take (text.idxOf b), text.drop (text.idxOf b + 1)) else none

def read_attribute : Bytes → Option (Option Bytes × Bytes)
  | [] => some (none, [])
  | b :: rest =>
    if b = brace then (until_byte end_brace rest).map fun (attr, rest) => (some attr, rest)
    else some (none, b :: rest)

def read_operator : Bytes → Option (Operator × Bytes)
  | 61 :: 61 :: rest => some (.equal, rest)
  | 33 :: 61 :: rest => some (.not_equal, rest)
  | 58 :: 61 :: rest => some (.assign_final, rest)
  | 43 :: 61 :: rest => some (.add, rest)
  | 45 :: 61 :: rest => some (.remove, rest)
  | 61 :: rest => some (.assign, rest)
  | _ => none

/-- A value without escapes, up to the closing quote. -/
def read_value : Bytes → Option (Bytes × Bytes)
  | [] => none
  | b :: rest =>
    if b = quote then (until_byte quote rest).filter fun read => backslash ∉ read.1 else none

def read_term (text : Bytes) : Option (Term × Bytes) :=
  if text.takeWhile is_key_byte = [] then none
  else
    match read_attribute (text.dropWhile is_key_byte) with
    | none => none
    | some (attr, text') =>
      match read_operator text' with
      | none => none
      | some (operator, text') =>
        match read_value text' with
        | none => none
        | some (value, text') =>
          some (⟨text.takeWhile is_key_byte, attr, operator, value⟩, text')

/-- A comma and blanks. -/
def is_separator (b : UInt8) : Bool := b = 44 ∨ b = 32 ∨ b = 9

/-- At most `fuel` terms. -/
def read_terms : Nat → Bytes → Option (List Term)
  | 0, text => if text.all is_separator then some [] else none
  | fuel + 1, text =>
    match text.dropWhile is_separator with
    | [] => some []
    | b :: rest =>
      match read_term (b :: rest) with
      | none => none
      | some (term, rest) => (read_terms fuel rest).map (term :: ·)

/-- The terms of a rule, which is one line with a newline at its end. -/
def read_rule (text : Bytes) : Option (List Term) :=
  if text.getLast? = some newline ∧ newline ∉ text.dropLast then
    read_terms text.length text.dropLast
  else none

/-! ## Writing -/

def Operator.text : Operator → Bytes
  | equal => [61, 61]
  | not_equal => [33, 61]
  | assign => [61]
  | assign_final => [58, 61]
  | add => [43, 61]
  | remove => [45, 61]

def write_attribute : Option Bytes → Bytes
  | none => []
  | some attr => brace :: (attr ++ [end_brace])

def write_term (term : Term) : Bytes :=
  term.key ++ write_attribute term.attr ++ term.operator.text ++
    quote :: (term.value ++ [quote])

/-- Terms with a comma and a blank between them. -/
def write_terms : List Term → Bytes
  | [] => []
  | [term] => write_term term
  | term :: terms => write_term term ++ [44, 32] ++ write_terms terms

/-- A term that can be written as it is. -/
structure Term.Plain (term : Term) : Prop where
  key : term.key ≠ []
  key_bytes : ∀ b ∈ term.key, is_key_byte b = true
  attr : ∀ attr ∈ term.attr, end_brace ∉ attr ∧ newline ∉ attr
  value : quote ∉ term.value ∧ backslash ∉ term.value ∧ newline ∉ term.value

/-! ## What is written is read back -/

section round_trip

variable {term : Term} {rest : Bytes}

theorem until_byte_append {b : UInt8} {text : Bytes} (h : b ∉ text) (rest : Bytes) :
    until_byte b (text ++ b :: rest) = some (text, rest) := by
  have hidx : (text ++ b :: rest).idxOf b = text.length := by
    rw [List.idxOf_append_of_notMem h, List.idxOf_cons_self, Nat.add_zero]
  unfold until_byte
  rw [if_pos (by simp), hidx]
  simp

theorem read_operator_text (operator : Operator) :
    read_operator (operator.text ++ quote :: rest) = some (operator, quote :: rest) := by
  cases operator <;> rfl

/-- No operator begins with a brace or with a byte of a key. -/
theorem operator_text_cons (operator : Operator) : ∃ b rest', operator.text = b :: rest' ∧
    b ≠ brace ∧ is_key_byte b = false := by
  cases operator <;> exact ⟨_, _, rfl, by decide, by decide⟩

theorem read_attribute_write {attr : Option Bytes} {operator : Operator}
    (h : ∀ a ∈ attr, end_brace ∉ a ∧ newline ∉ a) :
    read_attribute (write_attribute attr ++ (operator.text ++ rest)) =
      some (attr, operator.text ++ rest) := by
  cases attr with
  | none =>
    obtain ⟨b, rest', htext, hbrace, -⟩ := operator_text_cons operator
    rw [htext]
    exact if_neg hbrace
  | some a =>
    have huntil := until_byte_append (h a rfl).1 (operator.text ++ rest)
    have hwritten : write_attribute (some a) ++ (operator.text ++ rest) =
        brace :: (a ++ end_brace :: (operator.text ++ rest)) := by
      simp [write_attribute]
    rw [hwritten]
    unfold read_attribute
    dsimp only
    rw [if_pos rfl, huntil]
    rfl

theorem read_value_write {value : Bytes}
    (h : quote ∉ value ∧ backslash ∉ value ∧ newline ∉ value) :
    read_value (quote :: (value ++ quote :: rest)) = some (value, rest) := by
  unfold read_value
  dsimp only
  rw [if_pos rfl, until_byte_append h.1 rest]
  exact Option.filter_eq_some_iff.mpr ⟨rfl, by simpa using h.2.1⟩

/-- The text after the key does not go on with the key. -/
theorem after_key (term : Term) (rest : Bytes) : ∃ b rest',
    write_attribute term.attr ++ (term.operator.text ++ rest) = b :: rest' ∧
      is_key_byte b = false := by
  cases term.attr with
  | none =>
    obtain ⟨b, rest', htext, -, hb⟩ := operator_text_cons term.operator
    exact ⟨b, rest' ++ rest, by rw [htext]; rfl, hb⟩
  | some attr => exact ⟨brace, _, rfl, by decide⟩

theorem read_term_write (h : term.Plain) :
    read_term (write_term term ++ rest) = some (term, rest) := by
  have hwritten : write_term term ++ rest = term.key ++ (write_attribute term.attr ++
      (term.operator.text ++ (quote :: (term.value ++ quote :: rest)))) := by
    simp [write_term]
  obtain ⟨b, rest', hafter, hb⟩ :=
    after_key term (quote :: (term.value ++ quote :: rest))
  have htake : (term.key ++ b :: rest').takeWhile is_key_byte = term.key := by
    rw [List.takeWhile_append_of_pos h.key_bytes, List.takeWhile_cons_of_neg (by simp [hb]),
      List.append_nil]
  have hdrop : (term.key ++ b :: rest').dropWhile is_key_byte = b :: rest' := by
    rw [List.dropWhile_append_of_pos h.key_bytes, List.dropWhile_cons_of_neg (by simp [hb])]
  unfold read_term
  rw [hwritten, hafter, htake, hdrop, if_neg h.key, ← hafter, read_attribute_write h.attr]
  simp only [read_operator_text, read_value_write h.value]

theorem write_term_cons (h : term.Plain) : ∃ b rest', write_term term = b :: rest' ∧
    is_separator b = false := by
  obtain ⟨b, key, hkey⟩ := List.exists_cons_of_ne_nil h.key
  have hb : is_key_byte b = true := h.key_bytes b (by rw [hkey]; exact List.mem_cons_self ..)
  refine ⟨b, key ++ (write_attribute term.attr ++ (term.operator.text ++
    (quote :: (term.value ++ [quote])))), ?_, ?_⟩
  · simp [write_term, hkey]
  · rw [Bool.eq_false_iff]
    intro hs
    simp only [is_separator, decide_eq_true_eq] at hs
    rcases hs with rfl | rfl | rfl <;> exact absurd hb (by decide)

theorem read_terms_write {terms : List Term} (h : ∀ term ∈ terms, term.Plain) (blanks : Bytes)
    (hblanks : ∀ b ∈ blanks, is_separator b = true) {fuel : Nat} (hfuel : terms.length ≤ fuel) :
    read_terms fuel (blanks ++ write_terms terms) = some terms := by
  induction terms generalizing blanks fuel with
  | nil =>
    cases fuel with
    | zero =>
      unfold read_terms
      rw [if_pos (by simpa [write_terms] using hblanks)]
    | succ fuel =>
      have hdrop : (blanks ++ write_terms []).dropWhile is_separator = [] := by
        simpa [write_terms] using hblanks
      unfold read_terms
      rw [hdrop]
  | cons term terms ih =>
    obtain ⟨hterm, hterms⟩ := List.forall_mem_cons.mp h
    obtain ⟨fuel, rfl⟩ : ∃ n, fuel = n + 1 := ⟨fuel - 1, by
      rw [List.length_cons] at hfuel
      omega⟩
    rw [List.length_cons, Nat.add_le_add_iff_right] at hfuel
    obtain ⟨b, rest', hcons, hb⟩ := write_term_cons hterm
    -- after each term but the last one there is a separator
    have hrest : ∃ blanks', (∀ b ∈ blanks', is_separator b = true) ∧
        write_terms (term :: terms) = write_term term ++ (blanks' ++ write_terms terms) := by
      cases terms with
      | nil => exact ⟨[], by simp, by simp [write_terms]⟩
      | cons next terms => exact ⟨[44, 32], by decide +kernel, by simp [write_terms]⟩
    obtain ⟨blanks', hblanks', hwritten⟩ := hrest
    have hdrop : (blanks ++ write_terms (term :: terms)).dropWhile is_separator =
        b :: (rest' ++ (blanks' ++ write_terms terms)) := by
      rw [hwritten, hcons, List.dropWhile_append_of_pos hblanks, List.cons_append,
        List.dropWhile_cons_of_neg (by simp [hb])]
    unfold read_terms
    rw [hdrop]
    dsimp only
    rw [← List.cons_append, ← hcons, read_term_write hterm]
    dsimp only
    rw [ih hterms blanks' hblanks' hfuel]
    rfl

theorem length_write_terms (terms : List Term) : terms.length ≤ (write_terms terms).length + 1 := by
  induction terms with
  | nil => simp
  | cons term terms ih =>
    cases terms with
    | nil => simp
    | cons next terms =>
      simp only [write_terms, List.length_append, List.length_cons, List.length_nil] at ih ⊢
      omega

theorem newline_not_mem_write_term (h : term.Plain) : newline ∉ write_term term := by
  have hkey : newline ∉ term.key := fun hmem => absurd (h.key_bytes _ hmem) (by decide)
  have hattr : newline ∉ write_attribute term.attr := by
    cases hterm : term.attr with
    | none => simp [write_attribute]
    | some attr =>
      have hfree := (h.attr attr hterm).2
      have hbraces : newline ≠ brace ∧ newline ≠ end_brace := by decide
      simp [write_attribute, hfree, hbraces]
  have htext : newline ∉ term.operator.text := by
    cases term.operator <;> decide
  have hquote : newline ≠ quote := by decide
  simp [write_term, hkey, hattr, htext, h.value.2.2, hquote]

theorem newline_not_mem_write_terms {terms : List Term} (h : ∀ term ∈ terms, term.Plain) :
    newline ∉ write_terms terms := by
  induction terms with
  | nil => simp [write_terms]
  | cons term terms ih =>
    obtain ⟨hterm, hterms⟩ := List.forall_mem_cons.mp h
    have hfirst := newline_not_mem_write_term hterm
    cases terms with
    | nil => exact hfirst
    | cons next terms =>
      have hrest := ih hterms
      have hseparator : newline ∉ ([44, 32] : Bytes) := by decide
      unfold write_terms
      simp only [List.mem_append, not_or]
      exact ⟨⟨hfirst, hseparator⟩, hrest⟩

/-- A line of plain terms is read as these terms. -/
theorem read_rule_write {terms : List Term} (h : ∀ term ∈ terms, term.Plain) :
    read_rule (write_terms terms ++ [newline]) = some terms := by
  have hline := newline_not_mem_write_terms h
  unfold read_rule
  rw [if_pos ⟨List.getLast?_concat .., by rwa [List.dropLast_concat]⟩, List.dropLast_concat]
  have hfuel : terms.length ≤ (write_terms terms ++ [newline]).length := by
    rw [List.length_append]
    exact length_write_terms terms
  exact read_terms_write h [] (by simp) hfuel

end round_trip

end udev_rules
