-- Files that are read with `fgets` into a buffer of a fixed size: a line that
-- does not fit comes in pieces, and the reader cannot tell them from lines.
import InputProxy.CStrings
import Mathlib.Data.List.DropRight
import Mathlib.Data.List.Infix

namespace c_strings

/-! ## Pieces -/

/-- The pieces of a file: each ends after a newline, or where it has `limit` bytes. `room` bytes
still fit into the first one. -/
def pieces (limit : Nat) : Nat → Bytes → List Bytes
  | _, [] => []
  | room, b :: rest =>
    if b = newline ∨ room ≤ 1 then [b] :: pieces limit limit rest
    else
      match pieces limit (room - 1) rest with
      | [] => [[b]]
      | piece :: later => (b :: piece) :: later

/-- What the calls of `fgets` with a buffer of `size` bytes give, of which one is the NUL. -/
def fgets (size : Nat) (content : Bytes) : List Bytes := pieces (size - 1) (size - 1) content

/-- A line has its newline at its end, if it has one. -/
def IsLine (line : Bytes) : Prop := line ≠ [] ∧ newline ∉ line.dropLast

section pieces

variable {limit room : Nat} {content line : Bytes}

@[simp] theorem pieces_nil : pieces limit room [] = [] := by simp [pieces]

theorem pieces_ne_nil {b : UInt8} {rest : Bytes} : pieces limit room (b :: rest) ≠ [] := by
  unfold pieces
  split
  · simp
  · split <;> simp

theorem isLine_of_mem_lines (h : line ∈ lines content) : IsLine line := by
  induction content generalizing line with
  | nil => simp at h
  | cons b rest ih =>
    unfold lines at h
    split at h
    · rcases List.mem_cons.mp h with rfl | h
      · exact ⟨by simp, by simp⟩
      · exact ih h
    · rename_i hb
      split at h
      · rw [List.mem_singleton] at h
        subst h
        exact ⟨by simp, by simp⟩
      · rename_i first later heq
        rcases List.mem_cons.mp h with rfl | h
        · obtain ⟨hne, hfirst⟩ := ih (by rw [heq]; exact List.mem_cons_self ..)
          refine ⟨by simp, ?_⟩
          rw [List.dropLast_cons_of_ne_nil hne, List.mem_cons, not_or]
          exact ⟨fun h => hb h.symm, hfirst⟩
        · exact ih (by rw [heq]; exact List.mem_cons_of_mem _ h)

theorem lines_eq_nil : lines content = [] ↔ content = [] := by
  cases content with
  | nil => simp
  | cons b rest =>
    unfold lines
    split
    · simp
    · split <;> simp

theorem flatten_lines (content : Bytes) : (lines content).flatten = content := by
  induction content with
  | nil => rfl
  | cons b rest ih =>
    unfold lines
    split
    · rw [List.flatten_cons, ih]
      rfl
    · split
      · rename_i heq
        rw [lines_eq_nil.mp heq]
        rfl
      · rename_i first later heq
        rw [heq] at ih
        rw [List.flatten_cons, List.cons_append, ← List.flatten_cons, ih]

theorem flatten_pieces (limit room : Nat) (content : Bytes) :
    (pieces limit room content).flatten = content := by
  induction content generalizing room with
  | nil => simp
  | cons b rest ih =>
    unfold pieces
    split
    · rw [List.flatten_cons, ih]
      rfl
    · split
      · rename_i heq
        have hrest := ih (room - 1)
        rw [heq] at hrest
        rw [← hrest]
        rfl
      · rename_i piece later heq
        have hrest := ih (room - 1)
        rw [heq] at hrest
        rw [List.flatten_cons, List.cons_append, ← List.flatten_cons, hrest]

/-- Lines and pieces have no other bytes than the file. -/
theorem subset_of_mem_lines (h : line ∈ lines content) : line ⊆ content := by
  intro b hb
  rw [← flatten_lines content]
  exact List.mem_flatten.mpr ⟨line, h, hb⟩

theorem subset_of_mem_pieces {piece : Bytes} (h : piece ∈ pieces limit room content) :
    piece ⊆ content := by
  intro b hb
  rw [← flatten_pieces limit room content]
  exact List.mem_flatten.mpr ⟨piece, h, hb⟩

/-- The first line continues a piece that was begun, and every later one begins its own. -/
theorem pieces_lines (room : Nat) : pieces limit room content =
    ((lines content).head?.toList.flatMap (pieces limit room)) ++
      (lines content).tail.flatMap (pieces limit limit) := by
  induction content generalizing room with
  | nil => simp
  | cons b rest ih =>
    have hlimit : pieces limit limit rest = (lines rest).flatMap (pieces limit limit) := by
      rw [ih limit]
      cases lines rest <;> simp
    by_cases hb : b = newline
    · have hlines : lines (b :: rest) = [b] :: lines rest := by simp [lines, hb]
      rw [hlines]
      simp [pieces, hb, hlimit]
    · cases hrest : lines rest with
      | nil =>
        rw [lines_eq_nil.mp hrest]
        simp [lines, hb]
      | cons first later =>
        have hlines : lines (b :: rest) = (b :: first) :: later := by simp [lines, hb, hrest]
        have hfirst : first ≠ [] := (isLine_of_mem_lines (by
          rw [hrest]
          exact List.mem_cons_self ..)).1
        rw [hlines]
        simp only [List.head?_cons, Option.toList_some, List.flatMap_cons, List.flatMap_nil,
          List.append_nil, List.tail_cons]
        by_cases hroom : room ≤ 1
        · simp [pieces, hb, hroom, hlimit, hrest]
        · have hnext := ih (room - 1)
          rw [hrest] at hnext
          simp only [List.head?_cons, Option.toList_some, List.flatMap_cons, List.flatMap_nil,
            List.append_nil, List.tail_cons] at hnext
          obtain ⟨c, first', rfl⟩ := List.exists_cons_of_ne_nil hfirst
          have hne : pieces limit (room - 1) (c :: first') ≠ [] := pieces_ne_nil
          obtain ⟨piece, more, hpieces⟩ := List.exists_cons_of_ne_nil hne
          rw [hpieces] at hnext
          conv_lhs => unfold pieces
          conv_rhs => unfold pieces
          simp [hb, hroom, hnext, hpieces]

/-- Each line is read for itself. -/
theorem pieces_eq_flatMap :
    pieces limit limit content = (lines content).flatMap (pieces limit limit) := by
  rw [pieces_lines]
  cases lines content <;> simp

/-- A line begins with what fits, and the rest is read as if it were a line. -/
theorem pieces_of_isLine (h : IsLine line) (hroom : 0 < room) :
    pieces limit room line = line.take room :: pieces limit limit (line.drop room) := by
  induction line generalizing room with
  | nil => exact absurd rfl h.1
  | cons b rest ih =>
    obtain ⟨-, hnewline⟩ := h
    cases rest with
    | nil =>
      obtain ⟨n, rfl⟩ := Nat.exists_eq_add_of_lt hroom
      simp [pieces]
    | cons c rest =>
      rw [List.dropLast_cons_of_ne_nil (by simp), List.mem_cons, not_or] at hnewline
      have hb : b ≠ newline := fun hb => hnewline.1 hb.symm
      by_cases hone : room ≤ 1
      · obtain rfl : room = 1 := by omega
        simp [pieces, hb]
      · have hnext := @ih (room - 1) ⟨by simp, hnewline.2⟩ (by omega)
        obtain ⟨n, rfl⟩ : ∃ n, room = n + 1 := ⟨room - 1, by omega⟩
        conv_lhs => unfold pieces
        rw [if_neg (by simp [hb]; omega), hnext]
        simp

theorem IsLine.drop {n : Nat} (h : IsLine line) (hn : n < line.length) : IsLine (line.drop n) := by
  refine ⟨?_, fun hmem => h.2 ?_⟩
  · rw [ne_eq, List.drop_eq_nil_iff]
    omega
  · rw [List.dropLast_drop_eq_drop_dropLast] at hmem
    exact List.mem_of_mem_drop hmem

/-- A piece is no longer than the buffer. -/
theorem length_le_of_mem_pieces (hlimit : 0 < limit) {piece : Bytes} (hline : IsLine line)
    (h : piece ∈ pieces limit limit line) : piece.length ≤ limit := by
  induction hn : line.length using Nat.strong_induction_on generalizing line with
  | _ n ih =>
    rw [pieces_of_isLine hline hlimit] at h
    rcases List.mem_cons.mp h with rfl | h
    · exact List.length_take_le ..
    · by_cases hlong : limit < line.length
      · exact ih _ (by rw [List.length_drop]; omega) (hline.drop hlong) h rfl
      · rw [List.drop_eq_nil_iff.mpr (by omega)] at h
        simp at h

theorem length_le_of_mem_fgets {size : Nat} (hsize : 1 < size) {piece : Bytes}
    (h : piece ∈ fgets size content) : piece.length ≤ size - 1 := by
  unfold fgets at h
  rw [pieces_eq_flatMap] at h
  obtain ⟨line, hline, hpiece⟩ := List.mem_flatMap.mp h
  exact length_le_of_mem_pieces (by omega) (isLine_of_mem_lines hline) hpiece

end pieces

/-! ## Ends of lines -/

/-- `'\r'`. -/
def carriage_return : UInt8 := 13

def ends_line (b : UInt8) : Bool := b = newline ∨ b = carriage_return

/-- The line without its end. -/
def trim (line : Bytes) : Bytes := line.rdropWhile ends_line

section trim

variable {line : Bytes}

theorem trim_isPrefix : trim line <+: line := List.rdropWhile_prefix ..

theorem trim_append {ending : Bytes} (h : ∀ b ∈ ending, ends_line b = true) :
    trim (line ++ ending) = trim line := by
  induction ending using List.reverseRecOn with
  | nil => rw [List.append_nil]
  | append_singleton ending b ih =>
    rw [← List.append_assoc, trim, List.rdropWhile_concat_pos _ _ _ (h b (by simp)), ← trim]
    exact ih fun b hb => h b (List.mem_append_left _ hb)

theorem trim_trim : trim (trim line) = trim line := List.rdropWhile_idempotent ..

/-- What was taken off is the end of a line. -/
theorem exists_ending (line : Bytes) : ∃ ending, line = trim line ++ ending ∧
    ∀ b ∈ ending, ends_line b = true := by
  refine ⟨line.rtakeWhile ends_line, ?_, fun b hb => List.mem_rtakeWhile_imp hb⟩
  rw [trim, List.rdropWhile_append_rtakeWhile]

/-- What begins the line and does not end in the end of a line begins the trimmed line. -/
theorem isPrefix_trim {start : Bytes} (h : start <+: line) (htrim : trim start = start) :
    start <+: trim line := by
  obtain ⟨ending, hline, hending⟩ := exists_ending line
  by_cases hlength : start.length ≤ (trim line).length
  · exact List.prefix_of_prefix_length_le h trim_isPrefix hlength
  · have hlonger : trim line <+: start :=
      List.prefix_of_prefix_length_le trim_isPrefix h (by omega)
    obtain ⟨more, hmore⟩ := hlonger
    have hstart : trim line ++ more <+: trim line ++ ending := by
      rw [hmore, ← hline]
      exact h
    have hends : ∀ b ∈ more, ends_line b = true := fun b hb =>
      hending b (((List.prefix_append_right_inj _).mp hstart).subset hb)
    rw [← hmore, trim_append hends, trim_trim] at htrim
    rw [← hmore, ← htrim]

/-- Only the last byte of a line can be a newline, and that is taken off. -/
theorem newline_not_mem_trim (h : newline ∉ line.dropLast) : newline ∉ trim line := by
  intro hmem
  have hne : trim line ≠ [] := List.ne_nil_of_mem hmem
  have hlast : ¬ends_line ((trim line).getLast hne) = true := List.rdropWhile_last_not _ _ hne
  obtain ⟨rest, hrest⟩ : trim line <+: line := trim_isPrefix
  rw [← List.dropLast_append_getLast hne, List.mem_append, List.mem_singleton] at hmem
  rcases hmem with hmem | hmem
  · refine h ?_
    rw [← hrest]
    by_cases hnil : rest = []
    · rwa [hnil, List.append_nil]
    · rw [List.dropLast_append_of_ne_nil hnil]
      exact List.mem_append_left _ (List.mem_of_mem_dropLast hmem)
  · rw [← hmem] at hlast
    exact hlast rfl

/-- The piece that holds all of the text holds nothing else but ends of lines. -/
theorem trim_eq_of_isPrefix {start : Bytes} (h : start <+: line) (htrim : trim line <+: start) :
    trim start = trim line := by
  obtain ⟨ending, hline, hends⟩ := exists_ending line
  obtain ⟨more, hmore⟩ := htrim
  have hstart : trim line ++ more <+: trim line ++ ending := by
    rw [hmore, ← hline]
    exact h
  have hmoreends : ∀ b ∈ more, ends_line b = true := fun b hb =>
    hends b (((List.prefix_append_right_inj _).mp hstart).subset hb)
  rw [← hmore, trim_append hmoreends, trim_trim]

end trim

/-! ## First lines -/

section first

variable {content : Bytes}

theorem lines_of_not_mem (hne : content ≠ []) (h : newline ∉ content) :
    lines content = [content] := by
  induction content with
  | nil => exact absurd rfl hne
  | cons b rest ih =>
    rw [List.mem_cons, not_or] at h
    have hb : b ≠ newline := fun hb => h.1 hb.symm
    cases rest with
    | nil => simp [lines, hb]
    | cons c rest =>
      have hrest := ih (by simp) h.2
      conv_lhs => unfold lines
      rw [if_neg hb, hrest]

/-- The first call of `fgets` gives all of a text that is one line and fits. -/
theorem trim_first_piece {size : Nat} (hsize : 1 < size) {piece : Bytes}
    (h : (fgets size content).head? = some piece) :
    trim piece = trim content ↔ (trim content).length < size ∧ newline ∉ trim content := by
  have hne : content ≠ [] := by
    rintro rfl
    simp [fgets] at h
  obtain ⟨line, later, hlines⟩ : ∃ line later, lines content = line :: later :=
    List.exists_cons_of_ne_nil fun hnil => hne (lines_eq_nil.mp hnil)
  have hline : IsLine line := isLine_of_mem_lines (by rw [hlines]; exact List.mem_cons_self ..)
  have hpiece : line.take (size - 1) = piece := by
    unfold fgets at h
    rw [pieces_eq_flatMap, hlines, List.flatMap_cons, pieces_of_isLine hline (by omega)] at h
    simpa using h
  have hcontent : line <+: content := by
    rw [← flatten_lines content, hlines, List.flatten_cons]
    exact List.prefix_append ..
  have hbegins : piece <+: content := by
    rw [← hpiece]
    exact (List.take_prefix ..).trans hcontent
  constructor
  · intro htrim
    rw [← htrim]
    constructor
    · refine Nat.lt_of_le_of_lt trim_isPrefix.length_le ?_
      rw [← hpiece, List.length_take]
      omega
    · refine newline_not_mem_trim fun hmem => hline.2 ?_
      rw [← hpiece, List.dropLast_take_eq_take_dropLast] at hmem
      exact List.mem_of_mem_take hmem
  · rintro ⟨hlength, hnewline⟩
    refine trim_eq_of_isPrefix hbegins (List.prefix_of_prefix_length_le trim_isPrefix hbegins ?_)
    -- the first line is not shorter than the text
    have hfirst : (trim content).length ≤ line.length := by
      by_cases hmem : newline ∈ content
      · obtain ⟨before, after, heq, hbefore⟩ := List.eq_append_cons_of_mem hmem
        rw [heq, lines_append hbefore] at hlines
        obtain ⟨rfl, -⟩ := List.cons.inj hlines
        by_contra hlong
        refine hnewline ?_
        have hlonger : before ++ [newline] <+: trim content :=
          List.prefix_of_prefix_length_le hcontent trim_isPrefix (by omega)
        exact hlonger.subset (by simp)
      · rw [lines_of_not_mem hne hmem] at hlines
        obtain ⟨rfl, -⟩ := List.cons.inj hlines
        exact trim_isPrefix.length_le
    rw [← hpiece, List.length_take]
    omega

end first

namespace CString

/-- `strlen` and the loop that cuts off the end of a line. -/
def trim (s : CString) : CString :=
  ⟨c_strings.trim s.bytes, fun h => s.nul_free (trim_isPrefix.subset h)⟩

/-- What stands before and after the first such byte, which `strchr` finds. -/
def split_first (b : UInt8) (s : CString) : Option (CString × CString) :=
  if b ∈ s.bytes then some (s.take (s.bytes.idxOf b), s.drop (s.bytes.idxOf b + 1)) else none

@[simp] theorem bytes_trim (s : CString) : s.trim.bytes = c_strings.trim s.bytes := rfl

theorem split_first_eq_none {b : UInt8} {s : CString} : split_first b s = none ↔ b ∉ s.bytes := by
  unfold split_first
  split <;> simp_all

theorem bytes_of_split_first {b : UInt8} {s t u : CString} (h : split_first b s = some (t, u)) :
    s.bytes = t.bytes ++ b :: u.bytes := by
  unfold split_first at h
  split at h
  · rename_i hb
    obtain ⟨rfl, rfl⟩ := Prod.mk.inj (Option.some.inj h)
    have hlt := List.idxOf_lt_length_iff.mpr hb
    conv_lhs => rw [← List.take_append_drop (s.bytes.idxOf b) s.bytes]
    rw [List.drop_eq_getElem_cons hlt, List.getElem_idxOf hlt]
    rfl
  · cases h

theorem not_mem_of_split_first {b : UInt8} {s t u : CString}
    (h : split_first b s = some (t, u)) : b ∉ t.bytes := by
  unfold split_first at h
  split at h
  · rename_i hb
    obtain ⟨rfl, -⟩ := Prod.mk.inj (Option.some.inj h)
    rw [bytes_take, List.mem_take_iff_idxOf_lt hb]
    exact Nat.lt_irrefl _
  · cases h

theorem split_first_append {b : UInt8} {s t u : CString} (h : s.bytes = t.bytes ++ b :: u.bytes)
    (hb : b ∉ t.bytes) : split_first b s = some (t, u) := by
  have hidx : s.bytes.idxOf b = t.bytes.length := by
    rw [h, List.idxOf_append_of_notMem hb, List.idxOf_cons_self, Nat.add_zero]
  unfold split_first
  rw [if_pos (by rw [h]; simp), hidx]
  have htake : s.take t.bytes.length = t := CString.ext (by simp [h])
  have hdrop : s.drop (t.bytes.length + 1) = u := CString.ext (by simp [h])
  rw [htake, hdrop]

end CString

end c_strings
