-- Greedy packing: items of some size go to the line that is open, with a gap
-- between each two of them, and a new line is opened where there is no room.
import Mathlib.Data.List.Basic

namespace packings

variable {α : Type} (size : α → Nat) (gap room : Nat)

/-- The room that a line takes. -/
def extent : List α → Nat
  | [] => 0
  | [a] => size a
  | a :: b :: rest => size a + gap + extent (b :: rest)

/-- The lines of the items, of which the first one is open. -/
def pack_from (line : List α) : List α → List (List α)
  | [] => [line]
  | a :: rest =>
    if extent size gap line + gap + size a > room then line :: pack_from [a] rest
    else pack_from (line ++ [a]) rest

def pack : List α → List (List α)
  | [] => []
  | a :: rest => pack_from size gap room [a] rest

variable {size gap room} {line items : List α}

theorem extent_concat (hline : line ≠ []) (a : α) :
    extent size gap (line ++ [a]) = extent size gap line + gap + size a := by
  induction line with
  | nil => exact absurd rfl hline
  | cons b line ih =>
    cases line with
    | nil => rfl
    | cons c line =>
      have hrest := ih (List.cons_ne_nil _ _)
      simp only [List.cons_append, extent] at hrest ⊢
      omega

theorem pack_from_ne_nil : pack_from size gap room line items ≠ [] := by
  induction items generalizing line with
  | nil => exact List.cons_ne_nil _ _
  | cons a rest ih =>
    unfold pack_from
    split
    · exact List.cons_ne_nil _ _
    · exact ih

/-- The items stay in their order. -/
theorem flatten_pack_from :
    (pack_from size gap room line items).flatten = line ++ items := by
  induction items generalizing line with
  | nil => simp [pack_from]
  | cons a rest ih =>
    unfold pack_from
    split
    · rw [List.flatten_cons, ih, List.singleton_append]
    · rw [ih, List.append_assoc, List.singleton_append]

theorem flatten_pack : (pack size gap room items).flatten = items := by
  cases items with
  | nil => rfl
  | cons a rest => exact flatten_pack_from

/-- A line that has items, and fits, if it has more than one. -/
def Packed (size : α → Nat) (gap room : Nat) (line : List α) : Prop :=
  (∃ a, line = [a]) ∨ line ≠ [] ∧ extent size gap line ≤ room

theorem Packed.ne_nil (h : Packed size gap room line) : line ≠ [] :=
  h.elim (fun ⟨_, ha⟩ => ha ▸ List.cons_ne_nil _ _) And.left

theorem packed_of_mem_pack_from (hline : Packed size gap room line) {other : List α}
    (h : other ∈ pack_from size gap room line items) : Packed size gap room other := by
  induction items generalizing line with
  | nil => exact List.mem_singleton.mp h ▸ hline
  | cons a rest ih =>
    unfold pack_from at h
    split at h
    · rcases List.mem_cons.mp h with rfl | h
      · exact hline
      · exact ih (.inl ⟨a, rfl⟩) h
    · rename_i hroom
      refine ih (.inr ⟨by simp, ?_⟩) h
      rw [extent_concat hline.ne_nil]
      exact Nat.not_lt.mp hroom

theorem packed_of_mem_pack {other : List α} (h : other ∈ pack size gap room items) :
    Packed size gap room other := by
  cases items with
  | nil => exact absurd h List.not_mem_nil
  | cons a rest => exact packed_of_mem_pack_from (.inl ⟨a, rfl⟩) h

end packings
