/-!
# Pieces of a stream

Pieces are put on a stream one behind the other, each of them whole or in
part. The stream is clean if nothing follows a piece that is not whole: its
whole pieces come first, and at most one part is behind them.
-/

namespace Pieces

variable {α : Type u} {β : Type v} {whole part : α → List β} {pieces : List α} {piece : α}

def Clean (whole part : α → List β) (pieces : List α) : Prop :=
  pieces.Pairwise fun a b => part a = whole a ∨ part b = []

theorem clean_concat : Clean whole part (pieces ++ [piece]) ↔
    Clean whole part pieces ∧ ∀ a ∈ pieces, part a = whole a ∨ part piece = [] := by
  simp [Clean, List.pairwise_append]

theorem Clean.split [DecidableEq β] (hne : ∀ a, whole a ≠ []) (h : Clean whole part pieces) :
    ∃ tail, pieces.flatMap part =
        (pieces.filter fun a => part a = whole a).flatMap whole ++ tail ∧
      (tail = [] ∨ ∃ a ∈ pieces, tail = part a ∧ part a ≠ whole a) := by
  induction pieces with
  | nil => exact ⟨[], rfl, .inl rfl⟩
  | cons a rest ih =>
    obtain ⟨hafter, hrest⟩ := List.pairwise_cons.mp h
    by_cases hwhole : part a = whole a
    · obtain ⟨tail, hsplit, htail⟩ := ih hrest
      refine ⟨tail, by simp [hwhole, hsplit], htail.imp id ?_⟩
      rintro ⟨b, hb, htorn⟩
      exact ⟨b, List.mem_cons_of_mem a hb, htorn⟩
    · have hnothing : ∀ b ∈ rest, part b = [] := fun b hb => (hafter b hb).resolve_left hwhole
      have hnone : rest.filter (fun b => part b = whole b) = [] := by
        rw [List.filter_eq_nil_iff]
        intro b hb
        simpa [hnothing b hb] using (hne b).symm
      refine ⟨part a, ?_, .inr ⟨a, List.mem_cons_self, rfl, hwhole⟩⟩
      simpa [hwhole, hnone] using hnothing

end Pieces
