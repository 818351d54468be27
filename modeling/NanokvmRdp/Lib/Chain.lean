/-!
# Chains

A history is intact if one of its entries anchors a chain and every entry
behind that one keeps it.
-/

namespace Chain

variable {α : Type u} {anchors keeps : α → Prop} {history : List α} {entry : α}

def Intact (anchors keeps : α → Prop) (history : List α) : Prop :=
  ∃ before anchor after, history = before ++ anchor :: after ∧ anchors anchor ∧
    ∀ x ∈ after, keeps x

theorem intact_concat (h : anchors entry) (history : List α) :
    Intact anchors keeps (history ++ [entry]) :=
  ⟨history, entry, [], rfl, h, by simp⟩

theorem Intact.concat (h : Intact anchors keeps history) (hkeeps : keeps entry) :
    Intact anchors keeps (history ++ [entry]) := by
  obtain ⟨before, anchor, after, rfl, hanchor, hafter⟩ := h
  refine ⟨before, anchor, after ++ [entry], by simp, hanchor, ?_⟩
  intro x hx
  rcases List.mem_append.mp hx with hx | hx
  · exact hafter x hx
  · rw [List.mem_singleton.mp hx]
    exact hkeeps

end Chain
