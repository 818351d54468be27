/-!
# Logs

A log grows at its end. `Always` states a condition on every entry of a log
and the entries before it; appending an entry asks for the condition at the
new entry only.
-/

namespace Log

variable {α : Type u} {P : List α → α → Prop} {log : List α} {entry : α}

def Always (P : List α → α → Prop) (log : List α) : Prop :=
  ∀ before entry after, log = before ++ entry :: after → P before entry

theorem always_nil : Always P [] := by
  intro before entry after h
  simp at h

theorem concat_eq_append_cons {before after : List α} {last : α}
    (h : log ++ [last] = before ++ entry :: after) :
    (log = before ∧ last = entry) ∨ ∃ rest, log = before ++ entry :: rest := by
  rcases List.eq_nil_or_concat after with rfl | ⟨rest, final, rfl⟩
  · obtain ⟨hfront, hlast⟩ := List.append_inj' h rfl
    exact .inl ⟨hfront, List.singleton_inj.mp hlast⟩
  · rw [List.concat_eq_append, ← List.cons_append, ← List.append_assoc] at h
    exact .inr ⟨rest, (List.append_inj' h rfl).1⟩

theorem Always.concat (h : Always P log) (hentry : P log entry) : Always P (log ++ [entry]) := by
  intro before e after hsplit
  rcases concat_eq_append_cons hsplit with ⟨rfl, rfl⟩ | ⟨rest, hrest⟩
  · exact hentry
  · exact h before e rest hrest

end Log
