import Mathlib.Data.List.Basic

/-!
# Texts made of terminated lines

A text kept one record to a line is split at the terminator.  A text is
`Terminated` when it is empty or ends in the terminator; what is appended to such
a text starts a line of its own (`lines_append`), and a record that does not hold
the terminator is one line (`lines_line`).
-/

namespace QsTie.Lib

variable {α : Type} {stop : α}

/-- Every line of the text is ended. -/
def Terminated (stop : α) (text : List α) : Prop := text = [] ∨ ∃ rest, text = rest ++ [stop]

theorem Terminated.append {text more : List α} (hmore : Terminated stop more)
    (htext : Terminated stop text) : Terminated stop (text ++ more) := by
  rcases hmore with rfl | ⟨rest, rfl⟩
  · rwa [List.append_nil]
  · exact Or.inr ⟨text ++ rest, (List.append_assoc ..).symm⟩

theorem terminated_line (line : List α) : Terminated stop (line ++ [stop]) :=
  Or.inr ⟨line, rfl⟩

variable [BEq α] [LawfulBEq α]

/-- The terminated lines, without their terminators. -/
def lines (stop : α) (text : List α) : List (List α) := (text.splitOn stop).dropLast

/-- Splitting a terminated text leaves nothing behind the last terminator. -/
theorem splitOn_eq_lines {text : List α} (h : Terminated stop text) :
    text.splitOn stop = lines stop text ++ [[]] := by
  rcases h with rfl | ⟨rest, rfl⟩
  · simp [lines]
  · rw [lines, List.splitOn_append_cons_self, List.splitOn_nil, List.dropLast_concat]

theorem lines_append {text : List α} (h : Terminated stop text) (more : List α) :
    lines stop (text ++ more) = lines stop text ++ lines stop more := by
  rcases h with rfl | ⟨rest, rfl⟩
  · simp [lines]
  · have hlines : lines stop (rest ++ [stop]) = rest.splitOn stop := by
      rw [lines, List.splitOn_append_cons_self, List.splitOn_nil, List.dropLast_concat]
    rw [hlines, List.append_assoc, List.singleton_append, lines, List.splitOn_append_cons_self,
      List.dropLast_append_of_ne_nil (List.splitOn_ne_nil stop more)]
    rfl

theorem lines_line {line : List α} (h : stop ∉ line) : lines stop (line ++ [stop]) = [line] := by
  rw [lines, List.splitOn_append_cons_self_of_not_mem h, List.splitOn_nil]
  rfl

end QsTie.Lib
