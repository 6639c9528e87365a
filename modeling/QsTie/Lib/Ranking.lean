import Mathlib.Data.List.Basic
import Mathlib.Order.Lattice

/-!
# Ranks in a list

The rank of an element is the number of elements with a smaller key.  In a list
that is strictly sorted by its keys the rank is the position (`rank_getElem`), so a
slice of it is a range of ranks (`mem_slice_iff`).
-/

namespace QsTie.Lib

variable {α κ : Type} [LinearOrder κ] (f : α → κ)

/-- How many elements of the list come before one with the key of `a`. -/
def rank (l : List α) (a : α) : Nat := l.countP fun b => f b < f a

variable {f} {l l' : List α}

theorem rank_perm (h : l.Perm l') (a : α) : rank f l a = rank f l' a := h.countP_eq _

theorem rank_append_cons {before after : List α} {a : α}
    (h : (before ++ a :: after).Pairwise fun b c => f b < f c) :
    rank f (before ++ a :: after) a = before.length := by
  obtain ⟨-, hafter, hbefore⟩ := List.pairwise_append.mp h
  have hless : before.countP (fun b => f b < f a) = before.length := by
    rw [List.countP_eq_length]
    intro b hb
    simpa using hbefore b hb a (by simp)
  have hgreater : (a :: after).countP (fun b => f b < f a) = 0 := by
    rw [List.countP_eq_zero]
    intro b hb
    rcases List.mem_cons.mp hb with rfl | hb
    · simp
    · simpa using le_of_lt ((List.pairwise_cons.mp hafter).1 b hb)
  rw [rank, List.countP_append, hless, hgreater, Nat.add_zero]

/-- In a strictly sorted list the rank is the position. -/
theorem rank_getElem (h : l.Pairwise fun a b => f a < f b) {i : Nat} (hi : i < l.length) :
    rank f l l[i] = i := by
  have hsplit : l = l.take i ++ l[i] :: l.drop (i + 1) := by
    rw [List.getElem_cons_drop, List.take_append_drop]
  have hrank : rank f (l.take i ++ l[i] :: l.drop (i + 1)) l[i] = (l.take i).length :=
    rank_append_cons (by rwa [← hsplit])
  rw [← hsplit, List.length_take, Nat.min_eq_left (Nat.le_of_lt hi)] at hrank
  exact hrank

/-- A slice of a strictly sorted list is a range of ranks. -/
theorem mem_slice_iff (h : l.Pairwise fun a b => f a < f b) {i n : Nat} {a : α} :
    a ∈ (l.drop i).take n ↔ a ∈ l ∧ i ≤ rank f l a ∧ rank f l a < i + n := by
  constructor
  · intro ha
    obtain ⟨j, hj, rfl⟩ := List.mem_iff_getElem.mp ha
    rw [List.length_take, List.length_drop] at hj
    have hlt : i + j < l.length := by omega
    rw [List.getElem_take, List.getElem_drop]
    refine ⟨List.getElem_mem hlt, ?_⟩
    rw [rank_getElem h hlt]
    omega
  · rintro ⟨ha, hle, hlt⟩
    obtain ⟨j, hj, rfl⟩ := List.mem_iff_getElem.mp ha
    rw [rank_getElem h hj] at hle hlt
    rw [List.mem_iff_getElem]
    refine ⟨j - i, ?_, ?_⟩
    · rw [List.length_take, List.length_drop]
      omega
    · rw [List.getElem_take, List.getElem_drop]
      congr 1
      omega

/-- A sorted list with distinct keys is strictly sorted. -/
theorem pairwise_lt_of_sorted (hsorted : l.Pairwise fun a b => f a ≤ f b)
    (hdistinct : (l.map f).Nodup) : l.Pairwise fun a b => f a < f b := by
  rw [List.Nodup, List.pairwise_map] at hdistinct
  exact (hsorted.and hdistinct).imp fun ⟨hle, hne⟩ => lt_of_le_of_ne hle hne

end QsTie.Lib
