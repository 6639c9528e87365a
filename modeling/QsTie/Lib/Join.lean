import Mathlib.Data.List.Nodup
import Mathlib.Data.List.Count

/-!
# Inner joins

`joinOn f g l r` pairs the elements of two lists that have the same key.  A key is
in the join as often as it is on the left times as often as it is on the right
(`count_joinOn`), so each key is joined once exactly when every key of both sides
is there once on each (`nodup_joinOn_iff`).
-/

namespace QsTie.Lib

variable {α β κ : Type} [DecidableEq κ] (f : α → κ) (g : β → κ)

/-- The pairs with the same key, in the order of the left list. -/
def joinOn (l : List α) (r : List β) : List (α × β) :=
  l.flatMap fun a => (r.filter fun b => g b = f a).map (Prod.mk a)

/-- The keys of the pairs. -/
def joinKeys (l : List α) (r : List β) : List κ := (joinOn f g l r).map fun p => f p.1

variable {f g} {l : List α} {r : List β}

theorem mem_joinOn {p : α × β} :
    p ∈ joinOn f g l r ↔ p.1 ∈ l ∧ p.2 ∈ r ∧ g p.2 = f p.1 := by
  obtain ⟨a, b⟩ := p
  simp only [joinOn, List.mem_flatMap, List.mem_map, List.mem_filter, decide_eq_true_eq,
    Prod.mk.injEq]
  constructor
  · rintro ⟨a', ha', b', ⟨hb', heq⟩, rfl, rfl⟩
    exact ⟨ha', hb', heq⟩
  · rintro ⟨ha, hb, heq⟩
    exact ⟨a, ha, b, ⟨hb, heq⟩, rfl, rfl⟩

theorem joinKeys_cons (a : α) :
    joinKeys f g (a :: l) r =
      List.replicate ((r.map g).count (f a)) (f a) ++ joinKeys f g l r := by
  have hpairs : ((r.filter fun b => g b = f a).map (Prod.mk a)).map (fun p => f p.1) =
      List.replicate ((r.map g).count (f a)) (f a) := by
    rw [List.map_map, List.eq_replicate_iff]
    constructor
    · rw [List.length_map, ← List.countP_eq_length_filter, List.count, List.countP_map]
      rfl
    · intro k hk
      obtain ⟨b, -, rfl⟩ := List.mem_map.mp hk
      rfl
  rw [joinKeys, joinOn, List.flatMap_cons, List.map_append, hpairs]
  rfl

/-- **Multiplicities multiply.** -/
theorem count_joinKeys (k : κ) :
    (joinKeys f g l r).count k = (l.map f).count k * (r.map g).count k := by
  induction l with
  | nil => simp [joinKeys, joinOn]
  | cons a l ih =>
    rw [joinKeys_cons, List.count_append, ih, List.count_replicate, List.map_cons,
      List.count_cons]
    by_cases heq : f a = k
    · simp only [heq, beq_self_eq_true, if_true]
      rw [Nat.succ_mul, Nat.add_comm]
    · simp [heq]

theorem mem_joinKeys {k : κ} : k ∈ joinKeys f g l r ↔ k ∈ l.map f ∧ k ∈ r.map g := by
  rw [← List.count_pos_iff, count_joinKeys, ← List.count_pos_iff, ← List.count_pos_iff]
  constructor
  · intro h
    exact ⟨Nat.pos_of_mul_pos_right h, Nat.pos_of_mul_pos_left h⟩
  · rintro ⟨hl, hr⟩
    exact Nat.mul_pos hl hr

/-- The keys are joined once each exactly when those of both sides are there once on each. -/
theorem nodup_joinKeys_iff :
    (joinKeys f g l r).Nodup ↔
      ∀ k, k ∈ l.map f → k ∈ r.map g → (l.map f).count k = 1 ∧ (r.map g).count k = 1 := by
  rw [List.nodup_iff_count_le_one]
  constructor
  · intro h k hl hr
    have hle := h k
    rw [count_joinKeys] at hle
    have hlpos := List.count_pos_iff.mpr hl
    have hrpos := List.count_pos_iff.mpr hr
    constructor
    · exact Nat.le_antisymm (Nat.le_trans (Nat.le_mul_of_pos_right _ hrpos) hle) hlpos
    · exact Nat.le_antisymm (Nat.le_trans (Nat.le_mul_of_pos_left _ hlpos) hle) hrpos
  · intro h k
    rw [count_joinKeys]
    by_cases hl : k ∈ l.map f
    · by_cases hr : k ∈ r.map g
      · obtain ⟨hlone, hrone⟩ := h k hl hr
        simp [hlone, hrone]
      · rw [List.count_eq_zero.mpr hr, Nat.mul_zero]
        exact Nat.zero_le 1
    · rw [List.count_eq_zero.mpr hl, Nat.zero_mul]
      exact Nat.zero_le 1

end QsTie.Lib
