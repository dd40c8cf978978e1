import Mathlib.Data.List.Perm.Basic

/-!
Lists whose elements have a number each. A list in the order of these numbers is a row of blocks,
and every list can be brought into such a row.
-/

namespace DumpFlow

open scoped List

variable {α : Type} {l : List α}

/-- The greatest elements of a list in ascending order come last. -/
theorem eq_filter_append (f : α → Nat) {n : Nat} (ascending : l.Pairwise fun a b => f a ≤ f b)
    (below : ∀ a ∈ l, f a ≤ n) :
    l = l.filter (fun a => f a < n) ++ l.filter fun a => f a = n := by
  induction l with
  | nil => rfl
  | cons a l ih =>
      obtain ⟨first, ascending⟩ := List.pairwise_cons.mp ascending
      obtain ⟨top, below'⟩ := List.forall_mem_cons.mp below
      rcases Nat.lt_or_eq_of_le top with low | same
      · simpa [low, Nat.ne_of_lt low] using ih ascending below'
      · have all : ∀ b ∈ a :: l, f b = n := by
          intro b member
          rcases List.mem_cons.mp member with rfl | later
          · exact same
          · exact Nat.le_antisymm (below' b later) (same ▸ first b later)
        have front : (a :: l).filter (fun a => f a < n) = [] :=
          List.filter_eq_nil_iff.mpr fun b member low => by simp [all b member] at low
        have back : (a :: l).filter (fun a => f a = n) = a :: l :=
          List.filter_eq_self.mpr fun b member => by simp [all b member]
        rw [front, back, List.nil_append]

/-- A list in ascending order is made of its blocks. -/
theorem eq_flatMap_filter (f : α → Nat) {n : Nat} (ascending : l.Pairwise fun a b => f a ≤ f b)
    (below : ∀ a ∈ l, f a < n) : l = (List.range n).flatMap fun r => l.filter fun a => f a = r := by
  induction n generalizing l with
  | zero =>
      exact List.eq_nil_iff_forall_not_mem.mpr fun a member => Nat.not_lt_zero _ (below a member)
  | succ n ih =>
      have split := eq_filter_append f ascending fun a member => Nat.le_of_lt_succ (below a member)
      have front := @ih (l.filter fun a => f a < n) (ascending.filter _) fun a member => by
        simpa using (List.mem_filter.mp member).2
      have same : ∀ r ∈ List.range n,
          ((l.filter fun a => f a < n).filter fun a => f a = r) = l.filter fun a => f a = r := by
        intro r member
        have small := List.mem_range.mp member
        rw [List.filter_filter]
        refine List.filter_congr fun a _ => ?_
        by_cases here : f a = r
        · simp [here, small]
        · simp [here]
      rw [List.range_succ, List.flatMap_append, ← List.flatMap_congr same, ← front]
      simpa using split

/-- A list is made of what belongs to each number. -/
theorem perm_flatMap_filter (f : α → Nat) {ns : List Nat} (distinct : ns.Nodup)
    (covered : ∀ a ∈ l, f a ∈ ns) : l ~ ns.flatMap fun n => l.filter fun a => f a = n := by
  induction ns generalizing l with
  | nil =>
      rw [List.eq_nil_iff_forall_not_mem.mpr fun a member => List.not_mem_nil (covered a member)]
      exact .nil
  | cons n ns ih =>
      obtain ⟨new, distinct⟩ := List.nodup_cons.mp distinct
      have others := @ih (l.filter fun a => !decide (f a = n)) distinct fun a member => by
        obtain ⟨member, other⟩ := List.mem_filter.mp member
        exact (List.mem_cons.mp (covered a member)).resolve_left (by simpa using other)
      have same : ∀ n' ∈ ns, ((l.filter fun a => !decide (f a = n)).filter fun a => f a = n') =
          l.filter fun a => f a = n' := by
        intro n' member
        have other : n' ≠ n := fun eq => new (eq ▸ member)
        rw [List.filter_filter]
        refine List.filter_congr fun a _ => ?_
        by_cases here : f a = n'
        · simp [here, other]
        · simp [here]
      rw [List.flatMap_congr same] at others
      exact (List.filter_append_perm (fun a => decide (f a = n)) l).symm.trans
        (others.append_left _)

end DumpFlow
