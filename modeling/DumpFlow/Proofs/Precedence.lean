import Mathlib.Algebra.GroupWithZero.Nat
import Mathlib.Data.List.Induction
import Mathlib.Data.List.Perm.Subperm

/-!
Lists that only grow at their end: what has to stand before each of their elements. Beside it, what
becomes of the elements of a list when one of them is replaced.
-/

namespace DumpFlow

variable {α β : Type}

/-- Each element stands where `P` holds of what is before it. -/
def Preceded (P : List α → α → Prop) (l : List α) : Prop :=
  ∀ past x rest, l = past ++ x :: rest → P past x

theorem preceded_nil (P : List α → α → Prop) : Preceded P [] := by
  intro past x rest h
  simp at h

theorem Preceded.snoc {P : List α → α → Prop} {l : List α} {x : α}
    (h : Preceded P l) (hx : P l x) : Preceded P (l ++ [x]) := by
  intro past y rest split
  rcases rest.eq_nil_or_concat with rfl | ⟨front, last, rfl⟩
  · obtain ⟨rfl, same⟩ := List.append_inj' split rfl
    cases same
    exact hx
  · have shape : l ++ [x] = (past ++ y :: front) ++ [last] := by simpa using split
    obtain ⟨rfl, -⟩ := List.append_inj' shape rfl
    exact h past y front rfl

theorem Preceded.append {P : List α → α → Prop} {l l' : List α} (h : Preceded P l)
    (h' : ∀ past x rest, l' = past ++ x :: rest → P (l ++ past) x) : Preceded P (l ++ l') := by
  induction l' generalizing l with
  | nil => simpa using h
  | cons x l' ih =>
      rw [List.append_cons]
      apply ih
      · exact h.snoc (by simpa using h' [] x l' rfl)
      · intro past y rest split
        simpa using h' (x :: past) y rest (by simp [split])

theorem Preceded.left {P : List α → α → Prop} {l l' : List α} (h : Preceded P (l ++ l')) :
    Preceded P l :=
  fun past x rest split => h past x (rest ++ l') (by simp [split])

/-- What is never preceded by its like happens once. -/
theorem Preceded.countP_le_one {P : List α → α → Prop} {q : α → Bool} {l : List α}
    (h : Preceded P l) (hq : ∀ past x, q x = true → P past x → past.countP q = 0) :
    l.countP q ≤ 1 := by
  induction l using List.reverseRecOn with
  | nil => simp
  | append_singleton l x ih =>
      rw [List.countP_append]
      cases hx : q x with
      | false => simpa [hx] using ih h.left
      | true =>
          have first := hq l x hx (h l x [] rfl)
          simp [first, hx]

theorem eq_of_countP_le_one {q : α → Bool} {l : List α} {x y : α} (h : l.countP q ≤ 1)
    (hx : x ∈ l) (hy : y ∈ l) (qx : q x = true) (qy : q y = true) : x = y := by
  by_contra other
  have both : [x, y].countP q ≤ l.countP q :=
    (List.subperm_of_subset (by simpa using other) (by simp [hx, hy])).countP_le q
  simp only [List.countP_cons, qx, qy, List.countP_nil, if_true] at both
  omega

/-- All elements but one stay when that one is replaced. -/
theorem exists_perm_set {l : List α} {i : Nat} {a : α} (h : l[i]? = some a) :
    ∃ others, l.Perm (a :: others) ∧ ∀ b, (l.set i b).Perm (b :: others) := by
  obtain ⟨hi, rfl⟩ := List.getElem?_eq_some_iff.mp h
  exact ⟨l.eraseIdx i, (List.getElem_cons_eraseIdx_perm hi).symm,
    fun b => List.set_perm_cons_eraseIdx hi b⟩

/-- A sum over a list changes by what changes at one place. -/
theorem sum_map_set {l : List α} {i : Nat} {a b : α} (h : l[i]? = some a) (f : α → Nat) :
    ((l.set i b).map f).sum + f a = (l.map f).sum + f b := by
  obtain ⟨others, before, after⟩ := exists_perm_set h
  rw [(before.map f).sum_nat, ((after b).map f).sum_nat]
  simp only [List.map_cons, List.sum_cons]
  omega

/-- How often something is met changes by what changes at one place. -/
theorem countP_set {l : List α} {i : Nat} {a b : α} (h : l[i]? = some a) (q : α → Bool) :
    (l.set i b).countP q + [a].countP q = l.countP q + [b].countP q := by
  obtain ⟨others, before, after⟩ := exists_perm_set h
  rw [before.countP_eq, (after b).countP_eq]
  simp only [List.countP_cons, List.countP_nil]
  omega

theorem zip_set {l : List α} {m : List β} {i : Nat} {a : α} (b : β) (h : l[i]? = some a) :
    l.zip (m.set i b) = (l.zip m).set i (a, b) := by
  induction l generalizing m i with
  | nil => simp at h
  | cons x l ih =>
      cases m with
      | nil => simp
      | cons y m =>
          cases i with
          | zero => simp_all
          | succ i => simp [ih (by simpa using h)]

end DumpFlow
