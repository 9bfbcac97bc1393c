/-
Merging two sequences of windows with two cursors.

Each sequence runs forward in time: its windows are not empty, and each
ends before the next begins. The cursor on the window that ends first
moves on, both when the two end together. Whatever gaps and offsets
there are, every two windows that share a point are looked at
(`mem_merge`), and the windows looked at move forward (`merge_forward`),
so that none is looked at twice.
-/
import Mathlib.Order.MinMax
import Mathlib.Tactic

namespace RbfSafe.Lib.Merge

variable {α τ : Type} [LinearOrder τ] (lo hi : α → τ)

/-- The pairs the two cursors stand on, in order. -/
def merge : List α → List α → List (α × α)
  | a :: as, b :: bs =>
      if hi a ≤ hi b then
        if hi b ≤ hi a then (a, b) :: merge as bs
        else (a, b) :: merge as (b :: bs)
      else (a, b) :: merge (a :: as) bs
  | _, _ => []
termination_by as bs => as.length + bs.length

/-- The two windows share a point. -/
def Meets (a b : α) : Prop := max (lo a) (lo b) < min (hi a) (hi b)

instance (a b : α) : Decidable (Meets lo hi a b) :=
  inferInstanceAs (Decidable (_ < _))

/-- Windows that follow one another. -/
structure Forward (l : List α) : Prop where
  nonempty : ∀ a ∈ l, lo a < hi a
  apart : l.Pairwise fun a b => hi a ≤ lo b

variable {lo hi}

theorem Forward.tail {a : α} {l : List α} (h : Forward lo hi (a :: l)) :
    Forward lo hi l :=
  ⟨fun b hb => h.nonempty b (List.mem_cons_of_mem _ hb),
    (List.pairwise_cons.mp h.apart).2⟩

theorem Forward.head {a b : α} {l : List α} (h : Forward lo hi (a :: l))
    (hb : b ∈ l) : hi a ≤ lo b :=
  (List.pairwise_cons.mp h.apart).1 b hb

theorem mem_of_mem_merge {as bs : List α} {p : α × α}
    (h : p ∈ merge hi as bs) : p.1 ∈ as ∧ p.2 ∈ bs := by
  fun_induction merge hi as bs with
  | case1 a as b bs hab hba ih =>
      rcases List.mem_cons.mp h with rfl | h
      · exact ⟨List.mem_cons_self, List.mem_cons_self⟩
      · exact ⟨List.mem_cons_of_mem _ (ih h).1,
          List.mem_cons_of_mem _ (ih h).2⟩
  | case2 a as b bs hab hba ih =>
      rcases List.mem_cons.mp h with rfl | h
      · exact ⟨List.mem_cons_self, List.mem_cons_self⟩
      · exact ⟨List.mem_cons_of_mem _ (ih h).1, (ih h).2⟩
  | case3 a as b bs hab ih =>
      rcases List.mem_cons.mp h with rfl | h
      · exact ⟨List.mem_cons_self, List.mem_cons_self⟩
      · exact ⟨(ih h).1, List.mem_cons_of_mem _ (ih h).2⟩
  | case4 => exact absurd h List.not_mem_nil

/-- A window that is passed meets none of the windows still to come. -/
theorem not_meets_of_passed {a b c : α} {bs : List α}
    (hbs : Forward lo hi (b :: bs)) (hle : hi a ≤ hi b) (hc : c ∈ bs) :
    ¬Meets lo hi a c := by
  intro hmeets
  have hlate : hi b ≤ lo c := hbs.head hc
  have hlt : lo c < hi a :=
    (le_max_right _ _).trans_lt (hmeets.trans_le (min_le_left _ _))
  exact absurd (hlt.trans_le (hle.trans hlate)) (lt_irrefl _)

theorem Meets.symm {a b : α} (h : Meets lo hi a b) : Meets lo hi b a := by
  unfold Meets at h ⊢
  rwa [max_comm, min_comm]

/-- **Every two windows that meet are looked at.** -/
theorem mem_merge {as bs : List α} (has : Forward lo hi as)
    (hbs : Forward lo hi bs) {a b : α} (ha : a ∈ as) (hb : b ∈ bs)
    (hmeets : Meets lo hi a b) : (a, b) ∈ merge hi as bs := by
  fun_induction merge hi as bs with
  | case1 a₀ as b₀ bs hab hba ih =>
      rcases List.mem_cons.mp ha with rfl | ha
      · rcases List.mem_cons.mp hb with rfl | hb
        · exact List.mem_cons_self
        · exact absurd hmeets (not_meets_of_passed hbs hab hb)
      · rcases List.mem_cons.mp hb with rfl | hb
        · exact absurd hmeets.symm (not_meets_of_passed has hba ha)
        · exact List.mem_cons_of_mem _ (ih has.tail hbs.tail ha hb)
  | case2 a₀ as b₀ bs hab hba ih =>
      rcases List.mem_cons.mp ha with rfl | ha
      · rcases List.mem_cons.mp hb with rfl | hb
        · exact List.mem_cons_self
        · exact absurd hmeets (not_meets_of_passed hbs hab hb)
      · exact List.mem_cons_of_mem _ (ih has.tail hbs ha hb)
  | case3 a₀ as b₀ bs hab ih =>
      have hba : hi b₀ ≤ hi a₀ := (not_le.mp hab).le
      rcases List.mem_cons.mp hb with rfl | hb
      · rcases List.mem_cons.mp ha with rfl | ha
        · exact List.mem_cons_self
        · exact absurd hmeets.symm (not_meets_of_passed has hba ha)
      · exact List.mem_cons_of_mem _ (ih has hbs.tail ha hb)
  | case4 as bs hnone =>
      obtain ⟨c, as, rfl⟩ := List.exists_cons_of_ne_nil (List.ne_nil_of_mem ha)
      obtain ⟨d, bs, rfl⟩ := List.exists_cons_of_ne_nil (List.ne_nil_of_mem hb)
      exact absurd rfl (hnone c as d bs rfl)

/-- **The shared parts follow one another.** -/
theorem merge_forward {as bs : List α} (has : Forward lo hi as)
    (hbs : Forward lo hi bs) : (merge hi as bs).Pairwise fun p q =>
      min (hi p.1) (hi p.2) ≤ max (lo q.1) (lo q.2) := by
  fun_induction merge hi as bs with
  | case1 a as b bs hab hba ih =>
      refine List.pairwise_cons.mpr ⟨?_, ih has.tail hbs.tail⟩
      intro q hq
      exact (min_le_left _ _).trans
        ((has.head (mem_of_mem_merge hq).1).trans (le_max_left _ _))
  | case2 a as b bs hab hba ih =>
      refine List.pairwise_cons.mpr ⟨?_, ih has.tail hbs⟩
      intro q hq
      exact (min_le_left _ _).trans
        ((has.head (mem_of_mem_merge hq).1).trans (le_max_left _ _))
  | case3 a as b bs hab ih =>
      refine List.pairwise_cons.mpr ⟨?_, ih has hbs.tail⟩
      intro q hq
      exact (min_le_right _ _).trans
        ((hbs.head (mem_of_mem_merge hq).2).trans (le_max_right _ _))
  | case4 => exact List.Pairwise.nil

end RbfSafe.Lib.Merge
