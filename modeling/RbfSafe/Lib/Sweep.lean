/-
Sweeps over a sorted list.

A sweep takes every element in turn and goes through those after it,
until one of them stops it for good. In a list sorted so that whoever
stops an element is followed by nobody who meets it, the sweep visits
exactly the pairs that meet (`sweep_eq_filter_pairs`): the early break
saves work and loses nothing.
-/
import Mathlib.Data.List.Pairwise
import Mathlib.Data.List.Nodup
import Mathlib.Tactic

namespace RbfSafe.Lib.Sweep

variable {α : Type}

/-- Every pair of a list, the earlier element first. -/
def pairs : List α → List (α × α)
  | [] => []
  | first :: rest => rest.map (fun second => (first, second)) ++ pairs rest

/-- The elements the inner loop of a sweep works on: those that meet
`first`, before the one that stops it. -/
def row (stop meets : α → α → Bool) (first : α) (rest : List α) : List α :=
  (rest.takeWhile fun second => !stop first second).filter (meets first)

/-- The pairs a sweep works on, in order. -/
def sweep (stop meets : α → α → Bool) : List α → List (α × α)
  | [] => []
  | first :: rest =>
      (row stop meets first rest).map (fun second => (first, second))
        ++ sweep stop meets rest

variable {stop meets : α → α → Bool} {before : α → α → Prop}

theorem row_cons_of_stop {first second : α} (h : stop first second = true)
    (rest : List α) : row stop meets first (second :: rest) = [] := by
  simp [row, h]

theorem row_cons_of_not_meets {first second : α}
    (hstop : stop first second = false) (hmeets : meets first second = false)
    (rest : List α) :
    row stop meets first (second :: rest) = row stop meets first rest := by
  simp [row, hstop, hmeets]

theorem row_cons_of_meets {first second : α}
    (hstop : stop first second = false) (hmeets : meets first second = true)
    (rest : List α) : row stop meets first (second :: rest)
      = second :: row stop meets first rest := by
  simp [row, hstop, hmeets]

/-- Past the element that stops it nobody meets it. -/
theorem row_eq_filter {first : α} {rest : List α}
    (hsorted : rest.Pairwise before)
    (hself : ∀ second ∈ rest, stop first second = true →
      meets first second = false)
    (hlater : ∀ second ∈ rest, ∀ third ∈ rest, before second third →
      stop first second = true → meets first third = false) :
    row stop meets first rest = rest.filter (meets first) := by
  induction rest with
  | nil => rfl
  | cons second rest ih =>
      obtain ⟨hbefore, hsorted⟩ := List.pairwise_cons.mp hsorted
      have ih := ih hsorted
        (fun x hx => hself x (List.mem_cons_of_mem _ hx))
        (fun x hx y hy => hlater x (List.mem_cons_of_mem _ hx) y
          (List.mem_cons_of_mem _ hy))
      cases hstop : stop first second with
      | true =>
          rw [row_cons_of_stop hstop, eq_comm, List.filter_eq_nil_iff]
          intro third hthird
          rcases List.mem_cons.mp hthird with rfl | hmem
          · simp [hself third List.mem_cons_self hstop]
          · simp [hlater second List.mem_cons_self third hthird
              (hbefore third hmem) hstop]
      | false =>
          cases hmeets : meets first second with
          | true =>
              rw [row_cons_of_meets hstop hmeets,
                List.filter_cons_of_pos hmeets, ih]
          | false =>
              rw [row_cons_of_not_meets hstop hmeets,
                List.filter_cons_of_neg (by simp [hmeets]), ih]

/-- **The early break loses no pair.** -/
theorem sweep_eq_filter_pairs {l : List α} (hsorted : l.Pairwise before)
    (hself : ∀ a ∈ l, ∀ b ∈ l, stop a b = true → meets a b = false)
    (hlater : ∀ a ∈ l, ∀ b ∈ l, ∀ c ∈ l, before b c → stop a b = true →
      meets a c = false) :
    sweep stop meets l = (pairs l).filter fun p => meets p.1 p.2 := by
  induction l with
  | nil => rfl
  | cons first rest ih =>
      obtain ⟨-, hsorted⟩ := List.pairwise_cons.mp hsorted
      have hrow : row stop meets first rest = rest.filter (meets first) :=
        row_eq_filter hsorted
          (fun b hb => hself first List.mem_cons_self b
            (List.mem_cons_of_mem _ hb))
          (fun b hb c hc => hlater first List.mem_cons_self b
            (List.mem_cons_of_mem _ hb) c (List.mem_cons_of_mem _ hc))
      have hrest := ih hsorted
        (fun a ha b hb => hself a (List.mem_cons_of_mem _ ha) b
          (List.mem_cons_of_mem _ hb))
        (fun a ha b hb c hc => hlater a (List.mem_cons_of_mem _ ha) b
          (List.mem_cons_of_mem _ hb) c (List.mem_cons_of_mem _ hc))
      rw [sweep, pairs, hrow, hrest, List.filter_append, List.filter_map]
      rfl

-- === pairs

/-- In a strictly sorted list the pairs are those in order. -/
theorem mem_pairs {l : List α} (hsorted : l.Pairwise before)
    (hirrefl : ∀ a, ¬before a a) (hasymm : ∀ a b, before a b → ¬before b a)
    {a b : α} : (a, b) ∈ pairs l ↔ a ∈ l ∧ b ∈ l ∧ before a b := by
  induction l with
  | nil => simp [pairs]
  | cons first rest ih =>
      obtain ⟨hbefore, hsorted⟩ := List.pairwise_cons.mp hsorted
      rw [pairs, List.mem_append, ih hsorted, List.mem_map]
      constructor
      · rintro (⟨second, hsecond, heq⟩ | ⟨ha, hb, hab⟩)
        · cases heq
          exact ⟨List.mem_cons_self, List.mem_cons_of_mem _ hsecond,
            hbefore b hsecond⟩
        · exact ⟨List.mem_cons_of_mem _ ha, List.mem_cons_of_mem _ hb, hab⟩
      · intro ⟨ha, hb, hab⟩
        rcases List.mem_cons.mp ha with rfl | harest
        · rcases List.mem_cons.mp hb with rfl | hbrest
          · exact absurd hab (hirrefl b)
          · exact Or.inl ⟨b, hbrest, rfl⟩
        · rcases List.mem_cons.mp hb with rfl | hbrest
          · exact absurd hab (hasymm b a (hbefore a harest))
          · exact Or.inr ⟨harest, hbrest, hab⟩

theorem mem_of_mem_pairs {l : List α} {p : α × α} (h : p ∈ pairs l) :
    p.1 ∈ l ∧ p.2 ∈ l := by
  induction l with
  | nil => cases h
  | cons first rest ih =>
      rw [pairs, List.mem_append, List.mem_map] at h
      rcases h with ⟨second, hsecond, rfl⟩ | h
      · exact ⟨List.mem_cons_self, List.mem_cons_of_mem _ hsecond⟩
      · exact ⟨List.mem_cons_of_mem _ (ih h).1,
          List.mem_cons_of_mem _ (ih h).2⟩

/-- Of two elements one comes first. -/
theorem mem_pairs_or {l : List α} {a b : α} (ha : a ∈ l) (hb : b ∈ l)
    (hne : a ≠ b) : (a, b) ∈ pairs l ∨ (b, a) ∈ pairs l := by
  induction l with
  | nil => cases ha
  | cons first rest ih =>
      rw [pairs, List.mem_append, List.mem_append, List.mem_map, List.mem_map]
      rcases List.mem_cons.mp ha with rfl | harest
      · rcases List.mem_cons.mp hb with rfl | hbrest
        · exact absurd rfl hne
        · exact Or.inl (Or.inl ⟨b, hbrest, rfl⟩)
      · rcases List.mem_cons.mp hb with rfl | hbrest
        · exact Or.inr (Or.inl ⟨a, harest, rfl⟩)
        · cases ih harest hbrest with
          | inl h => exact Or.inl (Or.inr h)
          | inr h => exact Or.inr (Or.inr h)

/-- It does so in one order only. -/
theorem not_mem_pairs_swap {l : List α} (h : l.Nodup) {a b : α}
    (hab : (a, b) ∈ pairs l) : (b, a) ∉ pairs l := by
  induction l with
  | nil => cases hab
  | cons first rest ih =>
      obtain ⟨hfirst, hrest⟩ := List.nodup_cons.mp h
      rw [pairs, List.mem_append, List.mem_map] at hab ⊢
      intro hba
      rcases hab with ⟨second, hsecond, heq⟩ | hab
      · cases heq
        rcases hba with ⟨third, -, heq⟩ | hba
        · cases heq
          exact hfirst hsecond
        · exact hfirst (mem_of_mem_pairs hba).2
      · rcases hba with ⟨second, hsecond, heq⟩ | hba
        · cases heq
          exact hfirst (mem_of_mem_pairs hab).2
        · exact ih hrest hab hba

/-- Each pair comes once. -/
theorem nodup_pairs {l : List α} (h : l.Nodup) : (pairs l).Nodup := by
  induction l with
  | nil => exact List.nodup_nil
  | cons first rest ih =>
      obtain ⟨hfirst, hrest⟩ := List.nodup_cons.mp h
      refine List.nodup_append.mpr ⟨hrest.map ?_, ih hrest, ?_⟩
      · intro b c heq
        exact (Prod.mk.inj heq).2
      · intro p hp q hq heq
        obtain ⟨second, -, rfl⟩ := List.mem_map.mp hp
        rw [← heq] at hq
        exact hfirst (mem_of_mem_pairs hq).1

end RbfSafe.Lib.Sweep
