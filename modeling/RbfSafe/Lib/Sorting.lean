/-
Sorting by a key, and dropping neighbours of equal key.

`std::sort` with a comparator on a key and `std::unique` on the same key
are `List.mergeSort` and `List.destutter`. Where the key tells the
elements apart, the sorted list does not depend on the order the
elements came in (`sort_congr`); after `destutter` the keys increase
(`strict_sortUnique`), no element is new, and every key is still there
(`key_mem_sortUnique`).

A key of several components is a `Tie`, ordered as `std::tie` orders it:
by the first component that differs.
-/
import Mathlib.Data.List.Destutter
import Mathlib.Data.Set.Function
import Mathlib.Tactic

namespace RbfSafe.Lib.Sorting

variable {α κ : Type} [LT κ] [DecidableLT κ] (key : α → κ)

/-- `std::sort` by a key. -/
def sort (l : List α) : List α :=
  l.mergeSort fun a b => !decide (key b < key a)

/-- `std::unique` on a key, after `std::sort` by it. -/
def sortUnique [DecidableEq κ] (l : List α) : List α :=
  (sort key l).destutter fun a b => key a ≠ key b

theorem sort_perm (l : List α) : (sort key l).Perm l :=
  List.mergeSort_perm l _

theorem mem_sort {l : List α} {a : α} : a ∈ sort key l ↔ a ∈ l :=
  (sort_perm key l).mem_iff

@[simp] theorem sortUnique_nil [DecidableEq κ] :
    sortUnique key ([] : List α) = [] := by
  unfold sortUnique sort
  rw [List.mergeSort_nil, List.destutter_nil]

theorem mem_of_mem_sortUnique [DecidableEq κ] {l : List α} {a : α}
    (h : a ∈ sortUnique key l) : a ∈ l :=
  (mem_sort key).mp ((List.destutter_sublist _ _).mem h)

omit [LT κ] [DecidableLT κ] in
/-- What is dropped has the key of the element kept before it. -/
theorem key_mem_destutter' [DecidableEq κ] (l : List α) : ∀ (first : α) {a : α},
    a = first ∨ a ∈ l →
    ∃ b ∈ l.destutter' (fun a b => key a ≠ key b) first, key b = key a := by
  induction l with
  | nil =>
      intro first a ha
      refine ⟨first, by simp, ?_⟩
      rcases ha with rfl | ha
      · rfl
      · exact absurd ha List.not_mem_nil
  | cons next l ih =>
      intro first a ha
      by_cases hkey : key first = key next
      · rw [List.destutter'_cons_neg _ (by simpa using hkey)]
        rcases ha with rfl | ha
        · exact ih a (Or.inl rfl)
        · rcases List.mem_cons.mp ha with rfl | ha
          · obtain ⟨b, hb, heq⟩ := ih first (Or.inl rfl)
            exact ⟨b, hb, heq.trans hkey⟩
          · exact ih first (Or.inr ha)
      · rw [List.destutter'_cons_pos _ hkey]
        rcases ha with rfl | ha
        · exact ⟨a, List.mem_cons_self, rfl⟩
        · obtain ⟨b, hb, heq⟩ := ih next (List.mem_cons.mp ha)
          exact ⟨b, List.mem_cons_of_mem _ hb, heq⟩

theorem key_mem_sortUnique [DecidableEq κ] {l : List α} {a : α} (h : a ∈ l) :
    ∃ b ∈ sortUnique key l, key b = key a := by
  have ha := (mem_sort key).mpr h
  unfold sortUnique
  cases hsort : sort key l with
  | nil =>
      rw [hsort] at ha
      exact absurd ha List.not_mem_nil
  | cons first rest =>
      rw [hsort] at ha
      exact key_mem_destutter' key rest first (List.mem_cons.mp ha)

-- === linear orders

section
variable [LE κ] [Std.IsLinearOrder κ] [Std.LawfulOrderLT κ]

theorem pairwise_sort (l : List α) :
    (sort key l).Pairwise fun a b => key a ≤ key b := by
  have hle : ∀ a b : α, (!decide (key b < key a)) = true ↔ key a ≤ key b := by
    intro a b
    simp [Std.not_lt]
  have hsorted := @List.pairwise_mergeSort _
    (fun a b : α => !decide (key b < key a))
    (fun a b c hab hbc => by
      rw [hle] at hab hbc ⊢
      exact Std.le_trans hab hbc)
    (fun a b => by
      rw [Bool.or_eq_true, hle, hle]
      exact Std.Total.total _ _) l
  exact hsorted.imp fun h => (hle _ _).mp h

/-- A sorted list stays as it is. -/
theorem sort_eq_self {l : List α} (h : l.Pairwise fun a b => key a ≤ key b) :
    sort key l = l := by
  refine List.mergeSort_of_pairwise (h.imp ?_)
  intro a b hab
  simpa [Std.not_lt] using hab

/-- Sorting forgets the order of elements with different keys. -/
theorem sort_congr {l l' : List α} (hperm : l.Perm l')
    (hkey : Set.InjOn key {a | a ∈ l}) : sort key l = sort key l' := by
  have hperm' : (sort key l).Perm (sort key l') :=
    (sort_perm key l).trans (hperm.trans (sort_perm key l').symm)
  refine List.Perm.eq_of_pairwise ?_ (pairwise_sort key l)
    (pairwise_sort key l') hperm'
  intro a b ha hb hab hba
  have ha' : a ∈ l := (mem_sort key).mp ha
  have hb' : b ∈ l := hperm.mem_iff.mpr ((mem_sort key).mp hb)
  exact hkey ha' hb' (Std.le_antisymm hab hba)

theorem strict_sortUnique [DecidableEq κ] (l : List α) :
    (sortUnique key l).IsChain fun a b => key a < key b := by
  have hle : (sortUnique key l).Pairwise fun a b => key a ≤ key b :=
    (pairwise_sort key l).sublist (List.destutter_sublist _ _)
  have hne := List.isChain_destutter (fun a b : α => key a ≠ key b)
    (sort key l)
  rw [List.isChain_iff_getElem] at hne ⊢
  intro i hi
  exact Std.lt_of_le_of_ne
    (List.pairwise_iff_getElem.mp hle i (i + 1) _ hi (Nat.lt_succ_self i))
    (hne i hi)

end

/-- A sort by a comparison that is an order on the elements at hand. -/
theorem pairwise_mergeSort_of {β : Type} {l : List β} {r : β → β → Bool}
    {p : β → Prop} (hall : ∀ b ∈ l, p b)
    (htrans : ∀ {a b c : β}, p a → p b → p c →
      r a b = true → r b c = true → r a c = true)
    (htotal : ∀ {a b : β}, p a → p b → r a b = true ∨ r b a = true) :
    (l.mergeSort r).Pairwise fun a b => r a b = true := by
  let members := l.attachWith p hall
  have hmap : (members.mergeSort fun a b => r a.1 b.1).map Subtype.val
      = l.mergeSort r := by
    rw [List.map_mergeSort (f := Subtype.val) (s := r) fun a _ b _ => rfl]
    rw [List.attachWith_map_subtype_val]
  have hsorted : (members.mergeSort fun a b => r a.1 b.1).Pairwise
      fun a b => r a.1 b.1 = true := by
    apply List.pairwise_mergeSort
    · intro a b c
      exact htrans a.2 b.2 c.2
    · intro a b
      rw [Bool.or_eq_true]
      exact htotal a.2 b.2
  rw [← hmap, List.pairwise_map]
  exact hsorted

-- === tuples

/-- Two components compared one after the other. -/
structure Tie (α β : Type) where
  first : α
  second : β
deriving DecidableEq

namespace Tie

variable {α β : Type} [LT α] [LT β]

instance : LT (Tie α β) where
  lt a b := a.first < b.first ∨ a.first = b.first ∧ a.second < b.second

instance [LE β] : LE (Tie α β) where
  le a b := a.first < b.first ∨ a.first = b.first ∧ a.second ≤ b.second

theorem lt_iff {a b : Tie α β} : a < b ↔
    a.first < b.first ∨ a.first = b.first ∧ a.second < b.second := Iff.rfl

omit [LT β] in
instance [DecidableEq α] [DecidableLT α] [DecidableLT β] :
    DecidableLT (Tie α β) := fun a b =>
  inferInstanceAs (Decidable (a.first < b.first
    ∨ a.first = b.first ∧ a.second < b.second))

variable [LE α] [LE β] [Std.IsLinearOrder α] [Std.IsLinearOrder β]
  [Std.LawfulOrderLT α] [Std.LawfulOrderLT β]

instance : Std.IsLinearOrder (Tie α β) where
  le_refl a := Or.inr ⟨rfl, Std.le_refl _⟩
  le_trans a b c := by
    intro hab hbc
    rcases hab with hab | ⟨hab, hab'⟩
    · rcases hbc with hbc | ⟨hbc, -⟩
      · exact Or.inl (Std.lt_trans hab hbc)
      · exact Or.inl (hbc ▸ hab)
    · rcases hbc with hbc | ⟨hbc, hbc'⟩
      · exact Or.inl (hab ▸ hbc)
      · exact Or.inr ⟨hab.trans hbc, Std.le_trans hab' hbc'⟩
  le_antisymm a b := by
    intro hab hba
    rcases hab with hab | ⟨hab, hab'⟩
    · rcases hba with hba | ⟨hba, -⟩
      · exact absurd hba (Std.not_lt.mpr (Std.le_of_lt hab))
      · exact absurd hab (hba ▸ Std.lt_irrefl)
    · rcases hba with hba | ⟨-, hba'⟩
      · exact absurd hba (hab ▸ Std.lt_irrefl)
      · cases a
        cases b
        cases hab
        cases Std.le_antisymm hab' hba'
        rfl
  le_total a b := by
    rcases Std.lt_trichotomy a.first b.first with h | h | h
    · exact Or.inl (Or.inl h)
    · rcases Std.le_total (a := a.second) (b := b.second) with h' | h'
      · exact Or.inl (Or.inr ⟨h, h'⟩)
      · exact Or.inr (Or.inr ⟨h.symm, h'⟩)
    · exact Or.inr (Or.inl h)

instance : Std.LawfulOrderLT (Tie α β) where
  lt_iff a b := by
    constructor
    · rintro (h | ⟨h, h'⟩)
      · refine ⟨Or.inl h, ?_⟩
        rintro (hba | ⟨hba, -⟩)
        · exact Std.not_lt.mpr (Std.le_of_lt h) hba
        · exact Std.lt_irrefl (hba ▸ h)
      · refine ⟨Or.inr ⟨h, Std.le_of_lt h'⟩, ?_⟩
        rintro (hba | ⟨-, hba⟩)
        · exact Std.lt_irrefl (h ▸ hba)
        · exact Std.not_le.mpr h' hba
    · rintro ⟨h | ⟨h, -⟩, hnot⟩
      · exact Or.inl h
      · refine Or.inr ⟨h, ?_⟩
        by_contra hlt
        exact hnot (Or.inr ⟨h.symm, Std.not_lt.mp hlt⟩)

end Tie

end RbfSafe.Lib.Sorting
