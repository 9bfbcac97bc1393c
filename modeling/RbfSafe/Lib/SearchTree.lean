/-
Trees whose nodes bound what is below them.

A query that goes down such a tree may leave out a node whose bound rules
out everything below it. What it collects is what a scan of all items
would (`collect_eq`), and the item it finds nearest is the nearest of
all, ties going to the least id (`search_nearest`): a node is left out
only if its bound is strictly farther than the best item so far, so that
no tie is lost, whichever child is searched first.
-/
import Mathlib.Order.Defs.LinearOrder
import Mathlib.Data.Set.Basic
import Mathlib.Tactic

namespace RbfSafe.Lib.SearchTree

/-- A binary tree with items at the leaves. -/
inductive Tree (β ι : Type) where
  | leaf (bounds : β) (items : List ι)
  | branch (bounds : β) (left right : Tree β ι)

namespace Tree

variable {β ι : Type}

/-- `bounds`. -/
def bounds : Tree β ι → β
  | leaf bounds _ => bounds
  | branch bounds _ _ => bounds

/-- The items at the leaves, from left to right. -/
def items : Tree β ι → List ι
  | leaf _ items => items
  | branch _ left right => left.items ++ right.items

/-- The bounds of every node hold of the items below it. -/
def Bounded (holds : β → ι → Prop) : Tree β ι → Prop
  | leaf bounds items => ∀ item ∈ items, holds bounds item
  | branch bounds left right =>
      (∀ item ∈ left.items ++ right.items, holds bounds item) ∧
        left.Bounded holds ∧ right.Bounded holds

theorem Bounded.mono {holds holds' : β → ι → Prop} {tree : Tree β ι}
    (h : tree.Bounded holds) (himp : ∀ bounds, ∀ item ∈ tree.items,
      holds bounds item → holds' bounds item) : tree.Bounded holds' := by
  induction tree with
  | leaf bounds items => exact fun item hitem => himp _ _ hitem (h item hitem)
  | branch bounds left right ihl ihr =>
      refine ⟨fun item hitem => himp _ _ hitem (h.1 item hitem), ?_, ?_⟩
      · exact ihl h.2.1 fun b item hitem =>
          himp b item (List.mem_append_left _ hitem)
      · exact ihr h.2.2 fun b item hitem =>
          himp b item (List.mem_append_right _ hitem)

-- === collecting

/-- The items that are kept, below nodes that are admitted. -/
def collect (admits : β → Bool) (keeps : ι → Bool) : Tree β ι → List ι
  | leaf bounds items => if admits bounds then items.filter keeps else []
  | branch bounds left right =>
      if admits bounds then
        left.collect admits keeps ++ right.collect admits keeps
      else []

/-- No item that is kept is missed. -/
theorem collect_eq {admits : β → Bool} {keeps : ι → Bool}
    {tree : Tree β ι} (h : tree.Bounded fun bounds item =>
      keeps item = true → admits bounds = true) :
    tree.collect admits keeps = tree.items.filter keeps := by
  have hnone : ∀ {bounds : β} {items : List ι},
      (∀ item ∈ items, keeps item = true → admits bounds = true) →
      admits bounds = false → items.filter keeps = [] := by
    intro bounds items hall hadmits
    rw [List.filter_eq_nil_iff]
    intro item hitem hkeeps
    rw [hall item hitem hkeeps] at hadmits
    cases hadmits
  induction tree with
  | leaf bounds items =>
      rw [collect, Tree.items]
      cases hadmits : admits bounds with
      | true => rw [if_pos rfl]
      | false => rw [if_neg (by decide), hnone h hadmits]
  | branch bounds left right ihl ihr =>
      rw [collect, Tree.items]
      cases hadmits : admits bounds with
      | true => rw [if_pos rfl, ihl h.2.1, ihr h.2.2, List.filter_append]
      | false => rw [if_neg (by decide), hnone h.1 hadmits]

end Tree

-- === searching

section Nearest

variable {β ι K J : Type} [LinearOrder K] [LinearOrder J]
  {bound : β → K} {distance : ι → K} {id : ι → J}

/-- The nearest of some items, and of those at its distance the one with
the least id. -/
structure Nearest (distance : ι → K) (id : ι → J) (items : Set ι)
    (selected : ι) : Prop where
  mem : selected ∈ items
  least : ∀ item ∈ items, distance selected < distance item ∨
    (distance selected = distance item ∧ id selected ≤ id item)

/-- Items are told apart by their ids, so that one is nearest. -/
theorem Nearest.unique {items : Set ι} {a b : ι}
    (ha : Nearest distance id items a) (hb : Nearest distance id items b)
    (hid : Set.InjOn id items) : a = b := by
  have hab := ha.least b hb.mem
  have hba := hb.least a ha.mem
  rcases hab with hlt | ⟨-, hab⟩
  · rcases hba with hlt' | ⟨heq, -⟩
    · exact absurd hlt' (lt_asymm hlt)
    · exact absurd heq hlt.ne'
  · rcases hba with hlt' | ⟨-, hba⟩
    · rcases ha.least b hb.mem with hlt | ⟨heq, -⟩
      · exact absurd hlt' (lt_asymm hlt)
      · exact absurd heq hlt'.ne'
    · exact hid ha.mem hb.mem (le_antisymm hab hba)

/-- A candidate against the best so far and its distance. -/
def better (distance : ι → K) (id : ι → J) (best : ι × K)
    (candidate : ι) : ι × K :=
  if distance candidate < best.2
      ∨ (distance candidate = best.2 ∧ id candidate < id best.1) then
    (candidate, distance candidate)
  else best

/-- The best so far, with its distance. -/
structure Found (distance : ι → K) (id : ι → J) (items : Set ι)
    (best : ι × K) : Prop where
  nearest : Nearest distance id items best.1
  known : best.2 = distance best.1

theorem Found.start (distance : ι → K) (id : ι → J) (item : ι) :
    Found distance id {item} (item, distance item) := by
  refine ⟨⟨rfl, ?_⟩, rfl⟩
  rintro other rfl
  exact Or.inr ⟨rfl, le_rfl⟩

theorem Found.better {items : Set ι} {best : ι × K}
    (h : Found distance id items best) (candidate : ι) :
    Found distance id (insert candidate items)
      (better distance id best candidate) := by
  unfold SearchTree.better
  by_cases hbetter : distance candidate < best.2
      ∨ (distance candidate = best.2 ∧ id candidate < id best.1)
  · rw [if_pos hbetter]
    refine ⟨⟨Set.mem_insert _ _, ?_⟩, rfl⟩
    intro item hitem
    rw [h.known] at hbetter
    rcases Set.mem_insert_iff.mp hitem with rfl | hitem
    · exact Or.inr ⟨rfl, le_rfl⟩
    · rcases hbetter with hlt | ⟨heq, hid⟩
      · rcases h.nearest.least item hitem with hlt' | ⟨heq', -⟩
        · exact Or.inl (hlt.trans hlt')
        · exact Or.inl (heq' ▸ hlt)
      · rcases h.nearest.least item hitem with hlt' | ⟨heq', hid'⟩
        · exact Or.inl (heq ▸ hlt')
        · exact Or.inr ⟨heq.trans heq', hid.le.trans hid'⟩
  · rw [if_neg hbetter]
    refine ⟨⟨Set.mem_insert_of_mem _ h.nearest.mem, ?_⟩, h.known⟩
    intro item hitem
    rcases Set.mem_insert_iff.mp hitem with rfl | hitem
    · rw [h.known, not_or, not_and, not_lt, not_lt] at hbetter
      rcases lt_or_eq_of_le hbetter.1 with hlt | heq
      · exact Or.inl hlt
      · exact Or.inr ⟨heq, hbetter.2 heq.symm⟩
    · exact h.nearest.least item hitem

/-- A scan of a list. -/
theorem Found.foldl {best : ι × K} : ∀ (candidates : List ι)
    {items : Set ι}, Found distance id items best →
    Found distance id (items ∪ {item | item ∈ candidates})
      (candidates.foldl (SearchTree.better distance id) best) := by
  intro candidates
  induction candidates generalizing best with
  | nil =>
      intro items h
      simpa using h
  | cons candidate rest ih =>
      intro items h
      have hall := ih (h.better candidate)
      have hset : insert candidate items ∪ {item | item ∈ rest}
          = items ∪ {item | item ∈ candidate :: rest} := by
        ext item
        simp only [Set.mem_union, Set.mem_insert_iff, Set.mem_ofPred_eq,
          List.mem_cons]
        tauto
      rwa [hset] at hall

/-- Items that are all strictly farther may be left out. -/
theorem Found.skip {items farther : Set ι} {best : ι × K}
    (h : Found distance id items best)
    (hfar : ∀ item ∈ farther, best.2 < distance item) :
    Found distance id (items ∪ farther) best := by
  refine ⟨⟨Or.inl h.nearest.mem, ?_⟩, h.known⟩
  rintro item (hitem | hitem)
  · exact h.nearest.least item hitem
  · exact Or.inl (h.known ▸ hfar item hitem)

/-- The nearest item below a node, the nearer child first. -/
def Tree.search (bound : β → K) (distance : ι → K) (id : ι → J) :
    Tree β ι → ι × K → ι × K
  | .leaf bounds items, best =>
      if best.2 < bound bounds then best
      else items.foldl (better distance id) best
  | .branch bounds left right, best =>
      if best.2 < bound bounds then best
      else if bound left.bounds ≤ bound right.bounds then
        right.search bound distance id (left.search bound distance id best)
      else
        left.search bound distance id (right.search bound distance id best)

/-- No item is missed, whichever child comes first. -/
theorem Tree.search_nearest {tree : Tree β ι} :
    ∀ {items : Set ι} {best : ι × K},
      tree.Bounded (fun bounds item => bound bounds ≤ distance item) →
      Found distance id items best →
      Found distance id (items ∪ {item | item ∈ tree.items})
        (tree.search bound distance id best) := by
  induction tree with
  | leaf bounds leaves =>
      intro items best hbounded h
      rw [search, Tree.items]
      by_cases hfar : best.2 < bound bounds
      · rw [if_pos hfar]
        exact h.skip fun item hitem => hfar.trans_le (hbounded item hitem)
      · rw [if_neg hfar]
        exact h.foldl leaves
  | branch bounds left right ihl ihr =>
      intro items best hbounded h
      obtain ⟨hroot, hleft, hright⟩ := hbounded
      rw [search, Tree.items]
      by_cases hfar : best.2 < bound bounds
      · rw [if_pos hfar]
        exact h.skip fun item hitem => hfar.trans_le (hroot item hitem)
      · rw [if_neg hfar]
        by_cases horder : bound left.bounds ≤ bound right.bounds
        · rw [if_pos horder]
          have hboth := ihr hright (ihl hleft h)
          have hset : items ∪ {item | item ∈ left.items}
              ∪ {item | item ∈ right.items}
              = items ∪ {item | item ∈ left.items ++ right.items} := by
            ext item
            simp only [Set.mem_union, Set.mem_ofPred_eq, List.mem_append,
              or_assoc]
          rwa [hset] at hboth
        · rw [if_neg horder]
          have hboth := ihl hleft (ihr hright h)
          have hset : items ∪ {item | item ∈ right.items}
              ∪ {item | item ∈ left.items}
              = items ∪ {item | item ∈ left.items ++ right.items} := by
            ext item
            simp only [Set.mem_union, Set.mem_ofPred_eq, List.mem_append]
            tauto
          rwa [hset] at hboth

end Nearest

end RbfSafe.Lib.SearchTree
