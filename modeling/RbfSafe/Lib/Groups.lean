/-
Grouping by a key, as a map from keys to lists does it.

`push` is `map[key].push_back(item)` on a map that keeps its keys in
order; `groups` pushes a whole list. What comes out is, for each key of
the list in order, the items of that key as they came (`groups_eq`). So
the keys do not depend on the order of the list (`keys_congr`), and of
the items of a key only their order does.
-/
import Mathlib.Tactic

namespace RbfSafe.Lib.Groups

variable {α κ : Type} [LT κ] [DecidableLT κ] [DecidableEq κ] (key : α → κ)

/-- `map[key].push_back(item)`. -/
def push (item : α) : List (κ × List α) → List (κ × List α)
  | [] => [(key item, [item])]
  | (k, items) :: rest =>
      if key item = k then (k, items ++ [item]) :: rest
      else if key item < k then (key item, [item]) :: (k, items) :: rest
      else (k, items) :: push item rest

/-- A map with every item of a list pushed. -/
def groups (l : List α) : List (κ × List α) :=
  l.foldl (fun map item => push key item map) []

theorem keys_push {item : α} {k : κ} : ∀ {map : List (κ × List α)},
    k ∈ (push key item map).map (·.1) ↔ k = key item ∨ k ∈ map.map (·.1) := by
  intro map
  induction map with
  | nil => simp [push]
  | cons g map ih =>
      obtain ⟨k', items⟩ := g
      unfold push
      by_cases hkey : key item = k'
      · simp [hkey]
      · by_cases hlt : key item < k'
        · simp [hkey, hlt]
        · rw [if_neg hkey, if_neg hlt, List.map_cons, List.mem_cons, ih,
            List.map_cons, List.mem_cons]
          exact or_left_comm

-- === linear orders

variable [LE κ] [Std.IsLinearOrder κ] [Std.LawfulOrderLT κ]

/-- A map holds the items of a list: its keys in order, under each of them
its items. -/
structure Holds (l : List α) (map : List (κ × List α)) : Prop where
  sorted : (map.map (·.1)).Pairwise (· < ·)
  keys : ∀ k, k ∈ map.map (·.1) ↔ ∃ a ∈ l, key a = k
  items : ∀ g ∈ map, g.2 = l.filter fun a => key a = g.1

theorem sorted_push {item : α} : ∀ {map : List (κ × List α)},
    (map.map (·.1)).Pairwise (· < ·) →
    ((push key item map).map (·.1)).Pairwise (· < ·) := by
  intro map
  induction map with
  | nil =>
      intro _
      exact List.pairwise_singleton _ _
  | cons g map ih =>
      intro h
      obtain ⟨k, items⟩ := g
      obtain ⟨hall, hrest⟩ := List.pairwise_cons.mp h
      unfold push
      by_cases hkey : key item = k
      · rw [if_pos hkey]
        exact List.pairwise_cons.mpr ⟨hall, hrest⟩
      · by_cases hlt : key item < k
        · rw [if_neg hkey, if_pos hlt, List.map_cons]
          apply List.pairwise_cons.mpr
          refine ⟨?_, h⟩
          intro k' hk'
          rcases List.mem_cons.mp hk' with rfl | hk'
          · exact hlt
          · exact Std.lt_trans hlt (hall k' hk')
        · have hgt : k < key item :=
            Std.lt_of_le_of_ne (Std.not_lt.mp hlt) (Ne.symm hkey)
          rw [if_neg hkey, if_neg hlt, List.map_cons]
          apply List.pairwise_cons.mpr
          refine ⟨?_, ih hrest⟩
          intro k' hk'
          rcases (keys_push key).mp hk' with rfl | hk'
          · exact hgt
          · exact hall k' hk'

/-- What a push leaves under a key. -/
theorem mem_push {item : α} {g : κ × List α} : ∀ {map : List (κ × List α)},
    (map.map (·.1)).Pairwise (· < ·) → g ∈ push key item map →
    (g ∈ map ∧ key item ≠ g.1)
      ∨ (key item = g.1 ∧ ((∃ items, (g.1, items) ∈ map ∧ g.2 = items ++ [item])
        ∨ (g.1 ∉ map.map (·.1) ∧ g.2 = [item]))) := by
  intro map
  induction map with
  | nil =>
      intro _ h
      rw [push, List.mem_singleton] at h
      subst h
      exact .inr ⟨rfl, .inr ⟨List.not_mem_nil, rfl⟩⟩
  | cons first map ih =>
      intro h hg
      obtain ⟨k, items⟩ := first
      obtain ⟨hall, hrest⟩ := List.pairwise_cons.mp h
      unfold push at hg
      by_cases hkey : key item = k
      · rw [if_pos hkey, List.mem_cons] at hg
        rcases hg with rfl | hg
        · exact .inr ⟨hkey, .inl ⟨items, List.mem_cons_self, rfl⟩⟩
        · refine .inl ⟨List.mem_cons_of_mem _ hg, ?_⟩
          intro heq
          have hlt := hall g.1 (List.mem_map_of_mem hg)
          rw [← heq, hkey] at hlt
          exact Std.lt_irrefl hlt
      · by_cases hlt : key item < k
        · rw [if_neg hkey, if_pos hlt, List.mem_cons] at hg
          have hlater : ∀ k' ∈ ((k, items) :: map).map (·.1), key item < k' := by
            intro k' hk'
            rcases List.mem_cons.mp hk' with rfl | hk'
            · exact hlt
            · exact Std.lt_trans hlt (hall k' hk')
          rcases hg with rfl | hg
          · refine .inr ⟨rfl, .inr ⟨?_, rfl⟩⟩
            intro hmem
            exact Std.lt_irrefl (hlater _ hmem)
          · refine .inl ⟨hg, ?_⟩
            intro heq
            have hlt' := hlater g.1 (List.mem_map_of_mem hg)
            rw [heq] at hlt'
            exact Std.lt_irrefl hlt'
        · rw [if_neg hkey, if_neg hlt, List.mem_cons] at hg
          rcases hg with rfl | hg
          · exact .inl ⟨List.mem_cons_self, hkey⟩
          · rcases ih hrest hg with ⟨hmem, hne⟩ | ⟨heq, hfound | hnew⟩
            · exact .inl ⟨List.mem_cons_of_mem _ hmem, hne⟩
            · obtain ⟨items', hmem, hitems⟩ := hfound
              exact .inr ⟨heq, .inl ⟨items', List.mem_cons_of_mem _ hmem, hitems⟩⟩
            · refine .inr ⟨heq, .inr ⟨?_, hnew.2⟩⟩
              intro hmem
              rcases List.mem_cons.mp hmem with hfirst | hmem
              · exact hkey (heq.trans hfirst)
              · exact hnew.1 hmem

/-- One push. -/
theorem Holds.push {l : List α} {map : List (κ × List α)} (h : Holds key l map)
    (item : α) : Holds key (l ++ [item]) (push key item map) := by
  refine ⟨sorted_push key h.sorted, ?_, ?_⟩
  · intro k
    rw [keys_push, h.keys]
    constructor
    · intro hk
      rcases hk with rfl | ⟨a, ha, hk⟩
      · exact ⟨item, by simp, rfl⟩
      · exact ⟨a, by simp [ha], hk⟩
    · intro hk
      obtain ⟨a, ha, hk⟩ := hk
      rcases List.mem_append.mp ha with ha | ha
      · exact .inr ⟨a, ha, hk⟩
      · rw [List.mem_singleton.mp ha] at hk
        exact .inl hk.symm
  · intro g hg
    rw [List.filter_append]
    rcases mem_push key h.sorted hg with ⟨hmem, hne⟩ | ⟨heq, hfound | hnew⟩
    · rw [h.items g hmem]
      simp [hne]
    · obtain ⟨items, hmem, hitems⟩ := hfound
      have hitems' : items = l.filter fun a => key a = g.1 := h.items _ hmem
      rw [hitems, hitems']
      simp [heq]
    · have hnone : l.filter (fun a => key a = g.1) = [] := by
        rw [List.filter_eq_nil_iff]
        intro a ha hk
        exact hnew.1 ((h.keys g.1).mpr ⟨a, ha, by simpa using hk⟩)
      rw [hnone, hnew.2]
      simp [heq]

/-- A whole list, pushed item by item. -/
theorem holds_groups (l : List α) : Holds key l (groups key l) := by
  have hfold : ∀ (rest seen : List α) (map : List (κ × List α)),
      Holds key seen map → Holds key (seen ++ rest)
        (rest.foldl (fun map item => Groups.push key item map) map) := by
    intro rest
    induction rest with
    | nil =>
        intro seen map h
        rw [List.append_nil]
        exact h
    | cons item rest ih =>
        intro seen map h
        have hnext := ih (seen ++ [item]) _ (h.push key item)
        rw [List.append_assoc] at hnext
        exact hnext
  exact hfold l [] [] ⟨List.Pairwise.nil, by simp, by simp⟩

/-- **What grouping comes to**: under each key, in order, its items. -/
theorem groups_eq (l : List α) : groups key l
    = ((groups key l).map (·.1)).map fun k => (k, l.filter fun a => key a = k) := by
  rw [List.map_map]
  conv_lhs => rw [← List.map_id (groups key l)]
  apply List.map_congr_left
  intro g hg
  exact Prod.ext rfl ((holds_groups key l).items g hg)

/-- The keys of a permutation are the same. -/
theorem keys_congr {l l' : List α} (hperm : l.Perm l') :
    (groups key l).map (·.1) = (groups key l').map (·.1) := by
  have hsorted := (holds_groups key l).sorted
  have hsorted' := (holds_groups key l').sorted
  have hirrefl : ∀ {m : List κ}, m.Pairwise (· < ·) → m.Nodup := by
    intro m h
    apply List.Pairwise.imp _ h
    intro a b hlt heq
    rw [heq] at hlt
    exact Std.lt_irrefl hlt
  have hmem : ((groups key l).map (·.1)).Perm ((groups key l').map (·.1)) := by
    apply (List.perm_ext_iff_of_nodup (hirrefl hsorted) (hirrefl hsorted')).mpr
    intro k
    rw [(holds_groups key l).keys, (holds_groups key l').keys]
    constructor
    · intro h
      obtain ⟨a, ha, hk⟩ := h
      exact ⟨a, hperm.mem_iff.mp ha, hk⟩
    · intro h
      obtain ⟨a, ha, hk⟩ := h
      exact ⟨a, hperm.mem_iff.mpr ha, hk⟩
  refine hmem.eq_of_pairwise ?_ hsorted hsorted'
  intro a b _ _ hab hba
  exact absurd (Std.lt_trans hab hba) Std.lt_irrefl

end RbfSafe.Lib.Groups
