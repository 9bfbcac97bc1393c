/-
Maps as lists in key order, and what changed between two of them.

`emplace` keeps a key that is there. `diff` moves two cursors over two
maps: a key only the first has was removed, a key only the second has
was added, and a key both have may have been modified. Whatever is
recorded for each case, a record is made exactly for the keys where the
maps call for one (`mem_diff`), in key order and once a key
(`pairwise_diff`).

Updating a map at distinct keys, in any order, leaves each key with its
own update (`foldl_update`).
-/
import Mathlib.Data.List.Basic
import Mathlib.Logic.Function.Basic
import Mathlib.Tactic

namespace RbfSafe.Lib.OrderedMap

variable {κ ν χ : Type} [LT κ] [DecidableLT κ] [DecidableEq κ]

/-- `std::map::emplace`. -/
def emplace (key : κ) (value : ν) : List (κ × ν) → List (κ × ν)
  | [] => [(key, value)]
  | (k, v) :: rest =>
      if key = k then (k, v) :: rest
      else if key < k then (key, value) :: (k, v) :: rest
      else (k, v) :: emplace key value rest

/-- A map from entries that are emplaced one after the other. -/
def fromEntries (entries : List (κ × ν)) : List (κ × ν) :=
  entries.foldl (fun map entry => emplace entry.1 entry.2 map) []

omit [LT κ] [DecidableLT κ] in
/-- `std::map::find`. -/
def find (map : List (κ × ν)) (key : κ) : Option ν :=
  (map.find? fun entry => entry.1 = key).map (·.2)

omit [DecidableLT κ] [DecidableEq κ] in
/-- The keys increase. -/
def Sorted (map : List (κ × ν)) : Prop :=
  map.Pairwise fun a b => a.1 < b.1

/-- Two cursors over two maps. -/
def diff (removed added : κ → ν → χ) (modified : κ → ν → ν → Option χ) :
    List (κ × ν) → List (κ × ν) → List χ
  | [], [] => []
  | (k, v) :: old, [] => removed k v :: diff removed added modified old []
  | [], (k, v) :: next => added k v :: diff removed added modified [] next
  | (k, v) :: old, (k', v') :: next =>
      if k < k' then
        removed k v :: diff removed added modified old ((k', v') :: next)
      else if k' < k then
        added k' v' :: diff removed added modified ((k, v) :: old) next
      else (modified k v v').toList ++ diff removed added modified old next
termination_by old next => old.length + next.length

-- === finding

section
omit [LT κ] [DecidableLT κ]

@[simp] theorem find_nil (key : κ) : find ([] : List (κ × ν)) key = none :=
  rfl

theorem find_cons (k : κ) (v : ν) (map : List (κ × ν)) (key : κ) :
    find ((k, v) :: map) key = if k = key then some v else find map key := by
  unfold find
  rw [List.find?_cons]
  by_cases h : k = key <;> simp [h]

theorem mem_of_find {map : List (κ × ν)} {key : κ} {value : ν}
    (h : find map key = some value) : (key, value) ∈ map := by
  induction map with
  | nil => cases h
  | cons entry map ih =>
      obtain ⟨k, v⟩ := entry
      rw [find_cons] at h
      by_cases hk : k = key
      · rw [if_pos hk, Option.some_inj] at h
        rw [hk, h]
        exact List.mem_cons_self
      · rw [if_neg hk] at h
        exact List.mem_cons_of_mem _ (ih h)

theorem find_eq_none {map : List (κ × ν)} {key : κ}
    (h : ∀ entry ∈ map, entry.1 ≠ key) : find map key = none := by
  cases hfind : find map key with
  | none => rfl
  | some value => exact absurd rfl (h _ (mem_of_find hfind))

/-- Where the keys are distinct, an entry is found. -/
theorem find_of_mem {map : List (κ × ν)}
    (h : map.Pairwise fun a b => a.1 ≠ b.1) {key : κ} {value : ν}
    (hmem : (key, value) ∈ map) : find map key = some value := by
  induction map with
  | nil => cases hmem
  | cons entry map ih =>
      obtain ⟨k, v⟩ := entry
      obtain ⟨hhead, htail⟩ := List.pairwise_cons.mp h
      rw [find_cons]
      rcases List.mem_cons.mp hmem with heq | hmem
      · rw [Prod.mk.injEq] at heq
        rw [if_pos heq.1.symm, heq.2]
      · rw [if_neg (hhead _ hmem)]
        exact ih htail hmem

end

-- === the order

section
variable [LE κ] [Std.IsLinearOrder κ] [Std.LawfulOrderLT κ]

theorem find_of_lt {map : List (κ × ν)} {key : κ}
    (h : ∀ entry ∈ map, key < entry.1) : find map key = none :=
  find_eq_none fun entry hentry heq =>
    Std.lt_irrefl (heq ▸ h entry hentry)

theorem emplace_perm {key : κ} {value : ν} : ∀ {map : List (κ × ν)},
    (∀ entry ∈ map, entry.1 ≠ key) →
      (emplace key value map).Perm ((key, value) :: map) := by
  intro map
  induction map with
  | nil => intro _; exact List.Perm.refl _
  | cons entry map ih =>
      intro h
      obtain ⟨k, v⟩ := entry
      have hk : key ≠ k := (h _ List.mem_cons_self).symm
      rw [emplace, if_neg hk]
      by_cases hlt : key < k
      · rw [if_pos hlt]
      · rw [if_neg hlt]
        have hrest := ih fun e he => h e (List.mem_cons_of_mem _ he)
        exact (hrest.cons _).trans (List.Perm.swap _ _ _)

theorem mem_of_mem_emplace {key : κ} {value : ν} {entry : κ × ν} :
    ∀ {map : List (κ × ν)}, entry ∈ emplace key value map →
      entry = (key, value) ∨ entry ∈ map := by
  intro map
  induction map with
  | nil =>
      intro h
      exact Or.inl (List.mem_singleton.mp h)
  | cons first map ih =>
      intro h
      obtain ⟨k, v⟩ := first
      rw [emplace] at h
      by_cases hk : key = k
      · rw [if_pos hk] at h
        exact Or.inr h
      · rw [if_neg hk] at h
        by_cases hlt : key < k
        · rw [if_pos hlt] at h
          exact List.mem_cons.mp h
        · rw [if_neg hlt] at h
          rcases List.mem_cons.mp h with rfl | h
          · exact Or.inr List.mem_cons_self
          · rcases ih h with heq | hmem
            · exact Or.inl heq
            · exact Or.inr (List.mem_cons_of_mem _ hmem)

theorem Sorted.emplace {key : κ} {value : ν} : ∀ {map : List (κ × ν)},
    Sorted map → Sorted (emplace key value map) := by
  intro map
  induction map with
  | nil => intro _; exact List.pairwise_singleton _ _
  | cons first map ih =>
      intro h
      obtain ⟨k, v⟩ := first
      obtain ⟨hhead, htail⟩ := List.pairwise_cons.mp h
      rw [OrderedMap.emplace]
      by_cases hk : key = k
      · rw [if_pos hk]
        exact h
      · rw [if_neg hk]
        by_cases hlt : key < k
        · rw [if_pos hlt]
          apply List.pairwise_cons.mpr ⟨?_, h⟩
          intro entry hentry
          rcases List.mem_cons.mp hentry with rfl | hentry
          · exact hlt
          · exact Std.lt_trans hlt (hhead entry hentry)
        · rw [if_neg hlt]
          have hgt : k < key := Std.lt_of_le_of_ne (Std.not_lt.mp hlt)
            fun heq => hk heq.symm
          apply List.pairwise_cons.mpr ⟨?_, ih htail⟩
          intro entry hentry
          rcases mem_of_mem_emplace hentry with rfl | hentry
          · exact hgt
          · exact hhead entry hentry

theorem sorted_fromEntries (entries : List (κ × ν)) :
    Sorted (fromEntries entries) := by
  unfold fromEntries
  suffices h : ∀ map : List (κ × ν), Sorted map →
      Sorted (entries.foldl (fun map entry => emplace entry.1 entry.2 map)
        map) from h [] List.Pairwise.nil
  induction entries with
  | nil => exact fun _ h => h
  | cons entry entries ih => exact fun _ h => ih _ h.emplace

/-- Entries with distinct keys are all in the map. -/
theorem fromEntries_perm {entries : List (κ × ν)}
    (h : entries.Pairwise fun a b => a.1 ≠ b.1) :
    (fromEntries entries).Perm entries := by
  unfold fromEntries
  suffices hall : ∀ map : List (κ × ν),
      (∀ entry ∈ entries, ∀ other ∈ map, other.1 ≠ entry.1) →
      (entries.foldl (fun map entry => emplace entry.1 entry.2 map)
        map).Perm (entries ++ map) by
    have := hall [] (by simp)
    rwa [List.append_nil] at this
  induction entries with
  | nil => exact fun map _ => List.Perm.refl _
  | cons entry entries ih =>
      intro map hnew
      obtain ⟨hhead, htail⟩ := List.pairwise_cons.mp h
      have hperm : (emplace entry.1 entry.2 map).Perm
          ((entry.1, entry.2) :: map) :=
        emplace_perm (hnew entry List.mem_cons_self)
      refine (ih htail _ ?_).trans ?_
      · intro later hlater other hother
        rcases List.mem_cons.mp (hperm.mem_iff.mp hother) with rfl | hother
        · exact hhead later hlater
        · exact hnew later (List.mem_cons_of_mem _ hlater) other hother
      · exact (List.Perm.append_left entries hperm).trans
          List.perm_middle

theorem Sorted.distinct {map : List (κ × ν)} (h : Sorted map) :
    map.Pairwise fun a b => a.1 ≠ b.1 := by
  refine h.imp ?_
  intro a b hlt heq
  rw [heq] at hlt
  exact Std.lt_irrefl hlt

/-- A map of entries with distinct keys finds the entries. -/
theorem find_fromEntries {entries : List (κ × ν)}
    (h : entries.Pairwise fun a b => a.1 ≠ b.1) (key : κ) :
    find (fromEntries entries) key = find entries key := by
  have hperm := fromEntries_perm h
  have hdistinct := (sorted_fromEntries entries).distinct
  cases hfind : find entries key with
  | some value =>
      exact find_of_mem hdistinct
        (hperm.mem_iff.mpr (mem_of_find hfind))
  | none =>
      apply find_eq_none
      rintro ⟨k, v⟩ hentry rfl
      rw [find_of_mem h (hperm.mem_iff.mp hentry)] at hfind
      cases hfind

-- === the changes

omit [LT κ] [DecidableLT κ] [DecidableEq κ] [LE κ] [Std.IsLinearOrder κ]
  [Std.LawfulOrderLT κ] in
/-- The record a key calls for, given what the maps have there. -/
def changeAt (removed added : κ → ν → χ) (modified : κ → ν → ν → Option χ)
    (key : κ) : Option ν → Option ν → Option χ
  | none, none => none
  | some v, none => some (removed key v)
  | none, some v => some (added key v)
  | some v, some v' => modified key v v'

variable {removed added : κ → ν → χ} {modified : κ → ν → ν → Option χ}

omit [LT κ] [DecidableLT κ] [DecidableEq κ] [LE κ] [Std.IsLinearOrder κ]
  [Std.LawfulOrderLT κ] in
/-- One key is dealt with, and the others are as before. -/
theorem exists_head {f g : κ → Option χ} {k : κ} {change : χ} {here later : Prop}
    (hrest : ∀ key, k ≠ key → f key = g key) (hnone : g k = none)
    (hhere : here ↔ f k = some change)
    (hlater : later ↔ ∃ key, g key = some change) :
    here ∨ later ↔ ∃ key, f key = some change := by
  rw [hhere, hlater]
  constructor
  · rintro (hkey | ⟨key, hkey⟩)
    · exact ⟨k, hkey⟩
    · have hk : k ≠ key := by
        rintro rfl
        rw [hnone] at hkey
        cases hkey
      exact ⟨key, (hrest key hk).trans hkey⟩
  · rintro ⟨key, hkey⟩
    by_cases hk : k = key
    · rw [hk]
      exact Or.inl hkey
    · rw [hrest key hk] at hkey
      exact Or.inr ⟨key, hkey⟩

theorem Sorted.find_head {k : κ} {v : ν} {map : List (κ × ν)}
    (h : Sorted ((k, v) :: map)) : find map k = none :=
  find_of_lt (List.pairwise_cons.mp h).1

theorem Sorted.find_below {key k : κ} {v : ν} {map : List (κ × ν)}
    (h : Sorted ((k, v) :: map)) (hlt : key < k) :
    find ((k, v) :: map) key = none := by
  apply find_of_lt
  intro entry hentry
  rcases List.mem_cons.mp hentry with rfl | hentry
  · exact hlt
  · exact Std.lt_trans hlt ((List.pairwise_cons.mp h).1 entry hentry)

theorem Sorted.tail {entry : κ × ν} {map : List (κ × ν)}
    (h : Sorted (entry :: map)) : Sorted map :=
  (List.pairwise_cons.mp h).2

/-- A record is made exactly for the keys that call for one. -/
theorem mem_diff {old next : List (κ × ν)} (hold : Sorted old)
    (hnext : Sorted next) {change : χ} :
    change ∈ diff removed added modified old next ↔
      ∃ key, changeAt removed added modified key (find old key)
        (find next key) = some change := by
  fun_induction diff removed added modified old next with
  | case1 => simp [changeAt]
  | case2 k v old ih =>
      rw [List.mem_cons]
      refine exists_head (k := k) ?_ ?_ ?_ (ih hold.tail hnext)
      · intro key hk
        rw [find_cons, if_neg hk]
      · rw [hold.find_head]
        rfl
      · rw [find_cons, if_pos rfl, eq_comm]
        exact Option.some_inj.symm
  | case3 k v next ih =>
      rw [List.mem_cons]
      refine exists_head (k := k) ?_ ?_ ?_ (ih hold hnext.tail)
      · intro key hk
        rw [find_cons, if_neg hk]
      · rw [hnext.find_head]
        rfl
      · rw [find_cons, if_pos rfl, eq_comm]
        exact Option.some_inj.symm
  | case4 k v old k' v' next hlt ih =>
      have hgone := hnext.find_below hlt
      rw [List.mem_cons]
      refine exists_head (k := k) ?_ ?_ ?_ (ih hold.tail hnext)
      · intro key hk
        rw [find_cons k v, if_neg hk]
      · rw [hold.find_head, hgone]
        rfl
      · rw [hgone, find_cons, if_pos rfl, eq_comm]
        exact Option.some_inj.symm
  | case5 k v old k' v' next hnlt hlt ih =>
      have hgone := hold.find_below hlt
      rw [List.mem_cons]
      refine exists_head (k := k') ?_ ?_ ?_ (ih hold hnext.tail)
      · intro key hk
        rw [find_cons k' v', if_neg hk]
      · rw [hnext.find_head, hgone]
        rfl
      · rw [hgone, find_cons, if_pos rfl, eq_comm]
        exact Option.some_inj.symm
  | case6 k v old k' v' next hnlt hnlt' ih =>
      have heq : k = k' :=
        Std.le_antisymm (Std.not_lt.mp hnlt') (Std.not_lt.mp hnlt)
      subst heq
      rw [List.mem_append, Option.mem_toList]
      refine exists_head (k := k) ?_ ?_ ?_ (ih hold.tail hnext.tail)
      · intro key hk
        rw [find_cons, if_neg hk, find_cons, if_neg hk]
      · rw [hold.find_head, hnext.find_head]
        rfl
      · rw [find_cons, if_pos rfl, find_cons, if_pos rfl]
        rfl

/-- A key that calls for a record is in one of the maps. -/
theorem mem_of_changeAt {old next : List (κ × ν)} {key : κ} {change : χ}
    (h : changeAt removed added modified key (find old key) (find next key)
      = some change) :
    (∃ v, (key, v) ∈ old) ∨ ∃ v, (key, v) ∈ next := by
  cases hold : find old key with
  | some v => exact Or.inl ⟨v, mem_of_find hold⟩
  | none =>
      cases hnext : find next key with
      | some v => exact Or.inr ⟨v, mem_of_find hnext⟩
      | none =>
          rw [hold, hnext] at h
          cases h

/-- The records come in key order, one for a key. -/
theorem pairwise_diff (keyOf : χ → κ)
    (hkeyOf : ∀ {key : κ} {before after : Option ν} {change : χ},
      changeAt removed added modified key before after = some change →
        keyOf change = key)
    {old next : List (κ × ν)} (hold : Sorted old) (hnext : Sorted next) :
    (diff removed added modified old next).Pairwise
      fun a b => keyOf a < keyOf b := by
  -- every later record has a key of one of the maps still to come
  have hafter : ∀ {old next : List (κ × ν)}, Sorted old → Sorted next →
      ∀ {first : χ}, (∀ entry ∈ old, keyOf first < entry.1) →
        (∀ entry ∈ next, keyOf first < entry.1) →
        ∀ change ∈ diff removed added modified old next,
          keyOf first < keyOf change := by
    intro old next hold hnext first hbelow hbelow' change hchange
    obtain ⟨key, hkey⟩ := (mem_diff hold hnext).mp hchange
    rw [hkeyOf hkey]
    rcases mem_of_changeAt hkey with ⟨v, hmem⟩ | ⟨v, hmem⟩
    · exact hbelow _ hmem
    · exact hbelow' _ hmem
  have hhead : ∀ {k : κ} {v : ν} {map : List (κ × ν)},
      Sorted ((k, v) :: map) → ∀ entry ∈ map, k < entry.1 :=
    fun h => (List.pairwise_cons.mp h).1
  have hremoved : ∀ k v, keyOf (removed k v) = k := fun k v =>
    @hkeyOf k (some v) none (removed k v) rfl
  have hadded : ∀ k v, keyOf (added k v) = k := fun k v =>
    @hkeyOf k none (some v) (added k v) rfl
  fun_induction diff removed added modified old next with
  | case1 => exact List.Pairwise.nil
  | case2 k v old ih =>
      apply List.pairwise_cons.mpr ⟨?_, ih hold.tail hnext⟩
      apply hafter hold.tail hnext
      · rw [hremoved]
        exact hhead hold
      · simp
  | case3 k v next ih =>
      apply List.pairwise_cons.mpr ⟨?_, ih hold hnext.tail⟩
      apply hafter hold hnext.tail
      · simp
      · rw [hadded]
        exact hhead hnext
  | case4 k v old k' v' next hlt ih =>
      apply List.pairwise_cons.mpr ⟨?_, ih hold.tail hnext⟩
      apply hafter hold.tail hnext
      · rw [hremoved]
        exact hhead hold
      · rw [hremoved]
        intro entry hentry
        rcases List.mem_cons.mp hentry with rfl | hentry
        · exact hlt
        · exact Std.lt_trans hlt (hhead hnext entry hentry)
  | case5 k v old k' v' next hnlt hlt ih =>
      apply List.pairwise_cons.mpr ⟨?_, ih hold hnext.tail⟩
      apply hafter hold hnext.tail
      · rw [hadded]
        intro entry hentry
        rcases List.mem_cons.mp hentry with rfl | hentry
        · exact hlt
        · exact Std.lt_trans hlt (hhead hold entry hentry)
      · rw [hadded]
        exact hhead hnext
  | case6 k v old k' v' next hnlt hnlt' ih =>
      have heq : k = k' :=
        Std.le_antisymm (Std.not_lt.mp hnlt') (Std.not_lt.mp hnlt)
      subst heq
      have hrest := ih hold.tail hnext.tail
      cases hmodified : modified k v v' with
      | none => exact hrest
      | some change =>
          have hkey : keyOf change = k :=
            @hkeyOf k (some v) (some v') change hmodified
          apply List.pairwise_cons.mpr ⟨?_, hrest⟩
          apply hafter hold.tail hnext.tail
          · rw [hkey]
            exact hhead hold
          · rw [hkey]
            exact hhead hnext

end

-- === updating

section
omit [LT κ] [DecidableLT κ]

/-- A key nobody updates stays as it is. -/
theorem foldl_update_other {keyOf : χ → κ} {after : χ → ν} {key : κ} :
    ∀ {changes : List χ}, (∀ change ∈ changes, keyOf change ≠ key) →
      ∀ map : κ → ν, changes.foldl (fun map change =>
        Function.update map (keyOf change) (after change)) map key
          = map key := by
  intro changes
  induction changes with
  | nil => intro _ map; rfl
  | cons change changes ih =>
      intro h map
      have hkey := h change List.mem_cons_self
      rw [List.foldl_cons,
        ih fun c hc => h c (List.mem_cons_of_mem _ hc)]
      exact Function.update_of_ne hkey.symm _ _

/-- At distinct keys every update stands at the end. -/
theorem foldl_update {keyOf : χ → κ} {after : χ → ν} {change : χ} :
    ∀ {changes : List χ},
      changes.Pairwise (fun a b => keyOf a ≠ keyOf b) → change ∈ changes →
      ∀ map : κ → ν, changes.foldl (fun map change =>
        Function.update map (keyOf change) (after change)) map (keyOf change)
          = after change := by
  intro changes
  induction changes with
  | nil => intro _ hmem; cases hmem
  | cons first changes ih =>
      intro h hmem map
      obtain ⟨hhead, htail⟩ := List.pairwise_cons.mp h
      rw [List.foldl_cons]
      rcases List.mem_cons.mp hmem with rfl | hmem
      · rw [foldl_update_other fun c hc => (hhead c hc).symm]
        exact Function.update_self _ _ _
      · exact ih htail hmem _

end

end RbfSafe.Lib.OrderedMap
