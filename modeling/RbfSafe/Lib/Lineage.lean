/-
Chains whose items name their predecessors.

An item says its place in the chain and whom it follows. Where the id of
an item tells both, an id stands at one place of a chain (`index_unique`),
and two chains that hold one id name the same items up to there
(`ancestors_eq`).
-/
import Mathlib.Data.List.Basic

namespace RbfSafe.Lib.Lineage

variable {α ι : Type} {name parent : α → ι} {place : α → Nat}
  {l l' : List α}

/-- The items of a chain are at their places, each after the one it
names. -/
structure Lineage (name parent : α → ι) (place : α → Nat) (l : List α) :
    Prop where
  placed : ∀ {i : Nat} {a : α}, l[i]? = some a → place a = i
  follows : ∀ {i : Nat} {a b : α}, l[i]? = some a → l[i + 1]? = some b →
    parent b = name a

/-- What a name tells of the items of two chains. -/
def Told (name parent : α → ι) (place : α → Nat) (l l' : List α) : Prop :=
  ∀ a ∈ l, ∀ b ∈ l', name a = name b → place a = place b ∧ parent a = parent b

/-- An id stands at the same place in both chains. -/
theorem index_eq (h : Lineage name parent place l)
    (h' : Lineage name parent place l') (htold : Told name parent place l l')
    {i j : Nat} {a b : α} (ha : l[i]? = some a) (hb : l'[j]? = some b)
    (hname : name a = name b) : i = j := by
  have hplace := (htold a (List.mem_of_getElem? ha) b (List.mem_of_getElem? hb)
    hname).1
  rw [← h.placed ha, ← h'.placed hb, hplace]

/-- **Chains that hold one id name the same items up to there.** -/
theorem ancestors_eq (h : Lineage name parent place l)
    (h' : Lineage name parent place l') (htold : Told name parent place l l')
    {i : Nat} : ∀ {a b : α}, l[i]? = some a → l'[i]? = some b →
      name a = name b → ∀ k ≤ i, l[k]?.map name = l'[k]?.map name := by
  induction i with
  | zero =>
      intro a b ha hb hname k hk
      rw [Nat.le_zero.mp hk, ha, hb]
      exact congrArg some hname
  | succ i ih =>
      intro a b ha hb hname k hk
      by_cases hlast : k = i + 1
      · rw [hlast, ha, hb]
        exact congrArg some hname
      · have hlt : i < l.length := by
          have := (List.getElem?_eq_some_iff.mp ha).1
          omega
        have hlt' : i < l'.length := by
          have := (List.getElem?_eq_some_iff.mp hb).1
          omega
        have hget := List.getElem?_eq_getElem hlt
        have hget' := List.getElem?_eq_getElem hlt'
        have hparent := (htold a (List.mem_of_getElem? ha) b
          (List.mem_of_getElem? hb) hname).2
        rw [h.follows hget ha, h'.follows hget' hb] at hparent
        exact ih hget hget' hparent k (by omega)

/-- An id stands at one place of a chain. -/
theorem index_unique (h : Lineage name parent place l)
    (htold : Told name parent place l l) {i j : Nat} {a b : α}
    (ha : l[i]? = some a) (hb : l[j]? = some b) (hname : name a = name b) :
    i = j :=
  index_eq h h htold ha hb hname

/-- Lists with the same names find a name at the same place. -/
theorem findIdx?_of_names {β : Type} [DecidableEq ι] {name' : β → ι} {m : List β}
    (hnames : l.map name = m.map name') (x : ι) :
    l.findIdx? (fun a => decide (name a = x))
      = m.findIdx? fun b => decide (name' b = x) := by
  have hl := List.findIdx?_map (f := name) (p := fun y => decide (y = x)) (l := l)
  have hm := List.findIdx?_map (f := name') (p := fun y => decide (y = x)) (l := m)
  rw [hnames, hm] at hl
  exact hl.symm

/-- The item of a name stands at a place of a list. -/
def At (name : α → ι) (l : List α) (place : Nat) (x : ι) : Prop :=
  ∃ a, l[place]? = some a ∧ name a = x

/-- The place where an id is found first is where it stands. -/
theorem findIdx?_iff [DecidableEq ι] (h : Lineage name parent place l)
    (htold : Told name parent place l l) {x : ι} {i : Nat} :
    l.findIdx? (fun a => decide (name a = x)) = some i ↔ At name l i x := by
  constructor
  · intro hfind
    obtain ⟨hlt, hname, -⟩ := List.findIdx?_eq_some_iff_getElem.mp hfind
    exact ⟨l[i], List.getElem?_eq_getElem hlt, of_decide_eq_true hname⟩
  · rintro ⟨a, ha, hname⟩
    obtain ⟨hlt, hget⟩ := List.getElem?_eq_some_iff.mp ha
    rw [List.findIdx?_eq_some_iff_getElem]
    refine ⟨hlt, ?_, ?_⟩
    · rw [hget]
      exact decide_eq_true hname
    · intro j hj hfound
      have hother : name l[j] = x := of_decide_eq_true hfound
      have hsame := index_unique h htold
        (List.getElem?_eq_getElem (Nat.lt_trans hj hlt)) ha (hother.trans hname.symm)
      omega

/-- **Two chains that hold one id hold its ancestors at the same places.** -/
theorem ancestor_at (h : Lineage name parent place l)
    (h' : Lineage name parent place l') (htold : Told name parent place l l')
    {x y : ι} {i j k : Nat} (hi : At name l i x) (hj : At name l' j x)
    (hk : At name l k y) (hle : k ≤ i) : j = i ∧ At name l' k y := by
  obtain ⟨a, ha, hx⟩ := hi
  obtain ⟨b, hb, hx'⟩ := hj
  obtain ⟨c, hc, hy⟩ := hk
  have hsame := index_eq h h' htold ha hb (hx.trans hx'.symm)
  subst hsame
  refine ⟨rfl, ?_⟩
  have hancestor := ancestors_eq h h' htold ha hb (hx.trans hx'.symm) k hle
  rw [hc] at hancestor
  obtain ⟨d, hd, hname⟩ := Option.map_eq_some_iff.mp hancestor.symm
  exact ⟨d, hd, hname.trans hy⟩

end RbfSafe.Lib.Lineage
