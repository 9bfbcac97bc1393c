/-
A left-to-right scan that selects the best element of a list.

The scan keeps an incumbent and asks, of every later element, whether it is
preferred. What `prefers` computes is compared with a strict order in the
places where the scan asks: an element against one that stands before it.
Where the order is total, the scan finds its first element.

Orders are put together from keys: `lex r s` is `r`, and `s` where `r`
leaves two elements tied. A key is a strict weak order, on the elements
that it is used of.
-/
import Mathlib.Data.List.Basic
import Mathlib.Data.Set.Basic

namespace RbfSafe.Lib.Selection

variable {β : Type}

-- === orders

/-- A strict weak order on the elements of a set. -/
structure WeakOrder (S : Set β) (r : β → β → Prop) : Prop where
  asymm : ∀ {a b}, a ∈ S → b ∈ S → r a b → ¬r b a
  cotrans : ∀ {a b c}, a ∈ S → b ∈ S → c ∈ S → r a c → r a b ∨ r b c

/-- `r`, and `s` where `r` leaves two elements tied. -/
def lex (r s : β → β → Prop) (a b : β) : Prop := r a b ∨ ¬r b a ∧ s a b

/-- The keys in their order, and `s` where all leave two elements tied. -/
def lexAll (keys : List (β → β → Prop)) (s : β → β → Prop) : β → β → Prop :=
  keys.foldr lex s

namespace WeakOrder

variable {S : Set β} {r s : β → β → Prop}

theorem trans (h : WeakOrder S r) {a b c : β} (ha : a ∈ S) (hb : b ∈ S)
    (hc : c ∈ S) (hab : r a b) (hbc : r b c) : r a c := by
  rcases h.cotrans ha hc hb hab with hac | hcb
  · exact hac
  · exact absurd hcb (h.asymm hb hc hbc)

theorem swap (h : WeakOrder S r) : WeakOrder S (fun a b => r b a) where
  asymm := fun ha hb hab => h.asymm hb ha hab
  cotrans := fun ha hb hc hac => (h.cotrans hc hb ha hac).symm

theorem lex (hr : WeakOrder S r) (hs : WeakOrder S s) :
    WeakOrder S (lex r s) where
  asymm := by
    intro a b ha hb hab hba
    rcases hab with hab | ⟨hnot, hab⟩
    · rcases hba with hba | ⟨hnot, -⟩
      · exact hr.asymm ha hb hab hba
      · exact hnot hab
    · rcases hba with hba | ⟨-, hba⟩
      · exact hnot hba
      · exact hs.asymm ha hb hab hba
  cotrans := by
    intro a b c ha hb hc hac
    rcases hac with hac | ⟨hnot, hac⟩
    · exact (hr.cotrans ha hb hc hac).imp Or.inl Or.inl
    · rcases hs.cotrans ha hb hc hac with hab | hbc
      · by_cases hba : r b a
        · rcases hr.cotrans hb hc ha hba with hbc | hca
          · exact .inr (.inl hbc)
          · exact absurd hca hnot
        · exact .inl (.inr ⟨hba, hab⟩)
      · by_cases hcb : r c b
        · rcases hr.cotrans hc ha hb hcb with hca | hab
          · exact absurd hca hnot
          · exact .inl (.inl hab)
        · exact .inr (.inr ⟨hcb, hbc⟩)

theorem lexAll {keys : List (β → β → Prop)} (hkeys : ∀ key ∈ keys, WeakOrder S key)
    (hs : WeakOrder S s) : WeakOrder S (lexAll keys s) := by
  induction keys with
  | nil => exact hs
  | cons key rest ih =>
      exact (hkeys key List.mem_cons_self).lex
        (ih fun k hk => hkeys k (List.mem_cons_of_mem _ hk))

end WeakOrder

/-- Where the last order decides, all of them do. -/
theorem lex_total {r s : β → β → Prop} {a b : β} (h : s a b ∨ s b a) :
    lex r s a b ∨ lex r s b a := by
  by_cases hab : r a b
  · exact .inl (.inl hab)
  · by_cases hba : r b a
    · exact .inr (.inl hba)
    · exact h.imp (fun h => .inr ⟨hba, h⟩) fun h => .inr ⟨hab, h⟩

theorem lexAll_total {keys : List (β → β → Prop)} {s : β → β → Prop} {a b : β}
    (h : s a b ∨ s b a) : lexAll keys s a b ∨ lexAll keys s b a := by
  induction keys with
  | nil => exact h
  | cons key rest ih => exact lex_total ih

-- === scan

/-- The scan, with its incumbent. -/
def scan (eligible : β → Bool) (prefers : β → β → Bool) :
    List β → Option β → Option β
  | [], incumbent => incumbent
  | x :: rest, incumbent =>
      if eligible x = false then scan eligible prefers rest incumbent
      else
        match incumbent with
        | none => scan eligible prefers rest (some x)
        | some y =>
            if prefers x y then scan eligible prefers rest (some x)
            else scan eligible prefers rest incumbent

variable {eligible : β → Bool} {prefers : β → β → Bool} {R : β → β → Prop}
  {S : Set β}

/-- `later`, compared with what stands before it. -/
structure Compares (eligible : β → Bool) (prefers : β → β → Bool)
    (R : β → β → Prop) (earlier later : β) : Prop where
  prefers_iff : eligible earlier = true → eligible later = true →
    (prefers later earlier = true ↔ R later earlier)
  total : R earlier later ∨ R later earlier

/-- The scan ends with the best of the incumbent and the elements. -/
theorem scan_some (hR : WeakOrder S R) {l : List β} {y : β} (hy : y ∈ S)
    (hely : eligible y = true)
    (hl : ∀ x ∈ l, eligible x = true → x ∈ S)
    (hcompares : (y :: l).Pairwise (Compares eligible prefers R)) :
    ∃ b, scan eligible prefers l (some y) = some b ∧ b ∈ S
      ∧ (b = y ∨ b ∈ l ∧ eligible b = true) ∧ (b = y ∨ R b y)
      ∧ ∀ x ∈ l, eligible x = true → x = b ∨ R b x := by
  induction l generalizing y with
  | nil => exact ⟨y, rfl, hy, .inl rfl, .inl rfl, fun x hx => by cases hx⟩
  | cons x rest ih =>
      obtain ⟨hfirst, hrest⟩ := List.pairwise_cons.mp hcompares
      obtain ⟨hx, htail⟩ := List.pairwise_cons.mp hrest
      have hl' : ∀ z ∈ rest, eligible z = true → z ∈ S :=
        fun z hz => hl z (List.mem_cons_of_mem _ hz)
      have hskip : (y :: rest).Pairwise (Compares eligible prefers R) :=
        List.pairwise_cons.mpr ⟨fun z hz => hfirst z (List.mem_cons_of_mem _ hz), htail⟩
      rw [scan]
      by_cases heligible : eligible x = true
      · have hmem := hl x List.mem_cons_self heligible
        have hxy := hfirst x List.mem_cons_self
        rw [if_neg (by rw [heligible]; decide)]
        by_cases hprefers : prefers x y = true
        · rw [if_pos hprefers]
          have hbetter := (hxy.prefers_iff hely heligible).mp hprefers
          obtain ⟨b, hb, hbS, hfrom, hbx, hall⟩ := ih hmem heligible hl' hrest
          refine ⟨b, hb, hbS, ?_, ?_, ?_⟩
          · rcases hfrom with rfl | ⟨hin, hel⟩
            · exact .inr ⟨List.mem_cons_self, heligible⟩
            · exact .inr ⟨List.mem_cons_of_mem _ hin, hel⟩
          · rcases hbx with rfl | hbx
            · exact .inr hbetter
            · exact .inr (hR.trans hbS hmem hy hbx hbetter)
          · intro z hz helz
            rcases List.mem_cons.mp hz with rfl | hz
            · exact hbx.imp Eq.symm id
            · exact hall z hz helz
        · rw [if_neg hprefers]
          have hnot : ¬R x y := fun h => hprefers ((hxy.prefers_iff hely heligible).mpr h)
          have hyx : R y x := hxy.total.resolve_right hnot
          obtain ⟨b, hb, hbS, hfrom, hby, hall⟩ := ih hy hely hl' hskip
          refine ⟨b, hb, hbS, hfrom.imp_right fun h =>
            ⟨List.mem_cons_of_mem _ h.1, h.2⟩, hby, ?_⟩
          intro z hz helz
          rcases List.mem_cons.mp hz with rfl | hz
          · rcases hby with rfl | hby
            · exact .inr hyx
            · exact .inr (hR.trans hbS hy hmem hby hyx)
          · exact hall z hz helz
      · rw [if_pos (by simpa using heligible)]
        obtain ⟨b, hb, hbS, hfrom, hby, hall⟩ := ih hy hely hl' hskip
        refine ⟨b, hb, hbS, hfrom.imp_right fun h =>
          ⟨List.mem_cons_of_mem _ h.1, h.2⟩, hby, ?_⟩
        intro z hz helz
        rcases List.mem_cons.mp hz with rfl | hz
        · exact absurd helz heligible
        · exact hall z hz helz

/-- **The scan selects the first element of the order**, if one is
eligible. -/
theorem scan_none (hR : WeakOrder S R) {l : List β}
    (hl : ∀ x ∈ l, eligible x = true → x ∈ S)
    (hcompares : l.Pairwise (Compares eligible prefers R)) :
    (scan eligible prefers l none = none ∧ ∀ x ∈ l, eligible x = false)
    ∨ ∃ b ∈ l, eligible b = true ∧ scan eligible prefers l none = some b
      ∧ ∀ x ∈ l, eligible x = true → x = b ∨ R b x := by
  induction l with
  | nil => exact .inl ⟨rfl, fun x hx => by cases hx⟩
  | cons x rest ih =>
      have hl' : ∀ z ∈ rest, eligible z = true → z ∈ S :=
        fun z hz => hl z (List.mem_cons_of_mem _ hz)
      rw [scan]
      by_cases heligible : eligible x = true
      · rw [if_neg (by rw [heligible]; decide)]
        obtain ⟨b, hb, -, hfrom, hbx, hall⟩ :=
          scan_some hR (hl x List.mem_cons_self heligible) heligible hl' hcompares
        refine .inr ⟨b, ?_, ?_, hb, ?_⟩
        · rcases hfrom with rfl | ⟨hin, -⟩
          · exact List.mem_cons_self
          · exact List.mem_cons_of_mem _ hin
        · rcases hfrom with rfl | ⟨-, hel⟩
          · exact heligible
          · exact hel
        · intro z hz helz
          rcases List.mem_cons.mp hz with rfl | hz
          · exact hbx.imp Eq.symm id
          · exact hall z hz helz
      · rw [if_pos (by simpa using heligible)]
        rcases ih hl' (List.pairwise_cons.mp hcompares).2 with
          ⟨hnone, hall⟩ | ⟨b, hb, hel, hscan, hall⟩
        · refine .inl ⟨hnone, fun z hz => ?_⟩
          rcases List.mem_cons.mp hz with rfl | hz
          · simpa using heligible
          · exact hall z hz
        · refine .inr ⟨b, List.mem_cons_of_mem _ hb, hel, hscan, fun z hz helz => ?_⟩
          rcases List.mem_cons.mp hz with rfl | hz
          · exact absurd helz heligible
          · exact hall z hz helz

end RbfSafe.Lib.Selection
