/-
Inclusion paths in the level-by-level tree of `Forest`.

# The two walks

- `siblings`: the prover walks the materialised levels and emits the
  neighbour of the entry it is at, where the entry has one.
- `climb`: the verifier knows only the width of the level and the index
  in it, and consumes one sibling wherever that index has a neighbour.

Both halve the index and round the width up, so they skip the same
levels: `climb_siblings` runs the verifier on the prover's path, and
`climb_inj` is the converse, for a verifier that is handed any start
node and any path. The converse is an induction from the root down: the
level above fixes the joined node, and injectivity on the pairs the
verifier joined (`climbPairs`) opens it.
-/
import RbfSafe.Lib.Forest

namespace RbfSafe.Lib.Forest

variable {α : Type} (node : α → α → α)

/-- The neighbour that entry `i` of a level is joined with. -/
def sibling? (l : List α) (i : Nat) : Option α :=
  if i % 2 = 1 then l[i - 1]? else l[i + 1]?

/-- The path of entry `i`: its neighbour on every level that has one,
lowest level first. -/
def siblings : List α → Nat → List α
  | [], _ => []
  | [_], _ => []
  | a :: b :: rest, i =>
      (sibling? (a :: b :: rest) i).toList
        ++ siblings (pairUp node (a :: b :: rest)) (i / 2)
termination_by l => l.length
decreasing_by
  rw [length_pairUp]
  simp only [List.length_cons]
  omega

/-- Climb from entry `i` of a level of `width` entries to the root,
consuming the path; `none` when the path is too short. Returns what is
left of the path. -/
def climb (width i : Nat) (h : α) (path : List α) : Option (α × List α) :=
  if width ≤ 1 then some (h, path)
  else if i % 2 = 1 then
    match path with
    | [] => none
    | s :: path => climb ((width + 1) / 2) (i / 2) (node s h) path
  else if i + 1 < width then
    match path with
    | [] => none
    | s :: path => climb ((width + 1) / 2) (i / 2) (node h s) path
  else climb ((width + 1) / 2) (i / 2) h path
termination_by width
decreasing_by all_goals omega

/-- Every pair `climb` joins. -/
def climbPairs (width i : Nat) (h : α) (path : List α) : List (α × α) :=
  if width ≤ 1 then []
  else if i % 2 = 1 then
    match path with
    | [] => []
    | s :: path =>
        (s, h) :: climbPairs ((width + 1) / 2) (i / 2) (node s h) path
  else if i + 1 < width then
    match path with
    | [] => []
    | s :: path =>
        (h, s) :: climbPairs ((width + 1) / 2) (i / 2) (node h s) path
  else climbPairs ((width + 1) / 2) (i / 2) h path
termination_by width
decreasing_by all_goals omega

-- === one entry and its parent

/-- Two neighbours have their join above them. -/
theorem pairUp_getElem?_pair : ∀ {l : List α} {k : Nat} {a b : α},
    l[2 * k]? = some a → l[2 * k + 1]? = some b →
    (pairUp node l)[k]? = some (node a b) ∧ (a, b) ∈ levelPairs l
  | [], k, a, b, ha, _ => by simp at ha
  | [x], 0, a, b, _, hb => by simp at hb
  | [x], k + 1, a, b, ha, _ => by
      rw [show 2 * (k + 1) = 2 * k + 1 + 1 from by omega] at ha
      simp at ha
  | x :: y :: rest, 0, a, b, ha, hb => by
      obtain rfl : x = a := by simpa using ha
      obtain rfl : y = b := by simpa using hb
      exact ⟨rfl, List.mem_cons_self⟩
  | x :: y :: rest, k + 1, a, b, ha, hb => by
      rw [show 2 * (k + 1) = 2 * k + 1 + 1 from by omega] at ha hb
      simp only [List.getElem?_cons_succ] at ha hb
      obtain ⟨hup, hmem⟩ := pairUp_getElem?_pair ha hb
      exact ⟨by simpa [pairUp] using hup, List.mem_cons_of_mem _ hmem⟩

/-- An odd last entry is its own parent. -/
theorem pairUp_getElem?_last : ∀ {l : List α} {k : Nat} {a : α},
    l[2 * k]? = some a → l[2 * k + 1]? = none →
    (pairUp node l)[k]? = some a
  | [], k, a, ha, _ => by simp at ha
  | [x], 0, a, ha, _ => by simpa [pairUp] using ha
  | [x], k + 1, a, ha, _ => by
      rw [show 2 * (k + 1) = 2 * k + 1 + 1 from by omega] at ha
      simp at ha
  | x :: y :: rest, 0, a, _, hb => by simp at hb
  | x :: y :: rest, k + 1, a, ha, hb => by
      rw [show 2 * (k + 1) = 2 * k + 1 + 1 from by omega] at ha hb
      simp only [List.getElem?_cons_succ] at ha hb
      simpa [pairUp] using pairUp_getElem?_last ha hb

/-- The ways an entry `i` of a level meets its neighbour: on its left,
on its right, or not at all. -/
theorem entry_cases {l : List α} {i : Nat} {x : α} (hx : l[i]? = some x) :
    (i % 2 = 1 ∧ ∃ s, sibling? l i = some s ∧ (s, x) ∈ levelPairs l ∧
        (pairUp node l)[i / 2]? = some (node s x)) ∨
    (i % 2 = 0 ∧ i + 1 < l.length ∧
        ∃ s, sibling? l i = some s ∧ (x, s) ∈ levelPairs l ∧
          (pairUp node l)[i / 2]? = some (node x s)) ∨
    (i % 2 = 0 ∧ ¬i + 1 < l.length ∧ sibling? l i = none ∧
        (pairUp node l)[i / 2]? = some x) := by
  obtain ⟨hi, -⟩ := List.getElem?_eq_some_iff.mp hx
  rcases Nat.mod_two_eq_zero_or_one i with heven | hodd
  · have hi2 : i = 2 * (i / 2) := by omega
    by_cases hlt : i + 1 < l.length
    · refine Or.inr (Or.inl ⟨heven, hlt, l[i + 1], ?_, ?_⟩)
      · simp [sibling?, heven, List.getElem?_eq_getElem hlt]
      · have hs : l[2 * (i / 2) + 1]? = some l[i + 1] := by
          rw [← hi2, List.getElem?_eq_getElem hlt]
        obtain ⟨hup, hmem⟩ := pairUp_getElem?_pair node (hi2 ▸ hx) hs
        exact ⟨hmem, hup⟩
    · have hnone : l[i + 1]? = none := List.getElem?_eq_none (by omega)
      refine Or.inr (Or.inr ⟨heven, hlt, ?_, ?_⟩)
      · simp [sibling?, heven, hnone]
      · exact pairUp_getElem?_last node (hi2 ▸ hx) (hi2 ▸ hnone)
  · have hi2 : i = 2 * (i / 2) + 1 := by omega
    have hlt : i - 1 < l.length := by omega
    have hs : l[2 * (i / 2)]? = some l[i - 1] := by
      rw [show 2 * (i / 2) = i - 1 from by omega,
        List.getElem?_eq_getElem hlt]
    obtain ⟨hup, hmem⟩ := pairUp_getElem?_pair node hs (hi2 ▸ hx)
    refine Or.inl ⟨hodd, l[i - 1], ?_, hmem, hup⟩
    simp [sibling?, hodd, List.getElem?_eq_getElem hlt]

/-- Going up one level drops the lowest sibling. -/
theorem siblings_cons (a b : α) (rest : List α) (i : Nat) :
    siblings node (a :: b :: rest) i
      = (sibling? (a :: b :: rest) i).toList
        ++ siblings node (pairUp node (a :: b :: rest)) (i / 2) := by
  rw [siblings]

theorem length_pairUp_lt (a b : α) (rest : List α) :
    (pairUp node (a :: b :: rest)).length < (a :: b :: rest).length := by
  rw [length_pairUp]
  simp only [List.length_cons]
  omega

-- === the prover's path

/-- The prover's path leads the verifier from an entry to the root. -/
theorem climb_siblings : ∀ {l : List α} {i : Nat} {x : α},
    l[i]? = some x →
    ∃ r, treeRoot node l = some r ∧
      climb node l.length i x (siblings node l i) = some (r, []) := by
  intro l
  induction hn : l.length using Nat.strong_induction_on generalizing l with
  | _ n ih =>
      intro i x hx
      match l with
      | [] => simp at hx
      | [a] =>
          obtain ⟨hi, ha⟩ := List.getElem?_eq_some_iff.mp hx
          have hxa : x = a := by simpa using ha.symm
          refine ⟨a, treeRoot_singleton node a, ?_⟩
          subst hn
          rw [climb.eq_def, siblings, hxa]
          rfl
      | a :: b :: rest =>
          have hlt := length_pairUp_lt node a b rest
          have hlen := length_pairUp node (a :: b :: rest)
          rw [← treeRoot_pairUp, siblings_cons]
          have hwidth : ¬n ≤ 1 := by
            rw [← hn]
            simp
          rcases entry_cases node hx with
            ⟨hodd, s, hs, -, hup⟩ | ⟨heven, hsucc, s, hs, -, hup⟩ |
            ⟨heven, hsucc, hs, hup⟩
          · obtain ⟨r, hr, hclimb⟩ := ih _ (hn ▸ hlt) rfl hup
            refine ⟨r, hr, ?_⟩
            rw [climb.eq_def, if_neg hwidth, if_pos hodd, hs, ← hn, ← hlen]
            exact hclimb
          · obtain ⟨r, hr, hclimb⟩ := ih _ (hn ▸ hlt) rfl hup
            refine ⟨r, hr, ?_⟩
            rw [climb.eq_def, if_neg hwidth, if_neg (by omega), ← hn,
              if_pos hsucc, hs, ← hlen]
            exact hclimb
          · obtain ⟨r, hr, hclimb⟩ := ih _ (hn ▸ hlt) rfl hup
            refine ⟨r, hr, ?_⟩
            rw [climb.eq_def, if_neg hwidth, if_neg (by omega), ← hn,
              if_neg hsucc, hs, ← hlen]
            exact hclimb

/-- An entry of a level of two or more has a sibling somewhere above. -/
theorem siblings_ne_nil : ∀ {l : List α} {i : Nat}, i < l.length →
    2 ≤ l.length → siblings node l i ≠ [] := by
  intro l
  induction hn : l.length using Nat.strong_induction_on generalizing l with
  | _ n ih =>
      intro i hi htwo
      match l with
      | [] =>
          subst hn
          simp at hi
      | [a] =>
          subst hn
          simp at htwo
      | a :: b :: rest =>
          have hlt := length_pairUp_lt node a b rest
          have hlen := length_pairUp node (a :: b :: rest)
          obtain ⟨x, hx⟩ : ∃ x, (a :: b :: rest)[i]? = some x :=
            ⟨_, List.getElem?_eq_getElem (hn ▸ hi)⟩
          rw [siblings_cons]
          rcases entry_cases node hx with
            ⟨-, s, hs, -⟩ | ⟨-, -, s, hs, -⟩ | ⟨heven, hsucc, hs, -⟩
          · simp [hs]
          · simp [hs]
          · rw [hs]
            refine ih _ (hn ▸ hlt) rfl ?_ ?_
            · omega
            · omega

theorem length_siblings_le (N : Nat) : ∀ {l : List α} (i : Nat),
    l.length ≤ 2 ^ N → (siblings node l i).length ≤ N := by
  induction N with
  | zero =>
      intro l i hl
      match l with
      | [] => simp [siblings]
      | [_] => simp [siblings]
      | _ :: _ :: _ => simp at hl
  | succ N ih =>
      intro l i hl
      match l with
      | [] => simp [siblings]
      | [_] => simp [siblings]
      | a :: b :: rest =>
          have hup : (pairUp node (a :: b :: rest)).length ≤ 2 ^ N := by
            rw [length_pairUp]
            omega
          have hone : (sibling? (a :: b :: rest) i).toList.length ≤ 1 :=
            Option.length_toList_le
          rw [siblings_cons, List.length_append]
          have := ih (i / 2) hup
          omega

/-- What holds of a level and of its joins holds of the level above. -/
theorem forall_mem_pairUp {Q : α → Prop} : ∀ {l : List α}, (∀ x ∈ l, Q x) →
    (∀ p ∈ levelPairs l, Q (node p.1 p.2)) → ∀ x ∈ pairUp node l, Q x
  | [], h, _ => h
  | [_], h, _ => h
  | a :: b :: rest, h, hpairs => by
      intro x hx
      rcases List.mem_cons.mp hx with rfl | hx
      · exact hpairs (a, b) List.mem_cons_self
      · exact forall_mem_pairUp
          (fun y hy => h y (List.mem_cons_of_mem _ (List.mem_cons_of_mem _ hy)))
          (fun p hp => hpairs p (List.mem_cons_of_mem _ hp)) x hx

/-- What holds of the leaves and of every join holds along a path. -/
theorem mem_siblings {P : α → Prop} (hnode : ∀ a b, P (node a b)) :
    ∀ {l : List α} (i : Nat), (∀ x ∈ l, P x) →
      ∀ x ∈ siblings node l i, P x := by
  intro l
  induction hn : l.length using Nat.strong_induction_on generalizing l with
  | _ n ih =>
      intro i hl x hx
      match l with
      | [] => simp [siblings] at hx
      | [_] => simp [siblings] at hx
      | a :: b :: rest =>
          rw [siblings_cons] at hx
          rcases List.mem_append.mp hx with hx | hx
          · have hs : sibling? (a :: b :: rest) i = some x := by
              simpa using hx
            rw [sibling?] at hs
            split at hs
            · exact hl x (List.mem_of_getElem? hs)
            · exact hl x (List.mem_of_getElem? hs)
          · exact ih _ (hn ▸ length_pairUp_lt node a b rest) rfl (i / 2)
              (forall_mem_pairUp node hl fun p _ => hnode p.1 p.2) x hx

/-- The climb along the prover's path joins only pairs of the tree. -/
theorem climbPairs_siblings_subset : ∀ {l : List α} {i : Nat} {x : α},
    l[i]? = some x →
    climbPairs node l.length i x (siblings node l i) ⊆ treePairs node l := by
  intro l
  induction hn : l.length using Nat.strong_induction_on generalizing l with
  | _ n ih =>
      intro i x hx
      match l with
      | [] => simp at hx
      | [a] =>
          subst hn
          rw [climbPairs.eq_def, if_pos (by simp)]
          exact List.nil_subset _
      | a :: b :: rest =>
          have hlt := length_pairUp_lt node a b rest
          have hlen := length_pairUp node (a :: b :: rest)
          have hup_pairs := treePairs_pairUp_subset node (a :: b :: rest)
          have hlevel := levelPairs_subset_treePairs node (a :: b :: rest)
          have hwidth : ¬n ≤ 1 := by
            rw [← hn]
            simp
          rw [siblings_cons, climbPairs.eq_def, if_neg hwidth]
          rcases entry_cases node hx with
            ⟨hodd, s, hs, hmem, hup⟩ | ⟨heven, hsucc, s, hs, hmem, hup⟩ |
            ⟨heven, hsucc, hs, hup⟩
          · have hrest := ih _ (hn ▸ hlt) rfl hup
            rw [if_pos hodd, hs, ← hn, ← hlen]
            exact List.cons_subset.mpr
              ⟨hlevel hmem, List.Subset.trans hrest hup_pairs⟩
          · have hrest := ih _ (hn ▸ hlt) rfl hup
            rw [if_neg (by omega), ← hn, if_pos hsucc, hs, ← hlen]
            exact List.cons_subset.mpr
              ⟨hlevel hmem, List.Subset.trans hrest hup_pairs⟩
          · have hrest := ih _ (hn ▸ hlt) rfl hup
            rw [if_neg (by omega), ← hn, if_neg hsucc, hs, ← hlen]
            exact List.Subset.trans hrest hup_pairs

/-- What holds of the entries of a level of two or more and of every join
above it holds of both children of the root. -/
theorem treeRoot_children {Q : α → Prop} : ∀ {l : List α}, 2 ≤ l.length →
    (∀ x ∈ l, Q x) → (∀ p ∈ treePairs node l, Q (node p.1 p.2)) →
    ∃ p ∈ treePairs node l, treeRoot node l = some (node p.1 p.2) ∧
      Q p.1 ∧ Q p.2 := by
  intro l
  induction hn : l.length using Nat.strong_induction_on generalizing l with
  | _ n ih =>
      intro htwo hl hpairs
      match l with
      | [] =>
          subst hn
          simp at htwo
      | [_] =>
          subst hn
          simp at htwo
      | [a, b] =>
          refine ⟨(a, b), ?_, ?_, hl a (by simp), hl b (by simp)⟩
          · exact levelPairs_subset_treePairs node _ List.mem_cons_self
          · rw [← treeRoot_pairUp]
            exact treeRoot_singleton node _
      | a :: b :: c :: rest =>
          have hlt := length_pairUp_lt node a b (c :: rest)
          have hup_pairs := treePairs_pairUp_subset node (a :: b :: c :: rest)
          have hlevel := levelPairs_subset_treePairs node (a :: b :: c :: rest)
          have hup : ∀ x ∈ pairUp node (a :: b :: c :: rest), Q x :=
            forall_mem_pairUp node hl fun p hp => hpairs p (hlevel hp)
          obtain ⟨p, hp, hroot, hchildren⟩ := ih _ (hn ▸ hlt) rfl
            (by
              rw [length_pairUp]
              simp only [List.length_cons]
              omega)
            hup fun p hp => hpairs p (hup_pairs hp)
          exact ⟨p, hup_pairs hp, by rw [← treeRoot_pairUp, hroot], hchildren⟩

/-- Above a level of even length every entry is a join. -/
theorem mem_pairUp_of_even : ∀ {l : List α}, l.length % 2 = 0 →
    ∀ x ∈ pairUp node l, ∃ p ∈ levelPairs l, x = node p.1 p.2
  | [], _ => by simp [pairUp]
  | [_], h => by simp at h
  | a :: b :: rest, h => by
      have hrest : rest.length % 2 = 0 := by
        simp only [List.length_cons] at h
        omega
      intro x hx
      rcases List.mem_cons.mp hx with rfl | hx
      · exact ⟨(a, b), List.mem_cons_self, rfl⟩
      · obtain ⟨p, hp, hxp⟩ := mem_pairUp_of_even hrest x hx
        exact ⟨p, List.mem_cons_of_mem _ hp, hxp⟩

-- === any path

/-- **A path that climbs to the root is the prover's path**, started at
the entry itself. -/
theorem climb_inj {S : Set (α × α)} (hS : NodeInj node S) :
    ∀ {l : List α} {i : Nat} {x h : α} {path : List α} {r : α},
      l[i]? = some x → treeRoot node l = some r →
      (∀ p ∈ treePairs node l, p ∈ S) →
      (∀ p ∈ climbPairs node l.length i h path, p ∈ S) →
      climb node l.length i h path = some (r, []) →
      h = x ∧ path = siblings node l i := by
  intro l
  induction hn : l.length using Nat.strong_induction_on generalizing l with
  | _ n ih =>
      intro i x h path r hx hr hpl hpc hclimb
      match l with
      | [] => simp at hx
      | [a] =>
          obtain ⟨hi, ha⟩ := List.getElem?_eq_some_iff.mp hx
          have hxa : x = a := by simpa using ha.symm
          have hra : r = a := by
            rw [treeRoot_singleton] at hr
            exact (Option.some.inj hr).symm
          subst hn
          rw [climb.eq_def, if_pos (by simp)] at hclimb
          simp only [Option.some.injEq, Prod.mk.injEq] at hclimb
          rw [siblings]
          exact ⟨by rw [hclimb.1, hra, hxa], hclimb.2⟩
      | a :: b :: rest =>
          have hlt := length_pairUp_lt node a b rest
          have hlen := length_pairUp node (a :: b :: rest)
          rw [← treeRoot_pairUp] at hr
          have hup_pairs : ∀ p ∈ treePairs node (pairUp node (a :: b :: rest)),
              p ∈ S := fun p hp =>
            hpl p (treePairs_pairUp_subset node _ hp)
          have hwidth : ¬n ≤ 1 := by
            rw [← hn]
            simp
          rw [siblings_cons]
          rw [climb.eq_def, if_neg hwidth] at hclimb
          rw [climbPairs.eq_def, if_neg hwidth] at hpc
          rcases entry_cases node hx with
            ⟨hodd, s, hs, hmem, hup⟩ | ⟨heven, hsucc, s, hs, hmem, hup⟩ |
            ⟨heven, hsucc, hs, hup⟩
          · -- the entry is a right child
            rw [if_pos hodd] at hclimb hpc
            cases path with
            | nil => simp at hclimb
            | cons t path =>
                rw [← hn, ← hlen] at hclimb hpc
                obtain ⟨hjoin, hpath⟩ := ih _ (hn ▸ hlt) rfl hup hr hup_pairs
                  (fun p hp => hpc p (List.mem_cons_of_mem _ hp)) hclimb
                obtain ⟨hts, hhx⟩ := hS.eq node (hpc _ List.mem_cons_self)
                  (hpl _ (levelPairs_subset_treePairs node _ hmem)) hjoin
                exact ⟨hhx, by rw [hs, hts, hpath]; rfl⟩
          · -- the entry is a left child
            rw [if_neg (by omega), ← hn, if_pos hsucc] at hclimb hpc
            cases path with
            | nil => simp at hclimb
            | cons t path =>
                rw [← hlen] at hclimb hpc
                obtain ⟨hjoin, hpath⟩ := ih _ (hn ▸ hlt) rfl hup hr hup_pairs
                  (fun p hp => hpc p (List.mem_cons_of_mem _ hp)) hclimb
                obtain ⟨hhx, hts⟩ := hS.eq node (hpc _ List.mem_cons_self)
                  (hpl _ (levelPairs_subset_treePairs node _ hmem)) hjoin
                exact ⟨hhx, by rw [hs, hts, hpath]; rfl⟩
          · -- the entry is promoted
            rw [if_neg (by omega), ← hn, if_neg hsucc, ← hlen]
              at hclimb hpc
            obtain ⟨hhx, hpath⟩ := ih _ (hn ▸ hlt) rfl hup hr hup_pairs hpc
              hclimb
            exact ⟨hhx, by rw [hs, hpath]; rfl⟩

end RbfSafe.Lib.Forest
