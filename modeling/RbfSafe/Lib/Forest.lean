/-
Binary forests over an arbitrary node operation: the two ways an
append-only tree computes its root, and why they agree.

# The two algorithms

- `treeRoot`: build the levels one after the other; a level pairs its
  neighbours (`pairUp`) and promotes an odd last entry unchanged.
- `peaks`: keep one optional peak per bit of the length, lowest bit
  first (a binary counter over `node`, of fixed width), and fold the
  peaks from the low end (`foldRoot`).

`treeRoot_append_eq_foldRoot` is the bridge: with a partial node `acc`
carried at the right end, the level algorithm on `l ++ acc` is the fold
of the peaks of `l` started at `acc`. Both sides step the same way from
`l` to `pairs l` (the full pairs of a level), which is the induction
every other lemma here runs too.

# Inversion

The second half reads roots backwards. A hash-like `node` is not
injective on all of its domain, so each algorithm comes with the list
of the argument pairs it feeds to `node` (`treePairs`, `foldPairs`,
`carryPairs`), and the inversion lemmas ask for injectivity on those
pairs alone (`NodeInj`).
-/
import Mathlib.Data.List.Basic
import Mathlib.Data.Nat.Bitwise
import Mathlib.Tactic

namespace RbfSafe.Lib.Forest

variable {α : Type} (node : α → α → α)

-- === the levels

/-- One level up: neighbours are joined, an odd last entry is promoted
unchanged. -/
def pairUp : List α → List α
  | a :: b :: rest => node a b :: pairUp rest
  | l => l

theorem length_pairUp : ∀ l : List α,
    (pairUp node l).length = (l.length + 1) / 2
  | [] => by simp [pairUp]
  | [_] => by simp [pairUp]
  | a :: b :: rest => by
      simp only [pairUp, List.length_cons, length_pairUp rest]
      omega

/-- The root of the level-by-level algorithm; `none` on no leaves. -/
def treeRoot : List α → Option α
  | [] => none
  | [a] => some a
  | a :: b :: rest => treeRoot (pairUp node (a :: b :: rest))
termination_by l => l.length
decreasing_by
  rw [length_pairUp]
  simp only [List.length_cons]
  omega

@[simp] theorem treeRoot_nil : treeRoot node ([] : List α) = none := by
  rw [treeRoot]

@[simp] theorem treeRoot_singleton (a : α) :
    treeRoot node [a] = some a := by
  rw [treeRoot]

/-- Going up one level does not change the root. -/
theorem treeRoot_pairUp (l : List α) :
    treeRoot node (pairUp node l) = treeRoot node l := by
  match l with
  | [] => rfl
  | [a] => rfl
  | a :: b :: rest => rw [treeRoot.eq_3]

theorem treeRoot_isSome : ∀ {l : List α}, l ≠ [] →
    ∃ r, treeRoot node l = some r := by
  intro l
  induction hn : l.length using Nat.strong_induction_on generalizing l with
  | _ n ih =>
      intro hl
      match l with
      | [] => exact absurd rfl hl
      | [a] => exact ⟨a, treeRoot_singleton node a⟩
      | a :: b :: rest =>
          rw [treeRoot]
          refine ih _ ?_ rfl ?_
          · rw [← hn, length_pairUp]
            simp only [List.length_cons]
            omega
          · simp [pairUp]

/-- The full pairs of a level, without its odd last entry. -/
def pairs : List α → List α
  | a :: b :: rest => node a b :: pairs rest
  | _ => []

/-- The odd last entry of a level. -/
def oddLast : List α → Option α
  | [] => none
  | [a] => some a
  | _ :: _ :: rest => oddLast rest

theorem length_pairs : ∀ l : List α,
    (pairs node l).length = l.length / 2
  | [] => by simp [pairs]
  | [_] => by simp [pairs]
  | a :: b :: rest => by
      simp only [pairs, List.length_cons, length_pairs rest]
      omega

theorem oddLast_isSome : ∀ l : List α,
    (oddLast l).isSome = decide (l.length % 2 = 1)
  | [] => rfl
  | [_] => rfl
  | a :: b :: rest => by
      simp only [oddLast, oddLast_isSome rest, List.length_cons]
      congr 1
      simp only [eq_iff_iff]
      omega

theorem oddLast_eq_none {l : List α} (h : l.length % 2 = 0) :
    oddLast l = none := by
  rw [← Option.not_isSome_iff_eq_none, oddLast_isSome]
  simp [h]

/-- Join a peak with the partial node to its right. -/
def join (s : α) : Option α → α
  | none => s
  | some a => node s a

/-- Add an optional peak to the left of a partial node. -/
def absorb : Option α → Option α → Option α
  | none, acc => acc
  | some s, acc => some (join node s acc)

/-- One level up with a partial node at the right end: the full pairs,
and the odd entry absorbed into the partial node. -/
theorem pairUp_append_toList : ∀ (l : List α) (acc : Option α),
    pairUp node (l ++ acc.toList)
      = pairs node l ++ (absorb node (oddLast l) acc).toList
  | [], none => rfl
  | [], some _ => rfl
  | [_], none => rfl
  | [_], some _ => rfl
  | a :: b :: rest, acc => by
      simp only [List.cons_append, pairUp, pairs, oddLast,
        pairUp_append_toList rest acc]

/-- A level of even length is all full pairs. -/
theorem pairUp_eq_pairs {l : List α} (h : l.length % 2 = 0) :
    pairUp node l = pairs node l := by
  have hp := pairUp_append_toList node l none
  rw [oddLast_eq_none h] at hp
  simpa [absorb] using hp

theorem treeRoot_pairs {l : List α} (h : l.length % 2 = 0) :
    treeRoot node (pairs node l) = treeRoot node l := by
  rw [← pairUp_eq_pairs node h, treeRoot_pairUp]

theorem pairs_append : ∀ {l : List α} (r : List α), l.length % 2 = 0 →
    pairs node (l ++ r) = pairs node l ++ pairs node r
  | [], r, _ => rfl
  | [_], r, h => by simp at h
  | a :: b :: rest, r, h => by
      have hrest : rest.length % 2 = 0 := by
        simp only [List.length_cons] at h
        omega
      simp only [List.cons_append, pairs, pairs_append r hrest]

theorem oddLast_append : ∀ {l : List α} (r : List α), l.length % 2 = 0 →
    oddLast (l ++ r) = oddLast r
  | [], r, _ => rfl
  | [_], r, h => by simp at h
  | a :: b :: rest, r, h => by
      have hrest : rest.length % 2 = 0 := by
        simp only [List.length_cons] at h
        omega
      simp only [List.cons_append, oddLast, oddLast_append r hrest]

/-- Pushing one entry onto a level. -/
theorem pairs_snoc : ∀ (l : List α) (c : α),
    pairs node (l ++ [c])
      = match oddLast l with
        | none => pairs node l
        | some x => pairs node l ++ [node x c]
  | [], _ => rfl
  | [_], _ => rfl
  | a :: b :: rest, c => by
      simp only [List.cons_append, pairs, oddLast, pairs_snoc rest c]
      cases oddLast rest <;> rfl

theorem oddLast_snoc : ∀ (l : List α) (c : α),
    oddLast (l ++ [c])
      = match oddLast l with
        | none => some c
        | some _ => none
  | [], _ => rfl
  | [_], _ => rfl
  | a :: b :: rest, c => by
      simp only [List.cons_append, oddLast, oddLast_snoc rest c]

theorem take_pairs : ∀ (l : List α) (k : Nat),
    pairs node (l.take (2 * k)) = (pairs node l).take k
  | [], k => by simp [pairs]
  | [_], 0 => rfl
  | [_], k + 1 => by
      rw [show 2 * (k + 1) = 2 * k + 1 + 1 from by omega]
      simp [pairs]
  | a :: b :: rest, 0 => rfl
  | a :: b :: rest, k + 1 => by
      rw [show 2 * (k + 1) = 2 * k + 1 + 1 from by omega]
      simp only [List.take_succ_cons, pairs, take_pairs rest k]

theorem drop_pairs : ∀ (l : List α) (k : Nat),
    pairs node (l.drop (2 * k)) = (pairs node l).drop k
  | [], k => by simp [pairs]
  | [_], 0 => rfl
  | [_], k + 1 => by
      rw [show 2 * (k + 1) = 2 * k + 1 + 1 from by omega]
      simp [pairs]
  | a :: b :: rest, 0 => rfl
  | a :: b :: rest, k + 1 => by
      rw [show 2 * (k + 1) = 2 * k + 1 + 1 from by omega]
      simp only [List.drop_succ_cons, pairs, drop_pairs rest k]

-- === the binary counter

/-- Put one more node into the lowest slot, carrying through occupied
slots; the carry out of the last slot is lost. -/
def carry : α → List (Option α) → List (Option α)
  | _, [] => []
  | c, none :: rest => some c :: rest
  | c, some x :: rest => none :: carry (node x c) rest

/-- The peaks of a leaf list in a counter of width `N`. -/
def peaks (N : Nat) (l : List α) : List (Option α) :=
  l.foldl (fun F c => carry node c F) (List.replicate N none)

/-- Fold the peaks from the low end, starting at a partial node. -/
def foldRoot : List (Option α) → Option α → Option α
  | [], acc => acc
  | x :: rest, acc => foldRoot rest (absorb node x acc)

theorem length_carry : ∀ (c : α) (F : List (Option α)),
    (carry node c F).length = F.length
  | _, [] => rfl
  | _, none :: _ => rfl
  | c, some x :: rest => by
      simp only [carry, List.length_cons, length_carry _ rest]

@[simp] theorem peaks_nil (N : Nat) :
    peaks node N ([] : List α) = List.replicate N none := rfl

theorem peaks_snoc (N : Nat) (l : List α) (c : α) :
    peaks node N (l ++ [c]) = carry node c (peaks node N l) := by
  simp [peaks, List.foldl_append]

@[simp] theorem length_peaks (N : Nat) (l : List α) :
    (peaks node N l).length = N := by
  induction l using List.reverseRecOn with
  | nil => simp
  | append_singleton l c ih => rw [peaks_snoc, length_carry, ih]

/-- The lowest slot is the odd entry of the level, and the others are
the counter of the level above. -/
theorem peaks_succ (N : Nat) (l : List α) :
    peaks node (N + 1) l = oddLast l :: peaks node N (pairs node l) := by
  induction l using List.reverseRecOn with
  | nil => rfl
  | append_singleton l c ih =>
      rw [peaks_snoc, ih, pairs_snoc, oddLast_snoc]
      cases oddLast l with
      | none => rfl
      | some x => simp only [carry, peaks_snoc]

/-- **The two root algorithms agree**, with a partial node at the right
end carried by both. -/
theorem treeRoot_append_eq_foldRoot (N : Nat) :
    ∀ (l : List α) (acc : Option α), l.length < 2 ^ N →
      treeRoot node (l ++ acc.toList)
        = foldRoot node (peaks node N l) acc := by
  induction N with
  | zero =>
      intro l acc h
      obtain rfl : l = [] := List.length_eq_zero_iff.mp (by simpa using h)
      cases acc with
      | none => exact treeRoot_nil node
      | some a => exact treeRoot_singleton node a
  | succ N ih =>
      intro l acc h
      have hlen : (pairs node l).length < 2 ^ N := by
        rw [length_pairs]
        omega
      calc treeRoot node (l ++ acc.toList)
          = treeRoot node (pairUp node (l ++ acc.toList)) :=
            (treeRoot_pairUp node _).symm
        _ = treeRoot node (pairs node l
              ++ (absorb node (oddLast l) acc).toList) := by
            rw [pairUp_append_toList]
        _ = foldRoot node (peaks node N (pairs node l))
              (absorb node (oddLast l) acc) := ih _ _ hlen
        _ = foldRoot node (peaks node (N + 1) l) acc := by
            rw [peaks_succ]
            rfl

theorem treeRoot_eq_foldRoot {N : Nat} {l : List α}
    (h : l.length < 2 ^ N) :
    treeRoot node l = foldRoot node (peaks node N l) none := by
  simpa using treeRoot_append_eq_foldRoot node N l none h

/-- The aligned block of a set bit lies inside the list. -/
theorem block_fits {n k : Nat} (h : n.testBit k = true) :
    n / 2 ^ (k + 1) * 2 ^ (k + 1) + 2 ^ k ≤ n := by
  have hbit : n / 2 ^ k % 2 = 1 := by
    simpa [Nat.testBit_eq_decide_div_mod_eq] using h
  have hdiv : n / 2 ^ (k + 1) = n / 2 ^ k / 2 := by
    rw [pow_succ, Nat.div_div_eq_div_mul]
  have hmul : n / 2 ^ k * 2 ^ k ≤ n := Nat.div_mul_le_self n (2 ^ k)
  have hodd : n / 2 ^ k = 2 * (n / 2 ^ k / 2) + 1 := by omega
  calc n / 2 ^ (k + 1) * 2 ^ (k + 1) + 2 ^ k
      = (2 * (n / 2 ^ k / 2) + 1) * 2 ^ k := by rw [hdiv]; ring
    _ = n / 2 ^ k * 2 ^ k := by rw [← hodd]
    _ ≤ n := hmul

/-- Slot `k` holds the root of the block of `2 ^ k` leaves it stands
for, exactly when bit `k` of the length is set. -/
theorem peaks_getElem? (N : Nat) :
    ∀ (l : List α) (k : Nat), k < N →
      (peaks node N l)[k]?
        = some (if l.length.testBit k then
            treeRoot node
              ((l.drop (l.length / 2 ^ (k + 1) * 2 ^ (k + 1))).take (2 ^ k))
          else none) := by
  induction N with
  | zero => intro l k hk; omega
  | succ N ih =>
      intro l k hk
      rw [peaks_succ]
      cases k with
      | zero =>
          rw [List.getElem?_cons_zero]
          congr 1
          cases hodd : decide (l.length % 2 = 1) with
          | false =>
              have h0 : l.length % 2 = 0 := by
                simp only [decide_eq_false_iff_not] at hodd
                omega
              rw [oddLast_eq_none h0]
              simp [Nat.testBit_zero, h0]
          | true =>
              have h1 : l.length % 2 = 1 := by simpa using hodd
              have hsplit := List.take_append_drop (l.length / 2 * 2) l
              have htake : (l.take (l.length / 2 * 2)).length % 2 = 0 := by
                rw [List.length_take]
                omega
              have hdrop : (l.drop (l.length / 2 * 2)).length = 1 := by
                rw [List.length_drop]
                omega
              obtain ⟨a, ha⟩ := List.length_eq_one_iff.mp hdrop
              rw [← hsplit, oddLast_append _ htake, hsplit]
              simp only [Nat.testBit_zero, h1, decide_true, if_true,
                Nat.zero_add, pow_one, pow_zero]
              rw [ha, show [a].take 1 = [a] from rfl, treeRoot_singleton]
              rfl
      | succ k =>
          rw [List.getElem?_cons_succ, ih _ _ (by omega), length_pairs,
            ← Nat.testBit_succ]
          congr 1
          split
          case isFalse => rfl
          case isTrue hbit =>
            have hdiv : l.length / 2 / 2 ^ (k + 1)
                = l.length / 2 ^ (k + 2) := by
              rw [Nat.div_div_eq_div_mul, ← pow_succ']
            have hfit : l.length / 2 ^ (k + 2) * 2 ^ (k + 2) + 2 ^ (k + 1)
                ≤ l.length := block_fits hbit
            rw [hdiv, ← drop_pairs, ← take_pairs,
              show 2 * (l.length / 2 ^ (k + 2) * 2 ^ (k + 1))
                = l.length / 2 ^ (k + 2) * 2 ^ (k + 2) from by ring,
              show 2 * 2 ^ k = 2 ^ (k + 1) from by ring]
            refine treeRoot_pairs node ?_
            have hlen : 2 ^ (k + 1)
                ≤ l.length - l.length / 2 ^ (k + 2) * 2 ^ (k + 2) := by
              omega
            rw [List.length_take, List.length_drop, Nat.min_eq_left hlen,
              pow_succ]
            omega

-- === occupancy patterns

/-- The counter holds exactly the bits of `n`. -/
def Shaped : Nat → List (Option α) → Prop
  | n, [] => n = 0
  | n, x :: rest => x.isSome = decide (n % 2 = 1) ∧ Shaped (n / 2) rest

theorem shaped_peaks (N : Nat) : ∀ l : List α, l.length < 2 ^ N →
    Shaped l.length (peaks node N l) := by
  induction N with
  | zero =>
      intro l h
      have hl : l = [] := List.length_eq_zero_iff.mp (by simpa using h)
      rw [hl]
      rfl
  | succ N ih =>
      intro l h
      rw [peaks_succ]
      refine ⟨oddLast_isSome l, ?_⟩
      rw [← length_pairs node l]
      refine ih _ ?_
      rw [length_pairs]
      omega

theorem Shaped.getElem?_isSome : ∀ {F : List (Option α)} {n k : Nat}
    {x : Option α}, Shaped n F → F[k]? = some x → x.isSome = n.testBit k
  | [], _, _, _, _, hx => by simp at hx
  | y :: rest, n, 0, x, h, hx => by
      simp only [List.getElem?_cons_zero, Option.some.injEq] at hx
      rw [← hx, h.1, Nat.testBit_zero]
  | y :: rest, n, k + 1, x, h, hx => by
      rw [List.getElem?_cons_succ] at hx
      rw [Nat.testBit_succ]
      exact h.2.getElem?_isSome hx

theorem Shaped.drop (k : Nat) : ∀ {F : List (Option α)} {n : Nat},
    Shaped n F → Shaped (n / 2 ^ k) (F.drop k) := by
  induction k with
  | zero =>
      intro F n h
      simpa using h
  | succ k ih =>
      intro F n h
      cases F with
      | nil =>
          have h0 : n = 0 := h
          simp [h0, Shaped]
      | cons x rest =>
          rw [List.drop_succ_cons, pow_succ', ← Nat.div_div_eq_div_mul]
          exact ih h.2

/-- The carry adds one to the counter's number. -/
theorem Shaped.carry : ∀ {F : List (Option α)} {n : Nat} (c : α),
    Shaped n F → n + 1 < 2 ^ F.length →
    Shaped (n + 1) (Forest.carry node c F)
  | [], n, _, _, hlt => by simp at hlt
  | none :: rest, n, c, h, _ => by
      have hbit : ¬ n % 2 = 1 := by simpa using h.1
      have hdiv : (n + 1) / 2 = n / 2 := by omega
      refine ⟨?_, ?_⟩
      · simp only [Option.isSome_some]
        symm
        rw [decide_eq_true_eq]
        omega
      · rw [hdiv]
        exact h.2
  | some x :: rest, n, c, h, hlt => by
      have hbit : n % 2 = 1 := by simpa using h.1
      have hdiv : (n + 1) / 2 = n / 2 + 1 := by omega
      rw [List.length_cons, pow_succ] at hlt
      refine ⟨?_, ?_⟩
      · simp only [Option.isSome_none]
        symm
        rw [decide_eq_false_iff_not]
        omega
      · rw [hdiv]
        exact h.2.carry _ (by omega)

-- === appending a whole block

/-- Put a node into the counter at slot `k`. -/
def carryAt : Nat → α → List (Option α) → List (Option α)
  | 0, c, F => carry node c F
  | _ + 1, _, [] => []
  | k + 1, c, x :: rest => x :: carryAt k c rest

theorem carryAt_eq (k : Nat) : ∀ (c : α) (F : List (Option α)),
    carryAt node k c F = F.take k ++ carry node c (F.drop k) := by
  induction k with
  | zero => intro c F; rfl
  | succ k ih =>
      intro c F
      cases F with
      | nil => rfl
      | cons x rest => simp only [carryAt, ih, List.take_succ_cons,
          List.drop_succ_cons, List.cons_append]

theorem length_carryAt (k : Nat) (c : α) (F : List (Option α)) :
    (carryAt node k c F).length = F.length := by
  rw [carryAt_eq, List.length_append, length_carry, List.length_take,
    List.length_drop]
  omega

/-- A multiple of `2 ^ (k + 1)` is even, and its half is a multiple of
`2 ^ k`. -/
theorem half_mod {n k : Nat} (h : n % 2 ^ (k + 1) = 0) :
    n % 2 = 0 ∧ n / 2 % 2 ^ k = 0 := by
  obtain ⟨q, hq⟩ := Nat.dvd_of_mod_eq_zero h
  have hpow : n = 2 * (2 ^ k * q) := by rw [hq, pow_succ]; ring
  constructor
  · omega
  · rw [hpow, Nat.mul_div_cancel_left _ (by omega : 0 < 2)]
    exact Nat.mul_mod_right _ _

/-- A level aligned to `2 ^ (k + 1)` leaves an aligned level above. -/
theorem half_aligned {l : List α} {k : Nat}
    (h : l.length % 2 ^ (k + 1) = 0) :
    l.length % 2 = 0 ∧ (pairs node l).length % 2 ^ k = 0 := by
  rw [length_pairs]
  exact half_mod h

theorem Shaped.carryAt (k : Nat) : ∀ {F : List (Option α)} {n : Nat} (c : α),
    Shaped n F → n % 2 ^ k = 0 → n + 2 ^ k < 2 ^ F.length →
    Shaped (n + 2 ^ k) (Forest.carryAt node k c F) := by
  induction k with
  | zero =>
      intro F n c h _ hlt
      exact h.carry node c hlt
  | succ k ih =>
      intro F n c h hmod hlt
      have hpow : 2 ^ (k + 1) = 2 * 2 ^ k := by rw [pow_succ]; ring
      have hpos : 0 < 2 ^ k := Nat.two_pow_pos k
      obtain ⟨heven, hhalf⟩ := half_mod hmod
      cases F with
      | nil =>
          simp only [List.length_nil, pow_zero] at hlt
          omega
      | cons x rest =>
          rw [List.length_cons, pow_succ] at hlt
          refine ⟨?_, ?_⟩
          · rw [h.1]
            congr 1
            simp only [eq_iff_iff]
            omega
          · rw [show (n + 2 ^ (k + 1)) / 2 = n / 2 + 2 ^ k from by omega]
            exact ih c h.2 hhalf (by omega)

/-- Appending a whole aligned block by its root is appending its leaves
one at a time. -/
theorem carryAt_peaks (k : Nat) : ∀ (N : Nat) (l block : List α) (r : α),
    l.length % 2 ^ k = 0 → block.length = 2 ^ k →
    treeRoot node block = some r →
    carryAt node k r (peaks node N l) = peaks node N (l ++ block) := by
  induction k with
  | zero =>
      intro N l block r _ hlen hroot
      obtain ⟨a, rfl⟩ := List.length_eq_one_iff.mp (by simpa using hlen)
      rw [treeRoot_singleton, Option.some.injEq] at hroot
      rw [peaks_snoc, hroot]
      rfl
  | succ k ih =>
      intro N l block r hmod hlen hroot
      cases N with
      | zero =>
          have h0 : ∀ l : List α, peaks node 0 l = [] := fun l =>
            List.length_eq_zero_iff.mp (length_peaks node 0 l)
          rw [h0, h0]
          rfl
      | succ N =>
          have hpow : 2 ^ (k + 1) = 2 * 2 ^ k := by rw [pow_succ]; ring
          obtain ⟨heven, hhalf⟩ := half_aligned node hmod
          have hbeven : block.length % 2 = 0 := by omega
          have hblock : (pairs node block).length = 2 ^ k := by
            rw [length_pairs]
            omega
          rw [peaks_succ, peaks_succ, oddLast_append _ heven,
            oddLast_eq_none heven, oddLast_eq_none hbeven,
            pairs_append node _ heven]
          simp only [carryAt]
          rw [ih N _ _ r hhalf hblock (by rw [treeRoot_pairs node hbeven, hroot])]

-- === the pairs that are joined

/-- The neighbours joined in one level. -/
def levelPairs : List α → List (α × α)
  | a :: b :: rest => (a, b) :: levelPairs rest
  | _ => []

/-- Every pair the level algorithm joins. -/
def treePairs : List α → List (α × α)
  | [] => []
  | [_] => []
  | a :: b :: rest =>
      levelPairs (a :: b :: rest) ++ treePairs (pairUp node (a :: b :: rest))
termination_by l => l.length
decreasing_by
  rw [length_pairUp]
  simp only [List.length_cons]
  omega

/-- The pairs joined inside full aligned blocks only. -/
def fullPairs : List α → List (α × α)
  | [] => []
  | [_] => []
  | a :: b :: rest =>
      levelPairs (a :: b :: rest) ++ fullPairs (pairs node (a :: b :: rest))
termination_by l => l.length
decreasing_by
  rw [length_pairs]
  simp only [List.length_cons]
  omega

/-- The pair joined when a peak meets a partial node. -/
def absorbPairs : Option α → Option α → List (α × α)
  | some s, some a => [(s, a)]
  | _, _ => []

/-- Every pair `foldRoot` joins. -/
def foldPairs : List (Option α) → Option α → List (α × α)
  | [], _ => []
  | x :: rest, acc => absorbPairs x acc ++ foldPairs rest (absorb node x acc)

/-- Every pair `carry` joins. -/
def carryPairs : α → List (Option α) → List (α × α)
  | _, [] => []
  | _, none :: _ => []
  | c, some x :: rest => (x, c) :: carryPairs (node x c) rest

/-- `node` does not confuse two argument pairs of `S`. -/
def NodeInj (S : Set (α × α)) : Prop :=
  S.InjOn fun p => node p.1 p.2

theorem NodeInj.eq {S : Set (α × α)} (hS : NodeInj node S) {a b c d : α}
    (hab : (a, b) ∈ S) (hcd : (c, d) ∈ S) (h : node a b = node c d) :
    a = c ∧ b = d := by
  have hp : (a, b) = (c, d) := hS hab hcd h
  exact ⟨congrArg Prod.fst hp, congrArg Prod.snd hp⟩

theorem levelPairs_subset_treePairs (l : List α) :
    levelPairs l ⊆ treePairs node l := by
  match l with
  | [] => exact List.nil_subset _
  | [_] => exact List.nil_subset _
  | a :: b :: rest =>
      rw [treePairs]
      exact List.subset_append_left _ _

theorem treePairs_pairUp_subset (l : List α) :
    treePairs node (pairUp node l) ⊆ treePairs node l := by
  match l with
  | [] => simp [pairUp]
  | [_] => simp [pairUp]
  | a :: b :: rest =>
      rw [treePairs.eq_3]
      exact List.subset_append_right _ _

theorem fullPairs_pairs_subset (l : List α) :
    fullPairs node (pairs node l) ⊆ fullPairs node l := by
  match l with
  | [] => simp [pairs]
  | [_] => simp [pairs, fullPairs]
  | a :: b :: rest =>
      rw [fullPairs.eq_3]
      exact List.subset_append_right _ _

theorem levelPairs_subset_fullPairs (l : List α) :
    levelPairs l ⊆ fullPairs node l := by
  match l with
  | [] => exact List.nil_subset _
  | [_] => exact List.nil_subset _
  | a :: b :: rest =>
      rw [fullPairs]
      exact List.subset_append_left _ _

theorem levelPairs_subset_append : ∀ l r : List α,
    levelPairs l ⊆ levelPairs (l ++ r)
  | [], _ => List.nil_subset _
  | [_], _ => List.nil_subset _
  | a :: b :: rest, r => by
      simp only [List.cons_append, levelPairs]
      exact List.cons_subset_cons _ (levelPairs_subset_append rest r)

/-- The full pairs of a list come first in the level above any
extension of it. -/
theorem exists_pairUp_append : ∀ l r : List α,
    ∃ r', pairUp node (l ++ r) = pairs node l ++ r'
  | [], r => ⟨pairUp node r, rfl⟩
  | [a], r => ⟨pairUp node (a :: r), rfl⟩
  | a :: b :: rest, r => by
      obtain ⟨r', hr'⟩ := exists_pairUp_append rest r
      exact ⟨r', by simp only [List.cons_append, pairUp, pairs, hr']⟩

/-- Blocks of a prefix are blocks of the whole tree. -/
theorem fullPairs_subset_treePairs (l : List α) : ∀ r : List α,
    fullPairs node l ⊆ treePairs node (l ++ r) := by
  induction hn : l.length using Nat.strong_induction_on generalizing l with
  | _ n ih =>
      intro r
      match l with
      | [] => simp [fullPairs]
      | [_] => simp [fullPairs]
      | a :: b :: rest =>
          rw [fullPairs]
          refine List.append_subset.mpr ⟨?_, ?_⟩
          · exact List.Subset.trans (levelPairs_subset_append _ r)
              (levelPairs_subset_treePairs node _)
          · obtain ⟨r', hr'⟩ := exists_pairUp_append node (a :: b :: rest) r
            have hlt : (pairs node (a :: b :: rest)).length < n := by
              rw [← hn, length_pairs]
              simp only [List.length_cons]
              omega
            refine List.Subset.trans (ih _ hlt _ rfl r') ?_
            rw [← hr']
            exact treePairs_pairUp_subset node _

/-- The pair an odd entry forms with a partial node at its right. -/
theorem absorbPairs_subset_levelPairs : ∀ (l : List α) (acc : Option α),
    absorbPairs (oddLast l) acc ⊆ levelPairs (l ++ acc.toList)
  | [], none => List.nil_subset _
  | [], some _ => List.nil_subset _
  | [_], none => List.nil_subset _
  | [_], some _ => List.Subset.refl _
  | a :: b :: rest, acc => by
      simp only [oddLast, List.cons_append, levelPairs]
      exact List.subset_cons_of_subset _
        (absorbPairs_subset_levelPairs rest acc)

/-- Folding the peaks joins only pairs the level algorithm joins. -/
theorem foldPairs_peaks_subset (N : Nat) : ∀ (l : List α) (acc : Option α),
    foldPairs node (peaks node N l) acc
      ⊆ treePairs node (l ++ acc.toList) := by
  induction N with
  | zero =>
      intro l acc
      rw [List.length_eq_zero_iff.mp (length_peaks node 0 l)]
      exact List.nil_subset _
  | succ N ih =>
      intro l acc
      rw [peaks_succ, foldPairs]
      refine List.append_subset.mpr ⟨?_, ?_⟩
      · exact List.Subset.trans (absorbPairs_subset_levelPairs l acc)
          (levelPairs_subset_treePairs node _)
      · refine List.Subset.trans (ih _ _) ?_
        rw [← pairUp_append_toList]
        exact treePairs_pairUp_subset node _

/-- Pushing a leaf onto the counter joins only pairs inside blocks. -/
theorem carryPairs_peaks_subset (N : Nat) : ∀ (l : List α) (c : α),
    carryPairs node c (peaks node N l) ⊆ fullPairs node (l ++ [c]) := by
  induction N with
  | zero =>
      intro l c
      rw [List.length_eq_zero_iff.mp (length_peaks node 0 l)]
      exact List.nil_subset _
  | succ N ih =>
      intro l c
      rw [peaks_succ]
      cases hodd : oddLast l with
      | none => exact List.nil_subset _
      | some x =>
          have hpair : (x, c) ∈ levelPairs (l ++ [c]) := by
            have h := absorbPairs_subset_levelPairs l (some c)
            rw [hodd] at h
            exact h (List.mem_singleton.mpr rfl)
          have hup : pairs node (l ++ [c]) = pairs node l ++ [node x c] := by
            rw [pairs_snoc, hodd]
          rw [carryPairs]
          refine List.cons_subset.mpr ⟨?_, ?_⟩
          · exact levelPairs_subset_fullPairs node _ hpair
          · refine List.Subset.trans (ih _ _) ?_
            rw [← hup]
            exact fullPairs_pairs_subset node _

/-- Appending a block by its root joins only pairs inside blocks. -/
theorem carryPairs_drop_peaks_subset (k : Nat) :
    ∀ (N : Nat) (l block : List α) (r : α),
      l.length % 2 ^ k = 0 → block.length = 2 ^ k →
      treeRoot node block = some r →
      carryPairs node r ((peaks node N l).drop k)
        ⊆ fullPairs node (l ++ block) := by
  induction k with
  | zero =>
      intro N l block r _ hlen hroot
      obtain ⟨a, rfl⟩ := List.length_eq_one_iff.mp (by simpa using hlen)
      rw [treeRoot_singleton, Option.some.injEq] at hroot
      rw [List.drop_zero, ← hroot]
      exact carryPairs_peaks_subset node N l a
  | succ k ih =>
      intro N l block r hmod hlen hroot
      cases N with
      | zero =>
          rw [List.length_eq_zero_iff.mp (length_peaks node 0 l)]
          exact List.nil_subset _
      | succ N =>
          have hpow : 2 ^ (k + 1) = 2 * 2 ^ k := by rw [pow_succ]; ring
          obtain ⟨heven, hhalf⟩ := half_aligned node hmod
          have hbeven : block.length % 2 = 0 := by omega
          have hblock : (pairs node block).length = 2 ^ k := by
            rw [length_pairs]
            omega
          rw [peaks_succ, List.drop_succ_cons]
          refine List.Subset.trans (ih N _ _ r hhalf hblock
            (by rw [treeRoot_pairs node hbeven, hroot])) ?_
          rw [← pairs_append node _ heven]
          exact fullPairs_pairs_subset node _

-- === reading roots backwards

variable {S : Set (α × α)}

/-- Two counters of one shape with the same fold are the same. -/
theorem foldRoot_inj (hS : NodeInj node S) :
    ∀ {F G : List (Option α)} {n : Nat} {acc acc' : Option α},
      Shaped n F → Shaped n G → F.length = G.length →
      acc.isSome = acc'.isSome →
      (∀ p ∈ foldPairs node F acc, p ∈ S) →
      (∀ p ∈ foldPairs node G acc', p ∈ S) →
      foldRoot node F acc = foldRoot node G acc' → F = G ∧ acc = acc'
  | [], [], _, _, _, _, _, _, _, _, _, h => ⟨rfl, h⟩
  | [], _ :: _, _, _, _, _, _, hlen, _, _, _, _ => by simp at hlen
  | _ :: _, [], _, _, _, _, _, hlen, _, _, _, _ => by simp at hlen
  | x :: F, y :: G, n, acc, acc', hF, hG, hlen, hacc, hpF, hpG, h => by
      have hxy : x.isSome = y.isSome := by rw [hF.1, hG.1]
      have hnext : (absorb node x acc).isSome = (absorb node y acc').isSome := by
        cases x <;> cases y <;> simp_all [absorb]
      obtain ⟨hrest, habs⟩ := foldRoot_inj hS hF.2 hG.2
        (by simpa using hlen) hnext
        (fun p hp => hpF p (List.mem_append_right _ hp))
        (fun p hp => hpG p (List.mem_append_right _ hp)) h
      suffices hxy' : x = y ∧ acc = acc' by
        exact ⟨by rw [hxy'.1, hrest], hxy'.2⟩
      cases x with
      | none =>
          cases y with
          | none => exact ⟨rfl, habs⟩
          | some _ => simp at hxy
      | some s =>
          cases y with
          | none => simp at hxy
          | some t =>
              cases acc with
              | none =>
                  cases acc' with
                  | none => exact ⟨habs, rfl⟩
                  | some _ => simp at hacc
              | some a =>
                  cases acc' with
                  | none => simp at hacc
                  | some b =>
                      have hnode : node s a = node t b := by
                        simpa [absorb, join] using habs
                      have hsa : (s, a) ∈ S := hpF _ (by simp [foldPairs,
                        absorbPairs])
                      have htb : (t, b) ∈ S := hpG _ (by simp [foldPairs,
                        absorbPairs])
                      obtain ⟨hst, hab⟩ := hS.eq node hsa htb hnode
                      exact ⟨by rw [hst], by rw [hab]⟩

/-- Two counters of one shape that carry to the same counter are the
same, and so are the nodes put in. -/
theorem carry_inj (hS : NodeInj node S) :
    ∀ {F G : List (Option α)} {n : Nat} {c d : α},
      Shaped n F → Shaped n G → F.length = G.length →
      n + 1 < 2 ^ F.length →
      (∀ p ∈ carryPairs node c F, p ∈ S) →
      (∀ p ∈ carryPairs node d G, p ∈ S) →
      carry node c F = carry node d G → c = d ∧ F = G
  | [], _, _, _, _, _, _, _, hlt, _, _, _ => by simp at hlt
  | _ :: _, [], _, _, _, _, _, hlen, _, _, _, _ => by simp at hlen
  | none :: F, none :: G, _, _, _, _, _, _, _, _, _, h => by
      simp only [carry, List.cons.injEq, Option.some.injEq] at h
      exact ⟨h.1, by rw [h.2]⟩
  | none :: F, some y :: G, _, _, _, hF, hG, _, _, _, _, _ => by
      have hne : (none : Option α).isSome = (some y).isSome := by
        rw [hF.1]
        exact hG.1.symm
      simp at hne
  | some x :: F, none :: G, _, _, _, hF, hG, _, _, _, _, _ => by
      have hne : (some x).isSome = (none : Option α).isSome := by
        rw [hF.1]
        exact hG.1.symm
      simp at hne
  | some x :: F, some y :: G, n, c, d, hF, hG, hlen, hlt, hpF, hpG, h => by
      simp only [carry, List.cons.injEq, true_and] at h
      have hbit : n % 2 = 1 := by simpa using hF.1
      rw [List.length_cons, pow_succ] at hlt
      obtain ⟨hnode, hrest⟩ := carry_inj hS hF.2 hG.2 (by simpa using hlen)
        (by omega) (fun p hp => hpF p (List.mem_cons_of_mem _ hp))
        (fun p hp => hpG p (List.mem_cons_of_mem _ hp)) h
      have hxc : (x, c) ∈ S := hpF _ List.mem_cons_self
      have hyd : (y, d) ∈ S := hpG _ List.mem_cons_self
      obtain ⟨hxy, hcd⟩ := hS.eq node hxc hyd hnode
      exact ⟨hcd, by rw [hxy, hrest]⟩

theorem carryAt_inj (hS : NodeInj node S) (k : Nat) :
    ∀ {F G : List (Option α)} {n : Nat} {c d : α},
      Shaped n F → Shaped n G → F.length = G.length →
      n % 2 ^ k = 0 → n + 2 ^ k < 2 ^ F.length →
      (∀ p ∈ carryPairs node c (F.drop k), p ∈ S) →
      (∀ p ∈ carryPairs node d (G.drop k), p ∈ S) →
      carryAt node k c F = carryAt node k d G → c = d ∧ F = G := by
  induction k with
  | zero =>
      intro F G n c d hF hG hlen _ hlt hpF hpG h
      exact carry_inj node hS hF hG hlen hlt hpF hpG h
  | succ k ih =>
      intro F G n c d hF hG hlen hmod hlt hpF hpG h
      match F, G with
      | [], _ =>
          simp only [List.length_nil, pow_zero] at hlt
          have := Nat.two_pow_pos (k + 1)
          omega
      | _ :: _, [] => simp at hlen
      | x :: F, y :: G =>
          simp only [carryAt, List.cons.injEq] at h
          obtain ⟨heven, hhalf⟩ := half_mod hmod
          rw [List.length_cons, pow_succ, pow_succ] at hlt
          obtain ⟨hcd, hFG⟩ := ih hF.2 hG.2 (by simpa using hlen) hhalf
            (by omega) hpF hpG h.2
          exact ⟨hcd, by rw [h.1, hFG]⟩

/-- A level is determined by the level above and its odd entry. -/
theorem eq_of_pairs_eq (hS : NodeInj node S) : ∀ {l l' : List α},
    l.length = l'.length → pairs node l = pairs node l' →
    oddLast l = oddLast l' → (∀ p ∈ levelPairs l, p ∈ S) →
    (∀ p ∈ levelPairs l', p ∈ S) → l = l'
  | [], l', hlen, _, _, _, _ => by
      have hl : l'.length = 0 := by simpa using hlen.symm
      rw [List.length_eq_zero_iff.mp hl]
  | [a], [], hlen, _, _, _, _ => by simp at hlen
  | [a], [b], _, _, hodd, _, _ => by simpa [oddLast] using hodd
  | [a], _ :: _ :: _, hlen, _, _, _, _ => by simp at hlen
  | _ :: _ :: _, [], hlen, _, _, _, _ => by simp at hlen
  | _ :: _ :: _, [_], hlen, _, _, _, _ => by simp at hlen
  | a :: b :: l, c :: d :: l', hlen, hpairs, hodd, hp, hp' => by
      simp only [pairs, List.cons.injEq] at hpairs
      obtain ⟨hac, hbd⟩ := hS.eq node (hp _ List.mem_cons_self)
        (hp' _ List.mem_cons_self) hpairs.1
      have hrest := eq_of_pairs_eq hS (by simpa using hlen) hpairs.2 hodd
        (fun p hp₁ => hp p (List.mem_cons_of_mem _ hp₁))
        (fun p hp₁ => hp' p (List.mem_cons_of_mem _ hp₁))
      rw [hac, hbd, hrest]

/-- Peaks determine the leaves. -/
theorem peaks_inj (hS : NodeInj node S) (N : Nat) : ∀ {l l' : List α},
    l.length = l'.length → l.length < 2 ^ N →
    (∀ p ∈ fullPairs node l, p ∈ S) → (∀ p ∈ fullPairs node l', p ∈ S) →
    peaks node N l = peaks node N l' → l = l' := by
  induction N with
  | zero =>
      intro l l' hlen hlt _ _ _
      have hl : l = [] := List.length_eq_zero_iff.mp (by simpa using hlt)
      have hl' : l' = [] := List.length_eq_zero_iff.mp (by
        rw [← hlen, hl, List.length_nil])
      rw [hl, hl']
  | succ N ih =>
      intro l l' hlen hlt hp hp' h
      rw [peaks_succ, peaks_succ, List.cons.injEq] at h
      have hup : pairs node l = pairs node l' := by
        refine ih ?_ ?_ ?_ ?_ h.2
        · rw [length_pairs, length_pairs, hlen]
        · rw [length_pairs]
          omega
        · exact fun p hp₁ => hp p (fullPairs_pairs_subset node l hp₁)
        · exact fun p hp₁ => hp' p (fullPairs_pairs_subset node l' hp₁)
      exact eq_of_pairs_eq node hS hlen hup h.1
        (fun p hp₁ => hp p (levelPairs_subset_fullPairs node l hp₁))
        (fun p hp₁ => hp' p (levelPairs_subset_fullPairs node l' hp₁))

end RbfSafe.Lib.Forest
