/-
Growing a binary counter by aligned blocks, and reading it backwards.

`carryBlocks` appends blocks given only by their level and root. Run
forward on the blocks of a leaf list it reaches the counter of the list
(`carryBlocks_peaks`). Run backward it is the argument of append-only
consistency: whoever supplies blocks that lead from the root of one list
to the root of another has supplied the blocks of a prefix
(`take_of_carryBlocks`). The induction peels the last size off: the
counter after a block is known to be a counter of leaves, so by
injectivity the counter before it is one too.
-/
import RbfSafe.Lib.Forest

namespace RbfSafe.Lib.Forest

variable {α : Type} (node : α → α → α)

/-- A map that confuses no two entries of two lists confuses no two
lists. -/
theorem eq_of_map_eq {β : Type} {f : β → α} {T : Set β} (hf : T.InjOn f) :
    ∀ {l l' : List β}, (∀ x ∈ l, x ∈ T) → (∀ x ∈ l', x ∈ T) →
      l.map f = l'.map f → l = l'
  | [], [], _, _, _ => rfl
  | [], _ :: _, _, _, h => by simp at h
  | _ :: _, [], _, _, h => by simp at h
  | x :: l, y :: l', hl, hl', h => by
      simp only [List.map_cons, List.cons.injEq] at h
      have hxy := hf (hl x List.mem_cons_self) (hl' y List.mem_cons_self) h.1
      have hrest := eq_of_map_eq hf
        (fun z hz => hl z (List.mem_cons_of_mem _ hz))
        (fun z hz => hl' z (List.mem_cons_of_mem _ hz)) h.2
      rw [hxy, hrest]

/-- Append blocks, each a level and a root. -/
def carryBlocks (F : List (Option α)) (blocks : List (Nat × α)) :
    List (Option α) :=
  blocks.foldl (fun F b => carryAt node b.1 b.2 F) F

/-- Every pair `carryBlocks` joins. -/
def blockPairs : List (Option α) → List (Nat × α) → List (α × α)
  | _, [] => []
  | F, b :: blocks =>
      carryPairs node b.2 (F.drop b.1)
        ++ blockPairs (carryAt node b.1 b.2 F) blocks

/-- Blocks that lead from size `m` to size `n`, each aligned where it is
appended. -/
def Covers : Nat → Nat → List (Nat × α) → Prop
  | m, n, [] => m = n
  | m, n, b :: blocks => m % 2 ^ b.1 = 0 ∧ Covers (m + 2 ^ b.1) n blocks

theorem Covers.le : ∀ {blocks : List (Nat × α)} {m n : Nat},
    Covers m n blocks → m ≤ n
  | [], _, _, h => le_of_eq h
  | _ :: _, m, _, h => Nat.le_trans (Nat.le_add_right m _) h.2.le

theorem length_carryBlocks : ∀ (blocks : List (Nat × α)) (F : List (Option α)),
    (carryBlocks node F blocks).length = F.length
  | [], _ => rfl
  | b :: blocks, F => by
      rw [carryBlocks, List.foldl_cons]
      exact (length_carryBlocks blocks _).trans (length_carryAt node b.1 b.2 F)

theorem Covers.shaped : ∀ {blocks : List (Nat × α)} {m n : Nat}
    {F : List (Option α)}, Covers m n blocks → Shaped m F →
    n < 2 ^ F.length → Shaped n (carryBlocks node F blocks)
  | [], m, n, F, h, hF, _ => by
      have hmn : m = n := h
      exact hmn ▸ hF
  | b :: blocks, m, n, F, h, hF, hn => by
      have hlt : m + 2 ^ b.1 < 2 ^ F.length := Nat.lt_of_le_of_lt h.2.le hn
      show Shaped n (carryBlocks node (carryAt node b.1 b.2 F) blocks)
      refine Covers.shaped h.2 (hF.carryAt node b.1 b.2 h.1 hlt) ?_
      rwa [length_carryAt]

/-- A counter that is not zero has a root. -/
theorem foldRoot_isSome : ∀ {F : List (Option α)} {n : Nat} {acc : Option α},
    Shaped n F → (0 < n ∨ acc.isSome) →
    ∃ r, foldRoot node F acc = some r
  | [], n, acc, h, hpos => by
      have h0 : n = 0 := h
      exact Option.isSome_iff_exists.mp (hpos.resolve_left (by omega))
  | x :: F, n, acc, h, hpos => by
      refine foldRoot_isSome (F := F) h.2 ?_
      cases x with
      | some s => exact Or.inr rfl
      | none =>
          have heven : ¬n % 2 = 1 := by simpa using h.1
          rcases hpos with hn | hacc
          · exact Or.inl (by omega)
          · exact Or.inr hacc

/-- The block of leaves appended last. -/
theorem carryAt_take {N : Nat} {l : List α} {m k : Nat} (hm : m % 2 ^ k = 0)
    (hfit : m + 2 ^ k ≤ l.length) :
    ∃ r, treeRoot node ((l.take (m + 2 ^ k)).drop m) = some r ∧
      carryAt node k r (peaks node N (l.take m))
        = peaks node N (l.take (m + 2 ^ k)) ∧
      (∀ p ∈ carryPairs node r ((peaks node N (l.take m)).drop k),
        p ∈ treePairs node l) := by
  have hlen : (l.take m).length = m := by
    rw [List.length_take]
    omega
  have hblock : ((l.take (m + 2 ^ k)).drop m).length = 2 ^ k := by
    rw [List.length_drop, List.length_take]
    omega
  have hne : (l.take (m + 2 ^ k)).drop m ≠ [] := by
    intro hnil
    rw [hnil] at hblock
    exact absurd hblock.symm (Nat.two_pow_pos k).ne'
  have hjoin : l.take m ++ (l.take (m + 2 ^ k)).drop m = l.take (m + 2 ^ k) := by
    conv_rhs => rw [← List.take_append_drop m (l.take (m + 2 ^ k))]
    rw [List.take_take, Nat.min_eq_left (Nat.le_add_right m _)]
  obtain ⟨r, hr⟩ := treeRoot_isSome node hne
  refine ⟨r, hr, ?_, fun p hp => ?_⟩
  · rw [carryAt_peaks node k N _ _ r (by rw [hlen]; exact hm) hblock hr, hjoin]
  · have hsub := carryPairs_drop_peaks_subset node k N (l.take m) _ r
      (by rw [hlen]; exact hm) hblock hr hp
    rw [hjoin] at hsub
    have hall := fullPairs_subset_treePairs node (l.take (m + 2 ^ k))
      (l.drop (m + 2 ^ k)) hsub
    rwa [List.take_append_drop] at hall

variable {S : Set (α × α)}

/-- Reading the blocks backwards: if they lead to the counter of a leaf
list, they started at the counter of its prefix. -/
theorem peaks_of_carryBlocks (hS : NodeInj node S) {N : Nat} {l : List α}
    (hN : l.length < 2 ^ N) (hl : ∀ p ∈ treePairs node l, p ∈ S) :
    ∀ {blocks : List (Nat × α)} {m : Nat} {F : List (Option α)},
      Covers m l.length blocks → Shaped m F → F.length = N →
      (∀ p ∈ blockPairs node F blocks, p ∈ S) →
      carryBlocks node F blocks = peaks node N l →
      F = peaks node N (l.take m)
  | [], m, F, h, _, _, _, hend => by
      have hmn : m = l.length := h
      rw [hmn, List.take_length]
      exact hend
  | b :: blocks, m, F, h, hF, hlen, hp, hend => by
      have hle := h.2.le
      have hmle : m ≤ l.length := Nat.le_trans (Nat.le_add_right m _) hle
      have hlt : m + 2 ^ b.1 < 2 ^ N := Nat.lt_of_le_of_lt hle hN
      have hstep := hF.carryAt node b.1 b.2 h.1 (by rw [hlen]; exact hlt)
      have hnext := peaks_of_carryBlocks hS hN hl h.2 hstep
        (by rw [length_carryAt, hlen])
        (fun p hq => hp p (List.mem_append_right _ hq)) hend
      obtain ⟨r, -, hcarry, hpairs⟩ := carryAt_take node (N := N) h.1 hle
      have htake : (l.take m).length = m := by
        rw [List.length_take, Nat.min_eq_left hmle]
      have hshape : Shaped m (peaks node N (l.take m)) := by
        have hs := shaped_peaks node N (l.take m) (by
          rw [htake]
          omega)
        rwa [htake] at hs
      rw [← hcarry] at hnext
      exact (carryAt_inj node hS b.1 hF hshape
        (by rw [hlen, length_peaks]) h.1 (by rw [hlen]; exact hlt)
        (fun p hq => hp p (List.mem_append_left _ hq))
        (fun p hq => hl p (hpairs p hq)) hnext).2

/-- **Append-only consistency.** Blocks that lead from a counter with the
root of `l` to one with the root of `u` prove that `l` is a prefix of
`u`. -/
theorem take_of_carryBlocks (hS : NodeInj node S) {N : Nat} {l u : List α}
    (hN : u.length < 2 ^ N)
    (hl : ∀ p ∈ treePairs node l, p ∈ S)
    (hu : ∀ p ∈ treePairs node u, p ∈ S)
    {blocks : List (Nat × α)} {F : List (Option α)}
    (hcover : Covers l.length u.length blocks) (hF : Shaped l.length F)
    (hlen : F.length = N)
    (hstart : ∀ p ∈ foldPairs node F none, p ∈ S)
    (hblocks : ∀ p ∈ blockPairs node F blocks, p ∈ S)
    (hfinal : ∀ p ∈ foldPairs node (carryBlocks node F blocks) none, p ∈ S)
    (hroot : foldRoot node F none = treeRoot node l)
    (hroot' : foldRoot node (carryBlocks node F blocks) none
      = treeRoot node u) :
    l = u.take l.length := by
  have hle := hcover.le
  have hfold : ∀ {l : List α}, (∀ p ∈ treePairs node l, p ∈ S) →
      ∀ p ∈ foldPairs node (peaks node N l) none, p ∈ S := by
    intro l hl p hp
    have hsub := foldPairs_peaks_subset node N l none hp
    rw [Option.toList_none, List.append_nil] at hsub
    exact hl p hsub
  -- the last counter is the counter of the long list
  have hend : carryBlocks node F blocks = peaks node N u := by
    refine (foldRoot_inj node hS (hcover.shaped node hF (by rw [hlen]; exact hN))
      (shaped_peaks node N u hN) ?_ rfl hfinal (hfold hu) ?_).1
    · rw [length_carryBlocks, hlen, length_peaks]
    · rw [hroot', treeRoot_eq_foldRoot node hN]
  -- so the first one is the counter of a prefix, and of the short list
  have hfirst := peaks_of_carryBlocks node hS hN hu hcover hF hlen hblocks hend
  have hshort : F = peaks node N l := by
    refine (foldRoot_inj node hS hF (shaped_peaks node N l (by omega))
      (by rw [hlen, length_peaks]) rfl hstart (hfold hl) ?_).1
    rw [hroot, treeRoot_eq_foldRoot node (N := N) (by omega)]
  refine peaks_inj node hS N ?_ (by omega) ?_ ?_ (hshort.symm.trans hfirst)
  · rw [List.length_take]
    omega
  · intro p hp
    have hsub := fullPairs_subset_treePairs node l [] hp
    rw [List.append_nil] at hsub
    exact hl p hsub
  · intro p hp
    have hsub := fullPairs_subset_treePairs node (u.take l.length)
      (u.drop l.length) hp
    rw [List.take_append_drop] at hsub
    exact hu p hsub

end RbfSafe.Lib.Forest
