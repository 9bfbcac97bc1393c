/-
Prefix-closed lists of words.

The keys of a tree are words over the branches taken. With a key every
key above it is present, so a key is shorter than the list is long
(`length_lt`), and two keys of which neither is above the other part
ways at a common key above both (`exists_divergence`).
-/
import Mathlib.Data.List.Infix
import Mathlib.Data.List.Nodup
import Mathlib.Tactic

namespace RbfSafe.Lib.Words

variable {σ : Type}

/-- With a word the list has the word without its last letter. -/
def PrefixClosed (words : List (List σ)) : Prop :=
  ∀ (u : List σ) (a : σ), u ++ [a] ∈ words → u ∈ words

/-- With a word the list has every word above it. -/
theorem PrefixClosed.mem {words : List (List σ)} (h : PrefixClosed words)
    {u : List σ} : ∀ {s : List σ}, u ++ s ∈ words → u ∈ words := by
  intro s
  induction s using List.reverseRecOn with
  | nil => simp
  | append_singleton s a ih =>
      intro hmem
      rw [← List.append_assoc] at hmem
      exact ih (h _ _ hmem)

/-- The words above a word are as many as its letters, and one more. -/
theorem PrefixClosed.length_lt {words : List (List σ)}
    (h : PrefixClosed words) {u : List σ} (hu : u ∈ words) :
    u.length < words.length := by
  have hsubset : (List.range (u.length + 1)).map (fun n => u.take n)
      ⊆ words := by
    intro v hv
    obtain ⟨n, -, rfl⟩ := List.mem_map.mp hv
    refine h.mem (u := u.take n) (s := u.drop n) ?_
    rw [List.take_append_drop]
    exact hu
  have hnodup : ((List.range (u.length + 1)).map fun n => u.take n).Nodup := by
    refine List.Nodup.map_on ?_ List.nodup_range
    intro m hm n hn heq
    have hlen := congrArg List.length heq
    simp only [List.length_take] at hlen
    rw [List.mem_range] at hm hn
    omega
  have hle := (List.subperm_of_subset hnodup hsubset).length_le
  rw [List.length_map, List.length_range] at hle
  omega

/-- Words of which neither is above the other part ways. -/
theorem exists_divergence : ∀ {u v : List σ}, ¬u <+: v → ¬v <+: u →
    ∃ c a b s t, a ≠ b ∧ u = c ++ a :: s ∧ v = c ++ b :: t
  | [], v, huv, _ => absurd List.nil_prefix huv
  | _ :: _, [], _, hvu => absurd List.nil_prefix hvu
  | a :: u, b :: v, huv, hvu => by
      by_cases hab : a = b
      · subst hab
        rw [List.prefix_cons_inj] at huv hvu
        obtain ⟨c, x, y, s, t, hne, rfl, rfl⟩ := exists_divergence huv hvu
        exact ⟨a :: c, x, y, s, t, hne, rfl, rfl⟩
      · exact ⟨[], a, b, u, v, hab, rfl, rfl⟩

end RbfSafe.Lib.Words
