/-
Two logs and what they have in common.

Two logs that are read from their first entries agree for a while: the
longest common prefix, counted by `commonCount`. What the count says of
the two logs is all in `LongestCommon`: one log is a prefix of the other
exactly if the count reaches its length (`prefix_iff`), so that comparing
the count with the two lengths tells whether the logs are one, whether
one goes on from the other, or whether they fork.

# Entries compared by a part of them

The entries are compared by a test that need not look at all of an entry.
`longest_of_same` asks only that the test agree with equality on the
entries at hand, after a map: the log that is counted may carry more than
the log that is spoken of.
-/
import Mathlib.Data.List.Infix
import Mathlib.Tactic

namespace RbfSafe.Lib.Prefix

variable {α β : Type}

/-- How many entries two logs begin with in common, as a test has it. -/
def commonCount (same : β → β → Bool) : List β → List β → Nat
  | x :: xs, y :: ys => if same x y = true then commonCount same xs ys + 1 else 0
  | _, _ => 0

/-- The longest common prefix of two logs has `n` entries. -/
structure LongestCommon (xs ys : List α) (n : Nat) : Prop where
  le_left : n ≤ xs.length
  le_right : n ≤ ys.length
  take_eq : xs.take n = ys.take n
  maximal : ∀ zs : List α, zs <+: xs → zs <+: ys → zs.length ≤ n

namespace LongestCommon

variable {xs ys : List α} {n : Nat}

theorem symm (h : LongestCommon xs ys n) : LongestCommon ys xs n :=
  ⟨h.le_right, h.le_left, h.take_eq.symm, fun zs hx hy => h.maximal zs hy hx⟩

theorem unique {m : Nat} (h : LongestCommon xs ys n)
    (h' : LongestCommon xs ys m) : n = m := by
  have hle : ∀ {n m : Nat}, LongestCommon xs ys n → LongestCommon xs ys m →
      n ≤ m := by
    intro n m h h'
    have hshared := h'.maximal (xs.take n) (List.take_prefix n xs)
      (h.take_eq ▸ List.take_prefix n ys)
    rwa [List.length_take, min_eq_left h.le_left] at hshared
  exact le_antisymm (hle h h') (hle h' h)

/-- The first log is a prefix of the second exactly if all of it is
common. -/
theorem prefix_iff (h : LongestCommon xs ys n) : xs <+: ys ↔ n = xs.length := by
  constructor
  · intro hprefix
    have hlonger := h.maximal xs List.prefix_rfl hprefix
    exact le_antisymm h.le_left hlonger
  · intro hlength
    have htake : xs = ys.take n := by
      rw [← h.take_eq, hlength, List.take_length]
    rw [htake]
    exact List.take_prefix n ys

/-- Both logs are wholly common exactly if they are one. -/
theorem eq_iff (h : LongestCommon xs ys n) :
    xs = ys ↔ n = xs.length ∧ n = ys.length := by
  rw [← h.prefix_iff, ← h.symm.prefix_iff]
  constructor
  · intro heq
    rw [heq]
    exact ⟨List.prefix_rfl, List.prefix_rfl⟩
  · intro hboth
    exact hboth.1.eq_of_length_le hboth.2.length_le

end LongestCommon

/-- The count is that of the longest common prefix, if the test tells the
entries apart. -/
theorem longest_of_same {same : β → β → Bool} {f : β → α} {zs ws : List β}
    (h : ∀ z ∈ zs, ∀ w ∈ ws, same z w = true ↔ f z = f w) :
    LongestCommon (zs.map f) (ws.map f) (commonCount same zs ws) := by
  induction zs generalizing ws with
  | nil =>
      refine ⟨le_rfl, Nat.zero_le _, rfl, fun vs hvs _ => ?_⟩
      rw [List.prefix_nil.mp hvs]
      exact le_rfl
  | cons z zs ih =>
      cases ws with
      | nil =>
          refine ⟨Nat.zero_le _, le_rfl, rfl, fun vs _ hvs => ?_⟩
          rw [List.prefix_nil.mp hvs]
          exact le_rfl
      | cons w ws =>
          have hhead := h z List.mem_cons_self w List.mem_cons_self
          have hrest := ih fun z' hz' w' hw' =>
            h z' (List.mem_cons_of_mem z hz') w' (List.mem_cons_of_mem w hw')
          rw [commonCount]
          by_cases hsame : same z w = true
          · rw [if_pos hsame]
            refine ⟨Nat.succ_le_succ hrest.le_left,
              Nat.succ_le_succ hrest.le_right, ?_, fun vs hvs hvs' => ?_⟩
            · rw [List.map_cons, List.map_cons, List.take_succ_cons,
                List.take_succ_cons, hhead.mp hsame, hrest.take_eq]
            · cases vs with
              | nil => exact Nat.zero_le _
              | cons v vs =>
                  rw [List.map_cons, List.cons_prefix_cons] at hvs hvs'
                  exact Nat.succ_le_succ (hrest.maximal vs hvs.2 hvs'.2)
          · rw [if_neg hsame]
            refine ⟨Nat.zero_le _, Nat.zero_le _, rfl, fun vs hvs hvs' => ?_⟩
            cases vs with
            | nil => exact le_rfl
            | cons v vs =>
                rw [List.map_cons, List.cons_prefix_cons] at hvs hvs'
                exact absurd (hhead.mpr (hvs.1.symm.trans hvs'.1)) hsame

end RbfSafe.Lib.Prefix
