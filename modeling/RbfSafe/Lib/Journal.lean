/-
Logs that are checked event by event.

# Admission

Whether an event may be appended depends on the events before it.
`Admitted` is the set of logs grown that way from the empty one; a log
is admitted exactly if each of its events was admitted by its prefix
(`admitted_iff`).

# Replay

A checker walks over the log with a state of its own. If that state
represents the prefix and a step succeeds exactly where the event is
admitted, the walk succeeds exactly on admitted logs and ends in a
representation of the log (`Replays.run`).

# Runs

A run that ends with something it did not begin with has a step that
brings it about (`exists_step`).
-/
import Mathlib.Tactic

namespace RbfSafe.Lib.Journal

variable {ε σ : Type}

/-- The logs grown from the empty one by admitted events. -/
inductive Admitted (admits : List ε → ε → Prop) : List ε → Prop
  | nil : Admitted admits []
  | snoc {log : List ε} {event : ε} (hlog : Admitted admits log)
      (hevent : admits log event) : Admitted admits (log ++ [event])

variable {admits admits' : List ε → ε → Prop} {log : List ε} {event : ε}

theorem admitted_snoc_iff :
    Admitted admits (log ++ [event])
      ↔ Admitted admits log ∧ admits log event := by
  constructor
  · intro h
    generalize hfull : log ++ [event] = full at h
    cases h with
    | nil => exact absurd hfull (by simp)
    | snoc hlog hevent =>
        obtain ⟨rfl, hlast⟩ := List.append_inj' hfull rfl
        cases hlast
        exact ⟨hlog, hevent⟩
  · exact fun h => .snoc h.1 h.2

theorem Admitted.mono (h : Admitted admits log)
    (himp : ∀ log event, admits log event → admits' log event) :
    Admitted admits' log := by
  induction h with
  | nil => exact .nil
  | snoc _ hevent ih => exact .snoc ih (himp _ _ hevent)

/-- Every event was admitted by what stands before it. -/
theorem admitted_iff :
    Admitted admits log ↔ ∀ (i : Nat) (event : ε), log[i]? = some event →
      admits (log.take i) event := by
  induction log using List.reverseRecOn with
  | nil => simp [Admitted.nil]
  | append_singleton log last ih =>
      rw [admitted_snoc_iff, ih]
      constructor
      · rintro ⟨hlog, hlast⟩ i event hi
        rcases Nat.lt_trichotomy i log.length with hlt | heq | hgt
        · rw [List.getElem?_append_left hlt] at hi
          rw [List.take_append_of_le_length hlt.le]
          exact hlog i event hi
        · subst heq
          rw [List.getElem?_append_right le_rfl, Nat.sub_self] at hi
          cases hi
          rw [List.take_append_of_le_length le_rfl, List.take_length]
          exact hlast
        · rw [List.getElem?_eq_none (by simp; omega)] at hi
          cases hi
      · intro h
        refine ⟨fun i event hi => ?_, ?_⟩
        · have hlt := (List.getElem?_eq_some_iff.mp hi).1
          have hevent := h i event (by rwa [List.getElem?_append_left hlt])
          rwa [List.take_append_of_le_length hlt.le] at hevent
        · have hevent := h log.length last (by simp)
          rwa [List.take_append_of_le_length le_rfl, List.take_length]
            at hevent

theorem admitted_and_iff :
    Admitted (fun log event => admits log event ∧ admits' log event) log
      ↔ Admitted admits log ∧ Admitted admits' log := by
  rw [admitted_iff, admitted_iff, admitted_iff]
  constructor
  · exact fun h => ⟨fun i event hi => (h i event hi).1,
      fun i event hi => (h i event hi).2⟩
  · exact fun h i event hi => ⟨h.1 i event hi, h.2 i event hi⟩

/-- Events with a key that none before them has. -/
theorem admitted_fresh_iff {κ : Type} {key : ε → κ} :
    Admitted (fun log event => ∀ earlier ∈ log, key earlier ≠ key event) log
      ↔ (log.map key).Nodup := by
  induction log using List.reverseRecOn with
  | nil => simp [Admitted.nil]
  | append_singleton log event ih =>
      rw [admitted_snoc_iff, ih, List.map_append, List.nodup_append]
      simp

/-- A checker whose state represents the log it has walked over. -/
structure Replays (admits : List ε → ε → Prop) (step : σ → ε → Option σ)
    (represents : List ε → σ → Prop) : Prop where
  sound : ∀ {log s s' event}, represents log s → step s event = some s' →
    admits log event ∧ represents (log ++ [event]) s'
  complete : ∀ {log s event}, represents log s → admits log event →
    ∃ s', step s event = some s'

/-- **The walk succeeds exactly on admitted logs.** -/
theorem Replays.run {step : σ → ε → Option σ}
    {represents : List ε → σ → Prop}
    (h : Replays admits step represents) {s₀ : σ} (h₀ : represents [] s₀)
    (log : List ε) :
    (∀ s, log.foldlM step s₀ = some s → Admitted admits log
      ∧ represents log s)
    ∧ (Admitted admits log → ∃ s, log.foldlM step s₀ = some s) := by
  induction log using List.reverseRecOn with
  | nil =>
      refine ⟨fun s hs => ?_, fun _ => ⟨s₀, rfl⟩⟩
      cases hs
      exact ⟨.nil, h₀⟩
  | append_singleton log event ih =>
      rw [List.foldlM_append]
      constructor
      · intro s' hs'
        obtain ⟨s, hs, hstep⟩ := Option.bind_eq_some_iff.mp hs'
        obtain ⟨hlog, hrep⟩ := ih.1 s hs
        have hstep' : step s event = some s' := by
          simpa using hstep
        obtain ⟨hadmits, hrep'⟩ := h.sound hrep hstep'
        exact ⟨.snoc hlog hadmits, hrep'⟩
      · intro hadmitted
        obtain ⟨hlog, hevent⟩ := admitted_snoc_iff.mp hadmitted
        obtain ⟨s, hs⟩ := ih.2 hlog
        obtain ⟨s', hs'⟩ := h.complete (ih.1 s hs).2 hevent
        refine ⟨s', ?_⟩
        rw [hs]
        simpa using hs'

/-- What a run brings about, one of its steps brings about. -/
theorem exists_step {p : σ → Prop} {step : σ → ε → σ} {s : σ} {log : List ε}
    (hbefore : ¬p s) (hafter : p (log.foldl step s)) :
    ∃ front event back, log = front ++ event :: back
      ∧ ¬p (front.foldl step s) ∧ p (step (front.foldl step s) event) := by
  induction log generalizing s with
  | nil => exact absurd hafter hbefore
  | cons event log ih =>
      by_cases hnow : p (step s event)
      · exact ⟨[], event, log, rfl, hbefore, hnow⟩
      · obtain ⟨front, next, back, hlog, hfront, hnext⟩ := ih hnow hafter
        refine ⟨event :: front, next, back, ?_, hfront, hnext⟩
        rw [hlog, List.cons_append]

end RbfSafe.Lib.Journal
