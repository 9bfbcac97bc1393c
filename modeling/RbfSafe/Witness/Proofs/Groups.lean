/-
What the grouping leaves of the order of the messages: nothing.

`Collected` says which messages a map entry holds, in the order they
came in, and is kept by every message added (`Collected.addToGroup`).
Its keys are then determined by the set of checkpoints, and each entry
up to the order of its messages, which the sort removes
(`sortGroups_congr`). `Grouped` is what the passes over the sorted
groups use.
-/
import RbfSafe.Witness.Audit

namespace RbfSafe

open Lib.Sorting

-- === the map

/-- A map of groups holds exactly the messages of a list. -/
structure Collected (gossip : List TransparencyCheckpointGossip)
    (groups : List (Bytes × CheckpointGroup)) : Prop where
  sorted : groups.Pairwise fun e f => e.1 < f.1
  messages : ∀ e ∈ groups, e.2.gossip
    = gossip.filter fun m => decide (m.checkpoint.id = e.1)
  checkpoint : ∀ e ∈ groups, ∃ m ∈ e.2.gossip, m.checkpoint = e.2.checkpoint
  cover : ∀ m ∈ gossip, ∃ e ∈ groups, e.1 = m.checkpoint.id

theorem collected_nil : Collected [] [] where
  sorted := List.Pairwise.nil
  messages := fun _ h => absurd h List.not_mem_nil
  checkpoint := fun _ h => absurd h List.not_mem_nil
  cover := fun _ h => absurd h List.not_mem_nil

/-- An entry after a message was added: an old one, or the entry of the
message. -/
theorem mem_addToGroup {message : TransparencyCheckpointGossip}
    {e : Bytes × CheckpointGroup} :
    ∀ {groups : List (Bytes × CheckpointGroup)},
      groups.Pairwise (fun e f => e.1 < f.1) →
      e ∈ addToGroup message groups →
      (e ∈ groups ∧ e.1 ≠ message.checkpoint.id) ∨
        (e.1 = message.checkpoint.id ∧ e.2.checkpoint = message.checkpoint ∧
          ((∃ group, (message.checkpoint.id, group) ∈ groups ∧
              e.2.gossip = group.gossip ++ [message]) ∨
            ((∀ f ∈ groups, f.1 ≠ message.checkpoint.id) ∧
              e.2.gossip = [message])))
  | [], _, h => by
      rw [addToGroup, List.mem_singleton] at h
      subst h
      exact Or.inr ⟨rfl, rfl, Or.inr ⟨fun _ h => absurd h List.not_mem_nil, rfl⟩⟩
  | (id, group) :: rest, hsorted, h => by
      obtain ⟨hid, hrest⟩ := List.pairwise_cons.mp hsorted
      rw [addToGroup] at h
      split at h
      · next heq =>
          subst heq
          rcases List.mem_cons.mp h with rfl | h
          · exact Or.inr ⟨rfl, rfl, Or.inl ⟨group, List.mem_cons_self, rfl⟩⟩
          · refine Or.inl ⟨List.mem_cons_of_mem _ h, fun hkey => ?_⟩
            exact List.lt_irrefl _ (hkey ▸ hid e h)
      next hne =>
      split at h
      · next hlt =>
          have habove : ∀ f ∈ (id, group) :: rest, message.checkpoint.id < f.1 := by
            intro f hf
            rcases List.mem_cons.mp hf with rfl | hf
            · exact hlt
            · exact List.lt_trans hlt (hid f hf)
          have hother : ∀ f ∈ (id, group) :: rest,
              f.1 ≠ message.checkpoint.id := by
            intro f hf hkey
            exact List.lt_irrefl _ (hkey ▸ habove f hf)
          rcases List.mem_cons.mp h with rfl | h
          · exact Or.inr ⟨rfl, rfl, Or.inr ⟨hother, rfl⟩⟩
          · exact Or.inl ⟨h, hother e h⟩
      · rcases List.mem_cons.mp h with rfl | h
        · exact Or.inl ⟨List.mem_cons_self, fun hkey => hne hkey.symm⟩
        · rcases mem_addToGroup hrest h with ⟨hmem, hkey⟩ | ⟨hkey, hcp, hold⟩
          · exact Or.inl ⟨List.mem_cons_of_mem _ hmem, hkey⟩
          · refine Or.inr ⟨hkey, hcp, ?_⟩
            rcases hold with ⟨g, hg, hgossip⟩ | ⟨hother, hgossip⟩
            · exact Or.inl ⟨g, List.mem_cons_of_mem _ hg, hgossip⟩
            · refine Or.inr ⟨fun f hf => ?_, hgossip⟩
              rcases List.mem_cons.mp hf with rfl | hf
              · exact fun hkey => hne hkey.symm
              · exact hother f hf

/-- The keys after a message was added. -/
theorem key_mem_addToGroup {message : TransparencyCheckpointGossip}
    {key : Bytes} : ∀ {groups : List (Bytes × CheckpointGroup)},
      (∃ e ∈ addToGroup message groups, e.1 = key) ↔
        key = message.checkpoint.id ∨ ∃ e ∈ groups, e.1 = key
  | [] => by simp [addToGroup, eq_comm]
  | (id, group) :: rest => by
      have ih : (∃ e ∈ addToGroup message rest, e.1 = key) ↔ _ :=
        key_mem_addToGroup
      rw [addToGroup]
      split
      · next heq =>
          simp only [List.mem_cons, exists_eq_or_imp, heq]
          constructor
          · exact Or.inr
          · rintro (h | h)
            · exact Or.inl h.symm
            · exact h
      split
      · simp only [List.mem_cons, exists_eq_or_imp, eq_comm]
      · simp only [List.mem_cons, exists_eq_or_imp, ih]
        exact or_left_comm

theorem addToGroup_sorted (message : TransparencyCheckpointGossip) :
    ∀ {groups : List (Bytes × CheckpointGroup)},
      groups.Pairwise (fun e f => e.1 < f.1) →
      (addToGroup message groups).Pairwise fun e f => e.1 < f.1
  | [], _ => List.pairwise_singleton _ _
  | (id, group) :: rest, h => by
      obtain ⟨hid, hrest⟩ := List.pairwise_cons.mp h
      rw [addToGroup]
      split
      · exact List.pairwise_cons.mpr ⟨hid, hrest⟩
      next hne =>
      split
      · next hlt =>
          refine List.pairwise_cons.mpr ⟨fun f hf => ?_, h⟩
          rcases List.mem_cons.mp hf with rfl | hf
          · exact hlt
          · exact List.lt_trans hlt (hid f hf)
      · next hlt =>
          refine List.pairwise_cons.mpr
            ⟨fun f hf => ?_, addToGroup_sorted message hrest⟩
          rcases key_mem_addToGroup.mp ⟨f, hf, rfl⟩ with hkey | ⟨e, he, hkey⟩
          · rw [hkey]
            by_contra hcontra
            exact hne (List.le_antisymm (List.not_lt.mp hcontra)
              (List.not_lt.mp hlt))
          · rw [← hkey]
            exact hid e he

theorem length_addToGroup (message : TransparencyCheckpointGossip) :
    ∀ groups : List (Bytes × CheckpointGroup),
      groups.length ≤ (addToGroup message groups).length
  | [] => Nat.zero_le _
  | (id, group) :: rest => by
      have ih := length_addToGroup message rest
      rw [addToGroup]
      split
      · exact le_rfl
      split
      · exact Nat.le_succ _
      · exact Nat.succ_le_succ ih

/-- One more message is collected. -/
theorem Collected.addToGroup {gossip : List TransparencyCheckpointGossip}
    {groups : List (Bytes × CheckpointGroup)} (h : Collected gossip groups)
    (message : TransparencyCheckpointGossip) :
    Collected (gossip ++ [message]) (addToGroup message groups) := by
  refine ⟨addToGroup_sorted message h.sorted, fun e he => ?_, fun e he => ?_,
    fun m hm => ?_⟩
  · rw [List.filter_append]
    rcases mem_addToGroup h.sorted he with ⟨hmem, hkey⟩ | ⟨hkey, -, hold⟩
    · rw [h.messages e hmem, List.filter_cons_of_neg (by simpa using hkey.symm)]
      simp
    · rw [List.filter_cons_of_pos (by simpa using hkey.symm), hkey]
      rcases hold with ⟨group, hgroup, hgossip⟩ | ⟨hother, hgossip⟩
      · rw [hgossip, h.messages _ hgroup]
        rfl
      · have hnone : gossip.filter (fun m =>
            decide (m.checkpoint.id = message.checkpoint.id)) = [] := by
          rw [List.filter_eq_nil_iff]
          intro m hm hid
          obtain ⟨f, hf, hfkey⟩ := h.cover m hm
          exact hother f hf (hfkey.trans (by simpa using hid))
        rw [hgossip, hnone]
        rfl
  · rcases mem_addToGroup h.sorted he with ⟨hmem, -⟩ | ⟨-, hcp, hold⟩
    · exact h.checkpoint e hmem
    · refine ⟨message, ?_, hcp.symm⟩
      rcases hold with ⟨group, -, hgossip⟩ | ⟨-, hgossip⟩
      · simp [hgossip]
      · simp [hgossip]
  · rcases List.mem_append.mp hm with hm | hm
    · exact key_mem_addToGroup.mpr (Or.inr (h.cover m hm))
    · exact key_mem_addToGroup.mpr
        (Or.inl (by rw [List.mem_singleton.mp hm]))

/-- The map of a list of messages. -/
def collect (groups : List (Bytes × CheckpointGroup))
    (gossip : List TransparencyCheckpointGossip) :
    List (Bytes × CheckpointGroup) :=
  gossip.foldl (fun groups message => addToGroup message groups) groups

theorem Collected.collect : ∀ {gossip before : List TransparencyCheckpointGossip}
    {groups : List (Bytes × CheckpointGroup)}, Collected before groups →
    Collected (before ++ gossip) (collect groups gossip)
  | [], _, _, h => by simpa [RbfSafe.collect] using h
  | message :: gossip, before, groups, h => by
      have hrest : Collected (before ++ [message] ++ gossip) _ :=
        (h.addToGroup message).collect
      rwa [List.append_assoc, List.singleton_append] at hrest

/-- The map of a list of messages holds them. -/
theorem collected (gossip : List TransparencyCheckpointGossip) :
    Collected gossip (collect [] gossip) := by
  have h : Collected ([] ++ gossip) (collect [] gossip) :=
    collected_nil.collect
  rwa [List.nil_append] at h

theorem length_collect (gossip : List TransparencyCheckpointGossip) :
    ∀ groups : List (Bytes × CheckpointGroup),
      groups.length ≤ (collect groups gossip).length := by
  induction gossip with
  | nil => exact fun groups => le_rfl
  | cons message gossip ih =>
      intro groups
      exact (length_addToGroup message groups).trans (ih _)

-- === the loop

/-- On verified messages with ids of their own, the loop collects all of
them, or the limit on checkpoints stops it. -/
theorem collectGroups_eq {P : Platform} {identity : TransparencyLogIdentity}
    {trustBundle : ServiceTrustBundle}
    {options : TransparencyGossipAuditOptions}
    (hcancelled : options.cancelled = false) :
    ∀ {gossip : List TransparencyCheckpointGossip} {gossipIds : List Bytes}
      {groups : List (Bytes × CheckpointGroup)},
      (∀ m ∈ gossip, verifyTransparencyCheckpointGossip P identity m trustBundle
        = .ok ()) →
      (gossip.map (·.id)).Nodup → (∀ m ∈ gossip, m.id ∉ gossipIds) →
      groups.length ≤ options.maximumUniqueCheckpoints →
      collectGroups P identity trustBundle options gossipIds groups gossip
        = if (collect groups gossip).length
            > options.maximumUniqueCheckpoints then
          failure .resourceLimit
            "transparency gossip unique checkpoint count exceeds configured limit"
        else .ok (collect groups gossip)
  | [], gossipIds, groups, _, _, _, hlength => by
      have hcollect : collect groups [] = groups := rfl
      rw [hcollect, if_neg (Nat.not_lt.mpr hlength)]
      rfl
  | message :: rest, gossipIds, groups, hverified, hnodup, hnew, hlength => by
      obtain ⟨hother, hrest⟩ := List.nodup_cons.mp hnodup
      have hmessage := hverified message List.mem_cons_self
      have hstep : collect groups (message :: rest)
          = collect (addToGroup message groups) rest := rfl
      rw [collectGroups, hcancelled, if_neg Bool.false_ne_true, hmessage,
        ok_bind, if_neg (hnew message List.mem_cons_self), hstep]
      by_cases hlimit : (addToGroup message groups).length
          > options.maximumUniqueCheckpoints
      · have hgrow := length_collect rest (addToGroup message groups)
        rw [if_pos hlimit, if_pos (Nat.lt_of_lt_of_le hlimit hgrow)]
      · rw [if_neg hlimit]
        refine collectGroups_eq hcancelled
          (fun m hm => hverified m (List.mem_cons_of_mem _ hm)) hrest
          (fun m hm hmem => ?_) (Nat.not_lt.mp hlimit)
        rcases List.mem_cons.mp hmem with heq | hmem
        · exact hother (List.mem_map.mpr ⟨m, hm, heq⟩)
        · exact hnew m (List.mem_cons_of_mem _ hm) hmem

/-- What a run of the loop that returns has collected and checked. -/
theorem collectGroups_ok {P : Platform} {identity : TransparencyLogIdentity}
    {trustBundle : ServiceTrustBundle}
    {options : TransparencyGossipAuditOptions}
    {groups' : List (Bytes × CheckpointGroup)} :
    ∀ {gossip : List TransparencyCheckpointGossip} {gossipIds : List Bytes}
      {groups : List (Bytes × CheckpointGroup)},
      collectGroups P identity trustBundle options gossipIds groups gossip
        = .ok groups' →
      groups' = collect groups gossip ∧
        ∀ m ∈ gossip, verifyTransparencyCheckpointGossip P identity m trustBundle
          = .ok ()
  | [], gossipIds, groups, h => by
      cases h
      exact ⟨rfl, fun _ h => absurd h List.not_mem_nil⟩
  | message :: rest, gossipIds, groups, h => by
      rw [collectGroups, ite_failure_eq_ok, check_eq_ok, ite_failure_eq_ok,
        ite_failure_eq_ok] at h
      obtain ⟨-, hmessage, -, -, hloop⟩ := h
      obtain ⟨heq, hrest⟩ := collectGroups_ok hloop
      refine ⟨heq, fun m hm => ?_⟩
      rcases List.mem_cons.mp hm with rfl | hm
      · exact hmessage
      · exact hrest m hm

-- === the sorted groups

/-- The sorted groups of a list of messages. -/
structure Grouped (gossip : List TransparencyCheckpointGossip)
    (groups : List CheckpointGroup) : Prop where
  distinct : (groups.map (·.checkpoint.id)).Nodup
  ordered : groups.Pairwise fun g h =>
    g.checkpoint.treeSize ≤ h.checkpoint.treeSize
  messages : ∀ g ∈ groups, ∀ m,
    m ∈ g.gossip ↔ m ∈ gossip ∧ m.checkpoint.id = g.checkpoint.id
  checkpoint : ∀ g ∈ groups, ∃ m ∈ g.gossip, m.checkpoint = g.checkpoint
  cover : ∀ m ∈ gossip, ∃ g ∈ groups, g.checkpoint.id = m.checkpoint.id

theorem groupLe_iff {first second : CheckpointGroup} :
    (!groupLt second first) = true ↔
      first.checkpoint.treeSize < second.checkpoint.treeSize ∨
        (first.checkpoint.treeSize = second.checkpoint.treeSize ∧
          first.checkpoint.id ≤ second.checkpoint.id) := by
  simp only [groupLt, Bool.not_eq_true', Bool.or_eq_false_iff,
    decide_eq_false_iff_not, Bool.and_eq_false_iff, beq_eq_false_iff_ne,
    UInt64.lt_iff_toNat_lt, ne_eq, ← UInt64.toNat_inj, List.not_lt]
  by_cases hid : first.checkpoint.id ≤ second.checkpoint.id
  · simp only [hid, or_true, and_true]
    omega
  · simp only [hid, or_false, and_false]
    omega

/-- The groups come sorted by size. -/
theorem pairwise_sortGroups (groupsById : List (Bytes × CheckpointGroup)) :
    (sortGroups groupsById).Pairwise fun g h =>
      g.checkpoint.treeSize ≤ h.checkpoint.treeSize := by
  have hsorted := @List.pairwise_mergeSort _
    (fun first second => !groupLt second first)
    (fun a b c hab hbc => by
      rw [groupLe_iff] at hab hbc ⊢
      simp only [UInt64.lt_iff_toNat_lt, ← UInt64.toNat_inj] at hab hbc ⊢
      rcases hab with hab | ⟨hab, hid⟩
      · omega
      · rcases hbc with hbc | ⟨hbc, hid'⟩
        · omega
        · exact Or.inr ⟨hab.trans hbc, List.le_trans hid hid'⟩)
    (fun a b => by
      rw [Bool.or_eq_true, groupLe_iff, groupLe_iff]
      simp only [UInt64.lt_iff_toNat_lt, ← UInt64.toNat_inj]
      rcases List.le_total a.checkpoint.id b.checkpoint.id with hid | hid
      · simp only [hid, and_true]
        omega
      · simp only [hid, and_true]
        omega)
  refine (hsorted _).imp fun h => ?_
  rw [UInt64.le_iff_toNat_le]
  rcases groupLe_iff.mp h with h | h
  · exact Nat.le_of_lt (UInt64.lt_iff_toNat_lt.mp h)
  · exact (congrArg _ h.1).le

/-- A sorted group is an entry of the map, with its messages sorted. -/
theorem mem_sortGroups {groupsById : List (Bytes × CheckpointGroup)}
    {group : CheckpointGroup} :
    group ∈ sortGroups groupsById ↔ ∃ e ∈ groupsById,
      group = ⟨e.2.checkpoint, sortGossip e.2.gossip⟩ := by
  unfold sortGroups
  rw [(List.mergeSort_perm _ _).mem_iff, List.mem_map]
  constructor
  · rintro ⟨e, he, heq⟩
    exact ⟨e, he, heq.symm⟩
  · rintro ⟨e, he, heq⟩
    exact ⟨e, he, heq.symm⟩

theorem Collected.key {gossip : List TransparencyCheckpointGossip}
    {groups : List (Bytes × CheckpointGroup)} (h : Collected gossip groups)
    {e : Bytes × CheckpointGroup} (he : e ∈ groups) :
    e.2.checkpoint.id = e.1 := by
  obtain ⟨m, hm, hcheckpoint⟩ := h.checkpoint e he
  rw [h.messages e he, List.mem_filter] at hm
  rw [← hcheckpoint]
  simpa using hm.2

/-- The groups the passes run over. -/
theorem Collected.grouped {gossip : List TransparencyCheckpointGossip}
    {groupsById : List (Bytes × CheckpointGroup)}
    (h : Collected gossip groupsById) :
    Grouped gossip (sortGroups groupsById) where
  distinct := by
    have hperm : ((sortGroups groupsById).map (·.checkpoint.id)).Perm
        (groupsById.map (·.1)) := by
      refine ((List.mergeSort_perm _ _).map _).trans (List.Perm.of_eq ?_)
      rw [List.map_map]
      exact List.map_congr_left fun e he => h.key he
    refine hperm.nodup_iff.mpr ?_
    refine List.Pairwise.imp ?_ (List.pairwise_map.mpr h.sorted)
    intro a b hab heq
    exact List.lt_irrefl _ (heq ▸ hab)
  ordered := pairwise_sortGroups groupsById
  messages := fun g hg m => by
    obtain ⟨e, he, rfl⟩ := mem_sortGroups.mp hg
    show m ∈ sort (·.id) e.2.gossip ↔ m ∈ gossip ∧ m.checkpoint.id
      = e.2.checkpoint.id
    rw [mem_sort, h.messages e he, List.mem_filter, h.key he]
    simp
  checkpoint := fun g hg => by
    obtain ⟨e, he, rfl⟩ := mem_sortGroups.mp hg
    obtain ⟨m, hm, hcheckpoint⟩ := h.checkpoint e he
    exact ⟨m, (mem_sort _).mpr hm, hcheckpoint⟩
  cover := fun m hm => by
    obtain ⟨e, he, hkey⟩ := h.cover m hm
    exact ⟨_, mem_sortGroups.mpr ⟨e, he, rfl⟩, (h.key he).trans hkey⟩

/-- Two maps with the messages of one list in different orders. -/
theorem keys_congr {gossip gossip' : List TransparencyCheckpointGossip}
    {groups groups' : List (Bytes × CheckpointGroup)}
    (hperm : gossip.Perm gossip') (h : Collected gossip groups)
    (h' : Collected gossip' groups') :
    groups.map (·.1) = groups'.map (·.1) := by
  have hkeys : ∀ {gossip : List TransparencyCheckpointGossip}
      {groups : List (Bytes × CheckpointGroup)}, Collected gossip groups →
      ∀ key, key ∈ groups.map (·.1) ↔ ∃ m ∈ gossip, m.checkpoint.id = key := by
    intro gossip groups h key
    rw [List.mem_map]
    constructor
    · rintro ⟨e, he, rfl⟩
      obtain ⟨m, hm, hcheckpoint⟩ := h.checkpoint e he
      rw [h.messages e he, List.mem_filter] at hm
      exact ⟨m, hm.1, by simpa using hm.2⟩
    · rintro ⟨m, hm, rfl⟩
      exact h.cover m hm
  have hstrict : ∀ {gossip : List TransparencyCheckpointGossip}
      {groups : List (Bytes × CheckpointGroup)}, Collected gossip groups →
      (groups.map (·.1)).Pairwise (· < ·) :=
    fun h => List.pairwise_map.mpr h.sorted
  have hnodup : ∀ {keys : List Bytes}, keys.Pairwise (· < ·) → keys.Nodup := by
    intro keys h
    refine List.Pairwise.imp ?_ h
    intro a b hab heq
    exact List.lt_irrefl _ (heq ▸ hab)
  refine List.Perm.eq_of_pairwise
    (fun a b _ _ hab hba => absurd hba (List.lt_asymm hab))
    (hstrict h) (hstrict h') ?_
  refine (List.perm_ext_iff_of_nodup (hnodup (hstrict h))
    (hnodup (hstrict h'))).mpr fun key => ?_
  rw [hkeys h, hkeys h']
  simp only [hperm.mem_iff]

/-- **The order of the messages is forgotten**, where checkpoints of one
id are one checkpoint and the messages have ids of their own. -/
theorem sortGroups_congr {gossip gossip' : List TransparencyCheckpointGossip}
    {groups groups' : List (Bytes × CheckpointGroup)}
    (hperm : gossip.Perm gossip') (h : Collected gossip groups)
    (h' : Collected gossip' groups')
    (hid : Set.InjOn TransparencyCheckpointGossip.id {m | m ∈ gossip})
    (hcheckpoint : ∀ m ∈ gossip, ∀ m' ∈ gossip,
      m.checkpoint.id = m'.checkpoint.id → m.checkpoint = m'.checkpoint) :
    sortGroups groups = sortGroups groups' := by
  have hkeys := keys_congr hperm h h'
  have hlength : groups.length = groups'.length := by
    simpa using congrArg List.length hkeys
  unfold sortGroups
  congr 1
  refine List.ext_getElem (by simpa using hlength) fun i hi hi' => ?_
  rw [List.length_map] at hi hi'
  rw [List.getElem_map, List.getElem_map]
  have hkey : (groups[i]).1 = (groups'[i]).1 := by
    have hget : (groups.map (·.1))[i]? = (groups'.map (·.1))[i]? := by
      rw [hkeys]
    simpa [hi, hi'] using hget
  have hmem : groups[i] ∈ groups := List.getElem_mem hi
  have hmem' : groups'[i] ∈ groups' := List.getElem_mem hi'
  have hmessages := h.messages _ hmem
  have hmessages' := h'.messages _ hmem'
  have hsame : groups[i].2.checkpoint = groups'[i].2.checkpoint := by
    obtain ⟨m, hm, heq⟩ := h.checkpoint _ hmem
    obtain ⟨m', hm', heq'⟩ := h'.checkpoint _ hmem'
    rw [hmessages, List.mem_filter] at hm
    rw [hmessages', List.mem_filter] at hm'
    have hm₁ : m.checkpoint.id = groups[i].1 := by simpa using hm.2
    have hm₂ : m'.checkpoint.id = groups'[i].1 := by simpa using hm'.2
    rw [← heq, ← heq']
    exact hcheckpoint m hm.1 m' (hperm.mem_iff.mpr hm'.1)
      (hm₁.trans (hkey.trans hm₂.symm))
  have hgossip : sortGossip groups[i].2.gossip = sortGossip groups'[i].2.gossip := by
    rw [hmessages, hmessages', hkey]
    refine sort_congr _ (hperm.filter _) ?_
    exact hid.mono fun m hm => (List.mem_filter.mp hm).1
  exact (CheckpointGroup.mk.injEq ..).mpr ⟨hsame, hgossip⟩

end RbfSafe
