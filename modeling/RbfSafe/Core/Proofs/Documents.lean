/-
Documents made from a brace list tell their fields apart.

Records are hashed as the compact printout of such a document. Two brace
lists over the same keys that print alike have the same values
(`values_of_dump_eq`), whatever order the source names the fields in.
-/
import RbfSafe.Core.Proofs.Grammar

namespace RbfSafe

/-- Literals are told apart by their bytes. -/
theorem ascii_injective {s t : String} (h : ascii s = ascii t) : s = t := by
  unfold ascii at h
  apply String.toByteArray_inj.mp
  rw [String.toUTF8_eq_toByteArray, String.toUTF8_eq_toByteArray] at h
  exact ByteArray.ext (Array.toList_inj.mp h)

namespace Json

/-- A brace list becomes a map of the same fields. -/
theorem obj_perm {fields : List (String × Json)}
    (hnodup : (fields.map fun f => ascii f.1).Nodup) :
    (obj fields).Perm (fields.map fun f => (ascii f.1, f.2)) := by
  have hfold : ∀ (fields : List (String × Json)) (acc : List (Bytes × Json)),
      (fields.map fun f => ascii f.1).Nodup →
      (∀ f ∈ fields, ∀ g ∈ acc, g.1 ≠ ascii f.1) →
      (fields.foldl (fun acc f => emplace (ascii f.1) f.2 acc) acc).Perm
        ((fields.map fun f => (ascii f.1, f.2)) ++ acc) := by
    intro fields
    induction fields with
    | nil => exact fun acc _ _ => .refl _
    | cons field fields ih =>
        intro acc hnodup hnew
        obtain ⟨hkey, hnodup⟩ := List.nodup_cons.mp hnodup
        have hperm := @emplace_perm _ field.2 _ (hnew field List.mem_cons_self)
        refine (ih _ hnodup fun f hf g hg => ?_).trans
          ((hperm.append_left _).trans List.perm_middle)
        rcases List.mem_cons.mp (hperm.subset hg) with rfl | hg
        · exact fun heq => hkey (List.mem_map.mpr ⟨f, hf, heq.symm⟩)
        · exact hnew f (List.mem_cons_of_mem _ hf) g hg
  have h := hfold fields [] hnodup fun f _ g hg => absurd hg List.not_mem_nil
  rwa [List.append_nil] at h

/-- A field emplaced after the brace list is one more entry of it. -/
theorem emplace_obj (key : String) (value : Json)
    (fields : List (String × Json)) :
    emplace (ascii key) value (obj fields) = obj (fields ++ [(key, value)]) := by
  rw [obj, obj, List.foldl_append]
  rfl

/-- A key of a map has one value. -/
theorem eq_of_key {fields : List (Bytes × Json)} {f g : Bytes × Json}
    (hsorted : fields.Pairwise fun f g => f.1 < g.1) (hf : f ∈ fields)
    (hg : g ∈ fields) (hkey : f.1 = g.1) : f = g := by
  have hnodup : (fields.map fun f => f.1).Nodup := by
    refine List.Pairwise.imp ?_ (List.pairwise_map.mpr hsorted)
    intro a b hab heq
    exact List.lt_irrefl _ (heq ▸ hab)
  exact List.inj_on_of_nodup_map hnodup hf hg hkey

/-- Each value can be read off the map. -/
theorem find_obj {fields : List (String × Json)}
    (hnodup : (fields.map fun f => ascii f.1).Nodup) {field : String × Json}
    (h : field ∈ fields) :
    find (ascii field.1) (object (obj fields)) = some field.2 := by
  have hmem : (ascii field.1, field.2) ∈ obj fields :=
    (obj_perm hnodup).mem_iff.mpr (List.mem_map.mpr ⟨field, h, rfl⟩)
  have hfind : (obj fields).find? (fun f => decide (f.1 = ascii field.1))
      = some (ascii field.1, field.2) := by
    cases hfound : (obj fields).find? fun f => decide (f.1 = ascii field.1) with
    | none =>
        have hnone := List.find?_eq_none.mp hfound _ hmem
        simp at hnone
    | some found =>
        have hkey : found.1 = ascii field.1 := by
          simpa using List.find?_some hfound
        rw [eq_of_key (obj_sorted fields) (List.mem_of_find?_eq_some hfound)
          hmem hkey]
  simp only [find, hfind, Option.map_some]

/-- A map finds what was emplaced, unless the key was there before. -/
theorem find_emplace {key : Bytes} {value : Json} {fields : List (Bytes × Json)}
    (hsorted : fields.Pairwise fun f g => f.1 < g.1) (k : Bytes) :
    find k (object (emplace key value fields))
      = (find k (object fields)).or (if k = key then some value else none) := by
  induction fields with
  | nil => by_cases hk : key = k <;> simp [emplace, find, hk, eq_comm]
  | cons field fields ih =>
      obtain ⟨hhead, htail⟩ := List.pairwise_cons.mp hsorted
      have ih := ih htail
      simp only [find] at ih ⊢
      rw [emplace]
      by_cases hsame : key = field.1
      · rw [if_pos hsame]
        by_cases hk : k = field.1
        · simp [hk]
        · have hne : k ≠ key := hsame ▸ hk
          simp [hne]
      · rw [if_neg hsame]
        by_cases hlt : key < field.1
        · rw [if_pos hlt]
          by_cases hk : key = k
          · subst hk
            have hnone : (field :: fields).find? (fun f => decide (f.1 = key))
                = none := by
              rw [List.find?_eq_none]
              intro f hf heq
              rw [decide_eq_true_eq] at heq
              rcases List.mem_cons.mp hf with rfl | hf
              · exact hsame heq.symm
              · have hafter := hhead f hf
                rw [heq] at hafter
                exact List.lt_irrefl _ (List.lt_trans hlt hafter)
            simp [hnone]
          · have hk' : k ≠ key := Ne.symm hk
            simp [hk, hk']
        · rw [if_neg hlt]
          by_cases hk : field.1 = k
          · simp [hk]
          · simpa [List.find?_cons, hk] using ih

/-- The map of a brace list has the first value of each key. -/
theorem find_obj_lookup (key : String) (fields : List (String × Json)) :
    find (ascii key) (object (obj fields)) = fields.lookup key := by
  induction fields using List.reverseRecOn with
  | nil => rfl
  | append_singleton fields field ih =>
      obtain ⟨k, value⟩ := field
      rw [← emplace_obj, find_emplace (obj_sorted fields), ih, List.lookup_append]
      by_cases hk : key = k
      · subst hk
        simp
      · have hne : ascii key ≠ ascii k := fun h => hk (ascii_injective h)
        have hbeq : (key == k) = false := beq_false_of_ne hk
        simp [List.lookup_cons, hne, hbeq]

/-- A document is as deep as its deepest value, and one more. -/
theorem fits_obj {levels : Nat} {fields : List (String × Json)}
    (h : ∀ f ∈ fields, Fits levels f.2) :
    Fits (levels + 1) (object (obj fields)) := by
  refine .object (fun f hf => ?_) (obj_sorted fields)
  obtain ⟨g, hg, rfl⟩ := mem_obj hf
  exact h g hg

theorem fits_num {levels n : Nat} (h : n < 2 ^ 53) :
    Fits (levels + 1) (num n) := by
  refine .number ?_
  show IsDouble (doubleOfNat n)
  rw [doubleOfNat_small h]
  exact isDouble_natCast h

theorem uint_inj {m n : Nat} (h : uint m = uint n) : m = n :=
  stdToString_inj (Json.string.inj h)

theorem num_inj {m n : Nat} (hm : m < 2 ^ 53) (hn : n < 2 ^ 53)
    (h : num m = num n) : m = n := by
  have hvalue := FiniteDouble.value.inj (Json.number.inj h)
  rw [doubleOfNat_small hm, doubleOfNat_small hn] at hvalue
  exact_mod_cast hvalue

/-- **Documents over the same keys that print alike have the same
values.** -/
theorem values_of_dump_eq (L : Libc) {fields fields' : List (String × Json)}
    (hkeys : fields.map (·.1) = fields'.map (·.1))
    (hnodup : (fields.map fun f => ascii f.1).Nodup)
    (hfits : ∀ f ∈ fields, Fits 64 f.2) (hfits' : ∀ f ∈ fields', Fits 64 f.2)
    (hdump : dump L false 0 (object (obj fields))
      = dump L false 0 (object (obj fields'))) :
    fields = fields' := by
  have hobj : obj fields = obj fields' := Json.object.inj
    (dump_injective L false (fits_obj hfits) (fits_obj hfits') hdump)
  have hnodup' : (fields'.map fun f => ascii f.1).Nodup := by
    have hmap : ∀ fields : List (String × Json),
        (fields.map fun f => ascii f.1) = (fields.map (·.1)).map ascii := by
      intro fields
      rw [List.map_map]
      rfl
    rwa [hmap, ← hkeys, ← hmap]
  have hlength : fields.length = fields'.length := by
    simpa using congrArg List.length hkeys
  refine List.ext_getElem hlength fun i hi hi' => ?_
  have hkey : fields[i].1 = fields'[i].1 := by
    have hget : (fields.map (·.1))[i]? = (fields'.map (·.1))[i]? := by
      rw [hkeys]
    simpa [hi, hi'] using hget
  have hvalue := find_obj hnodup (List.getElem_mem hi)
  rw [hobj, hkey, find_obj hnodup' (List.getElem_mem hi')] at hvalue
  exact Prod.ext hkey (Option.some.inj hvalue).symm

-- === beginnings

/-- A field with the least key is printed first. -/
theorem obj_cons {field : String × Json} {fields : List (String × Json)}
    (hleast : ∀ f ∈ fields, ascii field.1 < ascii f.1) :
    obj (field :: fields) = (ascii field.1, field.2) :: obj fields := by
  have hfold : ∀ (fields : List (String × Json)) (acc : List (Bytes × Json)),
      (∀ f ∈ fields, ascii field.1 < ascii f.1) →
      fields.foldl (fun acc f => emplace (ascii f.1) f.2 acc)
          ((ascii field.1, field.2) :: acc)
        = (ascii field.1, field.2)
          :: fields.foldl (fun acc f => emplace (ascii f.1) f.2 acc) acc := by
    intro fields
    induction fields with
    | nil => exact fun acc _ => rfl
    | cons f fields ih =>
        intro acc h
        have hlt := h f List.mem_cons_self
        have hne : ¬ascii f.1 = ascii field.1 :=
          fun heq => List.lt_irrefl _ (heq ▸ hlt)
        have hnot : ¬ascii f.1 < ascii field.1 :=
          fun hback => List.lt_irrefl _ (List.lt_trans hlt hback)
        rw [List.foldl_cons, List.foldl_cons]
        rw [show emplace (ascii f.1) f.2 ((ascii field.1, field.2) :: acc)
          = (ascii field.1, field.2) :: emplace (ascii f.1) f.2 acc by
            rw [emplace, if_neg hne, if_neg hnot]]
        exact ih _ fun g hg => h g (List.mem_cons_of_mem _ hg)
  exact hfold fields [] hleast

/-- So are several that are in order. -/
theorem obj_leading {front fields : List (String × Json)}
    (hsorted : (front.map (·.1)).Pairwise fun k k' => ascii k < ascii k')
    (hleast : ∀ k ∈ front.map (·.1), ∀ f ∈ fields, ascii k < ascii f.1) :
    obj (front ++ fields)
      = front.map (fun f => (ascii f.1, f.2)) ++ obj fields := by
  induction front with
  | nil => rfl
  | cons field front ih =>
      obtain ⟨hbefore, hsorted⟩ := List.pairwise_cons.mp hsorted
      rw [List.cons_append, obj_cons, ih hsorted, List.map_cons,
        List.cons_append]
      · exact fun k hk => hleast k (List.mem_cons_of_mem _ hk)
      · intro f hf
        rcases List.mem_append.mp hf with hf | hf
        · exact hbefore _ (List.mem_map_of_mem hf)
        · exact hleast _ List.mem_cons_self f hf

/-- What follows a printed string does not blur it. -/
theorem escapeJson_append_inj {s s' rest rest' : Bytes}
    (h : escapeJson s ++ rest = escapeJson s' ++ rest') :
    s = s' ∧ rest = rest' := by
  have hparse := parseString_escapeJson s rest
  rw [h, parseString_escapeJson] at hparse
  have hpair := Except.ok.inj hparse
  exact ⟨(Prod.mk.inj hpair).1.symm, (Prod.mk.inj hpair).2.symm⟩

/-- Two printed objects that begin with the same text field. -/
theorem dumpFields_string_inj (L : Libc) {key s s' : Bytes}
    {field field' : Bytes × Json} {fields fields' : List (Bytes × Json)}
    (h : dumpFields L false 0 ((key, string s) :: field :: fields)
      = dumpFields L false 0 ((key, string s') :: field' :: fields')) :
    s = s' ∧ dumpFields L false 0 (field :: fields)
      = dumpFields L false 0 (field' :: fields') := by
  have hshape : ∀ (s : Bytes) (field : Bytes × Json)
      (fields : List (Bytes × Json)),
      dumpFields L false 0 ((key, string s) :: field :: fields)
        = escapeJson key ++ ([58] ++ (escapeJson s
          ++ ([44] ++ dumpFields L false 0 (field :: fields)))) := by
    intro s field fields
    rw [dumpFields, dumpField, dump]
    simp [indent, newline, separator]
  rw [hshape, hshape] at h
  have hvalue := List.append_cancel_left
    (List.append_cancel_left h)
  obtain ⟨hs, hrest⟩ := escapeJson_append_inj hvalue
  exact ⟨hs, List.append_cancel_left hrest⟩

end Json

end RbfSafe
