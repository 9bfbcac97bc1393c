/-
Conformance of the parser to the grammar.

The parser reads a text as the grammar does, with each escape decoded on
its own. Against the meaning that reads two escapes of a surrogate pair
as one code point, that is right for every text without such a pair, and
for no text with one that either reading gives a value to: a pair takes
four bytes in one and six one by one, so the strings of the two values
do not even have the same length in total (`denote_weight`).
-/
import RbfSafe.Core.Proofs.Grammar

namespace RbfSafe.Json

open Lib.Utf

-- === without a pair

theorem transcoded_of_not_hasPair {characters : List Character}
    (h : hasPair (characters.map Character.piece) = false) :
    transcoded characters = eachDecoded characters :=
  transcode_of_not_hasPair h

section
variable (L : Libc)

mutual

/-- A form without a pair has one meaning. -/
theorem denote_of_not_hasPair : ∀ {form : Form}, form.hasPair = false →
    denote L transcoded form = denote L eachDecoded form
  | .null, _ => rfl
  | .bool _, _ => rfl
  | .number _, _ => rfl
  | .string characters, h => by
      rw [Form.hasPair] at h
      rw [denote, denote, transcoded_of_not_hasPair h]
  | .array items, h => by
      rw [Form.hasPair] at h
      rw [denote, denote, denoteItems_of_not_hasPair h]
  | .object members, h => by
      rw [Form.hasPair] at h
      obtain ⟨hkeys, hmembers⟩ := denoteMembers_of_not_hasPair h
      rw [denote, denote, hkeys, hmembers]

theorem denoteItems_of_not_hasPair : ∀ {items : List Form},
    Form.hasPairItems items = false →
    denoteItems L transcoded items = denoteItems L eachDecoded items
  | [], _ => rfl
  | item :: items, h => by
      rw [Form.hasPairItems, Bool.or_eq_false_iff] at h
      rw [denoteItems, denoteItems, denote_of_not_hasPair h.1,
        denoteItems_of_not_hasPair h.2]

theorem denoteMembers_of_not_hasPair :
    ∀ {members : List (List Character × Form)},
    Form.hasPairMembers members = false →
    members.map (fun m => transcoded m.1) = members.map (fun m => eachDecoded m.1)
      ∧ denoteMembers L transcoded members
        = denoteMembers L eachDecoded members
  | [], _ => ⟨rfl, rfl⟩
  | (characters, value) :: members, h => by
      rw [Form.hasPairMembers, Form.hasPairMember, Bool.or_eq_false_iff,
        Bool.or_eq_false_iff] at h
      obtain ⟨hkeys, hmembers⟩ := denoteMembers_of_not_hasPair h.2
      have hkey := transcoded_of_not_hasPair h.1.1
      rw [List.map_cons, List.map_cons, hkeys, denoteMembers, denoteMembers,
        denoteMember, denoteMember, denote_of_not_hasPair h.1.2, hmembers, hkey]
      exact ⟨rfl, rfl⟩

end

end

-- === with a pair

mutual

/-- The bytes of all strings and keys of a value. -/
def weight : Json → Nat
  | string s => s.length
  | array items => weightItems items
  | object fields => weightFields fields
  | _ => 0

def weightItems : List Json → Nat
  | [] => 0
  | item :: items => weight item + weightItems items

def weightFields : List (Bytes × Json) → Nat
  | [] => 0
  | field :: fields => weightField field + weightFields fields

def weightField : Bytes × Json → Nat
  | (key, value) => key.length + weight value

end

theorem weightFields_eq_sum (fields : List (Bytes × Json)) :
    weightFields fields = (fields.map weightField).sum := by
  induction fields with
  | nil => rfl
  | cons field fields ih =>
      rw [weightFields, ih, List.map_cons, List.sum_cons]

/-- A map of fields with new keys holds them all. -/
theorem foldl_emplace_perm : ∀ {fields acc : List (Bytes × Json)},
    (fields.map fun f => f.1).Nodup → (∀ f ∈ fields, ∀ g ∈ acc, g.1 ≠ f.1) →
    (fields.foldl (fun acc f => emplace f.1 f.2 acc) acc).Perm (fields ++ acc)
  | [], acc, _, _ => .refl _
  | (key, value) :: fields, acc, hnodup, hnew => by
      obtain ⟨hkey, hnodup⟩ := List.nodup_cons.mp hnodup
      have hperm := @emplace_perm _ value _ (hnew _ List.mem_cons_self)
      have hlater : ∀ f ∈ fields, ∀ g ∈ emplace key value acc, g.1 ≠ f.1 := by
        intro f hf g hg
        rcases List.mem_cons.mp (hperm.subset hg) with rfl | hg
        · exact fun heq => hkey (List.mem_map.mpr ⟨f, hf, heq.symm⟩)
        · exact hnew f (List.mem_cons_of_mem _ hf) g hg
      rw [List.foldl_cons, List.cons_append]
      refine (foldl_emplace_perm hnodup hlater).trans ?_
      exact (hperm.append_left fields).trans List.perm_middle

theorem weight_object {fields : List (Bytes × Json)}
    (h : (fields.map fun f => f.1).Nodup) :
    weight (object (fields.foldl (fun acc f => emplace f.1 f.2 acc) []))
      = weightFields fields := by
  have hperm := foldl_emplace_perm h fun f _ g hg => absurd hg List.not_mem_nil
  rw [List.append_nil] at hperm
  rw [weight, weightFields_eq_sum, weightFields_eq_sum,
    (hperm.map weightField).sum_eq]

theorem length_transcoded_le (characters : List Character) :
    (transcoded characters).length ≤ (eachDecoded characters).length :=
  length_transcode_le _

theorem length_transcoded_lt {characters : List Character}
    (h : hasPair (characters.map Character.piece) = true) :
    (transcoded characters).length < (eachDecoded characters).length :=
  length_transcode_lt h

section
variable {L : Libc}

mutual

/-- **The two meanings differ in weight** exactly by the pairs. -/
theorem denote_weight : ∀ {form : Form} {value value' : Json},
    denote L transcoded form = some value →
    denote L eachDecoded form = some value' →
    weight value ≤ weight value' ∧
      (form.hasPair = true → weight value < weight value')
  | .null, value, value', h, h' => by
      cases h
      cases h'
      exact ⟨Nat.le_refl _, fun hpair => nomatch hpair⟩
  | .bool b, value, value', h, h' => by
      cases h
      cases h'
      exact ⟨Nat.le_refl _, fun hpair => nomatch hpair⟩
  | .number token, value, value', h, h' => by
      rw [denote, Option.map_eq_some_iff] at h h'
      obtain ⟨x, -, rfl⟩ := h
      obtain ⟨x', -, rfl⟩ := h'
      exact ⟨Nat.le_refl _, fun hpair => nomatch hpair⟩
  | .string characters, value, value', h, h' => by
      cases h
      cases h'
      exact ⟨length_transcoded_le characters, length_transcoded_lt⟩
  | .array items, value, value', h, h' => by
      rw [denote] at h h'
      split at h
      · rw [if_pos ‹_›] at h'
        obtain ⟨values, hvalues, rfl⟩ := Option.map_eq_some_iff.mp h
        obtain ⟨values', hvalues', rfl⟩ := Option.map_eq_some_iff.mp h'
        exact denoteItems_weight hvalues hvalues'
      · cases h
  | .object members, value, value', h, h' => by
      rw [denote] at h h'
      split at h
      · next hnodup =>
          split at h'
          · next hnodup' =>
              obtain ⟨fields, hfields, rfl⟩ := Option.map_eq_some_iff.mp h
              obtain ⟨fields', hfields', rfl⟩ := Option.map_eq_some_iff.mp h'
              rw [← keys_denoteMembers hfields] at hnodup
              rw [← keys_denoteMembers hfields'] at hnodup'
              rw [weight_object hnodup, weight_object hnodup']
              exact denoteMembers_weight hfields hfields'
          · cases h'
      · cases h

theorem denoteItems_weight : ∀ {items : List Form} {values values' : List Json},
    denoteItems L transcoded items = some values →
    denoteItems L eachDecoded items = some values' →
    weightItems values ≤ weightItems values' ∧
      (Form.hasPairItems items = true →
        weightItems values < weightItems values')
  | [], values, values', h, h' => by
      cases h
      cases h'
      exact ⟨Nat.le_refl _, fun hpair => nomatch hpair⟩
  | item :: items, values, values', h, h' => by
      rw [denoteItems] at h h'
      split at h
      · next value rest hvalue hrest =>
          split at h'
          · next value' rest' hvalue' hrest' =>
              cases h
              cases h'
              obtain ⟨hle, hlt⟩ := denote_weight hvalue hvalue'
              obtain ⟨hle', hlt'⟩ := denoteItems_weight hrest hrest'
              simp only [weightItems, Form.hasPairItems, Bool.or_eq_true]
              refine ⟨by omega, fun hpair => ?_⟩
              rcases hpair with hpair | hpair
              · have := hlt hpair
                omega
              · have := hlt' hpair
                omega
          · cases h'
      · cases h

theorem denoteMembers_weight : ∀ {members : List (List Character × Form)}
    {fields fields' : List (Bytes × Json)},
    denoteMembers L transcoded members = some fields →
    denoteMembers L eachDecoded members = some fields' →
    weightFields fields ≤ weightFields fields' ∧
      (Form.hasPairMembers members = true →
        weightFields fields < weightFields fields')
  | [], fields, fields', h, h' => by
      cases h
      cases h'
      exact ⟨Nat.le_refl _, fun hpair => nomatch hpair⟩
  | (characters, form) :: members, fields, fields', h, h' => by
      obtain ⟨value, rest, hvalue, hrest, rfl⟩ := denoteMembers_cons h
      obtain ⟨value', rest', hvalue', hrest', rfl⟩ := denoteMembers_cons h'
      obtain ⟨hle, hlt⟩ := denote_weight hvalue hvalue'
      obtain ⟨hle', hlt'⟩ := denoteMembers_weight hrest hrest'
      have hkey := length_transcoded_le characters
      simp only [weightFields, weightField, Form.hasPairMembers,
        Form.hasPairMember, Bool.or_eq_true]
      refine ⟨by omega, fun hpair => ?_⟩
      rcases hpair with (hpair | hpair) | hpair
      · have := length_transcoded_lt hpair
        omega
      · have := hlt hpair
        omega
      · have := hlt' hpair
        omega

end

end

-- === the parser

/-- **When the parser conforms**: exactly if the text has no surrogate
pair among its escapes, or exceeds a limit in either reading of them. -/
theorem conforms_iff (L : Libc) (s : Bytes) :
    Conforms L s ↔ ∀ form, IsText form s → form.hasPair = true →
      denote L eachDecoded form = none ∧ denote L transcoded form = none := by
  unfold Conforms
  simp only [parse_eq_ok]
  constructor
  · intro h form htext hpair
    have hdiffer : ∀ {value : Json}, denote L eachDecoded form = some value →
        denote L transcoded form = some value → False := by
      intro value heach htrans
      exact Nat.lt_irrefl _ ((denote_weight htrans heach).2 hpair)
    rw [Option.eq_none_iff_forall_not_mem, Option.eq_none_iff_forall_not_mem]
    refine ⟨fun value heach => ?_, fun value htrans => ?_⟩
    · obtain ⟨form', htext', htrans⟩ := (h value).mp ⟨form, htext, heach⟩
      rw [isText_unique htext' htext] at htrans
      exact hdiffer heach htrans
    · obtain ⟨form', htext', heach⟩ := (h value).mpr ⟨form, htext, htrans⟩
      rw [isText_unique htext' htext] at heach
      exact hdiffer heach htrans
  · intro h value
    have hsame : ∀ {form : Form}, IsText form s →
        (denote L eachDecoded form = some value ↔
          denote L transcoded form = some value) := by
      intro form htext
      by_cases hpair : form.hasPair = true
      · rw [(h form htext hpair).1, (h form htext hpair).2]
      · rw [denote_of_not_hasPair L (Bool.not_eq_true _ ▸ hpair)]
    constructor
    · rintro ⟨form, htext, heach⟩
      exact ⟨form, htext, (hsame htext).mp heach⟩
    · rintro ⟨form, htext, htrans⟩
      exact ⟨form, htext, (hsame htext).mpr htrans⟩

/-- The escapes of a smiling face. -/
def surrogatePair : List Character :=
  [.unicode 100 56 51 100, .unicode 100 101 48 48]

/-- Its two escapes are read as six bytes, and denote four. -/
theorem not_conforms_surrogatePair :
    ¬Conforms exactLibc (ascii "\"\\ud83d\\ude00\"") := by
  have hallowed : ∀ c ∈ surrogatePair, c.Allowed := by
    intro c hc
    simp only [surrogatePair, List.mem_cons, List.not_mem_nil, or_false] at hc
    rcases hc with rfl | rfl
    · exact show (hexCode 100 56 51 100).isSome from by decide
    · exact show (hexCode 100 101 48 48).isSome from by decide
  have htext : IsText (.string surrogatePair)
      (ascii "\"\\ud83d\\ude00\"") :=
    ⟨[], _, [], blank_nil, ⟨hallowed, rfl⟩, blank_nil, by decide⟩
  intro h
  obtain ⟨form, htext', hvalue⟩ := (h (string (eachDecoded surrogatePair))).mp
    (parse_eq_ok.mpr ⟨_, htext, by rw [denote]⟩)
  rw [isText_unique htext' htext, denote, Option.some_inj, string.injEq] at hvalue
  exact absurd hvalue (by decide)

end RbfSafe.Json
