/-
A printed value is told from what follows it.

The parser reads a printed value back within its limits on size and depth.
What is hashed has no limits: here two values are compared by their compact
printouts alone (`dump_append_inj`), for the values documents are made of,
strings, Booleans, natural numbers and what arrays and objects hold of
them.
-/
import RbfSafe.Core.Proofs.Documents

namespace RbfSafe

namespace Json

/-- The values documents are made of. -/
inductive Plain : Json → Prop where
  | string (s : Bytes) : Plain (string s)
  | bool (b : Bool) : Plain (bool b)
  | num {n : Nat} (h : n < 2 ^ 53) : Plain (num n)
  | array {items : List Json} (h : ∀ item ∈ items, Plain item) :
      Plain (array items)
  | object {fields : List (Bytes × Json)} (h : ∀ field ∈ fields, Plain field.2) :
      Plain (object fields)

/-- A document is made of what its fields are made of. -/
theorem plain_obj {fields : List (String × Json)}
    (h : ∀ field ∈ fields, Plain field.2) : Plain (object (obj fields)) := by
  apply Plain.object
  intro field hfield
  obtain ⟨g, hg, rfl⟩ := mem_obj hfield
  exact h g hg

/-- What may follow a value: nothing, or the end of its array or object, or
the next value. -/
def Delimited (t : Bytes) : Prop :=
  ∀ c ∈ t.head?, c = 44 ∨ c = 93 ∨ c = 125

theorem delimited_cons {c : UInt8} {t : Bytes} (h : c = 44 ∨ c = 93 ∨ c = 125) :
    Delimited (c :: t) := by
  intro d hd
  rw [List.head?_cons, Option.mem_some] at hd
  rwa [← hd]

/-- A printed number is told from what follows it. -/
theorem digits_append_inj {n n' : Nat} {t t' : Bytes} (ht : Delimited t)
    (ht' : Delimited t') (h : stdToString n ++ t = stdToString n' ++ t') :
    n = n' ∧ t = t' := by
  have hrun : ∀ {n : Nat} {t : Bytes}, Delimited t →
      (stdToString n ++ t).takeWhile isDigit = stdToString n := by
    intro n t ht
    rw [List.takeWhile_append_of_pos
      (fun d hd => List.all_eq_true.mp (all_isDigit_stdToString n) d hd)]
    cases t with
    | nil => exact List.append_nil _
    | cons c t =>
        have hstop : isDigit c = false := by
          rcases ht c rfl with rfl | rfl | rfl <;> decide
        rw [List.takeWhile_cons_of_neg (by rw [hstop]; exact Bool.noConfusion),
          List.append_nil]
  have hdigits : stdToString n = stdToString n' := by
    rw [← hrun (n := n) ht, h, hrun ht']
  rw [hdigits] at h
  exact ⟨stdToString_inj hdigits, List.append_cancel_left h⟩

variable (L : Libc)

/-- What a value starts with tells its kind. -/
def kind : Json → Nat
  | string _ => 0
  | bool true => 1
  | bool false => 2
  | array _ => 3
  | object _ => 4
  | _ => 5

/-- The kind of a value that is printed with the byte first. -/
def kindOfHead (c : UInt8) : Nat :=
  if c = 34 then 0 else if c = 116 then 1 else if c = 102 then 2
  else if c = 91 then 3 else if c = 123 then 4 else 5

theorem dump_num {n : Nat} (h : n < 2 ^ 53) (depth : Nat) :
    dump L false depth (num n) = stdToString n := by
  rw [num, dump, doubleOfNat_small h]
  exact L.formatDouble_nat n h

/-- What a value is printed with first, and that it does not end an array
or an object. -/
theorem plain_head {v : Json} (h : Plain v) (depth : Nat) :
    ∃ c rest, dump L false depth v = c :: rest ∧ kindOfHead c = kind v
      ∧ c ≠ 93 ∧ c ≠ 125 := by
  cases h with
  | string s => exact ⟨34, _, rfl, rfl, by decide, by decide⟩
  | bool b =>
      cases b with
      | true => exact ⟨116, _, rfl, rfl, by decide, by decide⟩
      | false => exact ⟨102, _, rfl, rfl, by decide, by decide⟩
  | num hn =>
      rename_i n
      rw [dump_num L hn]
      cases hdigits : stdToString n with
      | nil => exact absurd hdigits (stdToString_ne_nil n)
      | cons c rest =>
          have hdigit : isDigit c = true := by
            have hall := all_isDigit_stdToString n
            rw [hdigits, List.all_cons, Bool.and_eq_true] at hall
            exact hall.1
          have hne : ∀ d : UInt8, isDigit d = false → c ≠ d := by
            intro d hd heq
            rw [heq, hd] at hdigit
            cases hdigit
          refine ⟨c, rest, rfl, ?_, hne 93 (by decide), hne 125 (by decide)⟩
          rw [kindOfHead, if_neg (hne 34 (by decide)), if_neg (hne 116 (by decide)),
            if_neg (hne 102 (by decide)), if_neg (hne 91 (by decide)),
            if_neg (hne 123 (by decide))]
          rfl
  | array hitems =>
      rename_i items
      cases items with
      | nil => exact ⟨91, _, rfl, rfl, by decide, by decide⟩
      | cons item items => exact ⟨91, _, rfl, rfl, by decide, by decide⟩
  | object hfields =>
      rename_i fields
      cases fields with
      | nil => exact ⟨123, _, rfl, rfl, by decide, by decide⟩
      | cons field fields => exact ⟨123, _, rfl, rfl, by decide, by decide⟩

/-- Values that print alike are of one kind. -/
theorem kind_eq {v v' : Json} (h : Plain v) (h' : Plain v') {depth depth' : Nat}
    {t t' : Bytes} (heq : dump L false depth v ++ t = dump L false depth' v' ++ t') :
    kind v = kind v' := by
  obtain ⟨c, rest, hdump, hkind, -⟩ := plain_head L h depth
  obtain ⟨c', rest', hdump', hkind', -⟩ := plain_head L h' depth'
  rw [hdump, hdump', List.cons_append, List.cons_append] at heq
  rw [← hkind, ← hkind', (List.cons.inj heq).1]

theorem delimited_itemsTail (depth : Nat) (t : Bytes) (items : List Json) :
    Delimited (itemsTail L false depth (93 :: t) items) := by
  cases items with
  | nil => exact delimited_cons (Or.inr (Or.inl rfl))
  | cons item items => exact delimited_cons (Or.inl rfl)

theorem delimited_fieldsTail (depth : Nat) (t : Bytes)
    (fields : List (Bytes × Json)) :
    Delimited (fieldsTail L false depth (125 :: t) fields) := by
  cases fields with
  | nil => exact delimited_cons (Or.inr (Or.inr rfl))
  | cons field fields => exact delimited_cons (Or.inl rfl)

/-- An array that is not empty, with what follows. -/
theorem dump_array_cons (depth : Nat) (item : Json) (items : List Json)
    (t : Bytes) :
    dump L false depth (array (item :: items)) ++ t
      = 91 :: (dump L false (depth + 1) item
        ++ itemsTail L false depth (93 :: t) items) := by
  have hitems := dumpItems_cons L false depth (93 :: t) items item
  have hindent : ∀ level, indent false level = [] := fun _ => rfl
  have hnewline : newline false = [] := rfl
  rw [hindent, List.nil_append] at hitems
  rw [dump, hindent, hnewline, List.nil_append, List.append_nil, ← hitems,
    List.cons_append, List.append_assoc, List.singleton_append]

/-- An object that is not empty, with what follows. -/
theorem dump_object_cons (depth : Nat) (field : Bytes × Json)
    (fields : List (Bytes × Json)) (t : Bytes) :
    dump L false depth (object (field :: fields)) ++ t
      = 123 :: (dumpField L false (depth + 1) field
        ++ fieldsTail L false depth (125 :: t) fields) := by
  have hfields := dumpFields_cons L false depth (125 :: t) fields field
  have hindent : ∀ level, indent false level = [] := fun _ => rfl
  have hnewline : newline false = [] := rfl
  rw [hindent, List.nil_append] at hfields
  rw [dump, hindent, hnewline, List.nil_append, List.append_nil, ← hfields,
    List.cons_append, List.append_assoc, List.singleton_append]

/-- A field is its key, a colon and its value. -/
theorem dumpField_append (depth : Nat) (key : Bytes) (value : Json) (t : Bytes) :
    dumpField L false depth (key, value) ++ t
      = escapeJson key ++ 58 :: (dump L false depth value ++ t) := by
  rw [dumpField]
  show escapeJson key ++ [58] ++ dump L false depth value ++ t = _
  rw [List.append_assoc, List.append_assoc, List.singleton_append]

mutual

/-- **A printed value is told from what follows it.** -/
theorem dump_append_inj : ∀ (v v' : Json), Plain v → Plain v' →
    ∀ {depth depth' : Nat} {t t' : Bytes}, Delimited t → Delimited t' →
    dump L false depth v ++ t = dump L false depth' v' ++ t' →
    v = v' ∧ t = t'
  | string s, v', h, h', depth, depth', t, t', _, _, heq => by
      have hkind := kind_eq L h h' heq
      cases h' with
      | string s' =>
          obtain ⟨hs, ht⟩ := escapeJson_append_inj heq
          exact ⟨congrArg string hs, ht⟩
      | bool b => cases b <;> cases hkind
      | _ => cases hkind
  | bool b, v', h, h', depth, depth', t, t', _, _, heq => by
      have hkind := kind_eq L h h' heq
      cases h' with
      | bool b' =>
          cases b <;> cases b'
          · exact ⟨rfl, List.append_cancel_left heq⟩
          · cases hkind
          · cases hkind
          · exact ⟨rfl, List.append_cancel_left heq⟩
      | _ => cases b <;> cases hkind
  | number x, v', h, h', depth, depth', t, t', ht, ht', heq => by
      have hkind := kind_eq L h h' heq
      cases h with
      | num hn =>
          cases h' with
          | num hn' =>
              have heq' : dump L false depth (num _) ++ t
                  = dump L false depth' (num _) ++ t' := heq
              rw [dump_num L hn, dump_num L hn'] at heq'
              obtain ⟨hnumber, hrest⟩ := digits_append_inj ht ht' heq'
              exact ⟨congrArg num hnumber, hrest⟩
          | bool b => cases b <;> cases hkind
          | _ => cases hkind
  | array [], v', h, h', depth, depth', t, t', _, _, heq => by
      have hkind := kind_eq L h h' heq
      cases h' with
      | array hitems' =>
          rename_i items'
          cases items' with
          | nil => exact ⟨rfl, List.append_cancel_left heq⟩
          | cons item' items' =>
              obtain ⟨c, rest, hdump, -, hend, -⟩ :=
                plain_head L (hitems' item' List.mem_cons_self) (depth' + 1)
              rw [dump_array_cons, hdump] at heq
              exact absurd (List.cons.inj (List.cons.inj heq).2).1.symm hend
      | bool b => cases b <;> cases hkind
      | _ => cases hkind
  | array (item :: items), v', h, h', depth, depth', t, t', _, _, heq => by
      have hkind := kind_eq L h h' heq
      cases h' with
      | array hitems' =>
          rename_i items'
          cases h with
          | array hitems =>
              cases items' with
              | nil =>
                  obtain ⟨c, rest, hdump, -, hend, -⟩ :=
                    plain_head L (hitems item List.mem_cons_self) (depth + 1)
                  rw [dump_array_cons, hdump] at heq
                  exact absurd (List.cons.inj (List.cons.inj heq).2).1 hend
              | cons item' items' =>
                  rw [dump_array_cons, dump_array_cons] at heq
                  obtain ⟨hitem, hrest⟩ := dump_append_inj item item'
                    (hitems item List.mem_cons_self)
                    (hitems' item' List.mem_cons_self)
                    (delimited_itemsTail L depth t items)
                    (delimited_itemsTail L depth' t' items') (List.cons.inj heq).2
                  obtain ⟨htail, ht⟩ := itemsTail_inj items items'
                    (fun item hmem => hitems item (List.mem_cons_of_mem _ hmem))
                    (fun item hmem => hitems' item (List.mem_cons_of_mem _ hmem))
                    hrest
                  rw [hitem, htail]
                  exact ⟨rfl, ht⟩
      | bool b => cases b <;> cases hkind
      | _ => cases hkind
  | object [], v', h, h', depth, depth', t, t', _, _, heq => by
      have hkind := kind_eq L h h' heq
      cases h' with
      | object hfields' =>
          rename_i fields'
          cases fields' with
          | nil => exact ⟨rfl, List.append_cancel_left heq⟩
          | cons field' fields' =>
              obtain ⟨key', value'⟩ := field'
              rw [dump_object_cons, dumpField_append] at heq
              have heq' : (123 : UInt8) :: 125 :: t = 123 :: 34 :: _ := heq
              cases (List.cons.inj (List.cons.inj heq').2).1
      | bool b => cases b <;> cases hkind
      | _ => cases hkind
  | object ((key, value) :: fields), v', h, h', depth, depth', t, t', _, _,
      heq => by
      have hkind := kind_eq L h h' heq
      cases h' with
      | object hfields' =>
          rename_i fields'
          cases h with
          | object hfields =>
              cases fields' with
              | nil =>
                  rw [dump_object_cons, dumpField_append] at heq
                  have heq' : (123 : UInt8) :: 34 :: _ = 123 :: 125 :: t' := heq
                  cases (List.cons.inj (List.cons.inj heq').2).1
              | cons field' fields' =>
                  obtain ⟨key', value'⟩ := field'
                  rw [dump_object_cons, dump_object_cons, dumpField_append,
                    dumpField_append] at heq
                  obtain ⟨hkey, heq⟩ := escapeJson_append_inj (List.cons.inj heq).2
                  obtain ⟨hvalue, hrest⟩ := dump_append_inj value value'
                    (hfields _ List.mem_cons_self)
                    (hfields' _ List.mem_cons_self)
                    (delimited_fieldsTail L depth t fields)
                    (delimited_fieldsTail L depth' t' fields')
                    (List.cons.inj heq).2
                  obtain ⟨htail, ht⟩ := fieldsTail_inj fields fields'
                    (fun field hmem => hfields field (List.mem_cons_of_mem _ hmem))
                    (fun field hmem => hfields' field (List.mem_cons_of_mem _ hmem))
                    hrest
                  rw [hkey, hvalue, htail]
                  exact ⟨rfl, ht⟩
      | bool b => cases b <;> cases hkind
      | _ => cases hkind
  | null, v', h, _, _, _, _, _, _, _, _ => by cases h
  | nonFinite x, v', h, _, _, _, _, _, _, _, _ => by cases h

/-- So are the items of an array after the first. -/
theorem itemsTail_inj : ∀ (items items' : List Json),
    (∀ item ∈ items, Plain item) → (∀ item ∈ items', Plain item) →
    ∀ {depth depth' : Nat} {t t' : Bytes},
    itemsTail L false depth (93 :: t) items
      = itemsTail L false depth' (93 :: t') items' → items = items' ∧ t = t'
  | [], [], _, _, _, _, _, _, heq => ⟨rfl, (List.cons.inj heq).2⟩
  | [], item' :: items', _, _, _, _, _, _, heq => by
      cases (List.cons.inj heq).1
  | item :: items, [], _, _, _, _, _, _, heq => by
      cases (List.cons.inj heq).1
  | item :: items, item' :: items', h, h', depth, depth', t, t', heq => by
      obtain ⟨hitem, hrest⟩ := dump_append_inj item item'
        (h item List.mem_cons_self) (h' item' List.mem_cons_self)
        (delimited_itemsTail L depth t items)
        (delimited_itemsTail L depth' t' items') (List.cons.inj heq).2
      obtain ⟨htail, ht⟩ := itemsTail_inj items items'
        (fun item hmem => h item (List.mem_cons_of_mem _ hmem))
        (fun item hmem => h' item (List.mem_cons_of_mem _ hmem)) hrest
      rw [hitem, htail]
      exact ⟨rfl, ht⟩

/-- So are the fields of an object after the first. -/
theorem fieldsTail_inj : ∀ (fields fields' : List (Bytes × Json)),
    (∀ field ∈ fields, Plain field.2) → (∀ field ∈ fields', Plain field.2) →
    ∀ {depth depth' : Nat} {t t' : Bytes},
    fieldsTail L false depth (125 :: t) fields
      = fieldsTail L false depth' (125 :: t') fields' → fields = fields' ∧ t = t'
  | [], [], _, _, _, _, _, _, heq => ⟨rfl, (List.cons.inj heq).2⟩
  | [], field' :: fields', _, _, _, _, _, _, heq => by
      cases (List.cons.inj heq).1
  | field :: fields, [], _, _, _, _, _, _, heq => by
      cases (List.cons.inj heq).1
  | (key, value) :: fields, (key', value') :: fields', h, h', depth, depth', t, t',
      heq => by
      have hfield : dumpField L false (depth + 1) (key, value)
            ++ fieldsTail L false depth (125 :: t) fields
          = dumpField L false (depth' + 1) (key', value')
            ++ fieldsTail L false depth' (125 :: t') fields' :=
        (List.cons.inj heq).2
      rw [dumpField_append, dumpField_append] at hfield
      obtain ⟨hkey, hfield⟩ := escapeJson_append_inj hfield
      obtain ⟨hvalue, hrest⟩ := dump_append_inj value value'
        (h _ List.mem_cons_self) (h' _ List.mem_cons_self)
        (delimited_fieldsTail L depth t fields)
        (delimited_fieldsTail L depth' t' fields') (List.cons.inj hfield).2
      obtain ⟨htail, ht⟩ := fieldsTail_inj fields fields'
        (fun field hmem => h field (List.mem_cons_of_mem _ hmem))
        (fun field hmem => h' field (List.mem_cons_of_mem _ hmem)) hrest
      rw [hkey, hvalue, htail]
      exact ⟨rfl, ht⟩

end

/-- **Values that print alike are one.** -/
theorem plain_dump_injective {v v' : Json} (h : Plain v) (h' : Plain v')
    {depth : Nat} (heq : dump L false depth v = dump L false depth v') : v = v' := by
  have hnone : Delimited [] := by
    intro c hc
    cases hc
  have hdump : dump L false depth v ++ [] = dump L false depth v' ++ [] := by
    rw [List.append_nil, List.append_nil, heq]
  exact (dump_append_inj L v v' h h' hnone hnone hdump).1

end Json

end RbfSafe
