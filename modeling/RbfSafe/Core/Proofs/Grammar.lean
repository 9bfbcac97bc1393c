/-
The parser and the grammar.

Three facts about each level of a text, proved for a level from the one
inside it. What the parser reads is a text of the grammar, and its value
is what the form denotes with each escape read on its own
(`parseValue_sound`). What denotes a value in that reading is read, up
to the first byte after it (`parseValue_complete`). And a text has one
form only (`value_unique`): where a text ends is told by the byte after
it, which continues no number.

The loops over items are the same argument as a value inside brackets,
over the list of items; the byte that ends the loop is its bracket.
-/
import RbfSafe.Core.Grammar

namespace RbfSafe.Json

open Lib.Utf

-- === escapes

theorem simpleEscape_eq (c : UInt8) : simpleEscape c = escapes.lookup c := by
  have htable : ∀ n : Fin 256,
      simpleEscape (UInt8.ofNat n) = escapes.lookup (UInt8.ofNat n) := by
    decide +kernel
  have hc := htable ⟨c.toNat, c.toNat_lt⟩
  rwa [UInt8.ofNat_toNat] at hc

theorem unicodeDigit_eq (c : UInt8) : unicodeDigit c = hexValue c := by
  have htable : ∀ n : Fin 256,
      unicodeDigit (UInt8.ofNat n) = hexValue (UInt8.ofNat n) := by
    decide +kernel
  have hc := htable ⟨c.toNat, c.toNat_lt⟩
  rwa [UInt8.ofNat_toNat] at hc

theorem hexValue_lt {c : UInt8} {d : Nat} (h : hexValue c = some d) :
    d < 16 := by
  have htable : ∀ n : Fin 256,
      ((hexValue (UInt8.ofNat n)).getD 0) < 16 := by
    decide +kernel
  have hc := htable ⟨c.toNat, c.toNat_lt⟩
  rw [UInt8.ofNat_toNat, h] at hc
  exact hc

theorem hexCode_eq_some {h₁ h₂ h₃ h₄ : UInt8} {code : Nat} :
    hexCode h₁ h₂ h₃ h₄ = some code ↔ ∃ d₁ d₂ d₃ d₄,
      hexValue h₁ = some d₁ ∧ hexValue h₂ = some d₂ ∧ hexValue h₃ = some d₃ ∧
      hexValue h₄ = some d₄ ∧ code = ((d₁ * 16 + d₂) * 16 + d₃) * 16 + d₄ := by
  unfold hexCode
  simp only [Option.bind_eq_bind, Option.bind_eq_some_iff, Option.pure_def,
    Option.some.injEq]
  constructor
  · rintro ⟨d₁, e₁, d₂, e₂, d₃, e₃, d₄, e₄, rfl⟩
    exact ⟨d₁, d₂, d₃, d₄, e₁, e₂, e₃, e₄, rfl⟩
  · rintro ⟨d₁, d₂, d₃, d₄, e₁, e₂, e₃, e₄, rfl⟩
    exact ⟨d₁, e₁, d₂, e₂, d₃, e₃, d₄, e₄, rfl⟩

/-- The shifts and masks of the parser are the quotients of UTF-8. -/
theorem unicodeBytes_eq {code : Nat} (h : code < 0x10000) :
    unicodeBytes code = utf8 code := by
  have hsix : code >>> 6 = code / 0x40 := Nat.shiftRight_eq_div_pow code 6
  have htwelve : code >>> 12 = code / 0x1000 :=
    Nat.shiftRight_eq_div_pow code 12
  have hmask : ∀ m : Nat, m &&& 0x3f = m % 0x40 :=
    fun m => Nat.and_two_pow_sub_one_eq_mod m 6
  have htwo : ∀ m, m < 2 ^ 6 → 0xc0 ||| m = 0xc0 + m :=
    fun m hm => (Nat.two_pow_add_eq_or_of_lt hm 3).symm
  have hthree : ∀ m, m < 2 ^ 5 → 0xe0 ||| m = 0xe0 + m :=
    fun m hm => (Nat.two_pow_add_eq_or_of_lt hm 7).symm
  have htail : ∀ m, m < 2 ^ 7 → 0x80 ||| m = 0x80 + m :=
    fun m hm => (Nat.two_pow_add_eq_or_of_lt hm 1).symm
  unfold unicodeBytes utf8
  by_cases h₁ : code < 0x80
  · rw [if_pos h₁, if_pos (by omega)]
  by_cases h₂ : code < 0x800
  · rw [if_neg h₁, if_pos h₂, if_neg (by omega), if_pos (by omega), hsix,
      hmask, htwo _ (by omega), htail _ (by omega)]
  · rw [if_neg h₁, if_neg h₂, if_pos h, if_neg (by omega), if_neg (by omega),
      hsix, htwelve, hmask, hmask, hthree _ (by omega), htail _ (by omega),
      htail _ (by omega)]

-- === strings

/-- One character is read, whatever follows it. -/
theorem parseStringBody_character {c : Character} (h : c.Allowed)
    (t output : Bytes) :
    parseStringBody (c.text ++ t) output
      = parseStringBody t (output ++ c.piece.bytes) := by
  cases c with
  | raw c =>
      obtain ⟨hprintable, hquote, hbackslash⟩ := h
      rw [Character.text, List.singleton_append, parseStringBody.eq_def]
      simp [hquote, hbackslash, UInt8.not_lt.mpr hprintable, Character.piece,
        Piece.bytes]
  | escape letter =>
      obtain ⟨plain, hplain⟩ := Option.isSome_iff_exists.mp h
      rw [Character.text, parseStringBody.eq_def]
      simp [simpleEscape_eq, hplain, Character.piece, Piece.bytes]
  | unicode h₁ h₂ h₃ h₄ =>
      obtain ⟨code, hcode⟩ := Option.isSome_iff_exists.mp h
      obtain ⟨d₁, d₂, d₃, d₄, e₁, e₂, e₃, e₄, heq⟩ := hexCode_eq_some.mp hcode
      have hlt : code < 0x10000 := by
        have b₁ := hexValue_lt e₁
        have b₂ := hexValue_lt e₂
        have b₃ := hexValue_lt e₃
        have b₄ := hexValue_lt e₄
        omega
      have hletter : simpleEscape 117 = none := by decide
      rw [Character.text, parseStringBody.eq_def]
      simp [hletter, unicodeDigit_eq, e₁, e₂, e₃, e₄, ← heq, Character.piece,
        Piece.bytes, hcode, unicodeBytes_eq hlt]

theorem eachDecoded_cons (c : Character) (characters : List Character) :
    eachDecoded (c :: characters)
      = c.piece.bytes ++ eachDecoded characters := by
  unfold eachDecoded
  rw [List.map_cons, List.flatMap_cons]

/-- The body of a string up to the closing quote, with what stood
before it. -/
def StringBody (s output value rest : Bytes) : Prop :=
  ∃ characters : List Character, (∀ c ∈ characters, c.Allowed) ∧
    s = characters.flatMap Character.text ++ 0x22 :: rest ∧
    value = output ++ eachDecoded characters

theorem StringBody.cons {c : Character} {t output value rest : Bytes}
    (hc : c.Allowed) (h : StringBody t (output ++ c.piece.bytes) value rest) :
    StringBody (c.text ++ t) output value rest := by
  obtain ⟨characters, hall, rfl, rfl⟩ := h
  refine ⟨c :: characters, List.forall_mem_cons.mpr ⟨hc, hall⟩, ?_, ?_⟩
  · rw [List.flatMap_cons, List.append_assoc]
  · rw [eachDecoded_cons, List.append_assoc]

/-- What the body of a string is read from. -/
theorem parseStringBody_eq_ok {s output value rest : Bytes} :
    parseStringBody s output = .ok (value, rest)
      ↔ StringBody s output value rest := by
  constructor
  · intro h
    fun_induction parseStringBody s output with
    | case1 => cases h
    | case2 rest' output =>
        cases h
        exact ⟨[], by simp, rfl, by simp [eachDecoded]⟩
    | case3 => cases h
    | case4 c rest' output hquote hcontrol hbackslash ih =>
        exact .cons (c := .raw c) ⟨UInt8.not_lt.mp hcontrol, hquote, hbackslash⟩
          (ih h)
    | case5 => cases h
    | case6 c output hquote hcontrol hbackslash letter rest' plain hplain ih =>
        rw [not_not.mp hbackslash]
        rw [simpleEscape_eq] at hplain
        refine .cons (c := .escape letter) (Option.isSome_of_eq_some hplain) ?_
        simpa [Character.piece, Piece.bytes, hplain] using ih h
    | case7 => cases h
    | case8 c output hquote hcontrol hbackslash letter hletter hunicode h₁ h₂ h₃
        h₄ rest' d₁ d₂ d₃ d₄ e₄ e₃ e₂ e₁ ih =>
        rw [not_not.mp hbackslash, not_not.mp hunicode]
        rw [unicodeDigit_eq] at e₁ e₂ e₃ e₄
        have hcode := hexCode_eq_some.mpr ⟨d₁, d₂, d₃, d₄, e₁, e₂, e₃, e₄, rfl⟩
        have hlt : ((d₁ * 16 + d₂) * 16 + d₃) * 16 + d₄ < 0x10000 := by
          have b₁ := hexValue_lt e₁
          have b₂ := hexValue_lt e₂
          have b₃ := hexValue_lt e₃
          have b₄ := hexValue_lt e₄
          omega
        refine .cons (c := .unicode h₁ h₂ h₃ h₄)
          (Option.isSome_of_eq_some hcode) ?_
        rw [unicodeBytes_eq hlt] at ih h
        simpa [Character.piece, Piece.bytes, hcode] using ih h
    | case9 => cases h
    | case10 => cases h
  · rintro ⟨characters, hall, rfl, rfl⟩
    induction characters generalizing output with
    | nil =>
        rw [List.flatMap_nil, List.nil_append, parseStringBody.eq_def]
        simp [eachDecoded]
    | cons c characters ih =>
        obtain ⟨hc, hall⟩ := List.forall_mem_cons.mp hall
        rw [List.flatMap_cons, List.append_assoc, parseStringBody_character hc,
          ih hall, eachDecoded_cons, List.append_assoc]

/-- What a string is read from. -/
theorem parseString_eq_ok {s value rest : Bytes} :
    parseString s = .ok (value, rest) ↔ ∃ characters,
      (∀ c ∈ characters, c.Allowed) ∧ s = quoted characters ++ rest ∧
      value = eachDecoded characters := by
  unfold quoted
  constructor
  · intro h
    unfold parseString at h
    split at h
    · obtain ⟨characters, hall, rfl, rfl⟩ := parseStringBody_eq_ok.mp h
      exact ⟨characters, hall, by simp, rfl⟩
    · cases h
  · rintro ⟨characters, hall, rfl, rfl⟩
    unfold parseString
    exact parseStringBody_eq_ok.mpr ⟨characters, hall, by simp, rfl⟩

-- === numbers

section
variable (L : Libc) (size : Nat)

/-- A scan over digits that has moved has passed a run of them. -/
theorem digitRun_of_dropWhile {s : Bytes}
    (h : (s.dropWhile isDigit).length ≠ s.length) :
    ∃ ds, DigitRun ds ∧ s = ds ++ s.dropWhile isDigit := by
  refine ⟨s.takeWhile isDigit, ⟨fun hnil => h ?_, ?_⟩,
    List.takeWhile_append_dropWhile.symm⟩
  · have hsplit := congrArg List.length (@List.takeWhile_append_dropWhile _ isDigit s)
    rw [hnil] at hsplit
    simpa using hsplit
  · exact List.all_takeWhile

theorem scanInteger_sound {s rest : Bytes} (h : scanInteger size s = .ok rest) :
    ∃ int, IntegerPart int ∧ s = int ++ rest := by
  unfold scanInteger at h
  split at h
  · cases h
  · next c tail =>
      split at h
      · next hzero =>
          cases h
          exact ⟨[48], .inl (by decide), by rw [hzero]; rfl⟩
      next hzero =>
      split at h
      · cases h
      · next hrange =>
          cases h
          rw [not_or, UInt8.not_lt, UInt8.not_lt] at hrange
          have hdigit : isDigit c = true := by
            have h48 : (48 : UInt8) ≤ c := UInt8.le_trans (by decide) hrange.1
            simp [isDigit, h48, hrange.2]
          refine ⟨c :: tail.takeWhile isDigit, .inr ⟨c, _, rfl, hrange.1,
            hrange.2, List.all_takeWhile⟩, ?_⟩
          rw [List.dropWhile_cons_of_pos hdigit, List.cons_append,
            List.takeWhile_append_dropWhile]

theorem scanFraction_sound {s rest : Bytes}
    (h : scanFraction size s = .ok rest) :
    ∃ frac, (frac = [] ∨ ∃ ds, frac = ascii "." ++ ds ∧ DigitRun ds) ∧
      s = frac ++ rest := by
  unfold scanFraction at h
  split at h
  · next digits =>
      simp only [fail, ite_failure_eq_ok] at h
      obtain ⟨hmoved, hrest⟩ := h
      cases hrest
      obtain ⟨ds, hds, hsplit⟩ := digitRun_of_dropWhile hmoved
      refine ⟨ascii "." ++ ds, .inr ⟨ds, rfl, hds⟩, ?_⟩
      rw [List.append_assoc, ← hsplit]
      rfl
  · cases h
    exact ⟨[], .inl rfl, rfl⟩

theorem skipSign_split (s : Bytes) :
    ∃ esign, (esign = [] ∨ esign = ascii "+" ∨ esign = ascii "-") ∧
      s = esign ++ skipSign s := by
  cases s with
  | nil => exact ⟨[], .inl rfl, rfl⟩
  | cons c tail =>
      unfold skipSign
      by_cases hplus : c = 43
      · exact ⟨[43], .inr (.inl (by decide)), by simp [hplus]⟩
      by_cases hminus : c = 45
      · exact ⟨[45], .inr (.inr (by decide)), by simp [hminus]⟩
      · exact ⟨[], .inl rfl, by simp [hplus, hminus]⟩

theorem scanExponent_sound {s rest : Bytes}
    (h : scanExponent size s = .ok rest) :
    ∃ exp, (exp = [] ∨ ∃ mark esign ds, exp = mark ++ esign ++ ds ∧
        (mark = ascii "e" ∨ mark = ascii "E") ∧
        (esign = [] ∨ esign = ascii "+" ∨ esign = ascii "-") ∧
        DigitRun ds) ∧
      s = exp ++ rest := by
  unfold scanExponent at h
  split at h
  · next c tail =>
      split at h
      · next hmark =>
          simp only [fail, ite_failure_eq_ok] at h
          obtain ⟨hmoved, hrest⟩ := h
          cases hrest
          obtain ⟨ds, hds, hsplit⟩ := digitRun_of_dropWhile hmoved
          obtain ⟨esign, hesign, htail⟩ := skipSign_split tail
          have hletter : [c] = ascii "e" ∨ [c] = ascii "E" := by
            rcases hmark with rfl | rfl
            · exact .inl (by decide)
            · exact .inr (by decide)
          refine ⟨[c] ++ esign ++ ds, .inr ⟨[c], esign, ds, rfl, hletter, hesign,
            hds⟩, ?_⟩
          rw [List.append_assoc, List.append_assoc, ← hsplit, ← htail]
          rfl
      · cases h
        exact ⟨[], .inl rfl, rfl⟩
  · cases h
    exact ⟨[], .inl rfl, rfl⟩

theorem skipMinus_split (s : Bytes) :
    ∃ sign, (sign = [] ∨ sign = ascii "-") ∧ s = sign ++ skipMinus s := by
  cases s with
  | nil => exact ⟨[], .inl rfl, rfl⟩
  | cons c tail =>
      by_cases hminus : c = 45
      · exact ⟨[45], .inr (by decide), by rw [hminus]; rfl⟩
      · exact ⟨[], .inl rfl, by simp [skipMinus, hminus]⟩

/-- What is read as a number is a number token. -/
theorem parseNumber_sound {start rest : Bytes} {value : Json}
    (h : parseNumber L size start = .ok (value, rest)) :
    ∃ token x, NumberToken token ∧ start = token ++ rest ∧
      L.strtod token = some x ∧ value = number x := by
  unfold parseNumber at h
  split at h
  · cases h
  next afterInteger hinteger =>
  split at h
  · cases h
  next afterFraction hfraction =>
  split at h
  · cases h
  next afterExponent hexponent =>
  obtain ⟨sign, hsign, hstart⟩ := skipMinus_split start
  obtain ⟨int, hint, hunsigned⟩ := scanInteger_sound size hinteger
  obtain ⟨frac, hfrac, rfl⟩ := scanFraction_sound size hfraction
  obtain ⟨exp, hexp, rfl⟩ := scanExponent_sound size hexponent
  have hwhole : start = (sign ++ int ++ frac ++ exp) ++ afterExponent := by
    rw [hstart, hunsigned]
    simp
  have htake : start.take (start.length - afterExponent.length)
      = sign ++ int ++ frac ++ exp := by
    rw [hwhole, List.length_append, Nat.add_sub_cancel, List.take_left]
  rw [htake] at h
  split at h
  · cases h
  · next x hread =>
      cases h
      exact ⟨_, x, ⟨sign, int, frac, exp, rfl, hsign, hint, hfrac, hexp⟩, hwhole,
        hread, rfl⟩

/-- A number token ends where no byte continues it. -/
theorem token_unique {token token' rest rest' : Bytes}
    (htoken : NumberToken token) (htoken' : NumberToken token')
    (hrest : Stops rest) (hrest' : Stops rest')
    (heq : token ++ rest = token' ++ rest') : token = token' ∧ rest = rest' := by
  obtain ⟨fraction, exponent, h₁, h₂, h₃⟩ := scan_token 0 htoken hrest
  obtain ⟨fraction', exponent', h₁', h₂', h₃'⟩ := scan_token 0 htoken' hrest'
  rw [heq, h₁', Except.ok.injEq] at h₁
  rw [← h₁, h₂', Except.ok.injEq] at h₂
  rw [← h₂, h₃', Except.ok.injEq] at h₃
  rw [h₃] at heq
  exact ⟨List.append_cancel_right heq, h₃.symm⟩

end

-- === values and their lists

theorem skipSpace_split (s : Bytes) :
    ∃ blank, Blank blank ∧ s = blank ++ skipSpace s := by
  induction s with
  | nil => exact ⟨[], blank_nil, rfl⟩
  | cons c s ih =>
      unfold skipSpace
      by_cases hc : c = 32 ∨ c = 10 ∨ c = 13 ∨ c = 9
      · obtain ⟨blank, hblank, heq⟩ := ih
        rw [if_pos hc]
        refine ⟨c :: blank, List.forall_mem_cons.mpr ⟨hc, hblank⟩, ?_⟩
        rw [List.cons_append, ← heq]
      · rw [if_neg hc]
        exact ⟨[], blank_nil, rfl⟩

/-- White space before a list belongs to its first item. -/
theorem separated_blank {α : Type} {Item : α → Bytes → Prop} {l : List α}
    {blank body : Bytes} (hblank : Blank blank)
    (h : Separated (Padded Item) l body) :
    Separated (Padded Item) l (blank ++ body) := by
  have hfirst : ∀ {a : α} {s : Bytes}, Padded Item a s →
      Padded Item a (blank ++ s) := by
    rintro a s ⟨before, text, after, hbefore, hitem, hafter, rfl⟩
    exact ⟨blank ++ before, text, after, blank_append hblank hbefore, hitem,
      hafter, by simp⟩
  cases h with
  | single hitem => exact .single (hfirst hitem)
  | cons hitem hrest =>
      rw [← List.append_assoc]
      exact .cons (hfirst hitem) hrest

/-- A key that is new in the map is one more field. -/
theorem emplace_perm {key : Bytes} {value : Json} :
    ∀ {fields : List (Bytes × Json)}, (∀ f ∈ fields, f.1 ≠ key) →
    (emplace key value fields).Perm ((key, value) :: fields)
  | [], _ => .refl _
  | (k, v) :: fields, h => by
      obtain ⟨hk, hrest⟩ := List.forall_mem_cons.mp h
      unfold emplace
      rw [if_neg (Ne.symm hk)]
      split
      · exact .refl _
      · exact ((emplace_perm hrest).cons _).trans (.swap _ _ _)

section
variable {L : Libc} {decode : List Character → Bytes}

theorem length_denoteItems : ∀ {items : List Form} {values : List Json},
    denoteItems L decode items = some values → values.length = items.length
  | [], values, h => by
      rw [denoteItems, Option.some_inj] at h
      rw [← h]
      rfl
  | item :: items, values, h => by
      rw [denoteItems] at h
      split at h
      · next value values' hvalue hvalues =>
          rw [Option.some_inj] at h
          rw [← h, List.length_cons, List.length_cons,
            length_denoteItems hvalues]
      · cases h

theorem keys_denoteMembers :
    ∀ {members : List (List Character × Form)} {fields : List (Bytes × Json)},
    denoteMembers L decode members = some fields →
    fields.map (fun f => f.1) = members.map fun m => decode m.1
  | [], fields, h => by
      rw [denoteMembers, Option.some_inj] at h
      rw [← h]
      rfl
  | (characters, form) :: members, fields, h => by
      rw [denoteMembers] at h
      split at h
      · next field fields' hfield hfields =>
          rw [Option.some_inj] at h
          rw [denoteMember, Option.map_eq_some_iff] at hfield
          obtain ⟨value, -, rfl⟩ := hfield
          rw [← h, List.map_cons, List.map_cons, keys_denoteMembers hfields]
      · cases h

theorem denoteMembers_cons {member : List Character × Form}
    {members : List (List Character × Form)} {fields : List (Bytes × Json)}
    (h : denoteMembers L decode (member :: members) = some fields) :
    ∃ value fields', denote L decode member.2 = some value ∧
      denoteMembers L decode members = some fields' ∧
      fields = (decode member.1, value) :: fields' := by
  obtain ⟨characters, form⟩ := member
  rw [denoteMembers] at h
  split at h
  · next field fields' hfield hfields =>
      rw [denoteMember, Option.map_eq_some_iff] at hfield
      obtain ⟨value, hvalue, rfl⟩ := hfield
      cases h
      exact ⟨value, fields', hvalue, hfields, rfl⟩
  · cases h

end

-- === soundness

section
variable (L : Libc) (size : Nat)

/-- A parser whose values are denoted by texts of `Item`. -/
def ReadsText (Item : Form → Bytes → Prop)
    (parseItem : Bytes → Result (Json × Bytes)) : Prop :=
  ∀ {start rest : Bytes} {value : Json}, parseItem start = .ok (value, rest) →
    ∃ before form text, Blank before ∧ Item form text ∧
      start = before ++ (text ++ rest) ∧
      denote L eachDecoded form = some value

variable {L} {Item : Form → Bytes → Prop}
  {parseItem : Bytes → Result (Json × Bytes)}

/-- The item loop reads a list of items. -/
theorem parseItems_sound (hitem : ReadsText L Item parseItem) :
    ∀ (rounds : Nat) {start rest : Bytes} {acc : List Json} {value : Json},
    parseItems size parseItem rounds start acc = .ok (value, rest) →
    ∃ items body values, Separated (Padded Item) items body ∧
      start = body ++ 0x5d :: rest ∧
      denoteItems L eachDecoded items = some values ∧
      value = array (acc ++ values) ∧
      acc.length + values.length ≤ 10000000 := by
  intro rounds
  induction rounds with
  | zero =>
      intro start rest acc value h
      cases h
  | succ rounds ih =>
      intro start rest acc value h
      unfold parseItems at h
      simp only [fail, ite_failure_eq_ok] at h
      obtain ⟨hlimit, h⟩ := h
      split at h
      · cases h
      next item afterItem hread =>
      obtain ⟨before, form, text, hbefore, hform, rfl, hvalue⟩ := hitem hread
      obtain ⟨after, hafter, hsplit⟩ := skipSpace_split afterItem
      have hpadded : Padded Item form (before ++ (text ++ after)) :=
        ⟨before, text, after, hbefore, hform, hafter, rfl⟩
      split at h
      · cases h
      next c rest' hskip =>
      rw [hskip] at hsplit
      split at h
      · next hclose =>
          cases h
          refine ⟨[form], before ++ (text ++ after), [item], .single hpadded, ?_,
            by simp [denoteItems, hvalue], rfl, ?_⟩
          · rw [hsplit, hclose]
            simp
          · rw [List.length_singleton]
            omega
      next hclose =>
      rw [ite_failure_eq_ok, not_not] at h
      obtain ⟨items, body, values, hitems, hrest, hvalues, heq, hlength⟩ := ih h.2
      refine ⟨form :: items, before ++ (text ++ after) ++ 0x2c :: body,
        item :: values, .cons hpadded hitems, ?_, ?_, ?_, ?_⟩
      · rw [hsplit, h.1, hrest]
        simp
      · simp [denoteItems, hvalue, hvalues]
      · rw [heq, List.append_assoc]
        rfl
      · simp only [List.length_append, List.length_singleton] at hlength
        rw [List.length_cons]
        omega

/-- What is read between brackets. -/
theorem parseArray_sound (hitem : ReadsText L Item parseItem)
    {start rest : Bytes} {value : Json}
    (h : parseArray size parseItem start = .ok (value, rest)) :
    ∃ items body, (items = [] ∧ Blank body ∨
        Separated (Padded Item) items body) ∧
      start = body ++ 0x5d :: rest ∧
      denote L eachDecoded (.array items) = some value := by
  obtain ⟨blank, hblank, hsplit⟩ := skipSpace_split start
  unfold parseArray at h
  split at h
  · next hskip =>
      cases h
      rw [hskip] at hsplit
      exact ⟨[], blank, .inl ⟨rfl, hblank⟩, hsplit, rfl⟩
  · obtain ⟨items, body, values, hitems, hrest, hvalues, rfl, hlength⟩ :=
      parseItems_sound size hitem _ h
    rw [hrest, ← List.append_assoc] at hsplit
    refine ⟨items, blank ++ body, .inr (separated_blank hblank hitems), hsplit, ?_⟩
    rw [List.length_nil, Nat.zero_add, length_denoteItems hvalues] at hlength
    rw [denote, if_pos hlength, hvalues]
    rfl

/-- The field loop reads a list of members with keys that are new. -/
theorem parseFields_sound (hitem : ReadsText L Item parseItem) :
    ∀ (rounds : Nat) {start rest : Bytes} {acc : List (Bytes × Json)}
    {value : Json},
    parseFields size parseItem rounds start acc = .ok (value, rest) →
    ∃ members body fields, Separated (Padded (Member Item)) members body ∧
      start = body ++ 0x7d :: rest ∧
      denoteMembers L eachDecoded members = some fields ∧
      value = object (fields.foldl (fun acc f => emplace f.1 f.2 acc) acc) ∧
      (fields.map fun f => f.1).Nodup ∧
      ∀ f ∈ fields, ∀ g ∈ acc, g.1 ≠ f.1 := by
  intro rounds
  induction rounds with
  | zero =>
      intro start rest acc value h
      cases h
  | succ rounds ih =>
      intro start rest acc value h
      obtain ⟨before, hbefore, hstart⟩ := skipSpace_split start
      unfold parseFields at h
      split at h
      · cases h
      next key afterKey hkey =>
      obtain ⟨characters, hallowed, hquoted, rfl⟩ := parseString_eq_ok.mp hkey
      obtain ⟨blank, hblank, hcolon⟩ := skipSpace_split afterKey
      split at h
      · cases h
      next c afterColon hskip =>
      simp only [fail, ite_failure_eq_ok, not_not] at h
      rw [hskip, h.1] at hcolon
      replace h := h.2
      split at h
      · cases h
      next item afterItem hread =>
      obtain ⟨gap, form, text, hgap, hform, rfl, hvalue⟩ := hitem hread
      obtain ⟨after, hafter, hsplit⟩ := skipSpace_split afterItem
      have hpadded : Padded (Member Item) (characters, form)
          (before ++ ((quoted characters ++ (blank ++ 0x3a :: (gap ++ text)))
            ++ after)) :=
        ⟨before, _, after, hbefore, ⟨blank, gap, text, hallowed, hblank, hgap,
          hform, rfl⟩, hafter, rfl⟩
      rw [ite_failure_eq_ok, Bool.not_eq_true, List.any_eq_false] at h
      obtain ⟨hnew, h⟩ := h
      simp only [decide_eq_true_eq] at hnew
      split at h
      · cases h
      next d rest' hskip =>
      rw [hskip] at hsplit
      split at h
      · next hclose =>
          cases h
          refine ⟨[(characters, form)], _, [(eachDecoded characters, item)],
            .single hpadded, ?_, ?_, rfl, List.nodup_singleton _, ?_⟩
          · rw [hstart, hquoted, hcolon, hsplit, hclose]
            simp
          · simp [denoteMembers, denoteMember, hvalue]
          · intro f hf g hg
            rw [List.mem_singleton.mp hf]
            exact hnew g hg
      next hclose =>
      rw [ite_failure_eq_ok, not_not] at h
      obtain ⟨members, body, fields, hmembers, hrest, hfields, heq, hnodup, hlater⟩ :=
        ih h.2
      have hperm := @emplace_perm _ item _ hnew
      refine ⟨(characters, form) :: members, _,
        (eachDecoded characters, item) :: fields, .cons hpadded hmembers, ?_, ?_,
        heq, ?_, ?_⟩
      · rw [hstart, hquoted, hcolon, hsplit, h.1, hrest]
        simp
      · simp [denoteMembers, denoteMember, hvalue, hfields]
      · refine List.nodup_cons.mpr ⟨fun hmem => ?_, hnodup⟩
        obtain ⟨f, hf, hsame⟩ := List.mem_map.mp hmem
        exact hlater f hf _ (hperm.symm.subset List.mem_cons_self) hsame.symm
      · intro f hf g hg
        rcases List.mem_cons.mp hf with rfl | hf
        · exact hnew g hg
        · exact hlater f hf g (hperm.symm.subset (List.mem_cons_of_mem _ hg))

/-- What is read between braces. -/
theorem parseObject_sound (hitem : ReadsText L Item parseItem)
    {start rest : Bytes} {value : Json}
    (h : parseObject size parseItem start = .ok (value, rest)) :
    ∃ members body, (members = [] ∧ Blank body ∨
        Separated (Padded (Member Item)) members body) ∧
      start = body ++ 0x7d :: rest ∧
      denote L eachDecoded (.object members) = some value := by
  obtain ⟨blank, hblank, hsplit⟩ := skipSpace_split start
  unfold parseObject at h
  split at h
  · next hskip =>
      cases h
      rw [hskip] at hsplit
      exact ⟨[], blank, .inl ⟨rfl, hblank⟩, hsplit, rfl⟩
  · obtain ⟨members, body, fields, hmembers, hrest, hfields, rfl, hnodup, -⟩ :=
      parseFields_sound size hitem _ h
    rw [hrest, ← List.append_assoc] at hsplit
    refine ⟨members, blank ++ body, .inr (separated_blank hblank hmembers), hsplit,
      ?_⟩
    rw [keys_denoteMembers hfields] at hnodup
    rw [denote, if_pos hnodup, hfields]
    rfl

theorem takeLiteral_eq_some {literal s rest : Bytes}
    (h : takeLiteral literal s = some rest) : s = literal ++ rest := by
  unfold takeLiteral at h
  split at h
  · next hprefix =>
      obtain ⟨t, rfl⟩ := List.isPrefixOf_iff_prefix.mp hprefix
      rw [List.drop_left, Option.some_inj] at h
      rw [h]
  · cases h

/-- **What is read is a text**, and its value what the form denotes. -/
theorem parseValue_sound (L : Libc) (size : Nat) : ∀ levels : Nat,
    ReadsText L (Value levels) (parseValue L size levels) := by
  intro levels
  induction levels with
  | zero =>
      intro start rest value h
      cases h
  | succ levels ih =>
      intro start rest value h
      obtain ⟨before, hbefore, hsplit⟩ := skipSpace_split start
      unfold parseValue at h
      split at h
      · cases h
      next c tail hskip =>
      rw [hskip] at hsplit
      split at h
      · next hopen =>
          obtain ⟨members, body, hmembers, htail, hvalue⟩ :=
            parseObject_sound size ih h
          refine ⟨before, .object members, 0x7b :: (body ++ [0x7d]), hbefore,
            ⟨body, rfl, hmembers⟩, ?_, hvalue⟩
          rw [hsplit, hopen, htail]
          simp
      split at h
      · next hopen =>
          obtain ⟨items, body, hitems, htail, hvalue⟩ :=
            parseArray_sound size ih h
          refine ⟨before, .array items, 0x5b :: (body ++ [0x5d]), hbefore,
            ⟨body, rfl, hitems⟩, ?_, hvalue⟩
          rw [hsplit, hopen, htail]
          simp
      split at h
      · split at h
        · cases h
        next string afterString hstring =>
        cases h
        obtain ⟨characters, hallowed, hquoted, rfl⟩ :=
          parseString_eq_ok.mp hstring
        exact ⟨before, .string characters, quoted characters, hbefore,
          ⟨hallowed, rfl⟩, by rw [hsplit, hquoted], by rw [denote]⟩
      split at h
      · next hliteral =>
          cases h
          exact ⟨before, .bool true, ascii "true", hbefore, rfl,
            by rw [hsplit, takeLiteral_eq_some hliteral], by rw [denote]⟩
      · next hliteral _ =>
          cases h
          exact ⟨before, .bool false, ascii "false", hbefore, rfl,
            by rw [hsplit, takeLiteral_eq_some hliteral], by rw [denote]⟩
      · next hliteral _ _ =>
          cases h
          exact ⟨before, .null, ascii "null", hbefore, rfl,
            by rw [hsplit, takeLiteral_eq_some hliteral], by rw [denote]⟩
      · split at h
        · obtain ⟨token, x, htoken, hnumber, hread, rfl⟩ :=
            parseNumber_sound L size h
          exact ⟨before, .number token, token, hbefore, ⟨htoken, rfl⟩,
            by rw [hsplit, hnumber], by rw [denote, hread]; rfl⟩
        · cases h

end

-- === completeness

/-- What follows an item of a list. -/
def Ends (rest : Bytes) : Prop :=
  ∃ c t, rest = c :: t ∧ (c = 0x2c ∨ c = 0x5d ∨ c = 0x7d)

theorem Ends.stops {rest : Bytes} (h : Ends rest) : Stops rest := by
  obtain ⟨c, t, rfl, hc⟩ := h
  apply stops_cons
  rcases hc with rfl | rfl | rfl
  all_goals exact ⟨by decide, by decide, by decide, by decide⟩

theorem Ends.skipSpace {rest : Bytes} (h : Ends rest) :
    skipSpace rest = rest := by
  obtain ⟨c, t, rfl, hc⟩ := h
  rcases hc with rfl | rfl | rfl
  all_goals exact skipSpace_cons t (by decide) (by decide) (by decide) (by decide)

/-- A value starts with a byte that is not blank and closes nothing. -/
theorem value_head {levels : Nat} {form : Form} {text : Bytes}
    (h : Value levels form text) : ∃ c t, text = c :: t ∧ StartByte c := by
  have hstart : ∀ c : UInt8, c = 110 ∨ c = 116 ∨ c = 102 ∨ c = 34 ∨ c = 91
      ∨ c = 123 → StartByte c := by
    rintro c (rfl | rfl | rfl | rfl | rfl | rfl) <;>
      exact ⟨by decide, by decide, by decide, by decide, by decide, by decide⟩
  cases levels with
  | zero => cases h
  | succ levels =>
      cases form with
      | null => exact ⟨110, _, h, hstart _ (by simp)⟩
      | bool b =>
          cases b with
          | true => exact ⟨116, _, h, hstart _ (by simp)⟩
          | false => exact ⟨102, _, h, hstart _ (by simp)⟩
      | number token =>
          obtain ⟨htoken, rfl⟩ := h
          obtain ⟨c, t, heq, hc⟩ := numberToken_head htoken
          exact ⟨c, t, heq, startByte_number hc⟩
      | string characters => exact ⟨34, _, h.2, hstart _ (by simp)⟩
      | array items =>
          obtain ⟨body, rfl, -⟩ := h
          exact ⟨91, _, rfl, hstart _ (by simp)⟩
      | object members =>
          obtain ⟨body, rfl, -⟩ := h
          exact ⟨123, _, rfl, hstart _ (by simp)⟩

/-- So does a member. -/
theorem member_head {Item : Form → Bytes → Prop}
    {member : List Character × Form} {text : Bytes}
    (h : Member Item member text) : ∃ c t, text = c :: t ∧ StartByte c := by
  obtain ⟨before, after, value, -, -, -, -, rfl⟩ := h
  refine ⟨34, _, rfl, ?_⟩
  exact ⟨by decide, by decide, by decide, by decide, by decide, by decide⟩

theorem StartByte.skipSpace {c : UInt8} (h : StartByte c) (t : Bytes) :
    skipSpace (c :: t) = c :: t :=
  skipSpace_cons t h.1 h.2.1 h.2.2.1 h.2.2.2.1

section
variable {α : Type} {Item : α → Bytes → Prop}
  (hhead : ∀ {a : α} {text : Bytes}, Item a text →
    ∃ c t, text = c :: t ∧ StartByte c)
include hhead

/-- The white space before a list, and the list from its first byte. -/
theorem separated_trim {l : List α} {body : Bytes}
    (h : Separated (Padded Item) l body) :
    ∃ blank trimmed, Blank blank ∧ body = blank ++ trimmed ∧
      Separated (Padded Item) l trimmed ∧
      ∃ c t, trimmed = c :: t ∧ StartByte c := by
  cases h with
  | single hitem =>
      obtain ⟨before, text, after, hbefore, htext, hafter, rfl⟩ := hitem
      obtain ⟨c, t, rfl, hc⟩ := hhead htext
      exact ⟨before, c :: t ++ after, hbefore, rfl,
        .single ⟨[], c :: t, after, blank_nil, htext, hafter, rfl⟩, c, _, rfl, hc⟩
  | @cons a as s rest hitem hrest =>
      obtain ⟨before, text, after, hbefore, htext, hafter, rfl⟩ := hitem
      obtain ⟨c, t, rfl, hc⟩ := hhead htext
      refine ⟨before, c :: t ++ after ++ 0x2c :: rest, hbefore, by simp,
        .cons ⟨[], c :: t, after, blank_nil, htext, hafter, rfl⟩ hrest, c,
        t ++ after ++ 0x2c :: rest, by simp, hc⟩

/-- A list has no more items than bytes. -/
theorem length_separated {l : List α} {body : Bytes}
    (h : Separated (Padded Item) l body) : l.length ≤ body.length := by
  induction h with
  | single hitem =>
      obtain ⟨before, text, after, -, htext, -, rfl⟩ := hitem
      obtain ⟨c, t, rfl, -⟩ := hhead htext
      simp only [List.length_append, List.length_cons, List.length_nil]
      omega
  | cons hitem hrest ih =>
      simp only [List.length_append, List.length_cons]
      omega

end

section
variable (L : Libc) (size : Nat)

/-- A parser that reads every text of `Item` that denotes a value. -/
def IsRead (Item : Form → Bytes → Prop)
    (parseItem : Bytes → Result (Json × Bytes)) : Prop :=
  ∀ {form : Form} {text : Bytes} {value : Json}, Item form text →
    denote L eachDecoded form = some value →
    ∀ {before rest : Bytes}, Blank before → Stops rest →
    parseItem (before ++ (text ++ rest)) = .ok (value, rest)

variable {L} {Item : Form → Bytes → Prop}
  {parseItem : Bytes → Result (Json × Bytes)}

/-- What follows an item, after its white space. -/
theorem ends_padded {after rest : Bytes} (hafter : Blank after)
    (hrest : Ends rest) :
    Stops (after ++ rest) ∧ skipSpace (after ++ rest) = rest :=
  ⟨stops_blank_append hafter hrest.stops,
    by rw [skipSpace_blank_append _ hafter, hrest.skipSpace]⟩

/-- The item loop reads every list of items. -/
theorem parseItems_complete (hitem : IsRead L Item parseItem) (rest : Bytes)
    {items : List Form} {body : Bytes}
    (h : Separated (Padded Item) items body) :
    ∀ (rounds : Nat) (acc values : List Json), items.length ≤ rounds →
    acc.length + items.length ≤ 10000000 →
    denoteItems L eachDecoded items = some values →
    parseItems size parseItem rounds (body ++ 0x5d :: rest) acc
      = .ok (array (acc ++ values), rest) := by
  induction h with
  | @single form s hpadded =>
      intro rounds acc values hrounds hlimit hvalues
      obtain ⟨before, text, after, hbefore, htext, hafter, rfl⟩ := hpadded
      obtain ⟨rounds, rfl⟩ := Nat.exists_eq_add_of_le hrounds
      obtain ⟨value, hvalue, rfl⟩ : ∃ value,
          denote L eachDecoded form = some value ∧ values = [value] := by
        rw [denoteItems, denoteItems] at hvalues
        split at hvalues
        · next value values' hvalue hnil =>
            cases hvalues
            cases hnil
            exact ⟨value, hvalue, rfl⟩
        · cases hvalues
      obtain ⟨hstops, hskip⟩ := ends_padded hafter
        ⟨0x5d, rest, rfl, .inr (.inl rfl)⟩
      have hread := hitem htext hvalue hbefore hstops
      simp only [List.length_singleton] at hlimit
      rw [List.length_singleton, Nat.add_comm, parseItems, if_neg (by omega)]
      simp only [List.append_assoc, hread, hskip]
      rfl
  | @cons form forms s body hpadded hrest ih =>
      intro rounds acc values hrounds hlimit hvalues
      obtain ⟨before, text, after, hbefore, htext, hafter, rfl⟩ := hpadded
      rw [List.length_cons] at hrounds hlimit
      obtain ⟨rounds, rfl⟩ : ∃ r, rounds = r + 1 := ⟨rounds - 1, by omega⟩
      obtain ⟨value, values', hvalue, hvalues', rfl⟩ : ∃ value values',
          denote L eachDecoded form = some value ∧
          denoteItems L eachDecoded forms = some values' ∧
          values = value :: values' := by
        rw [denoteItems] at hvalues
        split at hvalues
        · next value values' hvalue hvalues' =>
            cases hvalues
            exact ⟨value, values', hvalue, hvalues', rfl⟩
        · cases hvalues
      obtain ⟨hstops, hskip⟩ := ends_padded hafter
        ⟨0x2c, body ++ 0x5d :: rest, rfl, .inl rfl⟩
      have hread := hitem htext hvalue hbefore hstops
      have hnext := ih rounds (acc ++ [value]) values' (by omega)
        (by rw [List.length_append, List.length_singleton]; omega) hvalues'
      rw [parseItems, if_neg (by omega)]
      simp only [List.append_assoc, List.cons_append, hread, hskip,
        show ¬(0x2c : UInt8) = 93 from by decide, if_false, ne_eq,
        not_true_eq_false, hnext]
      rfl

/-- What stands between brackets is read. -/
theorem parseArray_complete (hitem : IsRead L Item parseItem)
    (hhead : ∀ {form : Form} {text : Bytes}, Item form text →
      ∃ c t, text = c :: t ∧ StartByte c)
    {items : List Form} {body rest : Bytes} {value : Json}
    (h : items = [] ∧ Blank body ∨ Separated (Padded Item) items body)
    (hvalue : denote L eachDecoded (.array items) = some value) :
    parseArray size parseItem (body ++ 0x5d :: rest) = .ok (value, rest) := by
  rcases h with ⟨rfl, hblank⟩ | hitems
  · have hskip : skipSpace (body ++ 0x5d :: rest) = 0x5d :: rest :=
      (ends_padded hblank ⟨0x5d, rest, rfl, .inr (.inl rfl)⟩).2
    cases hvalue
    rw [parseArray, hskip]
    rfl
  · obtain ⟨blank, trimmed, hblank, rfl, htrimmed, c, t, rfl, hc⟩ :=
      separated_trim hhead hitems
    have hskip : skipSpace (blank ++ (c :: t) ++ 0x5d :: rest)
        = c :: t ++ 0x5d :: rest := by
      rw [List.append_assoc, skipSpace_blank_append _ hblank, List.cons_append,
        hc.skipSpace]
    rw [denote] at hvalue
    split at hvalue
    · next hlimit =>
        obtain ⟨values, hvalues, rfl⟩ := Option.map_eq_some_iff.mp hvalue
        have hlength := length_separated hhead htrimmed
        have hloop := parseItems_complete size hitem rest htrimmed
          ((c :: t ++ 0x5d :: rest).length + 1) [] values
          (by rw [List.length_append]; omega)
          (by rw [List.length_nil, Nat.zero_add]; exact hlimit) hvalues
        rw [parseArray, hskip]
        split
        · next heq =>
            rw [List.cons_append, List.cons.injEq] at heq
            exact absurd heq.1 hc.2.2.2.2.1
        · exact hloop
    · cases hvalue

/-- One round of the field loop, up to the byte after the member. -/
theorem parseFields_member (hitem : IsRead L Item parseItem)
    {characters : List Character} {form : Form} {s : Bytes} {value : Json}
    (hpadded : Padded (Member Item) (characters, form) s)
    (hvalue : denote L eachDecoded form = some value)
    {acc : List (Bytes × Json)} (hnew : ∀ g ∈ acc, g.1 ≠ eachDecoded characters)
    {c : UInt8} {rest : Bytes} (hends : Ends (c :: rest)) (rounds : Nat) :
    parseFields size parseItem (rounds + 1) (s ++ c :: rest) acc
      = if c = 125 then
          .ok (object (emplace (eachDecoded characters) value acc), rest)
        else if c ≠ 44 then fail size rest "expected comma in JSON object"
        else parseFields size parseItem rounds rest
          (emplace (eachDecoded characters) value acc) := by
  obtain ⟨before, text, after, hbefore, hmember, hafter, rfl⟩ := hpadded
  obtain ⟨blank, gap, inner, hallowed, hblank, hgap, hinner, rfl⟩ := hmember
  obtain ⟨hstops, hskip⟩ := ends_padded hafter hends
  have hread := hitem hinner hvalue hgap hstops
  have hkey : parseString (quoted characters ++ (blank ++ 0x3a
      :: (gap ++ (inner ++ (after ++ c :: rest)))))
      = .ok (eachDecoded characters, blank ++ 0x3a
        :: (gap ++ (inner ++ (after ++ c :: rest)))) :=
    parseString_eq_ok.mpr ⟨characters, hallowed, rfl, rfl⟩
  have hquote : skipSpace (before ++ (quoted characters ++ (blank ++ 0x3a
      :: (gap ++ (inner ++ (after ++ c :: rest))))))
      = quoted characters ++ (blank ++ 0x3a
        :: (gap ++ (inner ++ (after ++ c :: rest)))) := by
    rw [skipSpace_blank_append _ hbefore]
    unfold quoted
    rw [List.cons_append,
      skipSpace_cons _ (by decide) (by decide) (by decide) (by decide)]
  have hcolon : skipSpace (blank ++ 0x3a
      :: (gap ++ (inner ++ (after ++ c :: rest))))
      = 0x3a :: (gap ++ (inner ++ (after ++ c :: rest))) := by
    rw [skipSpace_blank_append _ hblank,
      skipSpace_cons _ (by decide) (by decide) (by decide) (by decide)]
  have hany : acc.any (fun f => f.1 = eachDecoded characters) = false := by
    rw [List.any_eq_false]
    intro g hg
    rw [decide_eq_true_eq]
    exact hnew g hg
  rw [parseFields.eq_def]
  simp only [List.append_assoc, List.cons_append, hquote, hkey, hcolon, ne_eq,
    not_true_eq_false, if_false, hread, hany, hskip]
  rfl

/-- The field loop reads every list of members with new keys. -/
theorem parseFields_complete (hitem : IsRead L Item parseItem) (rest : Bytes)
    {members : List (List Character × Form)} {body : Bytes}
    (h : Separated (Padded (Member Item)) members body) :
    ∀ (rounds : Nat) (acc fields : List (Bytes × Json)),
    members.length ≤ rounds →
    denoteMembers L eachDecoded members = some fields →
    (fields.map fun f => f.1).Nodup →
    (∀ f ∈ fields, ∀ g ∈ acc, g.1 ≠ f.1) →
    parseFields size parseItem rounds (body ++ 0x7d :: rest) acc
      = .ok (object (fields.foldl (fun acc f => emplace f.1 f.2 acc) acc),
        rest) := by
  induction h with
  | @single member s hpadded =>
      intro rounds acc fields hrounds hfields hnodup hnew
      obtain ⟨rounds, rfl⟩ := Nat.exists_eq_add_of_le hrounds
      obtain ⟨value, fields', hvalue, hnil, rfl⟩ := denoteMembers_cons hfields
      cases hnil
      rw [List.length_singleton, Nat.add_comm,
        parseFields_member size hitem hpadded hvalue
          (hnew _ List.mem_cons_self) ⟨0x7d, rest, rfl, .inr (.inr rfl)⟩,
        if_pos rfl]
      rfl
  | @cons member members s body hpadded hrest ih =>
      intro rounds acc fields hrounds hfields hnodup hnew
      rw [List.length_cons] at hrounds
      obtain ⟨rounds, rfl⟩ : ∃ r, rounds = r + 1 := ⟨rounds - 1, by omega⟩
      obtain ⟨value, fields', hvalue, hfields', rfl⟩ := denoteMembers_cons hfields
      obtain ⟨hkey, hnodup⟩ := List.nodup_cons.mp hnodup
      have hfresh := hnew _ List.mem_cons_self
      have hperm := @emplace_perm _ value _ hfresh
      have hlater : ∀ f ∈ fields', ∀ g ∈ emplace (eachDecoded member.1) value acc,
          g.1 ≠ f.1 := by
        intro f hf g hg
        rcases List.mem_cons.mp (hperm.subset hg) with rfl | hg
        · exact fun heq => hkey (List.mem_map.mpr ⟨f, hf, heq.symm⟩)
        · exact hnew f (List.mem_cons_of_mem _ hf) g hg
      have hnext := ih rounds _ fields' (by omega) hfields' hnodup hlater
      rw [List.append_assoc, List.cons_append,
        parseFields_member size hitem hpadded hvalue hfresh
          ⟨0x2c, body ++ 0x7d :: rest, rfl, .inl rfl⟩, if_neg (by decide),
        if_neg (by decide), hnext]
      rfl

/-- What stands between braces is read. -/
theorem parseObject_complete (hitem : IsRead L Item parseItem)
    {members : List (List Character × Form)} {body rest : Bytes} {value : Json}
    (h : members = [] ∧ Blank body ∨
      Separated (Padded (Member Item)) members body)
    (hvalue : denote L eachDecoded (.object members) = some value) :
    parseObject size parseItem (body ++ 0x7d :: rest) = .ok (value, rest) := by
  rcases h with ⟨rfl, hblank⟩ | hmembers
  · have hskip : skipSpace (body ++ 0x7d :: rest) = 0x7d :: rest :=
      (ends_padded hblank ⟨0x7d, rest, rfl, .inr (.inr rfl)⟩).2
    cases hvalue
    rw [parseObject, hskip]
    rfl
  · obtain ⟨blank, trimmed, hblank, rfl, htrimmed, c, t, rfl, hc⟩ :=
      separated_trim member_head hmembers
    have hskip : skipSpace (blank ++ (c :: t) ++ 0x7d :: rest)
        = c :: t ++ 0x7d :: rest := by
      rw [List.append_assoc, skipSpace_blank_append _ hblank, List.cons_append,
        hc.skipSpace]
    rw [denote] at hvalue
    split at hvalue
    · next hnodup =>
        obtain ⟨fields, hfields, rfl⟩ := Option.map_eq_some_iff.mp hvalue
        rw [← keys_denoteMembers hfields] at hnodup
        have hlength := length_separated member_head htrimmed
        have hloop := parseFields_complete size hitem rest htrimmed
          ((c :: t ++ 0x7d :: rest).length + 1) [] fields
          (by rw [List.length_append]; omega) hfields hnodup
          (fun f hf g hg => absurd hg List.not_mem_nil)
        rw [parseObject, hskip]
        split
        · next heq =>
            rw [List.cons_append, List.cons.injEq] at heq
            exact absurd heq.1 hc.2.2.2.2.2
        · exact hloop
    · cases hvalue

end

/-- **Every text that denotes a value is read**, up to the byte after it. -/
theorem parseValue_complete (L : Libc) (size : Nat) : ∀ levels : Nat,
    IsRead L (Value levels) (parseValue L size levels) := by
  intro levels
  induction levels with
  | zero =>
      intro form text value h
      cases h
  | succ levels ih =>
      intro form text value h hvalue before rest hbefore hrest
      obtain ⟨c, t, htext, hc⟩ := value_head h
      have hskip : skipSpace (before ++ (text ++ rest)) = text ++ rest := by
        rw [skipSpace_blank_append _ hbefore, htext, List.cons_append,
          hc.skipSpace]
      cases form with
      | null =>
          cases h
          cases hvalue
          rw [parseValue, hskip]
          rfl
      | bool b =>
          cases h
          cases hvalue
          rw [parseValue, hskip]
          cases b with
          | true => rfl
          | false => rfl
      | number token =>
          obtain ⟨htoken, rfl⟩ := h
          rw [denote, Option.map_eq_some_iff] at hvalue
          obtain ⟨x, hread, rfl⟩ := hvalue
          exact parseValue_number L size levels htoken hread hbefore hrest
      | string characters =>
          obtain ⟨hallowed, rfl⟩ := h
          cases hvalue
          have hstring : parseString (quoted characters ++ rest)
              = .ok (eachDecoded characters, rest) :=
            parseString_eq_ok.mpr ⟨characters, hallowed, rfl, rfl⟩
          rw [parseValue, hskip]
          unfold quoted at hstring ⊢
          rw [List.cons_append] at hstring ⊢
          simp only [show ¬(0x22 : UInt8) = 123 from by decide,
            show ¬(0x22 : UInt8) = 91 from by decide, if_false, if_true, hstring]
      | array items =>
          obtain ⟨body, rfl, hitems⟩ := h
          have hloop := @parseArray_complete _ size _ _ ih value_head _ _ rest _
            hitems hvalue
          rw [parseValue, hskip]
          simp only [List.cons_append, List.append_assoc, List.nil_append,
            show ¬(0x5b : UInt8) = 123 from by decide, if_false, if_true, hloop]
      | object members =>
          obtain ⟨body, rfl, hmembers⟩ := h
          have hloop := @parseObject_complete _ size _ _ ih _ _ rest _ hmembers
            hvalue
          rw [parseValue, hskip]
          simp only [List.cons_append, List.append_assoc, List.nil_append,
            if_true, hloop]

-- === uniqueness

theorem character_unique {c c' : Character} {t t' : Bytes} (h : c.Allowed)
    (h' : c'.Allowed) (heq : c.text ++ t = c'.text ++ t') : c = c' ∧ t = t' := by
  have hunicode : escapes.lookup 0x75 = none := by decide
  cases c with
  | raw c =>
      cases c' with
      | raw c' =>
          rw [Character.text, Character.text, List.singleton_append,
            List.singleton_append, List.cons.injEq] at heq
          exact ⟨congrArg _ heq.1, heq.2⟩
      | escape letter => exact absurd (List.cons.inj heq).1 h.2.2
      | unicode h₁ h₂ h₃ h₄ => exact absurd (List.cons.inj heq).1 h.2.2
  | escape letter =>
      cases c' with
      | raw c' => exact absurd (List.cons.inj heq).1.symm h'.2.2
      | escape letter' =>
          simp only [Character.text, List.cons_append, List.nil_append,
            List.cons.injEq, true_and] at heq
          exact ⟨congrArg _ heq.1, heq.2⟩
      | unicode h₁ h₂ h₃ h₄ =>
          simp only [Character.text, List.cons_append, List.nil_append,
            List.cons.injEq, true_and] at heq
          rw [Character.Allowed, heq.1, hunicode] at h
          cases h
  | unicode h₁ h₂ h₃ h₄ =>
      cases c' with
      | raw c' => exact absurd (List.cons.inj heq).1.symm h'.2.2
      | escape letter =>
          simp only [Character.text, List.cons_append, List.nil_append,
            List.cons.injEq, true_and] at heq
          rw [Character.Allowed, ← heq.1, hunicode] at h'
          cases h'
      | unicode h₁' h₂' h₃' h₄' =>
          simp only [Character.text, List.cons_append, List.nil_append,
            List.cons.injEq, true_and] at heq
          obtain ⟨e₁, e₂, e₃, e₄, ht⟩ := heq
          exact ⟨by rw [e₁, e₂, e₃, e₄], ht⟩

/-- A character does not start as the closing quote. -/
theorem character_head {c : Character} (h : c.Allowed) {t rest : Bytes} :
    c.text ++ t ≠ 0x22 :: rest := by
  intro heq
  cases c with
  | raw c => exact h.2.1 (List.cons.inj heq).1
  | escape letter => exact absurd (List.cons.inj heq).1 (by decide)
  | unicode h₁ h₂ h₃ h₄ => exact absurd (List.cons.inj heq).1 (by decide)

/-- A string ends at its closing quote. -/
theorem quoted_unique {characters characters' : List Character}
    {rest rest' : Bytes} (h : ∀ c ∈ characters, c.Allowed)
    (h' : ∀ c ∈ characters', c.Allowed)
    (heq : quoted characters ++ rest = quoted characters' ++ rest') :
    characters = characters' ∧ rest = rest' := by
  unfold quoted at heq
  simp only [List.cons_append, List.append_assoc, List.nil_append,
    List.cons.injEq, true_and] at heq
  induction characters generalizing characters' with
  | nil =>
      cases characters' with
      | nil => exact ⟨rfl, (List.cons.inj heq).2⟩
      | cons c' characters' =>
          rw [List.flatMap_cons, List.append_assoc] at heq
          exact absurd heq.symm (character_head (h' c' List.mem_cons_self))
  | cons c characters ih =>
      obtain ⟨hc, hall⟩ := List.forall_mem_cons.mp h
      cases characters' with
      | nil =>
          rw [List.flatMap_cons, List.append_assoc] at heq
          exact absurd heq (character_head hc)
      | cons c' characters' =>
          obtain ⟨hc', hall'⟩ := List.forall_mem_cons.mp h'
          rw [List.flatMap_cons, List.flatMap_cons, List.append_assoc,
            List.append_assoc] at heq
          obtain ⟨rfl, htail⟩ := character_unique hc hc' heq
          obtain ⟨rfl, hrest⟩ := ih hall hall' htail
          exact ⟨rfl, hrest⟩

/-- What a text stands for, and where it ends, told by what follows. -/
def Unique {α : Type} (Item : α → Bytes → Prop) (Follow : Bytes → Prop) :
    Prop :=
  ∀ {a a' : α} {s s' rest rest' : Bytes}, Item a s → Item a' s' →
    Follow rest → Follow rest' → s ++ rest = s' ++ rest' → a = a' ∧ rest = rest'

section
variable {α : Type} {Item : α → Bytes → Prop}
  (hhead : ∀ {a : α} {text : Bytes}, Item a text →
    ∃ c t, text = c :: t ∧ StartByte c)
  (hunique : Unique Item Stops)
include hhead hunique

theorem padded_unique : Unique (Padded Item) Ends := by
  rintro a a' s s' rest rest' ⟨before, text, after, hbefore, htext, hafter, rfl⟩
    ⟨before', text', after', hbefore', htext', hafter', rfl⟩ hrest hrest' heq
  have htrim : ∀ {a before text t}, Blank before → Item a text →
      skipSpace (before ++ (text ++ t)) = text ++ t := by
    intro a before text t hbefore htext
    obtain ⟨c, tail, rfl, hc⟩ := hhead htext
    rw [skipSpace_blank_append _ hbefore, List.cons_append, hc.skipSpace]
  obtain ⟨hstops, hskip⟩ := ends_padded hafter hrest
  obtain ⟨hstops', hskip'⟩ := ends_padded hafter' hrest'
  rw [List.append_assoc, List.append_assoc, List.append_assoc,
    List.append_assoc] at heq
  have hinner := congrArg skipSpace heq
  rw [htrim hbefore htext, htrim hbefore' htext'] at hinner
  obtain ⟨rfl, htail⟩ := hunique htext htext' hstops hstops' hinner
  rw [← hskip, htail, hskip']
  exact ⟨rfl, rfl⟩

/-- A list ends at its bracket. -/
theorem separated_unique {closing : UInt8}
    (hclosing : closing = 0x5d ∨ closing = 0x7d) {l l' : List α}
    {body body' rest rest' : Bytes} (h : Separated (Padded Item) l body)
    (h' : Separated (Padded Item) l' body')
    (heq : body ++ closing :: rest = body' ++ closing :: rest') :
    l = l' ∧ rest = rest' := by
  have hends : ∀ t, Ends (closing :: t) := fun t => ⟨closing, t, rfl, .inr hclosing⟩
  have hcomma : ∀ t, Ends (0x2c :: t) := fun t => ⟨0x2c, t, rfl, .inl rfl⟩
  have hne : closing ≠ 0x2c := by
    rcases hclosing with rfl | rfl
    all_goals decide
  have hpadded : Unique (Padded Item) Ends := padded_unique hhead hunique
  induction h generalizing l' body' with
  | single hitem =>
      cases h' with
      | single hitem' =>
          obtain ⟨rfl, htail⟩ := hpadded hitem hitem' (hends _) (hends _) heq
          exact ⟨rfl, (List.cons.inj htail).2⟩
      | cons hitem' hrest' =>
          rw [List.append_assoc, List.cons_append] at heq
          have htail := (hpadded hitem hitem' (hends _) (hcomma _) heq).2
          exact absurd (List.cons.inj htail).1 hne
  | cons hitem hrest ih =>
      rw [List.append_assoc, List.cons_append] at heq
      cases h' with
      | single hitem' =>
          have htail := (hpadded hitem hitem' (hcomma _) (hends _) heq).2
          exact absurd (List.cons.inj htail).1.symm hne
      | cons hitem' hrest' =>
          rw [List.append_assoc, List.cons_append] at heq
          obtain ⟨rfl, htail⟩ := hpadded hitem hitem' (hcomma _) (hcomma _) heq
          obtain ⟨rfl, hrest⟩ := ih hrest' (List.cons.inj htail).2
          exact ⟨rfl, hrest⟩

/-- So does what may be no list at all. -/
theorem bracketed_unique {closing : UInt8}
    (hclosing : closing = 0x5d ∨ closing = 0x7d) {l l' : List α}
    {body body' rest rest' : Bytes}
    (h : l = [] ∧ Blank body ∨ Separated (Padded Item) l body)
    (h' : l' = [] ∧ Blank body' ∨ Separated (Padded Item) l' body')
    (heq : body ++ closing :: rest = body' ++ closing :: rest') :
    l = l' ∧ rest = rest' := by
  have hends : ∀ t, Ends (closing :: t) := fun t => ⟨closing, t, rfl, .inr hclosing⟩
  have hapart : ∀ {l : List α} {body body' t t' : Bytes}, Blank body →
      Separated (Padded Item) l body' →
      body ++ closing :: t ≠ body' ++ closing :: t' := by
    intro l body body' t t' hblank hlist heq
    obtain ⟨blank, trimmed, hblank', rfl, -, c, tail, rfl, hc⟩ :=
      separated_trim hhead hlist
    have hskip := congrArg skipSpace heq
    rw [(ends_padded hblank (hends t)).2, List.append_assoc,
      skipSpace_blank_append _ hblank', List.cons_append, hc.skipSpace] at hskip
    have hfirst := (List.cons.inj hskip).1
    rcases hclosing with h | h
    · exact hc.2.2.2.2.1 (hfirst.symm.trans h)
    · exact hc.2.2.2.2.2 (hfirst.symm.trans h)
  rcases h with ⟨rfl, hblank⟩ | hlist
  · rcases h' with ⟨rfl, hblank'⟩ | hlist'
    · have hskip := congrArg skipSpace heq
      rw [(ends_padded hblank (hends rest)).2,
        (ends_padded hblank' (hends rest')).2] at hskip
      exact ⟨rfl, (List.cons.inj hskip).2⟩
    · exact absurd heq (hapart hblank hlist')
  · rcases h' with ⟨rfl, hblank'⟩ | hlist'
    · exact absurd heq.symm (hapart hblank' hlist)
    · exact separated_unique hhead hunique hclosing hlist hlist' heq

end

theorem member_unique {Item : Form → Bytes → Prop}
    (hhead : ∀ {form : Form} {text : Bytes}, Item form text →
      ∃ c t, text = c :: t ∧ StartByte c)
    (hunique : Unique Item Stops) : Unique (Member Item) Stops := by
  rintro ⟨key, form⟩ ⟨key', form'⟩ s s' rest rest'
    ⟨before, after, text, hkey, hbefore, hafter, htext, rfl⟩
    ⟨before', after', text', hkey', hbefore', hafter', htext', rfl⟩ hrest hrest'
    heq
  simp only [List.append_assoc, List.cons_append] at heq
  obtain ⟨rfl, hcolon⟩ := quoted_unique hkey hkey' heq
  have hpast : ∀ {before t : Bytes}, Blank before →
      skipSpace (before ++ 0x3a :: t) = 0x3a :: t := by
    intro before t hbefore
    rw [skipSpace_blank_append _ hbefore,
      skipSpace_cons _ (by decide) (by decide) (by decide) (by decide)]
  have htrim : ∀ {form before text t}, Blank before → Item form text →
      skipSpace (before ++ (text ++ t)) = text ++ t := by
    intro form before text t hbefore htext
    obtain ⟨c, tail, rfl, hc⟩ := hhead htext
    rw [skipSpace_blank_append _ hbefore, List.cons_append, hc.skipSpace]
  replace hcolon := congrArg skipSpace hcolon
  rw [hpast hbefore, hpast hbefore', List.cons.injEq] at hcolon
  have hvalue := congrArg skipSpace hcolon.2
  rw [htrim hafter htext, htrim hafter' htext'] at hvalue
  obtain ⟨rfl, htail⟩ := hunique htext htext' hrest hrest' hvalue
  exact ⟨rfl, htail⟩

/-- The kind of a form, and the kind its first byte tells. -/
def Form.kind : Form → Nat
  | .null => 0
  | .bool _ => 1
  | .number _ => 2
  | .string _ => 3
  | .array _ => 4
  | .object _ => 5

def byteKind (c : UInt8) : Nat :=
  if c = 110 then 0
  else if c = 116 ∨ c = 102 then 1
  else if c = 34 then 3
  else if c = 91 then 4
  else if c = 123 then 5
  else 2

theorem value_kind {levels : Nat} {form : Form} {text : Bytes}
    (h : Value levels form text) : text.head?.map byteKind = some form.kind := by
  cases levels with
  | zero => cases h
  | succ levels =>
      cases form with
      | null =>
          cases h
          decide
      | bool b =>
          cases h
          cases b with
          | true => decide
          | false => decide
      | number token =>
          obtain ⟨htoken, rfl⟩ := h
          obtain ⟨c, t, rfl, hc⟩ := numberToken_head htoken
          have hne : ∀ d : UInt8, d ≠ 45 → isDigit d = false → c ≠ d := by
            rintro d h45 hd rfl
            rcases hc with h | h
            · exact h45 h
            · rw [hd] at h
              exact absurd h (by decide)
          simp [byteKind, Form.kind, hne 110 (by decide) (by decide),
            hne 116 (by decide) (by decide), hne 102 (by decide) (by decide),
            hne 34 (by decide) (by decide), hne 91 (by decide) (by decide),
            hne 123 (by decide) (by decide)]
      | string characters =>
          obtain ⟨-, rfl⟩ := h
          rfl
      | array items =>
          obtain ⟨body, rfl, -⟩ := h
          rfl
      | object members =>
          obtain ⟨body, rfl, -⟩ := h
          rfl

/-- **A text has one form**, and ends where no byte continues it. -/
theorem value_unique : ∀ levels : Nat, Unique (Value levels) Stops := by
  intro levels
  induction levels with
  | zero =>
      intro form form' s s' rest rest' h
      cases h
  | succ levels ih =>
      intro form form' s s' rest rest' h h' hrest hrest' heq
      have hkind : form.kind = form'.kind := by
        have hfirst := value_kind h
        have hfirst' := value_kind h'
        obtain ⟨c, t, rfl, -⟩ := value_head h
        obtain ⟨c', t', rfl, -⟩ := value_head h'
        rw [List.cons_append, List.cons_append, List.cons.injEq] at heq
        rw [List.head?_cons, Option.map_some, Option.some_inj] at hfirst hfirst'
        rw [← hfirst, heq.1, hfirst']
      cases form with
      | null =>
          cases form' with
          | null =>
              cases h
              cases h'
              exact ⟨rfl, List.append_cancel_left heq⟩
          | _ => cases hkind
      | bool b =>
          cases form' with
          | bool b' =>
              cases h
              cases h'
              have hsame : b = b' := by
                cases b <;> cases b' <;> first
                  | rfl
                  | exact absurd (List.cons.inj heq).1 (by decide)
              subst hsame
              exact ⟨rfl, List.append_cancel_left heq⟩
          | _ => cases hkind
      | number token =>
          cases form' with
          | number token' =>
              obtain ⟨htoken, rfl⟩ := h
              obtain ⟨htoken', rfl⟩ := h'
              obtain ⟨rfl, htail⟩ := token_unique htoken htoken' hrest hrest' heq
              exact ⟨rfl, htail⟩
          | _ => cases hkind
      | string characters =>
          cases form' with
          | string characters' =>
              obtain ⟨hallowed, rfl⟩ := h
              obtain ⟨hallowed', rfl⟩ := h'
              obtain ⟨rfl, htail⟩ := quoted_unique hallowed hallowed' heq
              exact ⟨rfl, htail⟩
          | _ => cases hkind
      | array items =>
          cases form' with
          | array items' =>
              obtain ⟨body, rfl, hitems⟩ := h
              obtain ⟨body', rfl, hitems'⟩ := h'
              simp only [List.cons_append, List.append_assoc, List.nil_append,
                List.cons.injEq, true_and] at heq
              obtain ⟨rfl, htail⟩ := bracketed_unique value_head ih (.inl rfl)
                hitems hitems' heq
              exact ⟨rfl, htail⟩
          | _ => cases hkind
      | object members =>
          cases form' with
          | object members' =>
              obtain ⟨body, rfl, hmembers⟩ := h
              obtain ⟨body', rfl, hmembers'⟩ := h'
              simp only [List.cons_append, List.append_assoc, List.nil_append,
                List.cons.injEq, true_and] at heq
              obtain ⟨rfl, htail⟩ := bracketed_unique member_head
                (member_unique value_head ih) (.inr rfl) hmembers hmembers' heq
              exact ⟨rfl, htail⟩
          | _ => cases hkind

-- === texts

/-- A text of the whole input has one form. -/
theorem isText_unique {form form' : Form} {s : Bytes} (h : IsText form s)
    (h' : IsText form' s) : form = form' := by
  have hend : Ends [0x5d] := ⟨0x5d, [], rfl, .inr (.inl rfl)⟩
  exact (padded_unique value_head (value_unique 65) h h' hend hend rfl).1

/-- **The parser reads exactly the texts of the grammar that are within
its limits**, with each escape read on its own. -/
theorem parse_eq_ok {L : Libc} {s : Bytes} {value : Json} :
    parse L s = .ok value ↔
      ∃ form, IsText form s ∧ denote L eachDecoded form = some value := by
  constructor
  · intro h
    obtain ⟨blank, hblank, hstart⟩ := skipSpace_split s
    unfold parse at h
    split at h
    · cases h
    next value' rest hvalue =>
    obtain ⟨before, form, text, hbefore, htext, hsplit, hdenote⟩ :=
      parseValue_sound L s.length 65 hvalue
    obtain ⟨after, hafter, hrest⟩ := skipSpace_split rest
    split at h
    · next hnil =>
        cases h
        rw [hnil, List.append_nil] at hrest
        refine ⟨form, ⟨blank ++ before, text, after, blank_append hblank hbefore,
          htext, hafter, ?_⟩, hdenote⟩
        rw [hstart, hsplit, hrest]
        simp
    · cases h
  · rintro ⟨form, ⟨before, text, after, hbefore, htext, hafter, rfl⟩, hdenote⟩
    have hstops : Stops after := by
      rw [← List.append_nil after]
      exact stops_blank_append hafter (fun c t h => nomatch h)
    have hskip : skipSpace after = [] := by
      rw [← List.append_nil after, skipSpace_blank_append [] hafter]
      rfl
    have hstart : skipSpace (before ++ (text ++ after)) = text ++ after := by
      obtain ⟨c, t, rfl, hc⟩ := value_head htext
      rw [skipSpace_blank_append _ hbefore, List.cons_append, hc.skipSpace]
    have hread := parseValue_complete L (before ++ (text ++ after)).length 65
      htext hdenote blank_nil hstops
    rw [List.nil_append] at hread
    unfold parse
    rw [hstart, hread]
    simp only [hskip]

end RbfSafe.Json
