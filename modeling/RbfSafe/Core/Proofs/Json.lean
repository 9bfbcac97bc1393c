/-
Printing and parsing of JSON are inverse.

`Fits` names the values the parser admits: nesting within its levels,
arrays within its limit, numbers that are doubles and objects whose keys
are sorted as a map sorts them. The induction is on `Fits`, with the
text after the value still to come: a printed value is parsed up to the
first byte after it, whatever that text is, as long as it does not go on
as a number would (`Stops`). Blank bytes before a value are part of the
statement, so that the loops over items need not say where the line
breaks of a pretty printout belong.
-/
import RbfSafe.Core.Json
import RbfSafe.Core.Host

namespace RbfSafe.Json

/-- The values `parse` admits, with this many levels of nesting. -/
inductive Fits : Nat → Json → Prop
  | null {levels : Nat} : Fits (levels + 1) null
  | bool {levels : Nat} (b : Bool) : Fits (levels + 1) (bool b)
  | number {levels : Nat} {x : FiniteDouble} (h : x.Valid) :
      Fits (levels + 1) (number x)
  | string {levels : Nat} (s : Bytes) : Fits (levels + 1) (string s)
  | array {levels : Nat} {items : List Json}
      (h : ∀ item ∈ items, Fits levels item)
      (hlen : items.length ≤ 10000000) : Fits (levels + 1) (array items)
  | object {levels : Nat} {fields : List (Bytes × Json)}
      (h : ∀ field ∈ fields, Fits levels field.2)
      (hsorted : fields.Pairwise fun f g => f.1 < g.1) :
      Fits (levels + 1) (object fields)

/-- A byte that cannot continue a number. -/
def StopByte (c : UInt8) : Prop :=
  isDigit c = false ∧ c ≠ 46 ∧ c ≠ 101 ∧ c ≠ 69

/-- What follows a value. -/
def Stops (rest : Bytes) : Prop := ∀ c t, rest = c :: t → StopByte c

/-- Bytes `skip_space` passes over. -/
def Blank (s : Bytes) : Prop := ∀ c ∈ s, c = 32 ∨ c = 10 ∨ c = 13 ∨ c = 9

theorem stops_cons {c : UInt8} (h : StopByte c) (t : Bytes) : Stops (c :: t) := by
  intro c' t' heq
  rw [List.cons.injEq] at heq
  rw [← heq.1]
  exact h

theorem blank_nil : Blank [] := fun _ h => absurd h List.not_mem_nil

theorem blank_append {s t : Bytes} (hs : Blank s) (ht : Blank t) :
    Blank (s ++ t) := by
  intro c hc
  rcases List.mem_append.mp hc with hc | hc
  · exact hs c hc
  · exact ht c hc

theorem blank_newline (pretty : Bool) : Blank (newline pretty) := by
  intro c hc
  cases pretty with
  | false => exact absurd hc List.not_mem_nil
  | true => exact Or.inr (Or.inl (List.mem_singleton.mp hc))

theorem blank_indent (pretty : Bool) (level : Nat) :
    Blank (indent pretty level) := by
  intro c hc
  cases pretty with
  | false => exact absurd hc List.not_mem_nil
  | true => exact Or.inl (List.eq_of_mem_replicate hc)

/-- What follows a blank and a stop byte does not go on as a number. -/
theorem stops_blank_append {s t : Bytes} (hs : Blank s) (ht : Stops t) :
    Stops (s ++ t) := by
  cases s with
  | nil => exact ht
  | cons c s =>
      apply stops_cons
      rcases hs c List.mem_cons_self with rfl | rfl | rfl | rfl
      all_goals exact ⟨by decide, by decide, by decide, by decide⟩

theorem skipSpace_blank_append : ∀ {s : Bytes} (t : Bytes), Blank s →
    skipSpace (s ++ t) = skipSpace t
  | [], _, _ => rfl
  | c :: s, t, h => by
      rw [List.cons_append, skipSpace, if_pos (h c List.mem_cons_self)]
      exact skipSpace_blank_append t fun d hd => h d (List.mem_cons_of_mem c hd)

theorem skipSpace_cons {c : UInt8} (t : Bytes) (h32 : c ≠ 32) (h10 : c ≠ 10)
    (h13 : c ≠ 13) (h9 : c ≠ 9) : skipSpace (c :: t) = c :: t := by
  rw [skipSpace, if_neg (by simp [h32, h10, h13, h9])]

-- === objects

/-- A new last key goes to the end of the map. -/
theorem emplace_last (key : Bytes) (value : Json) :
    ∀ fields : List (Bytes × Json), (∀ f ∈ fields, f.1 < key) →
    emplace key value fields = fields ++ [(key, value)]
  | [], _ => rfl
  | (k, v) :: fields, h => by
      have hk : k < key := h (k, v) List.mem_cons_self
      have hne : key ≠ k := by
        rintro rfl
        exact List.lt_irrefl _ hk
      rw [emplace, if_neg hne, if_neg (List.lt_asymm hk),
        emplace_last key value fields
          fun f hf => h f (List.mem_cons_of_mem _ hf)]
      rfl

theorem mem_emplace {key : Bytes} {value : Json} {f : Bytes × Json} :
    ∀ {fields : List (Bytes × Json)}, f ∈ emplace key value fields →
    f = (key, value) ∨ f ∈ fields
  | [], h => Or.inl (List.mem_singleton.mp h)
  | (k, v) :: fields, h => by
      rw [emplace] at h
      split at h
      · exact Or.inr h
      split at h
      · exact List.mem_cons.mp h
      · rcases List.mem_cons.mp h with h | h
        · exact Or.inr (h ▸ List.mem_cons_self)
        · rcases mem_emplace h with h | h
          · exact Or.inl h
          · exact Or.inr (List.mem_cons_of_mem _ h)

/-- `std::map` stays sorted. -/
theorem emplace_sorted (key : Bytes) (value : Json) :
    ∀ {fields : List (Bytes × Json)}, fields.Pairwise (fun f g => f.1 < g.1) →
    (emplace key value fields).Pairwise fun f g => f.1 < g.1
  | [], _ => List.pairwise_singleton _ _
  | (k, v) :: fields, h => by
      obtain ⟨hk, hrest⟩ := List.pairwise_cons.mp h
      rw [emplace]
      split
      · exact h
      next hne =>
      split
      · next hlt =>
          refine List.pairwise_cons.mpr ⟨fun f hf => ?_, h⟩
          rcases List.mem_cons.mp hf with rfl | hf
          · exact hlt
          · exact List.lt_trans hlt (hk f hf)
      · next hlt =>
          refine List.pairwise_cons.mpr ⟨fun f hf => ?_, emplace_sorted key value hrest⟩
          rcases mem_emplace hf with rfl | hf
          · by_contra hkey
            exact hne (List.le_antisymm (List.not_lt.mp hkey) (List.not_lt.mp hlt))
          · exact hk f hf

/-- Every field of the map is one of the brace list. -/
theorem mem_obj {f : Bytes × Json} {fields : List (String × Json)}
    (h : f ∈ obj fields) : ∃ g ∈ fields, f = (ascii g.1, g.2) := by
  have hfold : ∀ (fields : List (String × Json)) (acc : List (Bytes × Json)),
      f ∈ fields.foldl (fun acc g => emplace (ascii g.1) g.2 acc) acc →
      f ∈ acc ∨ ∃ g ∈ fields, f = (ascii g.1, g.2) := by
    intro fields
    induction fields with
    | nil => exact fun acc h => Or.inl h
    | cons g fields ih =>
        intro acc h
        rcases ih _ h with h | ⟨g', hg', heq⟩
        · rcases mem_emplace h with h | h
          · exact Or.inr ⟨g, List.mem_cons_self, h⟩
          · exact Or.inl h
        · exact Or.inr ⟨g', List.mem_cons_of_mem _ hg', heq⟩
  rcases hfold fields [] h with h | h
  · exact absurd h List.not_mem_nil
  · exact h

theorem obj_sorted (fields : List (String × Json)) :
    (obj fields).Pairwise fun f g => f.1 < g.1 := by
  have hfold : ∀ (fields : List (String × Json)) (acc : List (Bytes × Json)),
      acc.Pairwise (fun f g => f.1 < g.1) →
      (fields.foldl (fun acc g => emplace (ascii g.1) g.2 acc) acc).Pairwise
        fun f g => f.1 < g.1 := by
    intro fields
    induction fields with
    | nil => exact fun acc h => h
    | cons g fields ih => exact fun acc h => ih _ (emplace_sorted _ _ h)
  exact hfold fields [] List.Pairwise.nil

-- === strings

/-- The escape of a control character is read back. -/
theorem unicode_control (n : Fin 32) :
    let c := UInt8.ofNat n
    unicodeDigit (hexDigit (c >>> 4)) = some (c.toNat / 16) ∧
      unicodeDigit (hexDigit (c &&& 0x0f)) = some (c.toNat % 16) ∧
      unicodeBytes (((0 * 16 + 0) * 16 + c.toNat / 16) * 16 + c.toNat % 16)
        = [c] := by
  revert n
  decide

/-- One escaped character is read back, whatever follows it. -/
theorem parseStringBody_escapeChar (c : UInt8) (t output : Bytes) :
    parseStringBody (escapeChar c ++ t) output
      = parseStringBody t (output ++ [c]) := by
  have hshort : ∀ e : UInt8, simpleEscape e = some c →
      parseStringBody (92 :: e :: t) output = parseStringBody t (output ++ [c]) := by
    intro e he
    rw [parseStringBody.eq_def]
    simp [he]
  rw [escapeChar]
  split
  · next h => exact hshort 34 (by rw [h]; rfl)
  split
  · next h => exact hshort 92 (by rw [h]; rfl)
  split
  · next h => exact hshort 98 (by rw [h]; rfl)
  split
  · next h => exact hshort 102 (by rw [h]; rfl)
  split
  · next h => exact hshort 110 (by rw [h]; rfl)
  split
  · next h => exact hshort 114 (by rw [h]; rfl)
  split
  · next h => exact hshort 116 (by rw [h]; rfl)
  split
  · next hcontrol =>
      have hlt : c.toNat < 32 := UInt8.lt_iff_toNat_lt.mp hcontrol
      obtain ⟨hhigh, hlow, hbytes⟩ := unicode_control ⟨c.toNat, hlt⟩
      simp only [UInt8.ofNat_toNat] at hhigh hlow hbytes
      have hsame : unicodeBytes (c.toNat / 16 * 16 + c.toNat % 16) = [c] := by
        simpa using hbytes
      have hlead : ascii "\\u00" = [92, 117, 48, 48] := by decide
      have hu : simpleEscape 117 = none := by decide
      have hzero : unicodeDigit 48 = some 0 := by decide
      rw [hlead, parseStringBody.eq_def]
      simp [hu, hzero, hhigh, hlow, hsame]
  · next h34 h92 h8 h12 h10 h13 h9 hcontrol =>
      rw [List.singleton_append, parseStringBody.eq_def]
      simp [h34, h92, hcontrol]

/-- **A printed string is parsed back.** -/
theorem parseString_escapeJson (s rest : Bytes) :
    parseString (escapeJson s ++ rest) = .ok (s, rest) := by
  have hbody : ∀ (s output : Bytes),
      parseStringBody (s.flatMap escapeChar ++ 34 :: rest) output
        = .ok (output ++ s, rest) := by
    intro s
    induction s with
    | nil =>
        intro output
        rw [List.flatMap_nil, List.nil_append, parseStringBody.eq_def]
        simp
    | cons c s ih =>
        intro output
        rw [List.flatMap_cons, List.append_assoc, parseStringBody_escapeChar,
          ih, List.append_assoc, List.singleton_append]
  have hshape : escapeJson s ++ rest
      = 34 :: (s.flatMap escapeChar ++ 34 :: rest) := by
    simp [escapeJson]
  rw [hshape, parseString, hbody, List.nil_append]

-- === numbers

section
variable (L : Libc) (size : Nat)

theorem dropWhile_digits {ds t : Bytes} (hds : ds.all isDigit = true)
    (ht : ∀ c t', t = c :: t' → isDigit c = false) :
    (ds ++ t).dropWhile isDigit = t := by
  induction ds with
  | nil =>
      cases t with
      | nil => rfl
      | cons c t => rw [List.nil_append, List.dropWhile_cons_of_neg (by
          rw [ht c t rfl]
          decide)]
  | cons d ds ih =>
      simp only [List.all_cons, Bool.and_eq_true] at hds
      rw [List.cons_append, List.dropWhile_cons_of_pos hds.1, ih hds.2]

/-- The integer part is scanned whole. -/
theorem scanInteger_append {int t : Bytes} (h : IntegerPart int)
    (ht : ∀ c t', t = c :: t' → isDigit c = false) :
    scanInteger size (int ++ t) = .ok t := by
  rcases h with rfl | ⟨d, ds, rfl, hlow, hhigh, hds⟩
  · rfl
  · have hzero : d ≠ 48 := by
      rintro rfl
      exact absurd hlow (by decide)
    have hrange : ¬(d < 49 ∨ 57 < d) := by
      rw [not_or]
      exact ⟨UInt8.not_lt.mpr hlow, UInt8.not_lt.mpr hhigh⟩
    have hdigit : isDigit d = true := by
      have h48 : (48 : UInt8) ≤ d := UInt8.le_trans (by decide) hlow
      simp [isDigit, h48, hhigh]
    have hall : (d :: ds).all isDigit = true := by
      rw [List.all_cons, hdigit, hds]
      rfl
    rw [List.cons_append, scanInteger, if_neg hzero, if_neg hrange,
      ← List.cons_append, dropWhile_digits hall ht]

/-- A run of digits is scanned whole and is not empty. -/
theorem digitRun_scanned {ds t : Bytes} (h : DigitRun ds)
    (ht : ∀ c t', t = c :: t' → isDigit c = false) :
    (ds ++ t).dropWhile isDigit = t ∧
      ((ds ++ t).dropWhile isDigit).length ≠ (ds ++ t).length := by
  have hdrop := dropWhile_digits h.2 ht
  refine ⟨hdrop, ?_⟩
  have hpos := List.length_pos_iff.mpr h.1
  rw [hdrop, List.length_append]
  omega

/-- A number token is scanned up to its last byte. -/
theorem scan_token {token rest : Bytes} (htoken : NumberToken token)
    (hrest : Stops rest) :
    ∃ fraction exponent, scanInteger size (skipMinus (token ++ rest))
        = .ok fraction ∧
      scanFraction size fraction = .ok exponent ∧
      scanExponent size exponent = .ok rest := by
  obtain ⟨sign, int, frac, exp, rfl, hsign, hint, hfrac, hexp⟩ := htoken
  have hrestDigit : ∀ c t', rest = c :: t' → isDigit c = false :=
    fun c t' h => (hrest c t' h).1
  -- what is left after the integer part does not start with a digit
  have hexpHead : ∀ c t', exp ++ rest = c :: t' →
      isDigit c = false ∧ c ≠ 46 := by
    rcases hexp with rfl | ⟨mark, esign, ds, rfl, hmark, -, -⟩
    · intro c t' h
      exact ⟨(hrest c t' h).1, (hrest c t' h).2.1⟩
    · intro c t' h
      rcases hmark with rfl | rfl
      · have hc : c = 101 := (List.cons.inj h).1.symm
        rw [hc]
        decide
      · have hc : c = 69 := (List.cons.inj h).1.symm
        rw [hc]
        decide
  have hfracHead : ∀ c t', frac ++ (exp ++ rest) = c :: t' →
      isDigit c = false := by
    rcases hfrac with rfl | ⟨ds, rfl, -⟩
    · exact fun c t' h => (hexpHead c t' h).1
    · intro c t' h
      have hc : c = 46 := (List.cons.inj h).1.symm
      rw [hc]
      decide
  have hunsigned : skipMinus (sign ++ int ++ frac ++ exp ++ rest)
      = int ++ (frac ++ (exp ++ rest)) := by
    rcases hsign with rfl | rfl
    · rcases hint with rfl | ⟨d, ds, rfl, hlow, -, -⟩
      · simp [skipMinus, show ascii "0" = [48] from by decide]
      · have hd : d ≠ 45 := by
          rintro rfl
          exact absurd hlow (by decide)
        simp [skipMinus, hd]
    · simp [skipMinus, show ascii "-" = [45] from by decide]
  have hfraction : scanFraction size (frac ++ (exp ++ rest))
      = .ok (exp ++ rest) := by
    rcases hfrac with rfl | ⟨ds, rfl, hds⟩
    · rw [List.nil_append, scanFraction.eq_def]
      split
      · next t h => exact absurd rfl (hexpHead 46 t h).2
      · rfl
    · obtain ⟨hdrop, hne⟩ := digitRun_scanned hds fun c t' h => (hexpHead c t' h).1
      rw [show ascii "." ++ ds ++ (exp ++ rest) = 46 :: (ds ++ (exp ++ rest))
        from by simp [show ascii "." = [46] from by decide], scanFraction]
      rw [if_neg hne, hdrop]
  have hexponent : scanExponent size (exp ++ rest) = .ok rest := by
    rcases hexp with rfl | ⟨mark, esign, ds, rfl, hmark, hesign, hds⟩
    · rw [List.nil_append]
      cases hr : rest with
      | nil => rfl
      | cons c t =>
          have hstop := (hrest c t hr).2.2
          rw [scanExponent, if_neg (by simp [hstop.1, hstop.2])]
    · obtain ⟨hdrop, hne⟩ := digitRun_scanned hds hrestDigit
      have hskip : skipSign (esign ++ (ds ++ rest)) = ds ++ rest := by
        rcases hesign with rfl | rfl | rfl
        · cases hd : ds with
          | nil => exact absurd hd hds.1
          | cons d ds' =>
              have hdigit : isDigit d = true := by
                have hall := hds.2
                rw [hd, List.all_cons, Bool.and_eq_true] at hall
                exact hall.1
              rw [List.nil_append, List.cons_append, skipSign, if_neg]
              rintro (rfl | rfl) <;> exact absurd hdigit (by decide)
        · rw [show ascii "+" = [43] from by decide]
          rfl
        · rw [show ascii "-" = [45] from by decide]
          rfl
      obtain ⟨m, hm, hmark'⟩ : ∃ m : UInt8, (m = 101 ∨ m = 69) ∧ mark = [m] := by
        rcases hmark with rfl | rfl
        · exact ⟨101, Or.inl rfl, by decide⟩
        · exact ⟨69, Or.inr rfl, by decide⟩
      rw [hmark', List.append_assoc, List.append_assoc, List.singleton_append,
        scanExponent, if_pos hm]
      simp only [hskip]
      rw [if_neg hne, hdrop]
  rw [hunsigned]
  exact ⟨_, _, scanInteger_append size hint hfracHead, hfraction, hexponent⟩

/-- A printed number is parsed back. -/
theorem parseNumber_token {token rest : Bytes} {x : FiniteDouble}
    (htoken : NumberToken token) (hread : L.strtod token = some x)
    (hrest : Stops rest) :
    parseNumber L size (token ++ rest) = .ok (number x, rest) := by
  obtain ⟨fraction, exponent, hinteger, hfraction, hexponent⟩ :=
    scan_token size htoken hrest
  have htake : (token ++ rest).take ((token ++ rest).length - rest.length)
      = token := by
    rw [List.length_append, Nat.add_sub_cancel, List.take_left]
  rw [parseNumber.eq_def, hinteger]
  simp only [hfraction, hexponent, htake, hread]

-- === values

variable (pretty : Bool)

/-- The first byte of a printed number. -/
theorem numberToken_head {token : Bytes} (h : NumberToken token) :
    ∃ c t, token = c :: t ∧ (c = 45 ∨ isDigit c = true) := by
  obtain ⟨sign, int, frac, exp, rfl, rfl | rfl, hint, -, -⟩ := h
  · rcases hint with rfl | ⟨d, ds, rfl, hlow, hhigh, -⟩
    · exact ⟨48, frac ++ exp, by simp [show ascii "0" = [48] from by decide],
        Or.inr (by decide)⟩
    · refine ⟨d, ds ++ frac ++ exp, by simp, Or.inr ?_⟩
      have h48 : (48 : UInt8) ≤ d := UInt8.le_trans (by decide) hlow
      simp [isDigit, h48, hhigh]
  · exact ⟨45, int ++ frac ++ exp, by simp [show ascii "-" = [45] from by decide],
      Or.inl rfl⟩

/-- The bytes a printed value can start with: none is blank, and none
closes an array or an object. -/
def StartByte (c : UInt8) : Prop :=
  c ≠ 32 ∧ c ≠ 10 ∧ c ≠ 13 ∧ c ≠ 9 ∧ c ≠ 93 ∧ c ≠ 125

theorem startByte_number {c : UInt8} (h : c = 45 ∨ isDigit c = true) :
    StartByte c := by
  rcases h with rfl | h
  · exact ⟨by decide, by decide, by decide, by decide, by decide, by decide⟩
  · refine ⟨?_, ?_, ?_, ?_, ?_, ?_⟩ <;>
      · rintro rfl
        exact absurd h (by decide)

theorem dump_head {levels : Nat} {j : Json} (h : Fits levels j) (depth : Nat) :
    ∃ c t, dump L pretty depth j = c :: t ∧ StartByte c := by
  have hstart : ∀ c : UInt8, c = 110 ∨ c = 116 ∨ c = 102 ∨ c = 34 ∨ c = 91
      ∨ c = 123 → StartByte c := by
    rintro c (rfl | rfl | rfl | rfl | rfl | rfl) <;>
      exact ⟨by decide, by decide, by decide, by decide, by decide, by decide⟩
  cases h with
  | null => exact ⟨110, _, by rw [dump]; rfl, hstart _ (by simp)⟩
  | bool b =>
      cases b with
      | true => exact ⟨116, _, by rw [dump]; rfl, hstart _ (by simp)⟩
      | false => exact ⟨102, _, by rw [dump]; rfl, hstart _ (by simp)⟩
  | number hq =>
      obtain ⟨c, t, htoken, hc⟩ := numberToken_head (L.formatDouble_token _ hq)
      exact ⟨c, t, by rw [dump, htoken], startByte_number hc⟩
  | string s => exact ⟨34, _, by rw [dump]; rfl, hstart _ (by simp)⟩
  | array hitems hlen =>
      rename_i items
      cases items with
      | nil => exact ⟨91, _, by rw [dump], hstart _ (by simp)⟩
      | cons item items => exact ⟨91, _, by rw [dump], hstart _ (by simp)⟩
  | object hfields hsorted =>
      rename_i fields
      cases fields with
      | nil => exact ⟨123, _, by rw [dump], hstart _ (by simp)⟩
      | cons field fields => exact ⟨123, _, by rw [dump], hstart _ (by simp)⟩

/-- A literal is not taken where another byte stands. -/
theorem takeLiteral_none (literal : String) {d : UInt8} {ds : Bytes}
    (hliteral : ascii literal = d :: ds) {c : UInt8} (h : c ≠ d) (t : Bytes) :
    takeLiteral (ascii literal) (c :: t) = none := by
  rw [takeLiteral, hliteral, if_neg]
  simp [List.isPrefixOf, Ne.symm h]

/-- A parser that reads back the printed items of a list. -/
def ReadsBack (parseItem : Bytes → Result (Json × Bytes)) (item : Json) : Prop :=
  ∀ (depth : Nat) (blank rest : Bytes), Blank blank → Stops rest →
    parseItem (blank ++ (dump L pretty depth item ++ rest)) = .ok (item, rest)

-- -------------------------------------------------------------- arrays

/-- What follows the first item of an array that closes with `closing`. -/
def itemsTail (depth : Nat) (closing : Bytes) : List Json → Bytes
  | [] => newline pretty ++ closing
  | item :: items =>
      44 :: (newline pretty ++ (indent pretty (depth + 1)
        ++ (dump L pretty (depth + 1) item
          ++ itemsTail depth closing items)))

theorem dumpItems_cons (depth : Nat) (closing : Bytes) :
    ∀ (items : List Json) (item : Json),
    dumpItems L pretty depth (item :: items) ++ closing
      = indent pretty (depth + 1) ++ (dump L pretty (depth + 1) item
        ++ itemsTail L pretty depth closing items)
  | [], item => by simp [dumpItems, itemsTail]
  | next :: items, item => by
      rw [dumpItems, List.append_assoc, dumpItems_cons depth closing items next]
      simp [itemsTail]

theorem length_itemsTail (depth : Nat) (closing : Bytes) :
    ∀ items : List Json, items.length ≤ (itemsTail L pretty depth closing items).length
  | [] => Nat.zero_le _
  | item :: items => by
      have := length_itemsTail depth closing items
      simp only [itemsTail, List.length_cons, List.length_append]
      omega

/-- The item loop reads the printed items. -/
theorem parseItems_dump {parseItem : Bytes → Result (Json × Bytes)}
    (depth : Nat) (rest : Bytes) : ∀ (items : List Json) (item : Json)
    (rounds : Nat) (acc : List Json) (blank : Bytes), Blank blank →
    (∀ x ∈ item :: items, ReadsBack L pretty parseItem x) →
    items.length < rounds → acc.length + items.length < 10000000 →
    parseItems size parseItem rounds
        (blank ++ (dump L pretty (depth + 1) item ++ itemsTail L pretty depth
          (indent pretty depth ++ 93 :: rest) items)) acc
      = .ok (array (acc ++ item :: items), rest) := by
  intro items
  induction items with
  | nil =>
      intro item rounds acc blank hblank hread hrounds hlimit
      obtain ⟨rounds, rfl⟩ := Nat.exists_eq_add_of_lt hrounds
      have hstops : Stops (newline pretty ++ (indent pretty depth ++ 93 :: rest)) :=
        stops_blank_append (blank_newline pretty) (stops_blank_append
          (blank_indent pretty depth) (stops_cons
            ⟨by decide, by decide, by decide, by decide⟩ rest))
      have hspace : skipSpace (newline pretty ++ (indent pretty depth
          ++ 93 :: rest)) = 93 :: rest := by
        rw [skipSpace_blank_append _ (blank_newline pretty),
          skipSpace_blank_append _ (blank_indent pretty depth),
          skipSpace_cons rest (by decide) (by decide) (by decide) (by decide)]
      rw [parseItems, if_neg (by simpa using hlimit), itemsTail,
        hread item List.mem_cons_self _ _ _ hblank hstops]
      simp only [hspace]
      rfl
  | cons next items ih =>
      intro item rounds acc blank hblank hread hrounds hlimit
      obtain ⟨rounds, rfl⟩ := Nat.exists_eq_add_of_lt hrounds
      have hstops : Stops (itemsTail L pretty depth
          (indent pretty depth ++ 93 :: rest) (next :: items)) :=
        stops_cons ⟨by decide, by decide, by decide, by decide⟩ _
      simp only [List.length_cons] at hlimit
      rw [parseItems, if_neg (by omega),
        hread item List.mem_cons_self _ _ _ hblank hstops]
      have hspace : skipSpace (itemsTail L pretty depth
          (indent pretty depth ++ 93 :: rest) (next :: items))
          = itemsTail L pretty depth
            (indent pretty depth ++ 93 :: rest) (next :: items) :=
        skipSpace_cons _ (by decide) (by decide) (by decide) (by decide)
      simp only [hspace]
      rw [itemsTail]
      simp only [show ¬(44 : UInt8) = 93 from by decide, if_false, ne_eq,
        not_true_eq_false]
      rw [← List.append_assoc, ih next _ _ _
        (blank_append (blank_newline pretty) (blank_indent pretty (depth + 1)))
        (fun x hx => hread x (List.mem_cons_of_mem _ hx))
        (by simp only [List.length_cons]; omega)
        (by rw [List.length_append, List.length_singleton]; omega)]
      simp

/-- A printed array is parsed back. -/
theorem parseArray_dump {parseItem : Bytes → Result (Json × Bytes)}
    {item : Json} {items : List Json} {levels : Nat}
    (hitem : Fits levels item) (depth : Nat) (rest : Bytes)
    (hread : ∀ x ∈ item :: items, ReadsBack L pretty parseItem x)
    (hlimit : (item :: items).length ≤ 10000000) :
    parseArray size parseItem (newline pretty
        ++ (dumpItems L pretty depth (item :: items)
          ++ (indent pretty depth ++ 93 :: rest)))
      = .ok (array (item :: items), rest) := by
  obtain ⟨c, t, hhead, h32, h10, h13, h9, hclose, -⟩ :=
    dump_head L pretty hitem (depth + 1)
  have hspace : skipSpace (newline pretty
      ++ (dumpItems L pretty depth (item :: items)
        ++ (indent pretty depth ++ 93 :: rest)))
      = dump L pretty (depth + 1) item ++ itemsTail L pretty depth
          (indent pretty depth ++ 93 :: rest) items := by
    rw [skipSpace_blank_append _ (blank_newline pretty), dumpItems_cons,
      skipSpace_blank_append _ (blank_indent pretty (depth + 1)), hhead,
      List.cons_append, skipSpace_cons _ h32 h10 h13 h9]
  have hloop := parseItems_dump L size pretty depth rest items item
    ((dump L pretty (depth + 1) item ++ itemsTail L pretty depth
      (indent pretty depth ++ 93 :: rest) items).length + 1) [] []
    blank_nil hread
    (by
      have := length_itemsTail L pretty depth
        (indent pretty depth ++ 93 :: rest) items
      rw [List.length_append]
      omega)
    (by simpa using hlimit)
  rw [List.nil_append, List.nil_append] at hloop
  rw [parseArray, hspace]
  split
  · next heq =>
      rw [hhead, List.cons_append, List.cons.injEq] at heq
      exact absurd heq.1 hclose
  · exact hloop

-- ------------------------------------------------------------- objects

/-- What follows the first field of an object that closes with `closing`. -/
def fieldsTail (depth : Nat) (closing : Bytes) : List (Bytes × Json) → Bytes
  | [] => newline pretty ++ closing
  | field :: fields =>
      44 :: (newline pretty ++ (indent pretty (depth + 1)
        ++ (dumpField L pretty (depth + 1) field
          ++ fieldsTail depth closing fields)))

theorem dumpFields_cons (depth : Nat) (closing : Bytes) :
    ∀ (fields : List (Bytes × Json)) (field : Bytes × Json),
    dumpFields L pretty depth (field :: fields) ++ closing
      = indent pretty (depth + 1) ++ (dumpField L pretty (depth + 1) field
        ++ fieldsTail L pretty depth closing fields)
  | [], field => by simp [dumpFields, fieldsTail]
  | next :: fields, field => by
      rw [dumpFields, List.append_assoc,
        dumpFields_cons depth closing fields next]
      simp [fieldsTail]

theorem length_fieldsTail (depth : Nat) (closing : Bytes) :
    ∀ fields : List (Bytes × Json),
    fields.length ≤ (fieldsTail L pretty depth closing fields).length
  | [] => Nat.zero_le _
  | field :: fields => by
      have := length_fieldsTail depth closing fields
      simp only [fieldsTail, List.length_cons, List.length_append]
      omega

/-- The separator starts with the colon and goes on with a blank. -/
theorem separator_eq : ∃ blank, Blank blank ∧ separator pretty = 58 :: blank := by
  cases pretty with
  | false => exact ⟨[], blank_nil, rfl⟩
  | true => exact ⟨[32], fun c hc => Or.inl (List.mem_singleton.mp hc), rfl⟩

/-- One round of the field loop, up to the byte after the value. -/
theorem parseFields_field {parseItem : Bytes → Result (Json × Bytes)}
    {field : Bytes × Json} {acc : List (Bytes × Json)} {blank rest : Bytes}
    (rounds depth : Nat) (hblank : Blank blank)
    (hread : ReadsBack L pretty parseItem field.2) (hstops : Stops rest)
    (hnew : ∀ f ∈ acc, f.1 < field.1) :
    parseFields size parseItem (rounds + 1)
        (blank ++ (dumpField L pretty depth field ++ rest)) acc
      = match skipSpace rest with
        | [] => fail size [] "unterminated JSON object"
        | c :: rest =>
            if c = 125 then .ok (object (acc ++ [field]), rest)
            else if c ≠ 44 then
              fail size rest "expected comma in JSON object"
            else parseFields size parseItem rounds rest (acc ++ [field]) := by
  obtain ⟨key, value⟩ := field
  obtain ⟨space, hspace, hseparator⟩ := separator_eq pretty
  have hany : acc.any (fun f => f.1 = key) = false := by
    rw [List.any_eq_false]
    intro f hf
    rw [decide_eq_true_eq]
    rintro heq
    have hlt : f.1 < key := hnew f hf
    rw [heq] at hlt
    exact List.lt_irrefl _ hlt
  have hkey : skipSpace (blank ++ (dumpField L pretty depth (key, value) ++ rest))
      = escapeJson key ++ (58 :: (space ++ (dump L pretty depth value ++ rest))) := by
    rw [skipSpace_blank_append _ hblank, dumpField, hseparator]
    simp only [escapeJson, List.cons_append, List.append_assoc]
    rw [skipSpace_cons _ (by decide) (by decide) (by decide) (by decide)]
  have hcolon : ∀ t : Bytes, skipSpace (58 :: t) = 58 :: t := fun t =>
    skipSpace_cons t (by decide) (by decide) (by decide) (by decide)
  rw [parseFields.eq_def]
  simp only [hkey, parseString_escapeJson, hcolon, ne_eq, not_true_eq_false,
    if_false, hread depth space rest hspace hstops, hany,
    emplace_last key value acc hnew]
  rfl

/-- The field loop reads the printed fields. -/
theorem parseFields_dump {parseItem : Bytes → Result (Json × Bytes)}
    (depth : Nat) (rest : Bytes) : ∀ (fields : List (Bytes × Json))
    (field : Bytes × Json) (rounds : Nat) (acc : List (Bytes × Json))
    (blank : Bytes), Blank blank →
    (∀ f ∈ field :: fields, ReadsBack L pretty parseItem f.2) →
    (acc ++ field :: fields).Pairwise (fun f g => f.1 < g.1) →
    fields.length < rounds →
    parseFields size parseItem rounds
        (blank ++ (dumpField L pretty (depth + 1) field
          ++ fieldsTail L pretty depth
            (indent pretty depth ++ 125 :: rest) fields)) acc
      = .ok (object (acc ++ field :: fields), rest) := by
  intro fields
  induction fields with
  | nil =>
      intro field rounds acc blank hblank hread hsorted hrounds
      obtain ⟨rounds, rfl⟩ := Nat.exists_eq_add_of_lt hrounds
      have hnew : ∀ f ∈ acc, f.1 < field.1 := fun f hf =>
        (List.pairwise_append.mp hsorted).2.2 f hf field List.mem_cons_self
      have hstops : Stops (newline pretty ++ (indent pretty depth ++ 125 :: rest)) :=
        stops_blank_append (blank_newline pretty) (stops_blank_append
          (blank_indent pretty depth) (stops_cons
            ⟨by decide, by decide, by decide, by decide⟩ rest))
      have hspace : skipSpace (newline pretty ++ (indent pretty depth
          ++ 125 :: rest)) = 125 :: rest := by
        rw [skipSpace_blank_append _ (blank_newline pretty),
          skipSpace_blank_append _ (blank_indent pretty depth),
          skipSpace_cons rest (by decide) (by decide) (by decide) (by decide)]
      rw [fieldsTail, parseFields_field L size pretty _ _ hblank
        (hread field List.mem_cons_self) hstops hnew]
      simp only [hspace]
      rfl
  | cons next fields ih =>
      intro field rounds acc blank hblank hread hsorted hrounds
      obtain ⟨rounds, rfl⟩ := Nat.exists_eq_add_of_lt hrounds
      have hnew : ∀ f ∈ acc, f.1 < field.1 := fun f hf =>
        (List.pairwise_append.mp hsorted).2.2 f hf field List.mem_cons_self
      have hstops : Stops (fieldsTail L pretty depth
          (indent pretty depth ++ 125 :: rest) (next :: fields)) :=
        stops_cons ⟨by decide, by decide, by decide, by decide⟩ _
      have hspace : skipSpace (fieldsTail L pretty depth
          (indent pretty depth ++ 125 :: rest) (next :: fields))
          = fieldsTail L pretty depth
            (indent pretty depth ++ 125 :: rest) (next :: fields) :=
        skipSpace_cons _ (by decide) (by decide) (by decide) (by decide)
      rw [parseFields_field L size pretty _ _ hblank
        (hread field List.mem_cons_self) hstops hnew]
      simp only [hspace]
      rw [fieldsTail]
      simp only [show ¬(44 : UInt8) = 125 from by decide, if_false, ne_eq,
        not_true_eq_false]
      rw [← List.append_assoc, ih next _ _ _
        (blank_append (blank_newline pretty) (blank_indent pretty (depth + 1)))
        (fun f hf => hread f (List.mem_cons_of_mem _ hf))
        (by rw [List.append_assoc]; exact hsorted)
        (by simp only [List.length_cons]; omega), List.append_assoc]
      rfl

/-- A printed object is parsed back. -/
theorem parseObject_dump {parseItem : Bytes → Result (Json × Bytes)}
    {field : Bytes × Json} {fields : List (Bytes × Json)}
    (depth : Nat) (rest : Bytes)
    (hread : ∀ f ∈ field :: fields, ReadsBack L pretty parseItem f.2)
    (hsorted : (field :: fields).Pairwise fun f g => f.1 < g.1) :
    parseObject size parseItem (newline pretty
        ++ (dumpFields L pretty depth (field :: fields)
          ++ (indent pretty depth ++ 125 :: rest)))
      = .ok (object (field :: fields), rest) := by
  obtain ⟨t, hhead⟩ : ∃ t, dumpField L pretty (depth + 1) field = 34 :: t :=
    ⟨_, by rw [dumpField, escapeJson, List.cons_append, List.cons_append]⟩
  have hspace : skipSpace (newline pretty
      ++ (dumpFields L pretty depth (field :: fields)
        ++ (indent pretty depth ++ 125 :: rest)))
      = dumpField L pretty (depth + 1) field ++ fieldsTail L pretty depth
          (indent pretty depth ++ 125 :: rest) fields := by
    rw [skipSpace_blank_append _ (blank_newline pretty), dumpFields_cons,
      skipSpace_blank_append _ (blank_indent pretty (depth + 1)), hhead,
      List.cons_append,
      skipSpace_cons _ (by decide) (by decide) (by decide) (by decide)]
  have hloop := parseFields_dump L size pretty depth rest fields field
    ((dumpField L pretty (depth + 1) field ++ fieldsTail L pretty depth
      (indent pretty depth ++ 125 :: rest) fields).length + 1) [] []
    blank_nil hread (by simpa using hsorted)
    (by
      have := length_fieldsTail L pretty depth
        (indent pretty depth ++ 125 :: rest) fields
      rw [List.length_append]
      omega)
  rw [List.nil_append, List.nil_append] at hloop
  rw [parseObject, hspace]
  split
  · next heq =>
      rw [hhead, List.cons_append, List.cons.injEq] at heq
      exact absurd heq.1 (by decide)
  · exact hloop

-- ------------------------------------------------------------ any value

/-- A number token is read as a value. -/
theorem parseValue_number (levels : Nat) {token : Bytes} {x : FiniteDouble}
    (htoken : NumberToken token) (hread : L.strtod token = some x)
    {blank rest : Bytes} (hblank : Blank blank) (hrest : Stops rest) :
    parseValue L size (levels + 1) (blank ++ (token ++ rest))
      = .ok (number x, rest) := by
  obtain ⟨c, t, hhead, hc⟩ := numberToken_head htoken
  have hstart := startByte_number hc
  have hnumber := parseNumber_token L size htoken hread hrest
  have hne : ∀ d : UInt8, d ≠ 45 → isDigit d = false → c ≠ d := by
    rintro d h45 hd rfl
    rcases hc with h | h
    · exact h45 h
    · rw [hd] at h
      exact absurd h (by decide)
  rw [hhead, List.cons_append] at hnumber
  rw [parseValue, skipSpace_blank_append _ hblank, hhead, List.cons_append,
    skipSpace_cons _ hstart.1 hstart.2.1 hstart.2.2.1 hstart.2.2.2.1]
  simp only [hne 123 (by decide) (by decide), hne 91 (by decide) (by decide),
    hne 34 (by decide) (by decide), if_false,
    takeLiteral_none "true" rfl (hne 116 (by decide) (by decide)),
    takeLiteral_none "false" rfl (hne 102 (by decide) (by decide)),
    takeLiteral_none "null" rfl (hne 110 (by decide) (by decide)),
    hc, if_true, hnumber]

/-- **A printed value is parsed back**, whatever stands around it. -/
theorem parseValue_dump {levels : Nat} {j : Json} (h : Fits levels j) :
    ReadsBack L pretty (parseValue L size levels) j := by
  induction h with
  | null =>
      intro depth blank rest hblank hrest
      rw [parseValue, skipSpace_blank_append _ hblank, dump]
      rfl
  | bool b =>
      intro depth blank rest hblank hrest
      rw [parseValue, skipSpace_blank_append _ hblank, dump]
      cases b with
      | true => rfl
      | false => rfl
  | number hq =>
      intro depth blank rest hblank hrest
      rw [dump]
      exact parseValue_number L size _ (L.formatDouble_token _ hq)
        (L.strtod_formatDouble _ hq) hblank hrest
  | string s =>
      intro depth blank rest hblank hrest
      obtain ⟨t, hshape⟩ : ∃ t, escapeJson s = 34 :: t := ⟨_, rfl⟩
      have hstring := parseString_escapeJson s rest
      rw [hshape, List.cons_append] at hstring
      rw [parseValue, skipSpace_blank_append _ hblank, dump, hshape,
        List.cons_append,
        skipSpace_cons _ (by decide) (by decide) (by decide) (by decide)]
      simp only [show ¬(34 : UInt8) = 123 from by decide,
        show ¬(34 : UInt8) = 91 from by decide, if_false, if_true, hstring]
  | array hitems hlimit ih =>
      intro depth blank rest hblank hrest
      rename_i levels items
      rw [parseValue, skipSpace_blank_append _ hblank]
      cases items with
      | nil =>
          rw [dump]
          rfl
      | cons item items =>
          rw [dump, List.cons_append,
            skipSpace_cons _ (by decide) (by decide) (by decide) (by decide)]
          have hloop := parseArray_dump L size pretty
            (hitems item List.mem_cons_self) depth rest ih hlimit
          simp only [show ¬(91 : UInt8) = 123 from by decide, if_false, if_true,
            List.append_assoc, List.singleton_append]
          exact hloop
  | object hfields hsorted ih =>
      intro depth blank rest hblank hrest
      rename_i levels fields
      rw [parseValue, skipSpace_blank_append _ hblank]
      cases fields with
      | nil =>
          rw [dump]
          rfl
      | cons field fields =>
          rw [dump, List.cons_append,
            skipSpace_cons _ (by decide) (by decide) (by decide) (by decide)]
          have hloop := parseObject_dump L size pretty depth rest ih hsorted
          simp only [if_true, List.append_assoc, List.singleton_append]
          exact hloop

/-- **A printed document is parsed back**, with whatever blank bytes the
writer puts after it. -/
theorem parse_dump {j : Json} (h : Fits 65 j) {blank : Bytes}
    (hblank : Blank blank) :
    parse L (dump L pretty 0 j ++ blank) = .ok j := by
  have hstops : Stops blank := by
    rw [← List.append_nil blank]
    exact stops_blank_append hblank (fun c t h => nomatch h)
  obtain ⟨c, t, hhead, h32, h10, h13, h9, -, -⟩ := dump_head L pretty h 0
  have hspace : skipSpace (dump L pretty 0 j ++ blank)
      = dump L pretty 0 j ++ blank := by
    rw [hhead, List.cons_append, skipSpace_cons _ h32 h10 h13 h9]
  have hrest : skipSpace blank = [] := by
    rw [← List.append_nil blank, skipSpace_blank_append [] hblank]
    rfl
  have hvalue := parseValue_dump L (dump L pretty 0 j ++ blank).length pretty h
    0 [] blank blank_nil hstops
  rw [List.nil_append] at hvalue
  rw [parse, hspace, hvalue]
  simp only [hrest]

/-- Two documents that print alike are equal. -/
theorem dump_injective {i j : Json} (hi : Fits 65 i) (hj : Fits 65 j)
    (heq : dump L pretty 0 i = dump L pretty 0 j) : i = j := by
  have hparse := parse_dump L pretty hi blank_nil
  rw [heq, parse_dump L pretty hj blank_nil] at hparse
  exact (Except.ok.inj hparse).symm

/-- A document with every kind of value. -/
def sampleDocument : Json :=
  array [number .negativeZero, object [(ascii "k", string [9, 34, 255])],
    bool true, null, array []]

theorem fits_sampleDocument (levels : Nat) :
    Fits (levels + 3) sampleDocument := by
  refine .array (fun item hitem => ?_) (by decide)
  simp only [List.mem_cons, List.not_mem_nil, or_false] at hitem
  rcases hitem with rfl | rfl | rfl | rfl | rfl
  · exact .number trivial
  · refine .object (fun field hfield => ?_) (List.pairwise_singleton _ _)
    rw [List.mem_singleton.mp hfield]
    exact .string _
  · exact .bool true
  · exact .null
  · exact .array (fun item hitem => absurd hitem List.not_mem_nil) (by decide)

/-- **Printing and parsing are inverse.** A value of at most 65 levels is
read back from either printout, and no other value has its compact one. -/
theorem dump_round_trip {j : Json} (h : Fits 65 j) :
    (∀ pretty, parse L (dump L pretty 0 j) = .ok j) ∧
      ∀ i, Fits 65 i → dump L false 0 i = dump L false 0 j → i = j := by
  refine ⟨fun pretty => ?_, fun i hi heq => ?_⟩
  · have hparse := parse_dump L pretty h blank_nil
    rwa [List.append_nil] at hparse
  · exact dump_injective L false hi h heq

end

theorem dump_round_trip_sample :
    parse exactLibc (dump exactLibc true 0 sampleDocument)
        = .ok sampleDocument ∧
      parse exactLibc (dump exactLibc false 0 sampleDocument)
        = .ok sampleDocument :=
  ⟨(dump_round_trip exactLibc (fits_sampleDocument 62)).1 true,
    (dump_round_trip exactLibc (fits_sampleDocument 62)).1 false⟩

end RbfSafe.Json
