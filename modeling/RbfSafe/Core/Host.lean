/-
A platform the parameters can be instantiated with: the digest function
of the repository, and a C library that prints a double by its exact
decimal expansion.

The expansion of an integer is its digits, as with seventeen significant
digits; a double with a fraction has denominator `2 ^ k` and prints as
an integer with exponent `-k`. `readDecimal` reads exactly these forms,
so reading a printout back is arithmetic (`readDecimal_printDecimal`).
The signature check is left open: it is a hole of `host`.
-/
import RbfSafe.Core.Platform
import RbfSafe.Core.Sha256

namespace RbfSafe

/-- The exponent of the binary denominator of a double. -/
def binaryExponent (q : ℚ) : Nat := Nat.log2 q.den

/-- The exact decimal expansion of the absolute value. -/
def printUnsigned (q : ℚ) : Bytes :=
  stdToString (q.num.natAbs * 5 ^ binaryExponent q)
    ++ (if binaryExponent q = 0 then []
        else ascii "e-" ++ stdToString (binaryExponent q))

/-- The exact decimal expansion of a double. -/
def printDecimal (q : ℚ) : Bytes :=
  (if q < 0 then ascii "-" else []) ++ printUnsigned q

/-- The value of a run of digits. -/
def readDigits (s : Bytes) : Nat :=
  s.foldl (fun n d => 10 * n + (d.toNat - 48)) 0

/-- The optional sign of a number. -/
def readSign : Bytes → ℚ × Bytes
  | 45 :: rest => (-1, rest)
  | token => (1, token)

/-- An integer and an optional negative exponent. -/
def readUnsigned (token : Bytes) : Option ℚ :=
  match token.dropWhile isDigit with
  | [] => some (readDigits (token.takeWhile isDigit))
  | 101 :: 45 :: exp =>
      some (readDigits (token.takeWhile isDigit) / 10 ^ readDigits exp)
  | _ => none

/-- Read an optional sign, an integer and an optional negative exponent. -/
def readDecimal (token : Bytes) : Option ℚ :=
  (readUnsigned (readSign token).2).map ((readSign token).1 * ·)

-- === digits and their value

theorem readDigits_append (s t : Bytes) :
    readDigits (s ++ t) = readDigits s * 10 ^ t.length + readDigits t := by
  have h : ∀ (t : Bytes) (n : Nat),
      t.foldl (fun n d => 10 * n + (d.toNat - 48)) n
        = n * 10 ^ t.length + readDigits t := by
    intro t
    induction t with
    | nil => simp [readDigits]
    | cons d t ih =>
        intro n
        simp only [readDigits, List.foldl_cons, List.length_cons]
        rw [ih, ih (10 * 0 + _), pow_succ]
        ring
  rw [readDigits, List.foldl_append, h]
  rfl

theorem digit_toNat {d : Nat} (h : d < 10) :
    (UInt8.ofNat (48 + d)).toNat = 48 + d := by
  rw [UInt8.toNat_ofNat']
  omega

/-- `std::to_string` prints the digits from the most significant. -/
theorem readDigits_stdToString (n : Nat) : readDigits (stdToString n) = n := by
  have h : ∀ ds : List Nat, (∀ d ∈ ds, d < 10) →
      readDigits (ds.reverse.map fun d => UInt8.ofNat (48 + d))
        = Nat.ofDigits 10 ds := by
    intro ds hds
    induction ds with
    | nil => rfl
    | cons d ds ih =>
        have hd : readDigits [UInt8.ofNat (48 + d)] = d := by
          simp only [readDigits, List.foldl_cons, List.foldl_nil]
          rw [digit_toNat (hds d List.mem_cons_self)]
          omega
        rw [List.reverse_cons, List.map_append, readDigits_append,
          ih (fun e he => hds e (List.mem_cons_of_mem _ he)),
          List.map_singleton, hd, Nat.ofDigits_cons]
        simp
        ring
  by_cases hn : n = 0
  · subst hn
    rfl
  · rw [stdToString, if_neg hn,
      h _ (fun d hd => Nat.digits_lt_base (by omega) hd),
      Nat.ofDigits_digits]

theorem stdToString_inj {m n : Nat} (h : stdToString m = stdToString n) :
    m = n := by
  rw [← readDigits_stdToString m, h, readDigits_stdToString]

theorem isDigit_ofNat {d : Nat} (h : d < 10) :
    isDigit (UInt8.ofNat (48 + d)) = true := by
  have := digit_toNat h
  simp only [isDigit, Bool.and_eq_true, decide_eq_true_eq,
    UInt8.le_iff_toNat_le, this]
  exact ⟨Nat.le_add_right _ _, show 48 + d ≤ 57 by omega⟩

theorem all_isDigit_stdToString (n : Nat) :
    (stdToString n).all isDigit = true := by
  by_cases hn : n = 0
  · subst hn
    decide
  · rw [stdToString, if_neg hn, List.all_eq_true]
    intro c hc
    obtain ⟨d, hd, rfl⟩ := List.mem_map.mp hc
    exact isDigit_ofNat (Nat.digits_lt_base (by omega) (List.mem_reverse.mp hd))

theorem stdToString_ne_nil (n : Nat) : stdToString n ≠ [] := by
  by_cases hn : n = 0
  · subst hn
    decide
  · rw [stdToString, if_neg hn]
    have hdigits := Nat.digits_ne_nil_iff_ne_zero (b := 10).mpr hn
    simpa using hdigits

/-- The digits of a number carry no leading zero. -/
theorem integerPart_stdToString (n : Nat) : IntegerPart (stdToString n) := by
  by_cases hn : n = 0
  · left
    subst hn
    decide
  · right
    have hne := stdToString_ne_nil n
    have hall := all_isDigit_stdToString n
    have hlast := Nat.getLast_digit_ne_zero 10 hn
    cases hs : stdToString n with
    | nil => exact absurd hs hne
    | cons c cs =>
        rw [hs, List.all_cons, Bool.and_eq_true] at hall
        refine ⟨c, cs, rfl, ?_, ?_, hall.2⟩
        · rw [stdToString, if_neg hn] at hs
          have hdne : Nat.digits 10 n ≠ [] := Nat.digits_ne_nil_iff_ne_zero.mpr hn
          have hhead : c = UInt8.ofNat (48 + (Nat.digits 10 n).getLast hdne) := by
            rw [← List.dropLast_append_getLast hdne, List.reverse_append,
              List.reverse_singleton, List.singleton_append, List.map_cons,
              List.cons.injEq] at hs
            exact hs.1.symm
          have hlt : (Nat.digits 10 n).getLast hdne < 10 :=
            Nat.digits_lt_base (by omega) (List.getLast_mem hdne)
          rw [hhead, UInt8.le_iff_toNat_le, digit_toNat hlt]
          have := hlast
          show 49 ≤ _
          omega
        · simp only [isDigit, Bool.and_eq_true, decide_eq_true_eq] at hall
          exact hall.1.2

theorem takeWhile_digits {s t : Bytes} (hs : s.all isDigit = true)
    (ht : ∀ c ∈ t.head?, isDigit c = false) :
    (s ++ t).takeWhile isDigit = s ∧ (s ++ t).dropWhile isDigit = t := by
  induction s with
  | nil =>
      cases t with
      | nil => exact ⟨rfl, rfl⟩
      | cons c t =>
          have hc := ht c (by simp)
          simp [hc]
  | cons d s ih =>
      rw [List.all_cons, Bool.and_eq_true] at hs
      obtain ⟨h₁, h₂⟩ := ih hs.2
      simp [hs.1, h₁, h₂]

-- === the round trip

/-- A double has a power of two as its denominator. -/
theorem den_eq_two_pow {q : ℚ} (h : IsDouble q) : q.den = 2 ^ binaryExponent q := by
  obtain ⟨m, e, -, -, -, hq⟩ := h
  have hdvd : ∃ k, q.den ∣ 2 ^ k := by
    rcases le_or_gt 0 e with he | he
    · obtain ⟨n, rfl⟩ := Int.eq_ofNat_of_zero_le he
      refine ⟨0, ?_⟩
      have hint : q = ((m * 2 ^ n : ℤ) : ℚ) := by
        rw [hq]
        push_cast
        rw [zpow_natCast]
      rw [hint, Rat.den_intCast]
      exact one_dvd _
    · obtain ⟨n, hn⟩ := Int.eq_ofNat_of_zero_le (by omega : 0 ≤ -e)
      refine ⟨n, ?_⟩
      have hdiv : q = Rat.divInt m ((2 ^ n : ℕ) : ℤ) := by
        rw [hq, Rat.divInt_eq_div, show e = -(n : ℤ) from by omega, zpow_neg,
          zpow_natCast]
        push_cast
        rw [div_eq_mul_inv]
      rw [hdiv]
      exact_mod_cast Rat.den_dvd m ((2 ^ n : ℕ) : ℤ)
  obtain ⟨k, hk⟩ := hdvd
  obtain ⟨j, -, hj⟩ := (Nat.dvd_prime_pow Nat.prime_two).mp hk
  rw [binaryExponent, hj, Nat.log2_two_pow]

theorem printDecimal_token (q : ℚ) : NumberToken (printDecimal q) := by
  refine ⟨if q < 0 then ascii "-" else [], stdToString (q.num.natAbs * 5 ^ binaryExponent q),
    [], if binaryExponent q = 0 then [] else ascii "e-" ++ stdToString (binaryExponent q),
    ?_, ?_, integerPart_stdToString _, Or.inl rfl, ?_⟩
  · simp [printDecimal, printUnsigned]
  · by_cases hq : q < 0
    · exact Or.inr (if_pos hq)
    · exact Or.inl (if_neg hq)
  · by_cases hk : binaryExponent q = 0
    · exact Or.inl (if_pos hk)
    · refine Or.inr ⟨ascii "e", ascii "-", stdToString (binaryExponent q), ?_,
        Or.inl rfl, Or.inr (Or.inr rfl), stdToString_ne_nil _,
        all_isDigit_stdToString _⟩
      rw [if_neg hk]
      rfl

/-- The unsigned part of an expansion reads as the absolute value. -/
theorem readUnsigned_printDecimal {q : ℚ} (h : IsDouble q) :
    readUnsigned (printUnsigned q) = some ((q.num.natAbs : ℚ) / q.den) := by
  have hden := den_eq_two_pow h
  have hdigits := all_isDigit_stdToString (q.num.natAbs * 5 ^ binaryExponent q)
  by_cases hk : binaryExponent q = 0
  · obtain ⟨htake, hdrop⟩ := takeWhile_digits (t := []) hdigits (by simp)
    rw [printUnsigned, if_pos hk, readUnsigned, hdrop, htake, readDigits_stdToString, hden,
      hk]
    simp
  · have hhead : ∀ c ∈ (ascii "e-" ++ stdToString (binaryExponent q)).head?,
        isDigit c = false := by
      intro c hc
      have hc' : c = 101 := (Option.some.inj hc).symm
      rw [hc']
      decide
    obtain ⟨htake, hdrop⟩ := takeWhile_digits hdigits hhead
    rw [printUnsigned, if_neg hk, readUnsigned, hdrop, htake, readDigits_stdToString]
    show some (_ / 10 ^ readDigits (stdToString (binaryExponent q))) = _
    rw [readDigits_stdToString, hden, Option.some.injEq]
    push_cast
    rw [show (10 : ℚ) = 2 * 5 from by norm_num, mul_pow]
    exact mul_div_mul_right _ _ (by positivity)

/-- The digits of a number do not start with a sign. -/
theorem readSign_stdToString (n : Nat) (t : Bytes) :
    readSign (stdToString n ++ t) = (1, stdToString n ++ t) := by
  have hall := all_isDigit_stdToString n
  cases hs : stdToString n with
  | nil => exact absurd hs (stdToString_ne_nil n)
  | cons c cs =>
      rw [hs, List.all_cons, Bool.and_eq_true] at hall
      rw [List.cons_append, readSign]
      rintro rest hc
      rw [(List.cons.inj hc).1] at hall
      exact absurd hall.1 (by decide)

/-- The exact expansion is read back as the double. -/
theorem readDecimal_printDecimal {q : ℚ} (h : IsDouble q) :
    readDecimal (printDecimal q) = some q := by
  have habs := readUnsigned_printDecimal h
  have hq : (q.num : ℚ) / q.den = q := Rat.num_div_den q
  by_cases hneg : q < 0
  · have hnum : (q.num.natAbs : ℚ) = -q.num := by
      have hlt : q.num < 0 := Rat.num_neg.mpr hneg
      rw [Nat.cast_natAbs, abs_of_neg hlt, Int.cast_neg]
    have hsign : readSign (printDecimal q) = (-1, printUnsigned q) := by
      rw [printDecimal, if_pos hneg]
      rfl
    rw [readDecimal, hsign, habs, Option.map_some, hnum]
    congr 1
    rw [neg_div, hq]
    ring
  · have hnum : (q.num.natAbs : ℚ) = q.num := by
      have hle : 0 ≤ q.num := Rat.num_nonneg.mpr (not_lt.mp hneg)
      rw [Nat.cast_natAbs, abs_of_nonneg hle]
    have hsign : readSign (printDecimal q) = (1, printUnsigned q) := by
      rw [printDecimal, if_neg hneg, List.nil_append, printUnsigned]
      exact readSign_stdToString _ _
    rw [readDecimal, hsign, habs, Option.map_some, hnum, one_mul, hq]

theorem printDecimal_nat (n : Nat) : printDecimal (n : ℚ) = stdToString n := by
  have hneg : ¬(n : ℚ) < 0 := not_lt.mpr (Nat.cast_nonneg n)
  have hexp : binaryExponent (n : ℚ) = 0 := by
    rw [binaryExponent, Rat.den_natCast]
    rfl
  simp [printDecimal, printUnsigned, hexp, hneg]

/-- The zero with a sign keeps it. -/
def printDouble : FiniteDouble → Bytes
  | .value q => printDecimal q
  | .negativeZero => ascii "-0"

def readDouble (token : Bytes) : Option FiniteDouble :=
  if token = ascii "-0" then some .negativeZero
  else (readDecimal token).map .value

/-- No value prints as the zero with a sign. -/
theorem printDecimal_ne {q : ℚ} (h : IsDouble q) :
    printDecimal q ≠ ascii "-0" := by
  intro heq
  have hread := readDecimal_printDecimal h
  have hzero : readDecimal (ascii "-0") = some 0 := by decide +kernel
  rw [heq, hzero, Option.some_inj] at hread
  subst hread
  revert heq
  decide

theorem printDouble_token (x : FiniteDouble) : NumberToken (printDouble x) := by
  cases x with
  | value q => exact printDecimal_token q
  | negativeZero =>
      exact ⟨ascii "-", ascii "0", [], [], rfl, .inr rfl, .inl rfl, .inl rfl,
        .inl rfl⟩

theorem readDouble_printDouble {x : FiniteDouble} (h : x.Valid) :
    readDouble (printDouble x) = some x := by
  unfold readDouble printDouble
  cases x with
  | value q =>
      dsimp only
      rw [if_neg (printDecimal_ne h), readDecimal_printDecimal h]
      rfl
  | negativeZero => rw [if_pos rfl]

/-- The C library of exact expansions. -/
def exactLibc : Libc where
  formatDouble := printDouble
  strtod := readDouble
  formatDouble_token x _ := printDouble_token x
  strtod_formatDouble _ h := readDouble_printDouble h
  formatDouble_nat n _ := printDecimal_nat n

/-- A platform with the repository's digest function and the signature
check `check`. -/
def host (check : Bytes → Bytes → Bytes → Bool) : Platform where
  toLibc := exactLibc
  sha256 := sha256
  validSha256_sha256 := validSha256_sha256
  ed25519Check := check

/-- A public key, which the samples use. -/
def samplePublicKey : Vector UInt8 32 :=
  #v[215, 90, 152, 1, 130, 177, 10, 183, 213, 75, 254, 211, 201, 100, 7, 58, 14,
    225, 114, 243, 218, 166, 35, 37, 175, 2, 26, 104, 247, 7, 81, 26]

end RbfSafe
