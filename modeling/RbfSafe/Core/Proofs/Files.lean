/-
Reading fields back that were written.

Each reader returns the value of the field it is given, under the limits
it checks: a string that is not empty and not too long (`Storable`), a
decimal of 64 bits, a small number. A file is read back whole when it
keeps within the limit of `read_json_file`.
-/
import RbfSafe.Core.Files
import RbfSafe.Core.Proofs.Documents

namespace RbfSafe

open Json

-- === short strings

/-- A string that a reader with this limit takes. -/
def Storable (maximumBytes : Nat) (value : Bytes) : Prop :=
  value ≠ [] ∧ value.length ≤ maximumBytes

theorem storable_sha256 {digest : Bytes} (h : validSha256 digest = true) :
    Storable 64 digest := by
  refine ⟨validSha256_ne_nil h, ?_⟩
  simp only [validSha256, Bool.and_eq_true, beq_iff_eq] at h
  exact h.1.le

theorem storable_identifier {value : Bytes}
    (h : validIdentifier value = true) :
    Storable kMaximumIdentifierBytes value := by
  simp only [validIdentifier, validText, Bool.and_eq_true,
    Bool.not_eq_true', decide_eq_true_eq] at h
  refine ⟨?_, h.1.2⟩
  rintro rfl
  simp at h

/-- A number of 64 bits has at most twenty digits. -/
theorem length_stdToString_le {n : Nat} (h : n < 2 ^ 64) :
    (stdToString n).length ≤ 20 := by
  by_cases hn : n = 0
  · subst hn
    decide
  · rw [stdToString, if_neg hn, List.length_map, List.length_reverse]
    have hlt : n < 10 ^ 20 := h.trans (by norm_num)
    exact (Nat.digits_length_le_iff (by norm_num) n).mpr hlt

theorem storable_stdToString {n : Nat} (h : n < 2 ^ 64) :
    Storable 20 (stdToString n) :=
  ⟨stdToString_ne_nil n, length_stdToString_le h⟩

theorem fromChars_stdToString {n : Nat} (h : n < 2 ^ 64) :
    fromChars (stdToString n) = some (UInt64.ofNat n) := by
  have hvalue : (stdToString n).foldl
      (fun n c => n * 10 + (c.toNat - 48)) 0 = n := by
    have hread := readDigits_stdToString n
    simp only [readDigits, Nat.mul_comm 10] at hread
    exact hread
  have hne : (stdToString n).isEmpty = false := by
    rw [List.isEmpty_eq_false_iff]
    exact stdToString_ne_nil n
  rw [fromChars, hne, all_isDigit_stdToString]
  simp only [hvalue, Bool.not_true, Bool.or_self, Bool.false_eq_true,
    if_false, if_pos h]

-- === readers

section
variable {texts : FieldTexts} {fields : List (String × Json)} {key : String}

theorem readStringField_ok {maximumBytes : Nat} {value : Bytes}
    {allowEmpty : Bool}
    (hlookup : fields.lookup key = some (string value))
    (hlength : value.length ≤ maximumBytes)
    (hempty : allowEmpty = true ∨ value ≠ []) :
    readStringField texts maximumBytes (object (obj fields)) key allowEmpty
      = .ok value := by
  have hguard : ¬(value.length > maximumBytes
      ∨ (!allowEmpty && value.isEmpty) = true) := by
    rintro (hlong | hnil)
    · omega
    · simp only [Bool.and_eq_true, Bool.not_eq_true', List.isEmpty_iff] at hnil
      rcases hempty with h | h
      · rw [h] at hnil
        cases hnil.1
      · exact h hnil.2
  simp only [readStringField, find_obj_lookup, hlookup, if_neg hguard]

theorem readStringField_storable {m maximumBytes : Nat} {value : Bytes}
    {allowEmpty : Bool}
    (hlookup : fields.lookup key = some (string value))
    (h : Storable m value) (hle : m ≤ maximumBytes) :
    readStringField texts maximumBytes (object (obj fields)) key allowEmpty
      = .ok value :=
  readStringField_ok hlookup (h.2.trans hle) (Or.inr h.1)

theorem readNumberField_num {n : Nat}
    (hlookup : fields.lookup key = some (num n))
    (h : n < 2 ^ 53) : readNumberField texts (object (obj fields)) key = .ok n := by
  have hnumber : fields.lookup key
      = some (number (.value (doubleOfNat n))) := hlookup
  simp only [readNumberField, find_obj_lookup, hnumber, FiniteDouble.toRat,
    doubleOfNat_small h]

theorem readBoolField_ok {value : Bool}
    (hlookup : fields.lookup key = some (Json.bool value)) :
    readBoolField texts (object (obj fields)) key = .ok value := by
  simp only [readBoolField, find_obj_lookup, hlookup]

theorem readDecimalField_uint {maximumBytes : Nat} {value : UInt64}
    (hlookup : fields.lookup key = some (uint value.toNat))
    (hle : 20 ≤ maximumBytes) :
    readDecimalField texts maximumBytes (object (obj fields)) key = .ok value := by
  have hstring : fields.lookup key
      = some (string (stdToString value.toNat)) := hlookup
  have hlt := value.toNat_lt
  rw [readDecimalField, readStringField_storable hstring
    (storable_stdToString hlt) hle, ok_bind, fromChars_stdToString hlt]
  simp only [UInt64.ofNat_toNat]

theorem integralUpTo_natCast {n maximum : Nat} (h : n ≤ maximum) :
    integralUpTo n maximum = true := by
  simp only [integralUpTo, Bool.and_eq_true, decide_eq_true_eq]
  exact ⟨⟨by positivity, Rat.den_natCast n⟩, by exact_mod_cast h⟩

end

-- === files

theorem ArtifactAuthenticationAlgorithm.fromNat_toNat
    (algorithm : ArtifactAuthenticationAlgorithm) :
    fromNat algorithm.toNat = algorithm := by
  cases algorithm <;> rfl

end RbfSafe
