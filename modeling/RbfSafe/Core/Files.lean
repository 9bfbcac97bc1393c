/-
Files of the library: what every translation unit that reads and writes
JSON files does alike.

The units have their own copies of the field readers, which differ in
the texts of their errors only; a unit's texts are a `FieldTexts`, and
its readers are these applied to them. A file is its contents: the
checks that a path is a direct regular file are left out.
-/
import RbfSafe.Core.Json

namespace RbfSafe

open Json

/-- `kMaximumRecognizableSchema`. -/
def kMaximumRecognizableSchema : Nat := 1000

/-- `kMaximumStringBytes`. -/
def kMaximumStringBytes : Nat := 4096

/-- `kVersion`. -/
def kVersion : String := "4.7.0"

/-- The limit of `read_json_file`. -/
def kMaximumJsonFileBytes : Nat := 64 * 1024 * 1024

/-- `std::setfill('0') << std::setw(20)`. -/
def padSequence (n : Nat) : Bytes :=
  List.replicate (20 - (stdToString n).length) 48 ++ stdToString n

/-- `std::from_chars` into a `std::uint64_t`, of a whole string. -/
def fromChars (text : Bytes) : Option UInt64 :=
  if text.isEmpty || !text.all isDigit then none
  else
    let value := text.foldl (fun n c => n * 10 + (c.toNat - 48)) 0
    if value < 2 ^ 64 then some (UInt64.ofNat value) else none

/-- The cast of an enumeration from its number. -/
def ArtifactAuthenticationAlgorithm.fromNat :
    Nat → ArtifactAuthenticationAlgorithm
  | 0 => .hmacSha256
  | _ => .ed25519

-- === fields

/-- The texts of the field readers of one translation unit. -/
structure FieldTexts where
  notAnObject : String
  stringField : String
  numberField : String
  boolField : String
  decimalField : String

section
variable (texts : FieldTexts)

/-- `string_field`. -/
def readStringField (maximumBytes : Nat) (document : Json) (key : String)
    (allowEmpty : Bool := false) : Result Bytes :=
  match document with
  | object _ =>
      match document.find (ascii key) with
      | some (string value) =>
          if value.length > maximumBytes ∨ (!allowEmpty && value.isEmpty) then
            failure .corruptData texts.stringField (ascii key)
          else .ok value
      | _ => failure .corruptData texts.stringField (ascii key)
  | _ => failure .corruptData texts.notAnObject

/-- `number_field`; every reader of it compares the value, so `-0.0` and
`0.0` are one. -/
def readNumberField (document : Json) (key : String) : Result ℚ :=
  match document with
  | object _ =>
      match document.find (ascii key) with
      | some (number value) => .ok value.toRat
      | _ => failure .corruptData texts.numberField (ascii key)
  | _ => failure .corruptData texts.notAnObject

/-- `bool_field`. -/
def readBoolField (document : Json) (key : String) : Result Bool :=
  match document with
  | object _ =>
      match document.find (ascii key) with
      | some (Json.bool value) => .ok value
      | _ => failure .corruptData texts.boolField (ascii key)
  | _ => failure .corruptData texts.notAnObject

/-- `decimal_field`. -/
def readDecimalField (maximumBytes : Nat) (document : Json) (key : String) :
    Result UInt64 := do
  let text ← readStringField texts maximumBytes document key
  match fromChars text with
  | none => failure .corruptData texts.decimalField (ascii key)
  | some value => .ok value

end

/-- The test of an integral number between zero and a maximum. -/
def integralUpTo (value : ℚ) (maximum : Nat) : Bool :=
  decide (0 ≤ value) && decide (value.den = 1) && decide (value ≤ maximum)

end RbfSafe
