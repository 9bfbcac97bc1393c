/-
`internal::Json`: values, printing and parsing.

`std::map` keeps its keys sorted and unique: `Object.emplace` inserts at
the sorted place and leaves an existing key alone, and the brace lists
of the source go through it one by one (`Json.obj`), so a document
prints in key order whatever order the source names its fields in.

The parser works on the bytes that are left; its position is the input
length less those. The depth bound is the recursion of `parseValue`
itself. A loop over items is bounded by the bytes left when it starts,
of which every round consumes one.
-/
import RbfSafe.Core.Platform

namespace RbfSafe

/-- `internal::Json`. -/
inductive Json where
  | null
  | bool (b : Bool)
  | number (x : FiniteDouble)
  | nonFinite (x : NonFinite)
  | string (s : Bytes)
  | array (items : List Json)
  | object (fields : List (Bytes × Json))

namespace Json

/-- `std::map::emplace`: insert in key order, keep an existing key. -/
def emplace (key : Bytes) (value : Json) :
    List (Bytes × Json) → List (Bytes × Json)
  | [] => [(key, value)]
  | (k, v) :: rest =>
      if key = k then (k, v) :: rest
      else if key < k then (key, value) :: (k, v) :: rest
      else (k, v) :: emplace key value rest

/-- A `Json::Object` from its brace list. -/
def obj (fields : List (String × Json)) : List (Bytes × Json) :=
  fields.foldl (fun acc f => emplace (ascii f.1) f.2 acc) []

/-- `std::to_string` of an unsigned field. -/
def uint (n : Nat) : Json := string (stdToString n)

/-- `static_cast<double>` of an unsigned field. -/
def num (n : Nat) : Json := number (.value (doubleOfNat n))

/-- `Json::find`. -/
def find (key : Bytes) : Json → Option Json
  | object fields => (fields.find? fun f => f.1 = key).map (·.2)
  | _ => none

-- === printing

/-- One character of `escape_json`. -/
def escapeChar (c : UInt8) : Bytes :=
  if c = 34 then ascii "\\\""
  else if c = 92 then ascii "\\\\"
  else if c = 8 then ascii "\\b"
  else if c = 12 then ascii "\\f"
  else if c = 10 then ascii "\\n"
  else if c = 13 then ascii "\\r"
  else if c = 9 then ascii "\\t"
  else if c < 0x20 then
    ascii "\\u00" ++ [hexDigit (c >>> 4), hexDigit (c &&& 0x0f)]
  else [c]

/-- `escape_json`. -/
def escapeJson (s : Bytes) : Bytes :=
  34 :: (s.flatMap escapeChar ++ [34])

/-- What a stream prints for a number that is not finite. -/
def printNonFinite : NonFinite → Bytes
  | .infinity => ascii "inf"
  | .negativeInfinity => ascii "-inf"
  | .notANumber => ascii "nan"

/-- The `indent` of `Json::dump`. -/
def indent (pretty : Bool) (level : Nat) : Bytes :=
  if pretty then List.replicate (level * 2) 32 else []

/-- The `newline` of `Json::dump`. -/
def newline (pretty : Bool) : Bytes := if pretty then [10] else []

/-- The `separator` of `Json::dump`. -/
def separator (pretty : Bool) : Bytes := if pretty then [58, 32] else [58]

section
variable (L : Libc) (pretty : Bool)

mutual

/-- `Json::dump`. -/
def dump (depth : Nat) : Json → Bytes
  | null => ascii "null"
  | bool b => if b then ascii "true" else ascii "false"
  | number x => L.formatDouble x
  | nonFinite x => printNonFinite x
  | string s => escapeJson s
  | array [] => [91, 93]
  | array (item :: items) =>
      91 :: (newline pretty ++ dumpItems depth (item :: items)
        ++ indent pretty depth ++ [93])
  | object [] => [123, 125]
  | object (field :: fields) =>
      123 :: (newline pretty ++ dumpFields depth (field :: fields)
        ++ indent pretty depth ++ [125])

/-- The array loop of `Json::dump`. -/
def dumpItems (depth : Nat) : List Json → Bytes
  | [] => []
  | item :: items =>
      indent pretty (depth + 1) ++ dump (depth + 1) item
        ++ (if items.isEmpty then [] else [44]) ++ newline pretty
        ++ dumpItems depth items

/-- The object loop of `Json::dump`. -/
def dumpFields (depth : Nat) : List (Bytes × Json) → Bytes
  | [] => []
  | field :: fields =>
      indent pretty (depth + 1) ++ dumpField (depth + 1) field
        ++ (if fields.isEmpty then [] else [44]) ++ newline pretty
        ++ dumpFields depth fields

/-- One field of an object. -/
def dumpField (depth : Nat) : Bytes × Json → Bytes
  | (key, value) => escapeJson key ++ separator pretty ++ dump depth value

end

end

-- === parsing

/-- `Parser::skip_space`. -/
def skipSpace : Bytes → Bytes
  | c :: rest =>
      if c = 32 ∨ c = 10 ∨ c = 13 ∨ c = 9 then skipSpace rest else c :: rest
  | [] => []

/-- `Parser::take_literal`. -/
def takeLiteral (literal rest : Bytes) : Option Bytes :=
  if literal.isPrefixOf rest then some (rest.drop literal.length) else none

/-- A hexadecimal digit of a `\u` escape. -/
def unicodeDigit (c : UInt8) : Option Nat :=
  if 48 ≤ c ∧ c ≤ 57 then some (c.toNat - 48)
  else if 97 ≤ c ∧ c ≤ 102 then some (c.toNat - 97 + 10)
  else if 65 ≤ c ∧ c ≤ 70 then some (c.toNat - 65 + 10)
  else none

/-- The bytes a `\u` escape stands for. -/
def unicodeBytes (code : Nat) : Bytes :=
  if code ≤ 0x7f then [UInt8.ofNat code]
  else if code ≤ 0x7ff then
    [UInt8.ofNat (0xc0 ||| (code >>> 6)),
      UInt8.ofNat (0x80 ||| (code &&& 0x3f))]
  else
    [UInt8.ofNat (0xe0 ||| (code >>> 12)),
      UInt8.ofNat (0x80 ||| ((code >>> 6) &&& 0x3f)),
      UInt8.ofNat (0x80 ||| (code &&& 0x3f))]

/-- The one-character escapes of `Parser::parse_string`. -/
def simpleEscape (c : UInt8) : Option UInt8 :=
  if c = 34 then some 34
  else if c = 92 then some 92
  else if c = 47 then some 47
  else if c = 98 then some 8
  else if c = 102 then some 12
  else if c = 110 then some 10
  else if c = 114 then some 13
  else if c = 116 then some 9
  else none

/-- The body of `Parser::parse_string`, after the opening quote. -/
def parseStringBody : Bytes → Bytes → Result (Bytes × Bytes)
  | [], _ => failure .corruptData "unterminated JSON string"
  | c :: rest, output =>
      if c = 34 then .ok (output, rest)
      else if c < 0x20 then
        failure .corruptData "control character in JSON string"
      else if c ≠ 92 then parseStringBody rest (output ++ [c])
      else match rest with
        | [] => failure .corruptData "truncated JSON escape"
        | e :: rest =>
            match simpleEscape e with
            | some plain => parseStringBody rest (output ++ [plain])
            | none =>
                if e ≠ 117 then failure .corruptData "invalid JSON escape"
                else match rest with
                  | h₁ :: h₂ :: h₃ :: h₄ :: rest =>
                      match unicodeDigit h₁, unicodeDigit h₂,
                          unicodeDigit h₃, unicodeDigit h₄ with
                      | some d₁, some d₂, some d₃, some d₄ =>
                          parseStringBody rest (output ++ unicodeBytes
                            (((d₁ * 16 + d₂) * 16 + d₃) * 16 + d₄))
                      | _, _, _, _ =>
                          failure .corruptData "invalid Unicode escape"
                  | _ => failure .corruptData "truncated Unicode escape"

/-- `Parser::parse_string`. -/
def parseString : Bytes → Result (Bytes × Bytes)
  | 34 :: rest => parseStringBody rest []
  | _ => failure .corruptData "expected JSON string"

section
variable (L : Libc) (size : Nat)

/-- `Parser::fail`, at the bytes left. -/
def fail {α : Type} (rest : Bytes) (message : String) : Result α :=
  failure .corruptData message
    (ascii "byte " ++ stdToString (size - rest.length))

/-- The optional fraction of `Parser::parse_number`. -/
def scanFraction (rest : Bytes) : Result Bytes :=
  match rest with
  | 46 :: digits =>
      let rest := digits.dropWhile isDigit
      if rest.length = digits.length then fail size rest "invalid JSON fraction"
      else .ok rest
  | _ => .ok rest

/-- The optional sign of an exponent. -/
def skipSign : Bytes → Bytes
  | c :: rest => if c = 43 ∨ c = 45 then rest else c :: rest
  | [] => []

/-- The optional exponent of `Parser::parse_number`. -/
def scanExponent (rest : Bytes) : Result Bytes :=
  match rest with
  | c :: tail =>
      if c = 101 ∨ c = 69 then
        let digits := skipSign tail
        let rest := digits.dropWhile isDigit
        if rest.length = digits.length then
          fail size rest "invalid JSON exponent"
        else .ok rest
      else .ok rest
  | [] => .ok rest

/-- The integer part of `Parser::parse_number`. -/
def scanInteger (rest : Bytes) : Result Bytes :=
  match rest with
  | [] => fail size rest "truncated JSON number"
  | c :: tail =>
      if c = 48 then .ok tail
      else if c < 49 ∨ 57 < c then fail size rest "invalid JSON number"
      else .ok (rest.dropWhile isDigit)

/-- The optional minus of a number. -/
def skipMinus : Bytes → Bytes
  | 45 :: rest => rest
  | rest => rest

/-- `Parser::parse_number`. -/
def parseNumber (start : Bytes) : Result (Json × Bytes) :=
  match scanInteger size (skipMinus start) with
  | .error e => .error e
  | .ok rest =>
  match scanFraction size rest with
  | .error e => .error e
  | .ok rest =>
  match scanExponent size rest with
  | .error e => .error e
  | .ok rest =>
  match L.strtod (start.take (start.length - rest.length)) with
  | none => fail size rest "invalid finite JSON number"
  | some x => .ok (number x, rest)

/-- The item loop of `Parser::parse_array`; `rounds` bounds it. -/
def parseItems (parseItem : Bytes → Result (Json × Bytes)) :
    Nat → Bytes → List Json → Result (Json × Bytes)
  | 0, rest, _ => fail size rest "unterminated JSON array"
  | rounds + 1, rest, items =>
      if 10000000 ≤ items.length then
        fail size rest "JSON array exceeds resource limit"
      else match parseItem rest with
        | .error e => .error e
        | .ok (item, rest) =>
            match skipSpace rest with
            | [] => fail size [] "unterminated JSON array"
            | c :: rest =>
                if c = 93 then .ok (array (items ++ [item]), rest)
                else if c ≠ 44 then
                  fail size rest "expected comma in JSON array"
                else parseItems parseItem rounds rest (items ++ [item])

/-- `Parser::parse_array`, after the bracket. -/
def parseArray (parseItem : Bytes → Result (Json × Bytes)) (rest : Bytes) :
    Result (Json × Bytes) :=
  match skipSpace rest with
  | 93 :: rest => .ok (array [], rest)
  | rest => parseItems size parseItem (rest.length + 1) rest []

/-- The field loop of `Parser::parse_object`; `rounds` bounds it. -/
def parseFields (parseItem : Bytes → Result (Json × Bytes)) :
    Nat → Bytes → List (Bytes × Json) → Result (Json × Bytes)
  | 0, rest, _ => fail size rest "unterminated JSON object"
  | rounds + 1, rest, fields =>
      match parseString (skipSpace rest) with
      | .error e => .error e
      | .ok (key, rest) =>
      match skipSpace rest with
      | [] => fail size [] "expected colon in JSON object"
      | c :: rest =>
      if c ≠ 58 then fail size rest "expected colon in JSON object"
      else match parseItem rest with
      | .error e => .error e
      | .ok (value, rest) =>
      if fields.any (fun f => f.1 = key) then
        fail size rest "duplicate JSON object key"
      else match skipSpace rest with
      | [] => fail size [] "unterminated JSON object"
      | c :: rest =>
          if c = 125 then .ok (object (emplace key value fields), rest)
          else if c ≠ 44 then
            fail size rest "expected comma in JSON object"
          else parseFields parseItem rounds rest (emplace key value fields)

/-- `Parser::parse_object`, after the brace. -/
def parseObject (parseItem : Bytes → Result (Json × Bytes)) (rest : Bytes) :
    Result (Json × Bytes) :=
  match skipSpace rest with
  | 125 :: rest => .ok (object [], rest)
  | rest => parseFields size parseItem (rest.length + 1) rest []

/-- `Parser::parse_value` with `levels` more levels of nesting allowed. -/
def parseValue (levels : Nat) (start : Bytes) : Result (Json × Bytes) :=
  match levels with
  | 0 => fail size start "JSON nesting is too deep"
  | levels + 1 =>
      match skipSpace start with
      | [] => fail size [] "unexpected end of JSON"
      | c :: rest =>
          if c = 123 then parseObject size (parseValue levels) rest
          else if c = 91 then parseArray size (parseValue levels) rest
          else if c = 34 then
            match parseString (c :: rest) with
            | .error e => .error e
            | .ok (s, rest) => .ok (string s, rest)
          else match takeLiteral (ascii "true") (c :: rest),
              takeLiteral (ascii "false") (c :: rest),
              takeLiteral (ascii "null") (c :: rest) with
          | some rest, _, _ => .ok (bool true, rest)
          | _, some rest, _ => .ok (bool false, rest)
          | _, _, some rest => .ok (null, rest)
          | _, _, _ =>
              if c = 45 ∨ isDigit c = true then parseNumber L size (c :: rest)
              else fail size (c :: rest) "unexpected JSON token"

end

/-- `Json::parse`. Depths 0 to 64 are admitted. -/
def parse (L : Libc) (text : Bytes) : Result Json :=
  match parseValue L text.length 65 (skipSpace text) with
  | .error e => .error e
  | .ok (value, rest) =>
      match skipSpace rest with
      | [] => .ok value
      | rest => fail text.length rest "unexpected trailing JSON data"

end Json

end RbfSafe
