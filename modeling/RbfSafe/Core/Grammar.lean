/-
The JSON grammar, as RFC 8259 has it, over bytes.

A text is described by its form: what stands between the brackets, less
the white space, with numbers as their tokens and strings as the
characters they are written with. `Value` relates a form to its texts;
its first argument bounds the nesting, so that the relation is defined
by recursion, one level at a time, as the parser is.

# Meaning

What a form denotes depends on how the characters of a string are
decoded. `transcoded` reads `\u` escapes as UTF-16, in which a surrogate
pair is one code point; `eachDecoded` reads each escape on its own.
`denote` takes the decoding as a parameter. It has no value where a
limit of the parser is exceeded: an array that is too long, a number
that is not finite, or two equal keys.
-/
import RbfSafe.Lib.Utf
import RbfSafe.Core.Proofs.Json

namespace RbfSafe.Json

open Lib.Utf

-- === characters

/-- A character of a string, as it is written. -/
inductive Character where
  | raw (c : UInt8)
  | escape (letter : UInt8)
  | unicode (h₁ h₂ h₃ h₄ : UInt8)
deriving DecidableEq

/-- The escapes of one letter. -/
def escapes : List (UInt8 × UInt8) :=
  [(0x22, 0x22), (0x5c, 0x5c), (0x2f, 0x2f), (0x62, 0x08), (0x66, 0x0c),
    (0x6e, 0x0a), (0x72, 0x0d), (0x74, 0x09)]

/-- The value of a hexadecimal digit: its place among the digits. -/
def hexValue (c : UInt8) : Option Nat :=
  (ascii "0123456789abcdef").findIdx? (· = c) <|>
    (ascii "0123456789ABCDEF").findIdx? (· = c)

/-- The value of four digits. -/
def hexCode (h₁ h₂ h₃ h₄ : UInt8) : Option Nat := do
  let d₁ ← hexValue h₁
  let d₂ ← hexValue h₂
  let d₃ ← hexValue h₃
  let d₄ ← hexValue h₄
  return ((d₁ * 16 + d₂) * 16 + d₃) * 16 + d₄

/-- The characters of the grammar. -/
def Character.Allowed : Character → Prop
  | raw c => 0x20 ≤ c ∧ c ≠ 0x22 ∧ c ≠ 0x5c
  | escape letter => (escapes.lookup letter).isSome
  | unicode h₁ h₂ h₃ h₄ => (hexCode h₁ h₂ h₃ h₄).isSome

def Character.text : Character → Bytes
  | raw c => [c]
  | escape letter => [0x5c, letter]
  | unicode h₁ h₂ h₃ h₄ => [0x5c, 0x75, h₁, h₂, h₃, h₄]

/-- The text of a string. -/
def quoted (characters : List Character) : Bytes :=
  0x22 :: (characters.flatMap Character.text ++ [0x22])

/-- What a character stands for. -/
def Character.piece : Character → Piece
  | raw c => .byte c
  | escape letter => .byte ((escapes.lookup letter).getD 0)
  | unicode h₁ h₂ h₃ h₄ => .unit ((hexCode h₁ h₂ h₃ h₄).getD 0)

/-- A string, with its escapes read as UTF-16. -/
def transcoded (characters : List Character) : Bytes :=
  transcode (characters.map Character.piece)

/-- A string, with each escape read on its own. -/
def eachDecoded (characters : List Character) : Bytes :=
  (characters.map Character.piece).flatMap Piece.bytes

-- === forms

/-- The form of a text. -/
inductive Form where
  | null
  | bool (b : Bool)
  | number (token : Bytes)
  | string (characters : List Character)
  | array (items : List Form)
  | object (members : List (List Character × Form))

/-- A list with commas between. -/
inductive Separated {α : Type} (Item : α → Bytes → Prop) :
    List α → Bytes → Prop
  | single {a : α} {s : Bytes} (h : Item a s) : Separated Item [a] s
  | cons {a : α} {as : List α} {s rest : Bytes} (h : Item a s)
      (hrest : Separated Item as rest) :
      Separated Item (a :: as) (s ++ 0x2c :: rest)

/-- With white space around it. -/
def Padded {α : Type} (Item : α → Bytes → Prop) (a : α) (s : Bytes) : Prop :=
  ∃ before text after, Blank before ∧ Item a text ∧ Blank after ∧
    s = before ++ (text ++ after)

/-- A key, a colon and a value. -/
def Member (Value : Form → Bytes → Prop) (member : List Character × Form)
    (s : Bytes) : Prop :=
  ∃ before after text, (∀ c ∈ member.1, c.Allowed) ∧ Blank before ∧
    Blank after ∧ Value member.2 text ∧
    s = quoted member.1 ++ (before ++ 0x3a :: (after ++ text))

/-- The values nested within `levels`. -/
def Value : Nat → Form → Bytes → Prop
  | 0, _, _ => False
  | _ + 1, .null, s => s = ascii "null"
  | _ + 1, .bool b, s => s = if b then ascii "true" else ascii "false"
  | _ + 1, .number token, s => NumberToken token ∧ s = token
  | _ + 1, .string characters, s =>
      (∀ c ∈ characters, c.Allowed) ∧ s = quoted characters
  | levels + 1, .array items, s => ∃ body, s = 0x5b :: (body ++ [0x5d]) ∧
      (items = [] ∧ Blank body ∨ Separated (Padded (Value levels)) items body)
  | levels + 1, .object members, s => ∃ body, s = 0x7b :: (body ++ [0x7d]) ∧
      (members = [] ∧ Blank body ∨
        Separated (Padded (Member (Value levels))) members body)

/-- A JSON text, nested within the limit of the parser. -/
def IsText (form : Form) (s : Bytes) : Prop := Padded (Value 65) form s

-- === meaning

section
variable (L : Libc) (decode : List Character → Bytes)

mutual

/-- The value of a form, if the form is within the limits. -/
def denote : Form → Option Json
  | .null => some null
  | .bool b => some (bool b)
  | .number token => (L.strtod token).map number
  | .string characters => some (string (decode characters))
  | .array items =>
      if items.length ≤ 10000000 then (denoteItems items).map array else none
  | .object members =>
      if (members.map fun m => decode m.1).Nodup then
        (denoteMembers members).map fun fields =>
          object (fields.foldl (fun acc f => emplace f.1 f.2 acc) [])
      else none

def denoteItems : List Form → Option (List Json)
  | [] => some []
  | item :: items =>
      match denote item, denoteItems items with
      | some value, some values => some (value :: values)
      | _, _ => none

def denoteMembers :
    List (List Character × Form) → Option (List (Bytes × Json))
  | [] => some []
  | member :: members =>
      match denoteMember member, denoteMembers members with
      | some field, some fields => some (field :: fields)
      | _, _ => none

def denoteMember : List Character × Form → Option (Bytes × Json)
  | (characters, value) =>
      (denote value).map fun value => (decode characters, value)

end

end

mutual

/-- A surrogate pair in a string or a key of a form. -/
def Form.hasPair : Form → Bool
  | .string characters => Lib.Utf.hasPair (characters.map Character.piece)
  | .array items => hasPairItems items
  | .object members => hasPairMembers members
  | _ => false

def Form.hasPairItems : List Form → Bool
  | [] => false
  | item :: items => item.hasPair || hasPairItems items

def Form.hasPairMembers : List (List Character × Form) → Bool
  | [] => false
  | member :: members => hasPairMember member || hasPairMembers members

def Form.hasPairMember : List Character × Form → Bool
  | (characters, value) =>
      Lib.Utf.hasPair (characters.map Character.piece) || value.hasPair

end

/-- **Conformance** of the parser on a text: it returns a value exactly
if the text is one of the grammar, within the limits, and denotes the
value. -/
def Conforms (L : Libc) (s : Bytes) : Prop :=
  ∀ value, parse L s = .ok value ↔
    ∃ form, IsText form s ∧ denote L transcoded form = some value

end RbfSafe.Json
