import NydusTest.Python.Encode

/-!
`json.loads(s, object_hook=lambda d: Namespace(**d))`, as CPython runs it: the
`_json` accelerator's scanner (`scan_once_unicode`, `scanstring_unicode`,
`_match_number_unicode`, `_parse_object_unicode`) behind `JSONDecoder.decode`.
Whitespace is `' '`, `'\t'`, `'\n'` and `'\r'`. An object is built by `dict`
assignments, so a repeated key keeps its first place and takes its last value,
and the hook makes the `dict` a namespace.

Values the document type has no place for (arrays, floats, `NaN`, `Infinity`,
a surrogate left unpaired) end the scan with `notModelled`. The scanner takes
`fuel`, one unit per value and per member; `loads` gives it one more than the
length of the text, which the interpreter's recursion limit does not bound.
-/

namespace NydusTest

namespace Json

/-- The `JSONDecodeError` messages of the scanner, and the two results that are
the model's own. -/
inductive DecodeError where
  /-- "Expecting value" -/
  | expectingValue
  /-- "Unterminated string starting at" -/
  | unterminatedString
  /-- "Invalid control character at" -/
  | invalidControlCharacter
  /-- "Invalid \\escape" -/
  | invalidEscape
  /-- "Invalid \\uXXXX escape" -/
  | invalidUnicodeEscape
  /-- "Expecting property name enclosed in double quotes" -/
  | expectingPropertyName
  /-- "Expecting ':' delimiter" -/
  | expectingColon
  /-- "Expecting ',' delimiter" -/
  | expectingComma
  /-- "Extra data" -/
  | extraData
  /-- "Unexpected UTF-8 BOM (decode using utf-8-sig)", raised by `json.loads`. -/
  | unexpectedBom
  /-- A value the document type has no place for. -/
  | notModelled (what : String)
  /-- The scanner ran out of fuel. -/
  | outOfFuel
  deriving DecidableEq, Repr

/-- `IS_WHITESPACE`. -/
def isWs (c : Char) : Bool := c == ' ' || c == '\t' || c == '\n' || c == '\r'

/-- The scanner's loops over whitespace. -/
def skipWs (s : List Char) : List Char := s.dropWhile isWs

/-- One hex digit of a `\uXXXX` escape, either case. -/
def hexDigitValue (c : Char) : Option Nat :=
  if '0' ≤ c ∧ c ≤ '9' then some (c.toNat - '0'.toNat)
  else if 'a' ≤ c ∧ c ≤ 'f' then some (c.toNat - 'a'.toNat + 10)
  else if 'A' ≤ c ∧ c ≤ 'F' then some (c.toNat - 'A'.toNat + 10)
  else none

/-- The hex digits of an escape, most significant first. -/
def hexValue (ds : List Char) : Option Nat :=
  ds.foldlM (fun acc c => (hexDigitValue c).map (acc * 16 + ·)) 0

/-- The character a backslash and `c` stand for, other than `\u`. -/
def escapeValue : Char → Option Char
  | '"' => some '"'
  | '\\' => some '\\'
  | '/' => some '/'
  | 'b' => some '\x08'
  | 'f' => some '\x0c'
  | 'n' => some '\n'
  | 'r' => some '\r'
  | 't' => some '\t'
  | _ => none

/-- `Py_UNICODE_JOIN_SURROGATES(hi, lo)`. -/
def joinSurrogates (hi lo : Nat) : Nat := ((hi &&& 0x3ff) <<< 10 ||| (lo &&& 0x3ff)) + 0x10000

/-- One decoded character in front of what the rest of the string decodes to. -/
def consChar (c : Char) (r : Except DecodeError (List Char × List Char)) :
    Except DecodeError (List Char × List Char) :=
  r.map fun (cs, t) => (c :: cs, t)

mutual
/-- `scanstring_unicode` after the opening quote: the characters of the string
and the text after the closing quote. -/
def scanString : List Char → Except DecodeError (List Char × List Char)
  | [] => .error .unterminatedString
  | c :: rest =>
      if c = '"' then .ok ([], rest)
      else if c = '\\' then scanEscape rest
      else if c.toNat ≤ 0x1f then .error .invalidControlCharacter
      else consChar c (scanString rest)

/-- After a backslash. -/
def scanEscape : List Char → Except DecodeError (List Char × List Char)
  | [] => .error .unterminatedString
  | e :: rest =>
      if e = 'u' then scanUnicode rest
      else match escapeValue e with
        | some c => consChar c (scanString rest)
        | none => .error .invalidEscape

/-- After `\u`: four hex digits and at least one more character. A high
surrogate is joined with a low surrogate escape right after it. -/
def scanUnicode : List Char → Except DecodeError (List Char × List Char)
  | a :: b :: c :: d :: rest =>
      if rest = [] then .error .invalidUnicodeEscape else
      match hexValue [a, b, c, d] with
      | none => .error .invalidUnicodeEscape
      | some hi =>
          if 0xd800 ≤ hi ∧ hi ≤ 0xdbff then scanLowSurrogate hi rest
          else if 0xdc00 ≤ hi ∧ hi ≤ 0xdfff then .error (.notModelled "lone surrogate")
          else consChar (Char.ofNat hi) (scanString rest)
  | _ => .error .invalidUnicodeEscape

/-- After a high surrogate escape `hi`: a low surrogate escape and at least one
more character, or the surrogate is left alone. -/
def scanLowSurrogate (hi : Nat) : List Char → Except DecodeError (List Char × List Char)
  | b :: u :: e :: f :: g :: h :: rest =>
      if b = '\\' ∧ u = 'u' ∧ rest ≠ [] then
        match hexValue [e, f, g, h] with
        | none => .error .invalidUnicodeEscape
        | some lo =>
            if 0xdc00 ≤ lo ∧ lo ≤ 0xdfff then
              consChar (Char.ofNat (joinSurrogates hi lo)) (scanString rest)
            else .error (.notModelled "lone surrogate")
      else .error (.notModelled "lone surrogate")
  | _ => .error (.notModelled "lone surrogate")
end

/-- `int(digits)` of a run of decimal digits. -/
def digitsValue (ds : List Char) : Nat :=
  ds.foldl (fun acc c => acc * 10 + (c.toNat - '0'.toNat)) 0

/-- After the integer part: `.` and a digit, or `e`/`E`, an optional sign and a
digit, make the number a float. -/
def floatTail : List Char → Bool
  | '.' :: d :: _ => d.isDigit
  | 'e' :: rest | 'E' :: rest =>
      match rest with
      | s :: d :: _ => s.isDigit || ((s == '+' || s == '-') && d.isDigit)
      | [d] => d.isDigit
      | [] => false
  | _ => false

/-- An integer, or a float the document type has no place for. -/
def intOrFloat (neg : Bool) (ds rest : List Char) : Except DecodeError (Json × List Char) :=
  if floatTail rest then .error (.notModelled "float")
  else .ok (.num (if neg then -(digitsValue ds : Int) else digitsValue ds), rest)

/-- The integer part of `_match_number_unicode` after the optional `-`: `0`, or a
digit `1`-`9` and all the digits after it. -/
def scanInt (neg : Bool) : List Char → Except DecodeError (Json × List Char)
  | '0' :: rest => intOrFloat neg ['0'] rest
  | d :: rest =>
      if '1' ≤ d ∧ d ≤ '9' then intOrFloat neg (d :: rest.takeWhile Char.isDigit)
        (rest.dropWhile Char.isDigit)
      else .error .expectingValue
  | [] => .error .expectingValue

/-- `_match_number_unicode`: an optional `-`, then the integer part. -/
def scanNumber : List Char → Except DecodeError (Json × List Char)
  | '-' :: t => scanInt true t
  | t => scanInt false t

/-- The text after the word `w` when `s` starts with it, the characters compared
one by one as the constants' branches of `scan_once_unicode` compare them. -/
def afterWord : List Char → List Char → Option (List Char)
  | [], s => some s
  | c :: w, d :: s => if c = d then afterWord w s else none
  | _ :: _, [] => none

/-- The branches of `scan_once_unicode` that read no nested value: an array, the
named constants, and numbers. -/
def scanLiteral (s : List Char) : Except DecodeError (Json × List Char) :=
  if s.head? = some '[' then .error (.notModelled "array")
  else if let some r := afterWord "null".data s then .ok (.null, r)
  else if let some r := afterWord "true".data s then .ok (.bool true, r)
  else if let some r := afterWord "false".data s then .ok (.bool false, r)
  else if (afterWord "NaN".data s).isSome then .error (.notModelled "NaN")
  else if (afterWord "Infinity".data s).isSome then .error (.notModelled "Infinity")
  else if (afterWord "-Infinity".data s).isSome then .error (.notModelled "-Infinity")
  else scanNumber s

mutual
/-- `scan_once_unicode`, with the object hook, for at most `fuel` values and
members. -/
def scanValue : Nat → List Char → Except DecodeError (Json × List Char)
  | 0, _ => .error .outOfFuel
  | _ + 1, '"' :: rest => (scanString rest).map fun (cs, r) => (.str (String.mk cs), r)
  | n + 1, '{' :: rest =>
      match skipWs rest with
      | '}' :: r => .ok (.obj [], r)
      | r => scanMembers n [] r
  | _ + 1, s => scanLiteral s

/-- The member loop of `_parse_object_unicode`, from a property name on; `acc`
is the `dict` of the members read so far. -/
def scanMembers : Nat → List (String × Json) → List Char → Except DecodeError (Json × List Char)
  | 0, _, _ => .error .outOfFuel
  | n + 1, acc, '"' :: s => do
      let (k, s) ← scanString s
      match skipWs s with
      | ':' :: s => do
          let (v, s) ← scanValue n (skipWs s)
          let acc := setField acc (String.mk k) v
          match skipWs s with
          | '}' :: s => pure (.obj acc, s)
          | ',' :: s => scanMembers n acc (skipWs s)
          | _ => throw .expectingComma
      | _ => throw .expectingColon
  | _ + 1, _, _ => .error .expectingPropertyName
end

/-- `JSONDecoder.decode`: whitespace, one value, whitespace, and nothing else. -/
def decode (fuel : Nat) (s : List Char) : Except DecodeError Json := do
  let (v, r) ← scanValue fuel (skipWs s)
  if skipWs r = [] then pure v else throw .extraData

/-- `json.loads(s, object_hook=lambda d: Namespace(**d))`. -/
def loads (s : String) : Except DecodeError Json :=
  if s.data.head? = some '\uFEFF' then .error .unexpectedBom
  else decode (s.length + 1) s.data

/-! ### What `loads` gives back -/

mutual
/-- The document `json.loads` builds from `json.dumps(j)`: the attributes of each
namespace assigned in order into a `dict`, so a repeated key keeps its first
place and its last value. -/
def normalize : Json → Json
  | .obj fs => .obj (normalizeFields [] fs)
  | j => j

/-- `normalize` on the attributes of one namespace, assigned into `acc`. -/
def normalizeFields : List (String × Json) → List (String × Json) → List (String × Json)
  | acc, [] => acc
  | acc, (k, v) :: fs => normalizeFields (setField acc k (normalize v)) fs
end

mutual
/-- No namespace of the document has an attribute twice. -/
def wellKeyed : Json → Bool
  | .obj fs => decide (fs.map Prod.fst).Nodup && wellKeyedFields fs
  | _ => true

/-- `wellKeyed` on the attributes of one namespace. -/
def wellKeyedFields : List (String × Json) → Bool
  | [] => true
  | (_, v) :: fs => wellKeyed v && wellKeyedFields fs
end

example : loads "\x7b\"a\": [1]\x7d" = .error (.notModelled "array") := rfl

example : loads " \x7b\"k\" : -0 , \"k\": \"\\ud83d\\ude00\"\x7d\n" =
    .ok (.obj [("k", .str (String.mk [Char.ofNat 0x1F600]))]) := rfl

end Json

end NydusTest
