import NydusTest.Python.Json

/-!
`json.dump(obj, fp)` with the default encoder: the chunks of the pure-Python
`_make_iterencode` (`json.dump` never takes the one-shot C path), each written
with its own `fp.write`, strings escaped by `py_encode_basestring_ascii`
(`ensure_ascii=True`), separators `", "` and `": "`, no indentation, keys in
insertion order.
-/

namespace NydusTest

namespace Json

/-- `'{0:04x}'.format(n)` for `n < 0x10000`. -/
def hex4 (n : Nat) : String :=
  let ds := Nat.toDigits 16 n
  String.mk (List.replicate (4 - ds.length) '0' ++ ds)

/-- The `replace` callback of `py_encode_basestring_ascii`: `ESCAPE_DCT` for the
two specials and the control characters, `\uXXXX` (a surrogate pair above the
basic plane) for every other character outside `' '..'~'`. -/
def escapeChar (c : Char) : String :=
  if c = '\\' then "\\\\"
  else if c = '"' then "\\\""
  else if c = '\x08' then "\\b"
  else if c = '\x0c' then "\\f"
  else if c = '\n' then "\\n"
  else if c = '\r' then "\\r"
  else if c = '\t' then "\\t"
  else if ' ' ≤ c ∧ c ≤ '~' then c.toString
  else if c.toNat < 0x10000 then "\\u" ++ hex4 c.toNat
  else
    let n := c.toNat - 0x10000
    "\\u" ++ hex4 (0xd800 ||| (n >>> 10 &&& 0x3ff)) ++ "\\u" ++ hex4 (0xdc00 ||| (n &&& 0x3ff))

/-- `py_encode_basestring_ascii(s)`. -/
def encodeBasestringAscii (s : String) : String :=
  "\"" ++ String.join (s.toList.map escapeChar) ++ "\""

mutual
/-- The chunks `_iterencode` yields for one value. -/
def iterencode : Json → List String
  | .str s => [encodeBasestringAscii s]
  | .null => ["null"]
  | .bool true => ["true"]
  | .bool false => ["false"]
  | .num n => [toString n]
  | .obj [] => ["{}"]
  | .obj (kv :: kvs) => "\x7b" :: iterencodeItems true (kv :: kvs) ++ ["\x7d"]

/-- The chunks of the item loop of `_iterencode_dict`; `first` is its flag. -/
def iterencodeItems : Bool → List (String × Json) → List String
  | _, [] => []
  | first, (k, v) :: rest =>
      (if first then [] else [", "]) ++ [encodeBasestringAscii k, ": "] ++ iterencode v ++
        iterencodeItems false rest
end

/-- `json.dumps(obj)`: the chunks of `json.dump` joined. -/
def dumps (j : Json) : String := String.join (iterencode j)

example : dumps (.obj [("a", .bool true), ("b", .obj [("c", .str "x\n")])]) =
    "\x7b\"a\": true, \"b\": \x7b\"c\": \"x\\n\"\x7d\x7d" := by decide

end Json

end NydusTest
