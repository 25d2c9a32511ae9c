import NydusTest.Python.Decode
import Mathlib.Data.Nat.Digits
import Mathlib.Tactic.IntervalCases
import Mathlib.Data.String.Basic

/-!
`json.loads` after `json.dumps`. The text `json.dumps` writes for a document is
read back by the scanner as the document, with the attributes of each namespace
assigned into a `dict` in order (`normalize`); a document whose namespaces have
no attribute twice, which every Python object is, comes back unchanged.

The proof reads the text piece by piece in continuation form, `scan (enc x ++
rest) = x, rest`: the digits `str(n)` writes, each escape of
`py_encode_basestring_ascii` (a surrogate pair above the basic plane), a
string, a number, and a value followed by what may follow a value, by
induction on the scanner's fuel with the text's length as its bound.

Every text `json.dumps` writes is ASCII (`ensure_ascii`): each escape of a
character outside `' '..'~'` is written with hex digits.
-/

namespace NydusTest

namespace Json

/-! ### Digits -/

section Digits

variable {m : Type → Type} [Monad m] [LawfulMonad m] {b : Nat} {f : Nat → Char → m Nat}

/-- Reading the digits `Nat.toDigitsCore` writes, with a step that takes
`digitChar k` to `acc * b + k`, gives back the number in front of them. -/
theorem foldlM_toDigitsCore (hb : 1 < b)
    (hf : ∀ acc k, k < b → f acc (Nat.digitChar k) = pure (acc * b + k)) :
    ∀ fuel n ds, n < fuel → (Nat.toDigitsCore b fuel n ds).foldlM f 0 = ds.foldlM f n
  | 0, _, _, h => absurd h (Nat.not_lt_zero _)
  | fuel + 1, n, ds, h => by
    dsimp only [Nat.toDigitsCore]
    split
    · next h0 =>
      rw [List.foldlM_cons, hf 0 _ (Nat.mod_lt _ (by omega)), pure_bind, Nat.zero_mul,
        Nat.zero_add, Nat.mod_eq_of_lt ((Nat.div_eq_zero_iff (by omega)).1 h0)]
    · next h0 =>
      have : n / b < n := Nat.div_lt_self (Nat.pos_of_ne_zero fun hn => h0 (by simp [hn])) hb
      rw [foldlM_toDigitsCore hb hf fuel _ _ (by omega), List.foldlM_cons,
        hf _ _ (Nat.mod_lt _ (by omega)), pure_bind, Nat.div_add_mod']

theorem mem_toDigitsCore (hb : 0 < b) {c : Char} :
    ∀ {fuel n ds}, c ∈ Nat.toDigitsCore b fuel n ds → c ∈ ds ∨ ∃ k < b, c = Nat.digitChar k
  | 0, _, _, h => .inl h
  | fuel + 1, n, ds, h => by
    dsimp only [Nat.toDigitsCore] at h
    split at h
    · exact (List.mem_cons.1 h).elim (fun h => .inr ⟨_, Nat.mod_lt _ hb, h⟩) .inl
    · exact (mem_toDigitsCore hb h).elim (fun h => (List.mem_cons.1 h).elim
        (fun h => .inr ⟨_, Nat.mod_lt _ hb, h⟩) .inl) .inr

/-- The first digit of a positive number is not `0`. -/
theorem toDigitsCore_head (hb : 1 < b) :
    ∀ {fuel n} (ds : List Char), 0 < n → n < fuel →
      ∃ k t, Nat.toDigitsCore b fuel n ds = Nat.digitChar k :: t ∧ 0 < k ∧ k < b
  | 0, _, _, _, h => absurd h (Nat.not_lt_zero _)
  | fuel + 1, n, ds, hn, h => by
    dsimp only [Nat.toDigitsCore]
    split
    · next h0 =>
      have := (Nat.div_eq_zero_iff (by omega)).1 h0
      exact ⟨n % b, ds, rfl, by rwa [Nat.mod_eq_of_lt this], Nat.mod_lt _ (by omega)⟩
    · next h0 =>
      have : n / b < n := Nat.div_lt_self hn hb
      exact toDigitsCore_head hb _ (Nat.pos_of_ne_zero h0) (by omega)

end Digits

theorem digitChar_ten : ∀ k < 10, (Nat.digitChar k).toNat - '0'.toNat = k ∧
    (Nat.digitChar k).isDigit ∧ (0 < k → '1' ≤ Nat.digitChar k ∧ Nat.digitChar k ≤ '9') := by
  decide

theorem hexDigitValue_digitChar : ∀ k < 16, hexDigitValue (Nat.digitChar k) = some k := by
  decide

/-- `int(str(n))`. -/
theorem digitsValue_toDigits (n : Nat) : digitsValue (Nat.toDigits 10 n) = n := by
  unfold digitsValue Nat.toDigits
  rw [List.foldl_eq_foldlM, foldlM_toDigitsCore (by decide)
    (fun acc k hk => by rw [(digitChar_ten k hk).1]; rfl) _ _ _ (Nat.lt_succ_self n)]
  rfl

theorem hexValue_hex4 (n : Nat) : hexValue (hex4 n).data = some n := by
  have hz : ∀ k, (List.replicate k '0').foldlM
      (fun acc c => (hexDigitValue c).map (acc * 16 + ·)) 0 = some 0 := by
    intro k
    induction k with
    | zero => rfl
    | succ k ih => rw [List.replicate_succ, List.foldlM_cons]; exact ih
  unfold hexValue hex4 Nat.toDigits
  rw [List.foldlM_append, hz]
  exact foldlM_toDigitsCore (by decide) (fun acc k hk => by rw [hexDigitValue_digitChar k hk]; rfl)
    _ _ _ (Nat.lt_succ_self n)

/-- Below `0x10000`, `'{0:04x}'` writes four hex digits that read back as the number. -/
theorem hex4_data {n : Nat} (h : n < 0x10000) :
    ∃ a b c d, (hex4 n).data = [a, b, c, d] ∧ hexValue [a, b, c, d] = some n := by
  have hlen : (hex4 n).data.length = 4 := by
    have := Nat.toDigitsCore_length 16 (by decide) (n + 1) n 4 h (by decide)
    simp only [hex4, Nat.toDigits, List.length_append, List.length_replicate]
    omega
  match hd : (hex4 n).data, hlen with
  | [a, b, c, d], _ => exact ⟨a, b, c, d, rfl, hd ▸ hexValue_hex4 n⟩

/-! ### Escapes and strings -/

/-- A character other than a quote, a backslash or a control character stands
for itself. -/
theorem scanString_plain {c : Char} (rest : List Char) (h1 : c ≠ '"') (h2 : c ≠ '\\')
    (h3 : 0x1f < c.toNat) : scanString (c :: rest) = consChar c (scanString rest) := by
  rw [scanString.eq_2, if_neg h1, if_neg h2, if_neg (by omega)]

theorem scanString_uEscape {a b c d : Char} {rest : List Char} (h : rest ≠ []) {x : Nat}
    (hx : hexValue [a, b, c, d] = some x) (hs : x < 0xd800 ∨ 0xdfff < x) :
    scanString ('\\' :: 'u' :: a :: b :: c :: d :: rest) =
      consChar (Char.ofNat x) (scanString rest) := by
  have h1 : ¬(0xd800 ≤ x ∧ x ≤ 0xdbff) := by omega
  have h2 : ¬(0xdc00 ≤ x ∧ x ≤ 0xdfff) := by omega
  show (if rest = [] then _ else _) = _
  simp only [h, hx, h1, h2, if_false]

theorem scanString_uEscape_high {a b c d : Char} {rest : List Char} (h : rest ≠ []) {hi : Nat}
    (hx : hexValue [a, b, c, d] = some hi) (h1 : 0xd800 ≤ hi ∧ hi ≤ 0xdbff) :
    scanString ('\\' :: 'u' :: a :: b :: c :: d :: rest) = scanLowSurrogate hi rest := by
  show (if rest = [] then _ else _) = _
  simp only [h, hx, h1, and_self, if_false, if_true]

theorem scanString_surrogatePair {a b c d e f g k : Char} {rest : List Char} (h : rest ≠ [])
    {hi lo : Nat} (hhi : hexValue [a, b, c, d] = some hi) (hlo : hexValue [e, f, g, k] = some lo)
    (h1 : 0xd800 ≤ hi ∧ hi ≤ 0xdbff) (h2 : 0xdc00 ≤ lo ∧ lo ≤ 0xdfff) :
    scanString ('\\' :: 'u' :: a :: b :: c :: d :: '\\' :: 'u' :: e :: f :: g :: k :: rest) =
      consChar (Char.ofNat (joinSurrogates hi lo)) (scanString rest) := by
  rw [scanString_uEscape_high (List.cons_ne_nil _ _) hhi h1]
  show (if '\\' = '\\' ∧ 'u' = 'u' ∧ rest ≠ [] then _ else _) = _
  simp only [hlo, h2, h, ne_eq, not_false_eq_true, and_self, if_true]

theorem mask_ten (x : Nat) : x &&& 0x3ff = x % 0x400 := Nat.and_pow_two_sub_one_eq_mod x 10

theorem or_low_ten {a r : Nat} (h : r < 0x400) : 0x400 * a ||| r = 0x400 * a + r :=
  (Nat.mul_add_lt_is_or (i := 10) h a).symm

/-- The two halves `py_encode_basestring_ascii` writes for a character above the
basic plane, `n` being its offset from `0x10000`. -/
theorem surrogates_of_lt {n : Nat} (h : n < 0x100000) :
    0xd800 ||| (n >>> 10 &&& 0x3ff) = 0xd800 + n / 0x400 ∧
      0xdc00 ||| (n &&& 0x3ff) = 0xdc00 + n % 0x400 := by
  rw [mask_ten, mask_ten, Nat.shiftRight_eq_div_pow,
    Nat.mod_eq_of_lt (show n / 2 ^ 10 < 0x400 by omega)]
  exact ⟨or_low_ten (a := 54) (by omega), or_low_ten (a := 55) (Nat.mod_lt _ (by decide))⟩

/-- `Py_UNICODE_JOIN_SURROGATES` undoes the split. -/
theorem joinSurrogates_split (n : Nat) (h : n < 0x100000) :
    joinSurrogates (0xd800 + n / 0x400) (0xdc00 + n % 0x400) = n + 0x10000 := by
  unfold joinSurrogates
  rw [mask_ten, mask_ten, Nat.shiftLeft_eq, show (0xd800 + n / 0x400) % 0x400 = n / 0x400 by omega,
    show (0xdc00 + n % 0x400) % 0x400 = n % 0x400 by omega, Nat.mul_comm,
    or_low_ten (Nat.mod_lt _ (by decide))]
  omega

/-- Each escape `py_encode_basestring_ascii` writes is read back by
`scanstring_unicode` as the character it stands for, in front of any further
text. -/
theorem scanString_escapeChar (c : Char) {rest : List Char} (hr : rest ≠ []) :
    scanString ((escapeChar c).data ++ rest) = consChar c (scanString rest) := by
  have hv : c.toNat < 0xd800 ∨ (0xdfff < c.toNat ∧ c.toNat < 0x110000) := c.valid
  by_cases hs : c = '\\' ∨ c = '"' ∨ c = '\x08' ∨ c = '\x0c' ∨ c = '\n' ∨ c = '\r' ∨ c = '\t'
  · rcases hs with rfl | rfl | rfl | rfl | rfl | rfl | rfl <;> rfl
  simp only [not_or] at hs
  obtain ⟨h1, h2, h3, h4, h5, h6, h7⟩ := hs
  rw [escapeChar, if_neg h1, if_neg h2, if_neg h3, if_neg h4, if_neg h5, if_neg h6, if_neg h7]
  by_cases h8 : ' ' ≤ c ∧ c ≤ '~'
  · rw [if_pos h8]
    exact scanString_plain rest h2 h1 h8.1
  rw [if_neg h8]
  by_cases h9 : c.toNat < 0x10000
  · obtain ⟨a, b, c', d, hd, hx⟩ := hex4_data h9
    rw [if_pos h9, String.data_append, hd]
    exact (scanString_uEscape hr hx (by omega)).trans (by rw [Char.ofNat_toNat])
  · obtain ⟨hhi, hlo⟩ := surrogates_of_lt (n := c.toNat - 0x10000) (by omega)
    obtain ⟨a, b, c', d, hd, hx⟩ := hex4_data (n := 0xd800 + (c.toNat - 0x10000) / 0x400) (by omega)
    obtain ⟨e, f, g, k, he, hy⟩ := hex4_data (n := 0xdc00 + (c.toNat - 0x10000) % 0x400) (by omega)
    simp only [if_neg h9, hhi, hlo, String.data_append, hd, he]
    refine (scanString_surrogatePair hr hx hy (by omega) (by omega)).trans ?_
    rw [joinSurrogates_split _ (by omega), Nat.sub_add_cancel (by omega), Char.ofNat_toNat]

/-- The escaped text of a string, up to its closing quote, is read back as the
string. -/
theorem scanString_escaped (cs rest : List Char) :
    scanString ((String.join (cs.map escapeChar)).data ++ '"' :: rest) = .ok (cs, rest) := by
  induction cs with
  | nil => rfl
  | cons c cs ih =>
    simp only [String.data_join, List.map_cons, List.flatten_cons, List.append_assoc] at ih ⊢
    rw [scanString_escapeChar c (by simp), ih]
    rfl

/-! ### Numbers -/

/-- What may follow a value `json.dumps` wrote: the end of the text, or the `,`
or `}` of the namespace around it. -/
def Delim (rest : List Char) : Prop := ∀ c ∈ rest.head?, c = ',' ∨ c = '}'

theorem floatTail_of_delim {rest : List Char} (hr : Delim rest) : floatTail rest = false := by
  match rest, hr with
  | [], _ => rfl
  | c :: _, hr => rcases hr c rfl with rfl | rfl <;> rfl

theorem digits_of_delim {rest : List Char} (hr : Delim rest) :
    rest.takeWhile Char.isDigit = [] ∧ rest.dropWhile Char.isDigit = rest := by
  match rest, hr with
  | [], _ => exact ⟨rfl, rfl⟩
  | c :: _, hr => rcases hr c rfl with rfl | rfl <;> exact ⟨rfl, rfl⟩

theorem intOrFloat_of_delim (neg : Bool) (ds : List Char) {rest : List Char} (hr : Delim rest) :
    intOrFloat neg ds rest =
      .ok (.num (if neg then -(digitsValue ds : Int) else digitsValue ds), rest) := by
  simp [intOrFloat, floatTail_of_delim hr]

theorem scanInt_toDigits (neg : Bool) (n : Nat) {rest : List Char} (hr : Delim rest) :
    scanInt neg (Nat.toDigits 10 n ++ rest) =
      .ok (.num (if neg then -(n : Int) else n), rest) := by
  rcases Nat.eq_zero_or_pos n with rfl | hn
  · exact intOrFloat_of_delim neg ['0'] hr
  obtain ⟨k, t, ht, hk, hk10⟩ := toDigitsCore_head (b := 10) (by decide) [] hn (Nat.lt_succ_self n)
  have htd : ∀ c ∈ t, c.isDigit := fun c hc =>
    match mem_toDigitsCore (b := 10) (by decide) (ht ▸ List.mem_cons_of_mem _ hc) with
    | .inr ⟨j, hj, hcj⟩ => hcj ▸ (digitChar_ten j hj).2.1
  obtain ⟨-, -, h19⟩ := digitChar_ten k hk10
  have hv := digitsValue_toDigits n
  rw [Nat.toDigits, ht] at hv ⊢
  rw [List.cons_append, scanInt, if_pos (h19 hk), List.takeWhile_append_of_pos htd,
    List.dropWhile_append_of_pos htd, (digits_of_delim hr).1, (digits_of_delim hr).2,
    List.append_nil, intOrFloat_of_delim neg _ hr, hv]
  intro h0
  exact absurd (h19 hk).1 (by rw [h0]; decide)

theorem toDigits_ten_cons (n : Nat) : ∃ k t, Nat.toDigits 10 n = Nat.digitChar k :: t ∧ k < 10 := by
  rcases Nat.eq_zero_or_pos n with rfl | hn
  · exact ⟨0, [], rfl, by decide⟩
  obtain ⟨k, t, ht, -, hk⟩ := toDigitsCore_head (b := 10) (by decide) [] hn (Nat.lt_succ_self n)
  exact ⟨k, t, ht, hk⟩

theorem scanValue_digitChar {k : Nat} (hk : k < 10) (p : Nat) (t : List Char) :
    scanValue (p + 1) (Nat.digitChar k :: t) = scanInt false (Nat.digitChar k :: t) := by
  interval_cases k <;> rfl

theorem scanValue_minus {k : Nat} (hk : k < 10) (p : Nat) (t : List Char) :
    scanValue (p + 1) ('-' :: Nat.digitChar k :: t) = scanInt true (Nat.digitChar k :: t) := by
  interval_cases k <;> rfl

/-- `str(n)` of an `int` is read back as `n`. -/
theorem scanValue_toString (n : Int) (p : Nat) {rest : List Char} (hr : Delim rest) :
    scanValue (p + 1) ((toString n).data ++ rest) = .ok (.num n, rest) := by
  cases n with
  | ofNat m =>
    show scanValue (p + 1) (Nat.toDigits 10 m ++ rest) = _
    obtain ⟨k, t, hkt, hk⟩ := toDigits_ten_cons m
    rw [hkt, List.cons_append, scanValue_digitChar hk, ← List.cons_append, ← hkt,
      scanInt_toDigits false m hr]
    rfl
  | negSucc m =>
    show scanValue (p + 1) ('-' :: (Nat.toDigits 10 (m + 1) ++ rest)) = _
    obtain ⟨k, t, hkt, hk⟩ := toDigits_ten_cons (m + 1)
    rw [hkt, List.cons_append, scanValue_minus hk, ← List.cons_append, ← hkt,
      scanInt_toDigits true _ hr]
    rfl

/-! ### Values -/

theorem dumps_str_data (s : String) :
    (dumps (.str s)).data = '"' :: ((String.join (s.data.map escapeChar)).data ++ ['"']) := by
  simp [dumps, iterencode, encodeBasestringAscii]

theorem dumps_obj_data (kv : String × Json) (kvs : List (String × Json)) :
    (dumps (.obj (kv :: kvs))).data =
      '{' :: ((String.join (iterencodeItems true (kv :: kvs))).data ++ ['}']) := by
  simp [dumps, iterencode]

theorem items_data (b : Bool) (k : String) (v : Json) (kvs : List (String × Json)) :
    (String.join (iterencodeItems b ((k, v) :: kvs))).data =
      (if b then [] else [',', ' ']) ++ '"' :: ((String.join (k.data.map escapeChar)).data ++
        '"' :: ':' :: ' ' :: ((dumps v).data ++ (String.join (iterencodeItems false kvs)).data)) := by
  cases b <;> simp [iterencodeItems, dumps, encodeBasestringAscii]

theorem items_false_data (k : String) (v : Json) (kvs : List (String × Json)) :
    (String.join (iterencodeItems false ((k, v) :: kvs))).data =
      ',' :: ' ' :: (String.join (iterencodeItems true ((k, v) :: kvs))).data := by
  rw [items_data, items_data]
  rfl

/-- The text of every value starts with a character that is neither whitespace
nor a byte order mark. -/
theorem dumps_head (j : Json) : ∃ c t, (dumps j).data = c :: t ∧ isWs c = false ∧ c ≠ '﻿' := by
  match j with
  | .null | .bool true | .bool false | .obj [] | .str _ => exact ⟨_, _, rfl, rfl, by decide⟩
  | .obj (kv :: kvs) => exact ⟨'{', _, dumps_obj_data kv kvs, rfl, by decide⟩
  | .num (.ofNat m) =>
    obtain ⟨k, t, hkt, hk⟩ := toDigits_ten_cons m
    exact ⟨_, t, hkt, by interval_cases k <;> rfl, by interval_cases k <;> decide⟩
  | .num (.negSucc m) => exact ⟨'-', Nat.toDigits 10 (m + 1), rfl, rfl, by decide⟩

theorem skipWs_of_not_ws {c : Char} (h : isWs c = false) (t : List Char) :
    skipWs (c :: t) = c :: t := by
  rw [skipWs, List.dropWhile_cons_of_neg (by simp [h])]

theorem skipWs_space (t : List Char) : skipWs (' ' :: t) = skipWs t := rfl

theorem skipWs_dumps (j : Json) (t : List Char) :
    skipWs ((dumps j).data ++ t) = (dumps j).data ++ t := by
  obtain ⟨c, t', h, hc, -⟩ := dumps_head j
  rw [h, List.cons_append, skipWs_of_not_ws hc]

theorem delim_items (kvs : List (String × Json)) (rest : List Char) :
    Delim ((String.join (iterencodeItems false kvs)).data ++ '}' :: rest) := by
  match kvs with
  | [] => exact fun c hc => .inr (Option.mem_some_iff.1 hc).symm
  | (k, v) :: kvs =>
    exact fun c hc => .inl (Option.mem_some_iff.1 (by rwa [items_data] at hc)).symm

/-- The scanner with `fuel` above the length of the text reads back a value
`json.dumps` wrote, and the member loop the items of a namespace. -/
theorem scan_dumps (fuel : Nat) :
    (∀ (j : Json) (rest : List Char), (dumps j).data.length < fuel → Delim rest →
      scanValue fuel ((dumps j).data ++ rest) = .ok (normalize j, rest)) ∧
    (∀ (k : String) (v : Json) (kvs acc : List (String × Json)) (rest : List Char),
      (String.join (iterencodeItems true ((k, v) :: kvs))).data.length < fuel →
      scanMembers fuel acc
          ((String.join (iterencodeItems true ((k, v) :: kvs))).data ++ '}' :: rest) =
        .ok (.obj (normalizeFields acc ((k, v) :: kvs)), rest)) := by
  induction fuel with
  | zero =>
    exact ⟨fun _ _ h => absurd h (Nat.not_lt_zero _), fun _ _ _ _ _ h => absurd h (Nat.not_lt_zero _)⟩
  | succ p ih =>
    obtain ⟨ihv, ihm⟩ := ih
    refine ⟨fun j rest hlen hr => ?_, fun k v kvs acc rest hlen => ?_⟩
    · match j with
      | .null | .bool true | .bool false | .obj [] => rfl
      | .num n => exact scanValue_toString n p hr
      | .str s =>
        rw [dumps_str_data, List.cons_append, List.append_assoc, List.singleton_append,
          scanValue.eq_2, scanString_escaped]
        rfl
      | .obj ((k, v) :: kvs) =>
        obtain ⟨Z, hZ⟩ : ∃ Z, (String.join (iterencodeItems true ((k, v) :: kvs))).data ++
            '}' :: rest = '"' :: Z := ⟨_, by rw [items_data]; rfl⟩
        rw [dumps_obj_data] at hlen ⊢
        rw [List.cons_append, List.append_assoc, List.singleton_append, hZ, scanValue.eq_3]
        show scanMembers p [] ('"' :: Z) = _
        rw [← hZ, ihm k v kvs [] rest (by simp only [List.length_cons, List.length_append] at hlen; omega)]
        rfl
    · rw [items_data] at hlen ⊢
      simp only [if_true, List.nil_append, List.cons_append, List.append_assoc, List.length_cons,
        List.length_append] at hlen ⊢
      rw [scanMembers.eq_2, scanString_escaped]
      simp only [bind, Except.bind, skipWs_of_not_ws (c := ':') rfl, skipWs_space, skipWs_dumps,
        ihv v _ (by omega) (delim_items kvs rest)]
      match kvs with
      | [] => rfl
      | (k', v') :: kvs =>
        obtain ⟨Z, hZ⟩ : ∃ Z, (String.join (iterencodeItems true ((k', v') :: kvs))).data ++
            '}' :: rest = '"' :: Z := ⟨_, by rw [items_data]; rfl⟩
        rw [items_false_data] at hlen ⊢
        simp only [List.cons_append, skipWs_of_not_ws (c := ',') rfl, skipWs_space, hZ,
          skipWs_of_not_ws (c := '"') rfl]
        rw [← hZ, ihm k' v' kvs _ rest (by simp only [List.length_cons] at hlen; omega)]
        rfl

/-- With any fuel above the length of the text, `JSONDecoder.decode` reads back
what `json.dumps` wrote; the text starts with no byte order mark. -/
theorem decode_dumps (j : Json) {fuel : Nat} (hf : (dumps j).data.length < fuel) :
    (dumps j).data.head? ≠ some '﻿' ∧ decode fuel (dumps j).data = .ok (normalize j) := by
  obtain ⟨c, t, h, -, hbom⟩ := dumps_head j
  have hv := (scan_dumps fuel).1 j [] hf (fun _ h => nomatch h)
  have hs := skipWs_dumps j []
  rw [List.append_nil] at hv hs
  refine ⟨by rw [h]; simpa using hbom, ?_⟩
  unfold decode
  rw [hs, hv]
  rfl

@[simp] theorem wellKeyed_obj (fs : List (String × Json)) :
    wellKeyed (.obj fs) = true ↔ (fs.map Prod.fst).Nodup ∧ wellKeyedFields fs = true := by
  simp [wellKeyed]

theorem wellKeyedFields_iff (fs : List (String × Json)) :
    wellKeyedFields fs = true ↔ ∀ kv ∈ fs, wellKeyed kv.2 = true := by
  induction fs with
  | nil => simp [wellKeyedFields]
  | cons kv fs ih => simp [wellKeyedFields, ih]

mutual
theorem normalize_of_wellKeyed : ∀ {j : Json}, wellKeyed j → normalize j = j
  | .obj fs, h => congrArg Json.obj (normalizeFields_of_wellKeyed [] ((wellKeyed_obj fs).1 h).1
      ((wellKeyed_obj fs).1 h).2)
  | .null, _ | .bool _, _ | .num _, _ | .str _, _ => rfl

theorem normalizeFields_of_wellKeyed : ∀ (acc : List (String × Json)) {fs : List (String × Json)},
    (acc.map Prod.fst ++ fs.map Prod.fst).Nodup → wellKeyedFields fs →
      normalizeFields acc fs = acc ++ fs
  | acc, [], _, _ => (List.append_nil acc).symm
  | acc, (k, v) :: fs, hnd, h => by
    simp only [wellKeyedFields, Bool.and_eq_true] at h
    have hk : k ∉ acc.map Prod.fst := fun hk =>
      List.disjoint_of_nodup_append hnd hk (List.mem_cons_self _ _)
    rw [normalizeFields, normalize_of_wellKeyed h.1, setField_of_not_mem v hk,
      normalizeFields_of_wellKeyed _ (by simpa using hnd) h.2, List.append_assoc]
    rfl
end

/-- A document no namespace of which has an attribute twice comes back from
`json.loads(json.dumps(j))` unchanged. -/
theorem loads_dumps_of_wellKeyed {j : Json} (h : wellKeyed j) : loads (dumps j) = .ok j := by
  have := decode_dumps j (show (dumps j).data.length < (dumps j).length + 1 from Nat.lt_succ_self _)
  rw [loads, if_neg this.1, this.2, normalize_of_wellKeyed h]

/-! ### `ensure_ascii` -/

theorem digitChar_ascii : ∀ k < 16, (Nat.digitChar k).toNat < 0x80 := by decide

theorem toDigits_ascii {b : Nat} (hb : 0 < b) (hb' : b ≤ 16) (n : Nat) :
    ∀ c ∈ Nat.toDigits b n, c.toNat < 0x80 := fun _ hc =>
  (mem_toDigitsCore hb hc).elim (fun h => nomatch h) fun ⟨k, hk, hc⟩ =>
    hc ▸ digitChar_ascii k (by omega)

theorem ascii_append {s t : String} (hs : ∀ c ∈ s.data, c.toNat < 0x80)
    (ht : ∀ c ∈ t.data, c.toNat < 0x80) : ∀ c ∈ (s ++ t).data, c.toNat < 0x80 := by
  intro c hc
  rw [String.data_append, List.mem_append] at hc
  exact hc.elim (hs c) (ht c)

theorem hex4_ascii (n : Nat) : ∀ c ∈ (hex4 n).data, c.toNat < 0x80 := by
  intro c hc
  rcases List.mem_append.1 hc with hc | hc
  · rw [List.eq_of_mem_replicate hc]
    decide
  · exact toDigits_ascii (by decide) (by decide) n c hc

/-- A text that is ASCII on both branches of an `if`. -/
theorem ascii_ite {p : Prop} [Decidable p] {s t : String} (hs : p → ∀ c ∈ s.data, c.toNat < 0x80)
    (ht : ¬p → ∀ c ∈ t.data, c.toNat < 0x80) : ∀ c ∈ (if p then s else t).data, c.toNat < 0x80 := by
  by_cases h : p
  · rw [if_pos h]
    exact hs h
  · rw [if_neg h]
    exact ht h

/-- Every escape `py_encode_basestring_ascii` writes is ASCII. -/
theorem escapeChar_ascii (c : Char) : ∀ d ∈ (escapeChar c).data, d.toNat < 0x80 := by
  unfold escapeChar
  iterate 7 refine ascii_ite (fun _ => by decide) fun _ => ?_
  refine ascii_ite (fun hp d hd => ?_) fun _ => ascii_ite (fun _ => ascii_append (by decide)
    (hex4_ascii _)) fun _ => ascii_append (ascii_append (ascii_append (by decide) (hex4_ascii _))
    (by decide)) (hex4_ascii _)
  rw [List.mem_singleton.1 hd]
  exact Nat.lt_of_le_of_lt hp.2 (by decide)

theorem join_ascii {l : List String} (h : ∀ s ∈ l, ∀ c ∈ s.data, c.toNat < 0x80) :
    ∀ c ∈ (String.join l).data, c.toNat < 0x80 := by
  intro c hc
  rw [String.data_join, List.mem_flatten] at hc
  obtain ⟨_, hl, hc⟩ := hc
  obtain ⟨s, hs, rfl⟩ := List.mem_map.1 hl
  exact h s hs c hc

theorem encodeBasestringAscii_ascii (s : String) :
    ∀ c ∈ (encodeBasestringAscii s).data, c.toNat < 0x80 :=
  ascii_append (ascii_append (by decide) (join_ascii fun _ ht => by
    obtain ⟨c, -, rfl⟩ := List.mem_map.1 ht
    exact escapeChar_ascii c)) (by decide)

theorem toString_int_ascii : ∀ n : Int, ∀ c ∈ (toString n).data, c.toNat < 0x80
  | .ofNat m => toDigits_ascii (by decide) (by decide) m
  | .negSucc m => ascii_append (by decide) (toDigits_ascii (by decide) (by decide) (m + 1))

mutual
theorem iterencode_ascii : ∀ j : Json, ∀ s ∈ iterencode j, ∀ c ∈ s.data, c.toNat < 0x80
  | .str s, _, .head _ => encodeBasestringAscii_ascii s
  | .num n, _, .head _ => toString_int_ascii n
  | .null, _, h | .bool true, _, h | .bool false, _, h | .obj [], _, h => by
      rcases h with _ | ⟨_, h⟩
      · decide
      · cases h
  | .obj (kv :: kvs), s, h => by
      rw [iterencode, List.mem_append, List.mem_cons, List.mem_singleton] at h
      rcases h with (rfl | h) | rfl
      · decide
      · exact iterencodeItems_ascii true _ s h
      · decide

theorem iterencodeItems_ascii : ∀ (first : Bool) (fs : List (String × Json)),
    ∀ s ∈ iterencodeItems first fs, ∀ c ∈ s.data, c.toNat < 0x80
  | _, [], _, h => nomatch h
  | first, (k, v) :: rest, s, h => by
      simp only [iterencodeItems, List.mem_append, List.mem_cons, List.not_mem_nil, or_false] at h
      rcases h with ((h | rfl | rfl) | h) | h
      · cases first
        · rw [List.mem_singleton.1 h]
          decide
        · cases h
      · exact encodeBasestringAscii_ascii k
      · decide
      · exact iterencode_ascii v s h
      · exact iterencodeItems_ascii false rest s h
end

/-- `ensure_ascii`: whatever characters its strings and keys hold, the text
`json.dumps` writes is ASCII. -/
theorem dumps_ascii (j : Json) : (dumps j).data.all (fun c => c.toNat < 0x80) = true :=
  List.all_eq_true.2 fun c hc => decide_eq_true (join_ascii (iterencode_ascii j) c hc)

end Json

end NydusTest
