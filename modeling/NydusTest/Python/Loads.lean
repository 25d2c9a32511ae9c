import NydusTest.Python.RoundTrip

/-!
Two lemmas about the model of `json.loads` itself, on every text and not only on
what `json.dumps` wrote: they say that the model's representation and its fuel
are adequate, not something of the framework. A namespace is modelled as a list
of attributes, which could hold one attribute twice where a `Namespace(**d)`
never does: every document `loads` builds has each attribute once, as the `dict`
the decoder assigns key by key has, and the setters' assignments keep that. And
the fuel `loads` gives the scanner never runs out: each value and each member it
reads takes at least one character of the text, so every result is a document
or one of the scanner's own errors.
-/

namespace NydusTest

namespace Json

/-! ### Assignments keep each attribute once -/

theorem keys_setField (fs : List (String × Json)) (k : String) (v : Json) :
    (setField fs k v).map Prod.fst =
      if k ∈ fs.map Prod.fst then fs.map Prod.fst else fs.map Prod.fst ++ [k] := by
  induction fs with
  | nil => rfl
  | cons kv fs ih =>
    by_cases h : kv.1 = k
    · simp [setField, h]
    · by_cases hk : k ∈ fs.map Prod.fst <;> simp_all [setField, Ne.symm h]

theorem mem_setField {fs : List (String × Json)} {k : String} {v : Json} {kv : String × Json}
    (h : kv ∈ setField fs k v) : kv ∈ fs ∨ kv = (k, v) := by
  induction fs with
  | nil => exact .inr (List.mem_singleton.1 h)
  | cons kv' fs ih =>
    unfold setField at h
    split_ifs at h
    · exact (List.mem_cons.1 h).elim .inr fun h => .inl (List.mem_cons_of_mem _ h)
    · exact (List.mem_cons.1 h).elim (fun h => .inl (h ▸ List.mem_cons_self _ _))
        fun h => (ih h).imp_left (List.mem_cons_of_mem _)

theorem wellKeyed_obj_setField {fs : List (String × Json)} (h : wellKeyed (.obj fs)) (k : String)
    {v : Json} (hv : wellKeyed v) : wellKeyed (.obj (setField fs k v)) := by
  rw [wellKeyed_obj, wellKeyedFields_iff] at h ⊢
  refine ⟨?_, fun kv hkv => (mem_setField hkv).elim (h.2 kv) (fun e => e ▸ hv)⟩
  rw [keys_setField]
  split_ifs with hk
  · exact h.1
  · exact h.1.append (List.nodup_singleton k) (List.disjoint_singleton.2 hk)

theorem wellKeyed_of_getField {fs : List (String × Json)} {k : String} {c : Json}
    (h : wellKeyedFields fs) (hc : getField fs k = some c) : wellKeyed c := by
  induction fs with
  | nil => cases hc
  | cons kv fs ih =>
    simp only [wellKeyedFields, Bool.and_eq_true] at h
    unfold getField at hc
    split_ifs at hc
    · cases hc; exact h.1
    · exact ih h.2 hc

/-- An assignment along a path of namespaces keeps each attribute once. -/
theorem wellKeyed_setPath {j j' : Json} {p : List String} {v : Json} (hj : wellKeyed j)
    (hv : wellKeyed v) (h : setPath j p v = some j') : wellKeyed j' := by
  induction p generalizing j j' with
  | nil => cases j <;> cases h
  | cons k ks ih =>
    cases ks with
    | nil =>
      obtain ⟨fs, rfl⟩ := setPath_eq_some h
      cases h
      exact wellKeyed_obj_setField hj k hv
    | cons k₁ ks =>
      obtain ⟨fs, c, c', rfl, hc, hc', rfl⟩ := setPath_cons_cons_eq_some h
      exact wellKeyed_obj_setField hj k
        (ih (wellKeyed_of_getField ((wellKeyed_obj fs).1 hj).2 hc) hc')

/-! ### What `json.loads` builds -/

theorem intOrFloat_num {neg : Bool} {ds rest r : List Char} {j : Json}
    (h : intOrFloat neg ds rest = .ok (j, r)) : ∃ n, j = .num n := by
  unfold intOrFloat at h
  split at h
  · cases h
  · cases h; exact ⟨_, rfl⟩

theorem scanNumber_num {s r : List Char} {j : Json} (h : scanNumber s = .ok (j, r)) :
    ∃ n, j = .num n := by
  have hi : ∀ {neg t}, scanInt neg t = .ok (j, r) → ∃ n, j = .num n := fun h => by
    unfold scanInt at h
    split at h
    · exact intOrFloat_num h
    · split at h
      · exact intOrFloat_num h
      · cases h
    · cases h
  unfold scanNumber at h
  split at h <;> exact hi h

/-- The constants and numbers are no namespace. -/
theorem scanLiteral_wellKeyed {s r : List Char} {j : Json} (h : scanLiteral s = .ok (j, r)) :
    wellKeyed j := by
  unfold scanLiteral at h
  repeat' split at h
  all_goals first
    | (cases h; done)
    | (cases h; rfl)
    | (obtain ⟨n, rfl⟩ := scanNumber_num h; rfl)

/-- Every value the scanner reads, and every namespace the member loop finishes
from a `dict` with each key once, has each attribute once. -/
theorem scan_wellKeyed (fuel : Nat) :
    (∀ {s r : List Char} {j : Json}, scanValue fuel s = .ok (j, r) → wellKeyed j) ∧
    (∀ {acc : List (String × Json)} {s r : List Char} {j : Json}, wellKeyed (.obj acc) →
      scanMembers fuel acc s = .ok (j, r) → wellKeyed j) := by
  induction fuel with
  | zero => exact ⟨fun h => (by cases h), fun _ h => (by cases h)⟩
  | succ p ih =>
    refine ⟨fun {s r j} h => ?_, fun {acc s r j} hacc h => ?_⟩
    · by_cases hq : ∃ t, s = '"' :: t
      · obtain ⟨t, rfl⟩ := hq
        rw [scanValue.eq_2] at h
        cases hs : scanString t with
        | error e => rw [hs] at h; cases h
        | ok cr => rw [hs] at h; cases h; rfl
      by_cases hb : ∃ t, s = '{' :: t
      · obtain ⟨t, rfl⟩ := hb
        rw [scanValue.eq_3] at h
        split at h
        · cases h; rfl
        · exact ih.2 (by decide) h
      rw [scanValue.eq_4 s p (fun t h => hq ⟨t, h⟩) (fun t h => hb ⟨t, h⟩)] at h
      exact scanLiteral_wellKeyed h
    · by_cases hq : ∃ t, s = '"' :: t
      · obtain ⟨t, rfl⟩ := hq
        rw [scanMembers.eq_2] at h
        cases hk : scanString t with
        | error e => rw [hk] at h; cases h
        | ok ks =>
          simp only [hk, bind, Except.bind] at h
          split at h
          · next s' _ =>
            cases hv : scanValue p (skipWs s') with
            | error e => rw [hv] at h; cases h
            | ok vs =>
              simp only [hv] at h
              have hacc' := wellKeyed_obj_setField hacc (String.mk ks.1) (ih.1 hv)
              split at h
              · cases h; exact hacc'
              · exact ih.2 hacc' h
              · cases h
          · cases h
      · rw [scanMembers.eq_3 acc s p (fun t h => hq ⟨t, h⟩)] at h
        cases h

/-- Every document `json.loads` builds has each attribute of each namespace once,
whatever keys the text repeated. -/
theorem loads_wellKeyed {s : String} {j : Json} (h : loads s = .ok j) : wellKeyed j := by
  unfold loads decode at h
  split at h
  · cases h
  · cases hv : scanValue (s.length + 1) (skipWs s.data) with
    | error e => rw [hv] at h; cases h
    | ok vr =>
      simp only [hv, bind, Except.bind] at h
      split at h
      · cases h; exact (scan_wellKeyed _).1 hv
      · cases h

/-- A repeated key keeps its first place and its last value. -/
example : loads "\x7b\"k\": 1, \"k\": 2\x7d" = .ok (.obj [("k", .num 2)]) := rfl

/-! ### The fuel is enough -/

/-- What a scan leaves: a shorter text when it returns, and when it raises an
error of the scanner's own, not the model's `outOfFuel`. -/
def Progress {α : Type} (s : List Char) : Except DecodeError (α × List Char) → Prop
  | .ok (_, r) => r.length < s.length
  | .error e => e ≠ .outOfFuel

theorem Progress.mono {α : Type} {s s' : List Char} {x : Except DecodeError (α × List Char)}
    (h : Progress s x) (hl : s.length ≤ s'.length) : Progress s' x := by
  rcases x with e | ⟨_, r⟩
  · exact h
  · exact Nat.lt_of_lt_of_le h hl

theorem Progress.consChar {s : List Char} {x : Except DecodeError (List Char × List Char)}
    (h : Progress s x) (c : Char) : Progress s (Json.consChar c x) := by
  rcases x with e | ⟨_, r⟩
  · exact h
  · exact h

/-- `scanstring_unicode` reads at least the closing quote, and raises only its
own errors. -/
theorem scanString_progress : ∀ n (t : List Char), t.length < n → Progress t (scanString t) := by
  intro n
  induction n with
  | zero => intro t h; exact absurd h (Nat.not_lt_zero _)
  | succ n ih =>
    intro t ht
    have step : ∀ u c, u.length < t.length → Progress t (consChar c (scanString u)) :=
      fun u c hu => ((ih u (by omega)).consChar c).mono hu.le
    rcases t with _ | ⟨c, rest⟩
    · intro h; cases h
    rw [scanString.eq_2]
    by_cases h1 : c = '"'
    · rw [if_pos h1]
      exact Nat.lt_succ_self _
    rw [if_neg h1]
    by_cases h2 : c = '\\'
    · rw [if_pos h2]
      rcases rest with _ | ⟨e, rest⟩
      · intro h; cases h
      rw [scanEscape.eq_2]
      by_cases hu : e = 'u'
      · rw [if_pos hu]
        rcases rest with _ | ⟨a, _ | ⟨b, _ | ⟨c', _ | ⟨d, rest⟩⟩⟩⟩
        all_goals try (intro h; cases h)
        show Progress _ (if rest = [] then _ else _)
        split
        · intro h; cases h
        split
        · intro h; cases h
        split
        · rcases rest with _ | ⟨b', _ | ⟨u, _ | ⟨e', _ | ⟨f, _ | ⟨g, _ | ⟨h', rest⟩⟩⟩⟩⟩⟩
          all_goals try (intro h; cases h)
          show Progress _ (if b' = '\\' ∧ u = 'u' ∧ rest ≠ [] then _ else _)
          split
          · split
            · intro h; cases h
            · split
              · exact step _ _ (by simp only [List.length_cons]; omega)
              · intro h; cases h
          · intro h; cases h
        · split
          · intro h; cases h
          · exact step _ _ (by simp only [List.length_cons]; omega)
      · rw [if_neg hu]
        rcases escapeValue e with _ | c'
        · intro h; cases h
        · exact step _ _ (by simp only [List.length_cons]; omega)
    rw [if_neg h2]
    by_cases h3 : c.toNat ≤ 0x1f
    · rw [if_pos h3]; intro h; cases h
    rw [if_neg h3]
    exact step _ _ (by simp only [List.length_cons]; omega)
theorem length_skipWs_le (s : List Char) : (skipWs s).length ≤ s.length :=
  (List.dropWhile_suffix _).length_le

theorem length_lt_of_skipWs {s r : List Char} {c : Char} (h : skipWs s = c :: r) :
    r.length < s.length := by
  have := length_skipWs_le s
  rw [h, List.length_cons] at this
  omega

theorem afterWord_lt : ∀ {w s r : List Char}, afterWord w s = some r → w ≠ [] →
    r.length < s.length
  | [], _, _, _, hw => absurd rfl hw
  | [c], d :: s, r, h, _ => by
      rw [afterWord] at h
      split at h
      · cases h
        exact Nat.lt_succ_self _
      · cases h
  | c :: c' :: w, d :: s, r, h, _ => by
      rw [afterWord] at h
      split at h
      · exact Nat.lt_succ_of_lt (afterWord_lt h (List.cons_ne_nil _ _))
      · cases h
  | _ :: _, [], _, h, _ => by cases h

theorem intOrFloat_progress (neg : Bool) (ds : List Char) {s rest : List Char}
    (h : rest.length < s.length) : Progress s (intOrFloat neg ds rest) := by
  unfold intOrFloat
  split
  · intro h; cases h
  · exact h

theorem scanNumber_progress (s : List Char) : Progress s (scanNumber s) := by
  have hi : ∀ neg (t : List Char), Progress t (scanInt neg t) := fun neg t => by
    unfold scanInt
    split
    · exact intOrFloat_progress _ _ (Nat.lt_succ_self _)
    · split
      · exact intOrFloat_progress _ _
          (Nat.lt_succ_of_le (List.dropWhile_suffix _).length_le)
      · intro h; cases h
    · intro h; cases h
  unfold scanNumber
  split
  · exact (hi true _).mono (Nat.le_succ _)
  · exact hi false _

theorem scanLiteral_progress (s : List Char) : Progress s (scanLiteral s) := by
  unfold scanLiteral
  repeat' split
  all_goals first
    | (intro h; cases h)
    | exact scanNumber_progress s
    | exact afterWord_lt (by assumption) (by decide)

/-- With fuel above the length of the text, the scanner reads a value, or the
member loop a namespace, to a shorter text, or raises an error of its own. -/
theorem scan_progress (fuel : Nat) :
    (∀ s : List Char, s.length < fuel → Progress s (scanValue fuel s)) ∧
    (∀ (acc : List (String × Json)) (s : List Char), s.length < fuel →
      Progress s (scanMembers fuel acc s)) := by
  induction fuel with
  | zero => exact ⟨fun _ h => absurd h (Nat.not_lt_zero _), fun _ _ h => absurd h (Nat.not_lt_zero _)⟩
  | succ p ih =>
    refine ⟨fun s hs => ?_, fun acc s hs => ?_⟩
    · by_cases hq : ∃ t, s = '"' :: t
      · obtain ⟨t, rfl⟩ := hq
        rw [scanValue.eq_2]
        have := scanString_progress _ t (Nat.lt_succ_self _)
        rcases h : scanString t with e | ⟨cs, r⟩ <;> rw [h] at this
        · exact this
        · exact Nat.lt_succ_of_lt this
      by_cases hb : ∃ t, s = '{' :: t
      · obtain ⟨t, rfl⟩ := hb
        rw [scanValue.eq_3]
        have hw := length_skipWs_le t
        split
        · next r heq => exact Nat.lt_succ_of_lt (length_lt_of_skipWs heq)
        · exact (ih.2 [] _ (by simp only [List.length_cons] at hs; omega)).mono (by simp; omega)
      rw [scanValue.eq_4 s p (fun t h => hq ⟨t, h⟩) (fun t h => hb ⟨t, h⟩)]
      exact scanLiteral_progress s
    · by_cases hq : ∃ t, s = '"' :: t
      · obtain ⟨t, rfl⟩ := hq
        simp only [List.length_cons] at hs
        rw [scanMembers.eq_2]
        have hk := scanString_progress _ t (Nat.lt_succ_self _)
        rcases h : scanString t with e | ⟨ks, s₁⟩ <;> rw [h] at hk
        · exact hk
        replace hk : s₁.length < t.length := hk
        simp only [bind, Except.bind]
        split
        · next s₂ h₂ =>
          have h₂ := length_lt_of_skipWs h₂
          have hw := length_skipWs_le s₂
          have hv := ih.1 (skipWs s₂) (by omega)
          rcases h' : scanValue p (skipWs s₂) with e | ⟨v, s₃⟩ <;> rw [h'] at hv
          · exact hv
          replace hv : s₃.length < (skipWs s₂).length := hv
          simp only
          split
          · next s₄ h₄ =>
            have := length_lt_of_skipWs h₄
            show s₄.length < t.length + 1
            omega
          · next s₄ h₄ =>
            have h₄ := length_lt_of_skipWs h₄
            have hw₄ := length_skipWs_le s₄
            exact (ih.2 _ _ (by omega)).mono (by simp only [List.length_cons]; omega)
          · intro h; cases h
        · intro h; cases h
      · rw [scanMembers.eq_3 acc s p (fun t h => hq ⟨t, h⟩)]
        intro h; cases h

/-- The scanner's fuel, one more than the length of the text, never runs out: on
every text `json.loads` gives what the scanner reads, never `outOfFuel`. -/
theorem loads_ne_outOfFuel (s : String) : loads s ≠ .error .outOfFuel := by
  unfold loads decode
  split
  · intro h; cases h
  have := (scan_progress (s.length + 1)).1 (skipWs s.data)
    (Nat.lt_succ_of_le (length_skipWs_le s.data))
  rcases h : scanValue (s.length + 1) (skipWs s.data) with e | ⟨v, r⟩ <;> rw [h] at this
  · intro he
    exact this (Except.error.inj he)
  simp only [bind, Except.bind]
  split <;> intro h <;> cases h

end Json

end NydusTest
