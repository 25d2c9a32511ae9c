import Mathlib.Data.List.Infix

/-!
The configuration documents of the framework are `types.SimpleNamespace` trees
built by `json.loads(..., object_hook=lambda d: Namespace(**d))` and mutated by
attribute assignment. A namespace is an ordered list of attributes: Python keeps
an assigned attribute in place when it exists and appends it otherwise, and that
order is the order `json.dump` writes. Attribute paths (`device.backend.config`)
are read by `getPath` and written by `setPath`, which is `exec("ns." + k + "=v")`:
every component but the last is read with `getattr`, the last is assigned, and
a missing component or a component that is not a namespace is an
`AttributeError` (`none`).
-/

namespace NydusTest

/-- A JSON value, or the `SimpleNamespace` tree the framework keeps in its place. -/
inductive Json where
  | null
  | bool (b : Bool)
  | num (n : Int)
  | str (s : String)
  | obj (fields : List (String × Json))
  deriving Repr, Inhabited

namespace Json

mutual
/-- Structural equality of documents; the derive handler does not cover the
nested `List (String × Json)`. -/
def decEq : (a b : Json) → Decidable (a = b)
  | .null, .null => isTrue rfl
  | .bool a, .bool b => if h : a = b then isTrue (h ▸ rfl) else isFalse (by simp [h])
  | .num a, .num b => if h : a = b then isTrue (h ▸ rfl) else isFalse (by simp [h])
  | .str a, .str b => if h : a = b then isTrue (h ▸ rfl) else isFalse (by simp [h])
  | .obj a, .obj b =>
      match decEqFields a b with
      | isTrue h => isTrue (h ▸ rfl)
      | isFalse h => isFalse (by simp [h])
  | .null, .bool _ | .null, .num _ | .null, .str _ | .null, .obj _
  | .bool _, .null | .bool _, .num _ | .bool _, .str _ | .bool _, .obj _
  | .num _, .null | .num _, .bool _ | .num _, .str _ | .num _, .obj _
  | .str _, .null | .str _, .bool _ | .str _, .num _ | .str _, .obj _
  | .obj _, .null | .obj _, .bool _ | .obj _, .num _ | .obj _, .str _ => isFalse (by simp)

/-- Equality of attribute lists, key by key and in order. -/
def decEqFields : (a b : List (String × Json)) → Decidable (a = b)
  | [], [] => isTrue rfl
  | [], _ :: _ | _ :: _, [] => isFalse (by simp)
  | (k, v) :: r, (k', v') :: r' =>
      if hk : k = k' then
        match decEq v v', decEqFields r r' with
        | isTrue hv, isTrue hr => isTrue (by subst hk hv hr; rfl)
        | isFalse hv, _ => isFalse (by simp [hv])
        | _, isFalse hr => isFalse (by simp [hr])
      else isFalse (by simp [hk])
end

instance : DecidableEq Json := decEq

/-! ### Attributes of one namespace -/

/-- `getattr(ns, k)` on the attribute list of a namespace. -/
def getField : List (String × Json) → String → Option Json
  | [], _ => none
  | (k', v') :: rest, k => if k' = k then some v' else getField rest k

/-- `setattr(ns, k, v)`: an existing attribute keeps its place, a new one is
appended. -/
def setField : List (String × Json) → String → Json → List (String × Json)
  | [], k, v => [(k, v)]
  | (k', v') :: rest, k, v => if k' = k then (k, v) :: rest else (k', v') :: setField rest k v

@[simp] theorem getField_setField_self (fs : List (String × Json)) (k : String) (v : Json) :
    getField (setField fs k v) k = some v := by
  induction fs with
  | nil => simp [getField, setField]
  | cons kv rest ih => by_cases h : kv.1 = k <;> simp [getField, setField, h, ih]

theorem getField_setField_of_ne (fs : List (String × Json)) {k k' : String} (v : Json)
    (h : k' ≠ k) : getField (setField fs k v) k' = getField fs k' := by
  induction fs with
  | nil => simp [getField, setField, Ne.symm h]
  | cons kv rest ih =>
      by_cases hk : kv.1 = k
      · have : kv.1 ≠ k' := hk ▸ Ne.symm h
        simp [getField, setField, hk, Ne.symm h, this]
      · simp [getField, setField, hk, ih]

@[simp] theorem setField_setField_self (fs : List (String × Json)) (k : String) (v w : Json) :
    setField (setField fs k v) k w = setField fs k w := by
  induction fs with
  | nil => simp [setField]
  | cons kv rest ih => by_cases h : kv.1 = k <;> simp [setField, h, ih]

/-- `setattr` of each pair in turn. -/
def setFields (fs ws : List (String × Json)) : List (String × Json) :=
  ws.foldl (fun acc kv => setField acc kv.1 kv.2) fs

theorem setField_of_not_mem {fs : List (String × Json)} {k : String} (v : Json)
    (h : k ∉ fs.map Prod.fst) : setField fs k v = fs ++ [(k, v)] := by
  induction fs with
  | nil => rfl
  | cons kv rest ih =>
      simp only [List.map_cons, List.mem_cons, not_or] at h
      simp [setField, Ne.symm h.1, ih h.2]

/-- Fresh attributes, all distinct, are appended in order. -/
theorem setFields_of_fresh {fs ws : List (String × Json)} (hws : (ws.map Prod.fst).Nodup)
    (hfresh : ∀ k ∈ ws.map Prod.fst, k ∉ fs.map Prod.fst) : setFields fs ws = fs ++ ws := by
  induction ws generalizing fs with
  | nil => simp [setFields]
  | cons kv rest ih =>
      simp only [List.map_cons, List.nodup_cons, List.mem_cons, forall_eq_or_imp] at hws hfresh
      have hrest : setFields (fs ++ [kv]) rest = fs ++ [kv] ++ rest := ih hws.2 fun k hk => by
        simp only [List.map_append, List.map_cons, List.map_nil, List.mem_append, List.mem_singleton,
          not_or]
        exact ⟨hfresh.2 k hk, fun h => hws.1 (h ▸ hk)⟩
      simpa [setFields, setField_of_not_mem kv.2 hfresh.1] using hrest

/-! ### Attribute paths -/

/-- The value at an attribute path, `ns.k₁.k₂...`, or `none` for an
`AttributeError`. -/
def getPath : Json → List String → Option Json
  | j, [] => some j
  | .obj fs, k :: ks => (getField fs k).bind (getPath · ks)
  | _, _ :: _ => none

/-- `exec("ns." + ".".join(path) + "=v")`, the assignment `_configure_rafs`
performs. -/
def setPath : Json → List String → Json → Option Json
  | .obj fs, k :: ks, v =>
      match ks with
      | [] => some (.obj (setField fs k v))
      | _ :: _ =>
          (getField fs k).bind fun c => (setPath c ks v).map fun c' => .obj (setField fs k c')
  | _, _, _ => none

/-- Whether the path names a namespace, the condition for assigning under it. -/
def objAt (j : Json) (q : List String) : Bool :=
  match getPath j q with
  | some (.obj _) => true
  | _ => false

theorem getPath_of_objAt {j : Json} {q : List String} (h : objAt j q) :
    ∃ fs, getPath j q = some (.obj fs) := by
  unfold objAt at h
  split at h
  · exact ⟨_, ‹_›⟩
  · cases h

@[simp] theorem getPath_nil (j : Json) : getPath j [] = some j := by cases j <;> rfl

@[simp] theorem getPath_obj_cons (fs : List (String × Json)) (k : String) (ks : List String) :
    getPath (.obj fs) (k :: ks) = (getField fs k).bind (getPath · ks) := rfl

theorem setPath_obj_single (fs : List (String × Json)) (k : String) (v : Json) :
    setPath (.obj fs) [k] v = some (.obj (setField fs k v)) := rfl

/-- One step of an assignment below the first attribute: the child is
updated and put back in its place. -/
theorem setPath_obj_cons_cons (fs : List (String × Json)) (k k₁ : String) (ks : List String)
    (v : Json) :
    setPath (.obj fs) (k :: k₁ :: ks) v =
      (getField fs k).bind fun c =>
        (setPath c (k₁ :: ks) v).map fun c' => .obj (setField fs k c') := rfl

/-- A successful assignment starts at a namespace. -/
theorem setPath_eq_some {j j' : Json} {k : String} {ks : List String} {v : Json}
    (h : setPath j (k :: ks) v = some j') : ∃ fs, j = .obj fs := by
  cases j with
  | obj fs => exact ⟨fs, rfl⟩
  | _ => simp [setPath] at h

/-- What a successful assignment below the first attribute was made of. -/
theorem setPath_cons_cons_eq_some {j j' : Json} {k k₁ : String} {ks : List String} {v : Json}
    (h : setPath j (k :: k₁ :: ks) v = some j') :
    ∃ fs c c', j = .obj fs ∧ getField fs k = some c ∧ setPath c (k₁ :: ks) v = some c' ∧
      j' = .obj (setField fs k c') := by
  obtain ⟨fs, rfl⟩ := setPath_eq_some h
  rw [setPath_obj_cons_cons] at h
  simp only [Option.bind_eq_some, Option.map_eq_some'] at h
  obtain ⟨c, hc, c', hc', rfl⟩ := h
  exact ⟨fs, c, c', rfl, hc, hc', rfl⟩

/-- Reading back the path just assigned gives the assigned value. -/
theorem getPath_setPath_self {j j' : Json} {p : List String} {v : Json}
    (h : setPath j p v = some j') : getPath j' p = some v := by
  induction p generalizing j j' with
  | nil => cases j <;> simp [setPath] at h
  | cons k ks ih =>
      cases ks with
      | nil => obtain ⟨fs, rfl⟩ := setPath_eq_some h; cases h; simp
      | cons k₁ ks =>
          obtain ⟨fs, c, c', rfl, -, hc', rfl⟩ := setPath_cons_cons_eq_some h
          simpa using ih hc'

/-- An assignment leaves every path that is not on its own line unchanged. -/
theorem getPath_setPath_of_disjoint {j j' : Json} {p q : List String} {v : Json}
    (h : setPath j p v = some j') (hpq : ¬ p <+: q) (hqp : ¬ q <+: p) :
    getPath j' q = getPath j q := by
  induction p generalizing j j' q with
  | nil => cases j <;> simp [setPath] at h
  | cons k ks ih =>
      obtain ⟨fs, rfl⟩ := setPath_eq_some h
      cases q with
      | nil => exact absurd List.nil_prefix hqp
      | cons k' qs =>
          cases ks with
          | nil =>
              cases h
              have hk : k' ≠ k := by rintro rfl; exact hpq (by simp)
              simp [getField_setField_of_ne _ _ hk]
          | cons k₁ ks =>
              obtain ⟨fs, c, c', hfs, hc, hc', rfl⟩ := setPath_cons_cons_eq_some h
              cases hfs
              by_cases hk : k' = k
              · subst hk
                simp [hc, ih hc' (by simpa using hpq) (by simpa using hqp)]
              · simp [getField_setField_of_ne _ _ hk]

/-- A namespace stays a namespace under every assignment that does not
replace it or one of its ancestors. -/
theorem objAt_setPath {j j' : Json} {p q : List String} {v : Json}
    (h : setPath j p v = some j') (hpq : ¬ p <+: q) (hq : objAt j q) : objAt j' q := by
  induction p generalizing j j' q with
  | nil => cases j <;> simp [setPath] at h
  | cons k ks ih =>
      obtain ⟨fs, rfl⟩ := setPath_eq_some h
      cases q with
      | nil =>
          cases ks with
          | nil => cases h; rfl
          | cons k₁ ks => obtain ⟨_, _, _, -, -, -, rfl⟩ := setPath_cons_cons_eq_some h; rfl
      | cons k' qs =>
          by_cases hk : k' = k
          · subst hk
            cases ks with
            | nil => exact absurd (by simp) hpq
            | cons k₁ ks =>
                obtain ⟨fs, c, c', hfs, hc, hc', rfl⟩ := setPath_cons_cons_eq_some h
                cases hfs
                have hq' : objAt c qs := by simpa [objAt, hc] using hq
                simpa [objAt] using ih hc' (by simpa using hpq) hq'
          · rwa [objAt, getPath_setPath_of_disjoint h hpq
              (by rintro ⟨t, ht⟩; exact hk (List.cons.inj ht).1)]

/-- Assigning an attribute of a namespace succeeds, and updates that namespace
in place. -/
theorem setPath_append_singleton {j : Json} {q : List String} {fs : List (String × Json)}
    (hq : getPath j q = some (.obj fs)) (k : String) (v : Json) :
    ∃ j', setPath j (q ++ [k]) v = some j' ∧ getPath j' q = some (.obj (setField fs k v)) := by
  induction q generalizing j with
  | nil =>
      simp only [getPath_nil, Option.some.injEq] at hq
      subst hq
      exact ⟨_, setPath_obj_single fs k v, rfl⟩
  | cons k' qs ih =>
      cases j with
      | obj gs =>
          simp only [getPath_obj_cons, Option.bind_eq_some] at hq
          obtain ⟨c, hc, hcq⟩ := hq
          obtain ⟨c', hc', hq'⟩ := ih hcq
          obtain ⟨a, as, has⟩ := List.exists_cons_of_ne_nil (List.append_ne_nil_of_right_ne_nil qs
            (List.cons_ne_nil k []))
          refine ⟨.obj (setField gs k' c'), ?_, by simpa using hq'⟩
          rw [List.cons_append, has, setPath_obj_cons_cons, hc, ← has]
          simp [hc']
      | _ => simp [getPath] at hq

/-- Assigning the same value twice is assigning it once. -/
theorem setPath_setPath_self {j j' : Json} {p : List String} {v : Json}
    (h : setPath j p v = some j') : setPath j' p v = some j' := by
  induction p generalizing j j' with
  | nil => cases j <;> simp [setPath] at h
  | cons k ks ih =>
      cases ks with
      | nil => obtain ⟨fs, rfl⟩ := setPath_eq_some h; cases h; simp [setPath_obj_single]
      | cons k₁ ks =>
          obtain ⟨fs, c, c', rfl, -, hc', rfl⟩ := setPath_cons_cons_eq_some h
          simp [setPath_obj_cons_cons, ih hc']

/-! ### Key structure -/

mutual
/-- The keys of a document, nested as in the document: every value that is not
a namespace becomes `null`. -/
def skeleton : Json → Json
  | .obj fs => .obj (skeletonFields fs)
  | _ => .null

/-- `skeleton` on the attributes of one namespace. -/
def skeletonFields : List (String × Json) → List (String × Json)
  | [] => []
  | (k, v) :: fs => (k, skeleton v) :: skeletonFields fs
end

theorem getField_skeletonFields (fs : List (String × Json)) (k : String) :
    getField (skeletonFields fs) k = (getField fs k).map skeleton := by
  induction fs with
  | nil => rfl
  | cons kv rest ih => by_cases h : kv.1 = k <;> simp [skeletonFields, getField, h, ih]

/-- Reading a path of the keys is reading the path and taking its keys. -/
theorem getPath_skeleton (j : Json) (p : List String) :
    (skeleton j).getPath p = (j.getPath p).map skeleton := by
  induction p generalizing j with
  | nil => simp
  | cons k ks ih =>
      cases j with
      | obj fs =>
          simp only [skeleton, getPath_obj_cons, getField_skeletonFields]
          cases getField fs k <;> simp [ih]
      | _ => rfl

theorem skeletonFields_setField {fs : List (String × Json)} {k : String} {c c' : Json}
    (hk : getField fs k = some c) (hs : skeleton c' = skeleton c) :
    skeletonFields (setField fs k c') = skeletonFields fs := by
  induction fs with
  | nil => cases hk
  | cons kv rest ih =>
      obtain ⟨k', v'⟩ := kv
      by_cases h : k' = k
      · subst h
        simp only [getField, if_true, Option.some.injEq] at hk
        simp [setField, skeletonFields, hk, hs]
      · simp only [getField, h, if_false] at hk
        simp [setField, skeletonFields, h, ih hk]

/-- Assigning a value with the keys of the old one keeps the document's keys. -/
theorem skeleton_setPath {j j' : Json} {p : List String} {v old : Json}
    (h : setPath j p v = some j') (hold : getPath j p = some old) (hv : skeleton v = skeleton old) :
    skeleton j' = skeleton j := by
  induction p generalizing j j' old with
  | nil => cases j <;> simp [setPath] at h
  | cons k ks ih =>
      cases ks with
      | nil =>
          obtain ⟨fs, rfl⟩ := setPath_eq_some h
          cases h
          simp only [getPath_obj_cons, getPath_nil, Option.bind_eq_some, Option.some.injEq] at hold
          obtain ⟨c, hc, rfl⟩ := hold
          simp [skeleton, skeletonFields_setField hc hv]
      | cons k₁ ks =>
          obtain ⟨fs, c, c', rfl, hc, hc', rfl⟩ := setPath_cons_cons_eq_some h
          simp only [getPath_obj_cons, hc, Option.some_bind] at hold
          simp [skeleton, skeletonFields_setField hc (ih hc' hold hv)]

end Json

end NydusTest
