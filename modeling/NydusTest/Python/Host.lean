import Mathlib.Data.Finset.Basic
import Mathlib.Data.String.Basic

/-!
The machine the framework drives: the files that exist, the objects in the OSS
bucket, the anchor's dustbin (its teardown registry) and the mount table, with
the Python exceptions a call can end in. A method is an `EStateM PyError`
program: an exception keeps every mutation made before the raise, as Python
does, and `tryExcept` is `try: ... except E: pass`.
-/

namespace NydusTest

/-- A file-system path, as the framework passes it around. -/
abbrev Path := String

/-- The exceptions the modelled code raises or catches. `exhausted` is not a
Python exception: it is the model's own result for a call that has not returned
within the fuel it was given. -/
inductive PyError where
  | fileNotFound (path : Path)
  | attributeError (name : String)
  | assertionError
  | keyError (key : String)
  | indexError
  | jsonDecodeError
  | typeError
  | failed (msg : String)
  | external (what : String)
  | exhausted
  deriving DecidableEq, Repr

/-- An object of the OSS bucket: the key prefix of the helper that wrote it and
the blob id. -/
structure OssKey where
  keyPrefix : Option String
  blobId : String
  deriving DecidableEq, Repr

/-- What the framework can observe of the machine: the existing files and
directories, the bucket, the anchor's dustbin and `checker_sock`, the mount
table, and the external commands run so far. -/
structure Host where
  files : Finset Path
  oss : Finset OssKey
  dustbin : List Path
  mounts : Finset Path
  checkerSock : Option Path
  commands : List String
  deriving DecidableEq

/-- `posixpath.join(a, b)`: `b.startswith('/')` and `a.endswith('/')` read off
the first and last characters. -/
def posixJoin (a b : String) : String :=
  if b.data.head? = some '/' then b
  else if a = "" ∨ a.data.getLast? = some '/' then a ++ b
  else a ++ "/" ++ b

namespace Host

/-- `os.unlink(p)`. -/
def unlink (h : Host) (p : Path) : Except PyError Host :=
  if p ∈ h.files then .ok { h with files := h.files.erase p } else .error (.fileNotFound p)

/-- `anchor.put_dustbin(p)`. -/
def putDustbin (h : Host) (p : Path) : Host := { h with dustbin := h.dustbin ++ [p] }

theorem unlink_eq_ok {h h' : Host} {p : Path} (hu : h.unlink p = .ok h') :
    p ∈ h.files ∧ h' = { h with files := h.files.erase p } := by
  unfold unlink at hu
  split at hu
  · cases hu; exact ⟨‹_›, rfl⟩
  · cases hu

theorem unlink_eq_error {h : Host} {p : Path} {e : PyError} (hu : h.unlink p = .error e) :
    p ∉ h.files ∧ e = .fileNotFound p := by
  unfold unlink at hu
  split at hu
  · cases hu
  · cases hu; exact ⟨‹_›, rfl⟩

end Host

/-! ### Methods as state programs -/

/-- A Python object together with the machine it runs on. -/
structure Sys (α : Type) where
  host : Host
  self : α

/-- The final state of a call, whether it returned or raised. -/
def resultState {ε σ α : Type} : EStateM.Result ε σ α → σ
  | .ok _ s => s
  | .error _ s => s

@[simp] theorem resultState_ok {ε σ α : Type} (a : α) (s : σ) :
    resultState (EStateM.Result.ok a s : EStateM.Result ε σ α) = s := rfl

@[simp] theorem resultState_error {ε σ α : Type} (e : ε) (s : σ) :
    resultState (EStateM.Result.error e s : EStateM.Result ε σ α) = s := rfl

section Py

variable {σ α : Type}

/-- `assert b`. -/
def pyAssert (b : Bool) : EStateM PyError σ Unit :=
  if b then pure () else throw .assertionError

/-- `try: x except E: pass`, for the exceptions `handles` accepts; what `x`
did before it raised stays done. -/
def tryExcept (x : EStateM PyError σ Unit) (handles : PyError → Bool) : EStateM PyError σ Unit :=
  fun s => match x s with
    | .ok a s' => .ok a s'
    | .error e s' => if handles e then .ok () s' else .error e s'

/-- Run a fallible change of the machine. -/
def onHost (f : Host → Except PyError Host) : EStateM PyError (Sys α) Unit :=
  fun s => match f s.host with
    | .ok h => .ok () { s with host := h }
    | .error e => .error e s

/-- `os.unlink(p)` from a method. -/
def unlink (p : Path) : EStateM PyError (Sys α) Unit := onHost (·.unlink p)

/-- `self.anchor.put_dustbin(p)` from a method. -/
def putDustbin (p : Path) : EStateM PyError (Sys α) Unit := onHost fun h => .ok (h.putDustbin p)

/-- `if b: x`. -/
def pyIf (b : Bool) (x : EStateM PyError σ Unit) : EStateM PyError σ Unit :=
  if b then x else pure ()

/-- `if hasattr(self, name): f(self.name)`, for an attribute the object may
lack; also `if x is not None: f(x)`. -/
def ifHasAttr {β : Type} (o : Option β) (f : β → EStateM PyError σ Unit) : EStateM PyError σ Unit :=
  match o with
  | some b => f b
  | none => pure ()

/-- Read the machine. -/
def getHost : EStateM PyError (Sys α) Host := fun s => .ok s.host s

/-- `raise` where a value is missing: an attribute read that fails, or an index
out of range. -/
def orRaise {β : Type} (e : PyError) : Option β → EStateM PyError σ β
  | some b => pure b
  | none => throw e

/-- A computation that returned or raised, such as `json.load`. -/
def ofExcept {β : Type} : Except PyError β → EStateM PyError σ β
  | .ok b => pure b
  | .error e => throw e

/-- Read `self`. -/
def getSelf : EStateM PyError (Sys α) α := fun s => .ok s.self s

/-- Assign attributes of `self`. -/
def modifySelf (f : α → α) : EStateM PyError (Sys α) Unit :=
  fun s => .ok () { s with self := f s.self }

@[simp] theorem pure_apply (a : α) (s : σ) : (pure a : EStateM PyError σ α) s = .ok a s := rfl

@[simp] theorem throw_apply (e : PyError) (s : σ) :
    (throw e : EStateM PyError σ α) s = .error e s := rfl

@[simp] theorem getSelf_apply (s : Sys α) : (getSelf : EStateM PyError (Sys α) α) s = .ok s.self s := rfl

@[simp] theorem getHost_apply (s : Sys α) :
    (getHost : EStateM PyError (Sys α) Host) s = .ok s.host s := rfl

@[simp] theorem modifySelf_apply (f : α → α) (s : Sys α) :
    modifySelf f s = .ok () { s with self := f s.self } := rfl

theorem onHost_apply (f : Host → Except PyError Host) (s : Sys α) :
    onHost f s = match f s.host with
      | .ok h => .ok () { s with host := h }
      | .error e => .error e s := rfl

@[simp] theorem pyAssert_true (s : σ) : (pyAssert true : EStateM PyError σ Unit) s = .ok () s := rfl

@[simp] theorem pyAssert_false (s : σ) :
    (pyAssert false : EStateM PyError σ Unit) s = .error .assertionError s := rfl

/-- An assertion changes no state, whether it holds or not. -/
@[simp] theorem resultState_pyAssert (b : Bool) (s : σ) :
    resultState ((pyAssert b : EStateM PyError σ Unit) s) = s := by
  cases b <;> rfl

end Py

theorem bind_apply {ε σ α β : Type} (x : EStateM ε σ α) (f : α → EStateM ε σ β) (s : σ) :
    (x >>= f) s = match x s with
      | .ok a s' => f a s'
      | .error e s' => .error e s' := rfl

/-- A sequence that returned ran its first statement to a return. -/
theorem bind_eq_ok {ε σ α β : Type} {x : EStateM ε σ α} {f : α → EStateM ε σ β} {s s'' : σ} {b : β}
    (h : (x >>= f) s = .ok b s'') : ∃ a s', x s = .ok a s' ∧ f a s' = .ok b s'' := by
  rw [bind_apply] at h
  cases hx : x s with
  | ok a s' => rw [hx] at h; exact ⟨a, s', rfl, h⟩
  | error e s' => rw [hx] at h; cases h

/-! ### Relations every run of a method keeps

`Preserves R x`: whether `x` returns or raises, its final state is related to its
first by `R`. For a reflexive and transitive `R` this goes through every
statement of a method body, so a frame condition is proved once per primitive
and then by the shape of the body. -/

section Preserves

variable {σ α β : Type} {R : σ → σ → Prop}

/-- Every run of `x` relates its first state to its last by `R`. -/
def Preserves (R : σ → σ → Prop) (x : EStateM PyError σ α) : Prop :=
  ∀ s, R s (resultState (x s))

theorem Preserves.pure (hr : ∀ s, R s s) (a : α) : Preserves R (Pure.pure a : EStateM PyError σ α) :=
  hr

theorem Preserves.throw (hr : ∀ s, R s s) (e : PyError) :
    Preserves R (MonadExcept.throw e : EStateM PyError σ α) :=
  hr

/-- A statement followed by the rest of a body: the rest may keep a weaker
relation `R₂` than the whole, when the whole absorbs it. -/
theorem Preserves.bind {R₂ : σ → σ → Prop} (ht : ∀ a b c, R a b → R₂ b c → R a c)
    {x : EStateM PyError σ α} {f : α → EStateM PyError σ β} (hx : Preserves R x)
    (hf : ∀ a, Preserves R₂ (f a)) : Preserves R (x >>= f) := by
  intro s
  have := hx s
  rw [bind_apply]
  cases h : x s with
  | ok a s' => rw [h] at this; exact ht _ _ _ this (hf a s')
  | error e s' => rw [h] at this; exact this

theorem Preserves.tryExcept {x : EStateM PyError σ Unit} (hx : Preserves R x)
    (handles : PyError → Bool) : Preserves R (NydusTest.tryExcept x handles) := by
  intro s
  have := hx s
  simp only [NydusTest.tryExcept]
  split <;> rename_i h <;> rw [h] at this
  · exact this
  · split <;> exact this

theorem Preserves.pyIf (hr : ∀ s, R s s) {b : Bool} {x : EStateM PyError σ Unit}
    (hx : b → Preserves R x) : Preserves R (NydusTest.pyIf b x) := by
  cases b
  · exact hr
  · exact hx rfl

theorem Preserves.ifHasAttr (hr : ∀ s, R s s) {o : Option α} {f : α → EStateM PyError σ Unit}
    (hf : ∀ a, o = some a → Preserves R (f a)) : Preserves R (NydusTest.ifHasAttr o f) := by
  cases o with
  | none => exact hr
  | some a => exact hf a rfl

theorem Preserves.orRaise (hr : ∀ s, R s s) (e : PyError) (o : Option α) :
    Preserves R (orRaise e o : EStateM PyError σ α) := by
  cases o <;> exact hr

theorem Preserves.pyAssert (hr : ∀ s, R s s) (b : Bool) :
    Preserves R (NydusTest.pyAssert b : EStateM PyError σ Unit) := by
  cases b <;> exact hr

theorem Preserves.ofExcept (hr : ∀ s, R s s) (x : Except PyError α) :
    Preserves R (NydusTest.ofExcept x : EStateM PyError σ α) := by
  cases x <;> exact hr

theorem Preserves.getSelf {R : Sys α → Sys α → Prop} (hr : ∀ s, R s s) :
    Preserves R (NydusTest.getSelf : EStateM PyError (Sys α) α) :=
  hr

theorem Preserves.getHost {R : Sys α → Sys α → Prop} (hr : ∀ s, R s s) :
    Preserves R (NydusTest.getHost : EStateM PyError (Sys α) Host) :=
  hr

/-- A statement that reads an attribute the object may lack, then uses it. -/
theorem Preserves.orRaise_bind (hr : ∀ s, R s s) {e : PyError} {o : Option α}
    {f : α → EStateM PyError σ β} (hf : ∀ a, o = some a → Preserves R (f a)) :
    Preserves R (NydusTest.orRaise e o >>= f) := by
  cases o with
  | none => exact hr
  | some a => exact hf a rfl

end Preserves

/-! ### Statements that return

`Returns R x`: every run of `x` returns, and relates its first state to its last
by `R`. A sequence keeps the composition of its statements' relations, so the
relation may change along a body, as a postcondition does from one statement to
the next. -/

section Returns

variable {σ α β : Type} {R R₁ R₂ R₃ : σ → σ → Prop}

/-- Every run of `x` returns, and relates its first state to its last by `R`. -/
def Returns (R : σ → σ → Prop) (x : EStateM PyError σ α) : Prop :=
  ∀ s, ∃ a s', x s = .ok a s' ∧ R s s'

theorem Returns.bind (hc : ∀ a b c, R₁ a b → R₂ b c → R₃ a c) {x : EStateM PyError σ α}
    {f : α → EStateM PyError σ β} (hx : Returns R₁ x) (hf : ∀ a, Returns R₂ (f a)) :
    Returns R₃ (x >>= f) := by
  intro s
  obtain ⟨a, s', hx, h₁⟩ := hx s
  obtain ⟨b, s'', hf, h₂⟩ := hf a s'
  exact ⟨b, s'', by rw [bind_apply, hx]; exact hf, hc _ _ _ h₁ h₂⟩

theorem Returns.imp (h : ∀ s s', R₁ s s' → R₂ s s') {x : EStateM PyError σ α} (hx : Returns R₁ x) :
    Returns R₂ x :=
  fun s => let ⟨a, s', hs, hr⟩ := hx s; ⟨a, s', hs, h _ _ hr⟩

/-- A statement that returns, followed by a rest that may raise. -/
theorem Returns.bind_preserves (hc : ∀ a b c, R₁ a b → R₂ b c → R₃ a c)
    {x : EStateM PyError σ α} {f : α → EStateM PyError σ β} (hx : Returns R₁ x)
    (hf : ∀ a, Preserves R₂ (f a)) : Preserves R₃ (x >>= f) := by
  intro s
  obtain ⟨a, s', hx, h₁⟩ := hx s
  rw [bind_apply, hx]
  exact hc _ _ _ h₁ (hf a s')

theorem Returns.modifySelf {R : Sys α → Sys α → Prop} {f : α → α}
    (h : ∀ s : Sys α, R s { s with self := f s.self }) :
    Returns R (NydusTest.modifySelf f) :=
  fun s => ⟨(), _, rfl, h s⟩

theorem Returns.pyAssert (hr : ∀ s, R s s) {b : Bool} (hb : b = true) :
    Returns R (NydusTest.pyAssert b : EStateM PyError σ Unit) := by
  subst hb
  exact fun s => ⟨(), s, rfl, hr s⟩

theorem Returns.pyIf (hr : ∀ s, R s s) {b : Bool} {x : EStateM PyError σ Unit}
    (hx : b → Returns R x) : Returns R (NydusTest.pyIf b x) := by
  cases b
  · exact fun s => ⟨(), s, rfl, hr s⟩
  · exact hx rfl

theorem Returns.ifHasAttr (hr : ∀ s, R s s) {o : Option α} {f : α → EStateM PyError σ Unit}
    (hf : ∀ a, o = some a → Returns R (f a)) : Returns R (NydusTest.ifHasAttr o f) := by
  cases o with
  | none => exact fun s => ⟨(), s, rfl, hr s⟩
  | some a => exact hf a rfl

end Returns

/-! ### Text files -/

/-- An open text stream: its content and its position. The framework writes
ASCII only, so a position counts characters. -/
structure TextFile where
  content : List Char
  pos : Nat
  deriving DecidableEq

namespace TextFile

/-- `f.truncate(n)`: the position does not move. -/
def truncate (f : TextFile) (n : Nat) : TextFile :=
  { f with content := f.content.take n ++ List.replicate (n - f.content.length) '\x00' }

/-- `f.seek(n)`. -/
def seek (f : TextFile) (n : Nat) : TextFile := { f with pos := n }

/-- `f.write(s)`: overwrite from the position on, padding a gap past the end. -/
def write (f : TextFile) (s : String) : TextFile where
  content := f.content.take f.pos ++ List.replicate (f.pos - f.content.length) '\x00' ++ s.data ++
    f.content.drop (f.pos + s.length)
  pos := f.pos + s.length

/-- `for chunk in chunks: f.write(chunk)`, the loop of `json.dump`. -/
def writeAll (f : TextFile) (chunks : List String) : TextFile := chunks.foldl write f

/-- At the end of the stream a write appends. -/
theorem write_at_end (c : List Char) (s : String) :
    (⟨c, c.length⟩ : TextFile).write s = ⟨c ++ s.data, (c ++ s.data).length⟩ := by
  simp only [write, List.take_length, Nat.sub_self, List.replicate_zero, List.append_nil,
    List.length_append, String.length_data, TextFile.mk.injEq, and_true]
  exact List.drop_eq_nil_of_le (Nat.le_add_right _ _) ▸ (List.append_nil _)

/-- The `json.dump` loop run at the end of a stream appends every chunk. -/
theorem writeAll_at_end (c : List Char) (chunks : List String) :
    (⟨c, c.length⟩ : TextFile).writeAll chunks =
      ⟨c ++ (String.join chunks).data, (c ++ (String.join chunks).data).length⟩ := by
  induction chunks generalizing c with
  | nil => simp [writeAll]
  | cons x xs ih =>
      rw [writeAll, List.foldl_cons, write_at_end, ← writeAll, ih]
      simp

/-- After `truncate(0)` and `seek(0)` nothing of the old content is left. -/
@[simp] theorem truncate_zero_seek_zero (f : TextFile) : (f.truncate 0).seek 0 = ⟨[], 0⟩ := by
  simp [truncate, seek]

end TextFile

end NydusTest
