import NydusTest.Image.RafsImage

/-!
What `clean_up` removes. Whatever state it starts from and wherever it stops,
it removes only paths among the image's own artifacts (`bootstrap_path`,
`blob_abs_path`, `localfs_backing_blob` and the parent artifacts) and only the
OSS object its helper stores under the image's blob id. A `clean_up` that
returns, as it does whenever the bootstrap file is there, has removed the
localfs backing blob and, on OSS with `clear_from_oss`, that object. Those are
named by content: two images whose builder reports the same blob id share the
localfs backing blob and the OSS object, and cleaning either removes them for
both. The bootstrap is unlinked with no `try`, so a `clean_up` after the file
is gone, a second one in particular, raises `FileNotFoundError`.
-/

namespace NydusTest

/-- The files `clean_up` may unlink. -/
def RafsImage.cleanUpPaths (i : RafsImage) : List Path :=
  i.bootstrapPath.toList ++ [i.blobAbsPath] ++ i.localfsBackingBlob.toList ++
    i.parentBlob.toList ++ i.parentBootstrap.toList

/-- The OSS objects `clean_up` may remove. -/
def RafsImage.cleanUpObjects (i : RafsImage) : List OssKey :=
  i.ossHelper.toList.map fun helper => ⟨helper.keyPrefix, i.blobId.getD "None"⟩

/-- `s'` is `s` with at most files of `T` and bucket objects of `K` removed. -/
structure RemovedOnly (T : List Path) (K : List OssKey) (s s' : Sys RafsImage) : Prop where
  self_eq : s'.self = s.self
  files_sub : s'.host.files ⊆ s.host.files
  files_keep : ∀ p ∈ s.host.files, p ∉ T → p ∈ s'.host.files
  oss_sub : s'.host.oss ⊆ s.host.oss
  oss_keep : ∀ k ∈ s.host.oss, k ∉ K → k ∈ s'.host.oss
  dustbin_eq : s'.host.dustbin = s.host.dustbin

namespace RemovedOnly

variable {T : List Path} {K : List OssKey}

theorem refl (s : Sys RafsImage) : RemovedOnly T K s s :=
  ⟨rfl, subset_rfl, fun _ h _ => h, subset_rfl, fun _ h _ => h, rfl⟩

theorem trans (a b c : Sys RafsImage) (h₁ : RemovedOnly T K a b) (h₂ : RemovedOnly T K b c) :
    RemovedOnly T K a c :=
  ⟨h₂.self_eq.trans h₁.self_eq, h₂.files_sub.trans h₁.files_sub,
    fun p hp hT => h₂.files_keep p (h₁.files_keep p hp hT) hT, h₂.oss_sub.trans h₁.oss_sub,
    fun k hk hK => h₂.oss_keep k (h₁.oss_keep k hk hK) hK, h₂.dustbin_eq.trans h₁.dustbin_eq⟩

end RemovedOnly

variable {T : List Path} {K : List OssKey}

theorem unlink_removedOnly {p : Path} (hp : p ∈ T) :
    Preserves (RemovedOnly T K) (unlink p : ImageM Unit) := by
  intro s
  simp only [unlink, onHost, Host.unlink]
  split_ifs
  · exact ⟨rfl, Finset.erase_subset _ _, fun q hq hT => Finset.mem_erase.2 ⟨by rintro rfl; exact hT hp, hq⟩,
      subset_rfl, fun _ h _ => h, rfl⟩
  · exact RemovedOnly.refl s

theorem ossRm_removedOnly {helper : OssHelper} {blobId : Option String}
    (hk : ⟨helper.keyPrefix, blobId.getD "None"⟩ ∈ K) :
    Preserves (RemovedOnly T K) (ossRm helper blobId) := by
  intro s
  exact ⟨rfl, subset_rfl, fun _ h _ => h, Finset.erase_subset _ _,
    fun k hk' hK => Finset.mem_erase.2 ⟨by rintro rfl; exact hK hk, hk'⟩, rfl⟩

theorem cleanParents_removedOnly (i : RafsImage) :
    Preserves (RemovedOnly i.cleanUpPaths i.cleanUpObjects) (cleanParents i) :=
  have hr := @RemovedOnly.refl i.cleanUpPaths i.cleanUpObjects
  Preserves.tryExcept (Preserves.orRaise_bind hr fun p hp =>
    Preserves.bind (@RemovedOnly.trans _ _) (unlink_removedOnly (by simp [RafsImage.cleanUpPaths, hp]))
      fun _ => Preserves.orRaise_bind hr fun q hq =>
        unlink_removedOnly (by simp [RafsImage.cleanUpPaths, hq])) _

theorem cleanOss_removedOnly (i : RafsImage) :
    Preserves (RemovedOnly i.cleanUpPaths i.cleanUpObjects) (cleanOss i) :=
  have hr := @RemovedOnly.refl i.cleanUpPaths i.cleanUpObjects
  Preserves.tryExcept (Preserves.pyIf hr fun _ => Preserves.orRaise_bind hr fun helper h =>
    ossRm_removedOnly (by simp [RafsImage.cleanUpObjects, h])) _

/-- Every statement after the bootstrap's removes only the image's own
artifacts. -/
theorem cleanUpBlobs_removedOnly (i : RafsImage) :
    Preserves (RemovedOnly i.cleanUpPaths i.cleanUpObjects) (cleanUpBlobs i) := by
  have ht := @RemovedOnly.trans i.cleanUpPaths i.cleanUpObjects
  have hr := @RemovedOnly.refl i.cleanUpPaths i.cleanUpObjects
  have hblob : i.blobAbsPath ∈ i.cleanUpPaths := by simp [RafsImage.cleanUpPaths]
  unfold cleanUpBlobs
  refine Preserves.bind ht ?_ fun _ => Preserves.bind ht ?_ fun _ => Preserves.bind ht ?_ fun _ =>
    Preserves.bind ht (cleanParents_removedOnly i) fun _ => cleanOss_removedOnly i
  · exact Preserves.ifHasAttr hr fun _ _ => unlink_removedOnly hblob
  · exact Preserves.ifHasAttr hr fun p hp =>
      (unlink_removedOnly (by simp [RafsImage.cleanUpPaths, hp])).tryExcept _
  · exact (unlink_removedOnly hblob).tryExcept _

theorem cleanUp_removedOnly (s : Sys RafsImage) :
    RemovedOnly s.self.cleanUpPaths s.self.cleanUpObjects s (resultState (cleanUp s)) := by
  show RemovedOnly _ _ s (resultState ((ifHasAttr s.self.bootstrapPath unlink >>= fun _ =>
    cleanUpBlobs s.self) s))
  exact Preserves.bind (@RemovedOnly.trans _ _) (Preserves.ifHasAttr RemovedOnly.refl fun p hp =>
    unlink_removedOnly (by simp [RafsImage.cleanUpPaths, hp])) (fun _ => cleanUpBlobs_removedOnly _) s

/-! ### What a `clean_up` that returns has removed -/

/-- `try: os.unlink(p) except FileNotFoundError: pass` returns, and `p` is gone. -/
theorem ignoringMissing_unlink (p : Path) (s : Sys RafsImage) :
    ignoringMissing (unlink p) s = .ok () ⟨{ s.host with files := s.host.files.erase p }, s.self⟩ := by
  by_cases hp : p ∈ s.host.files
  · simp [ignoringMissing, tryExcept, unlink, onHost, Host.unlink, hp]
  · simp [ignoringMissing, tryExcept, unlink, onHost, Host.unlink, hp, Finset.erase_eq_of_not_mem]

/-- `os.unlink` returns, or raises `FileNotFoundError` and changes nothing. -/
theorem unlink_returns_or_missing (p : Path) (s : Sys RafsImage) :
    (∃ s', unlink p s = .ok () s') ∨ unlink p s = .error (.fileNotFound p) s := by
  by_cases hp : p ∈ s.host.files
  · exact .inl ⟨⟨{ s.host with files := s.host.files.erase p }, s.self⟩,
      by simp [unlink, onHost, Host.unlink, hp]⟩
  · exact .inr (by simp [unlink, onHost, Host.unlink, hp])

/-- The parent artifacts' `try` catches every error its body raises. -/
theorem cleanParents_returns (i : RafsImage) : Returns (fun _ _ => True) (cleanParents i) := by
  intro s
  simp only [cleanParents, tryExcept, bind_apply]
  rcases i.parentBlob with _ | b
  · exact ⟨(), s, rfl, trivial⟩
  rcases unlink_returns_or_missing b s with ⟨s₁, h₁⟩ | h₁ <;> simp only [orRaise, pure_apply, h₁]
  · rcases i.parentBootstrap with _ | t
    · exact ⟨(), s₁, rfl, trivial⟩
    rcases unlink_returns_or_missing t s₁ with ⟨s₂, h₂⟩ | h₂ <;> simp only [pure_apply, h₂] <;>
      exact ⟨(), _, rfl, trivial⟩
  · exact ⟨(), s, rfl, trivial⟩

/-- The OSS `try` returns; with `clear_from_oss` on an OSS image it has removed
the object the helper stores under the blob id. -/
theorem cleanOss_returns (i : RafsImage) (s : Sys RafsImage) :
    ∃ s', cleanOss i s = .ok () s' ∧
      (i.clearFromOss = true → i.backendType = some .oss → ∀ k ∈ i.cleanUpObjects, k ∉ s'.host.oss) := by
  rcases hh : i.ossHelper with _ | helper
  · refine ⟨s, ?_, fun _ _ k hk => by simp [RafsImage.cleanUpObjects, hh] at hk⟩
    simp only [cleanOss, tryExcept, pyIf, hh, orRaise]
    split_ifs <;> rfl
  · by_cases hc : i.clearFromOss = true ∧ i.backendType = some .oss
    · have h : cleanOss i s = .ok ()
          ⟨{ s.host with oss := s.host.oss.erase ⟨helper.keyPrefix, i.blobId.getD "None"⟩ }, s.self⟩ := by
        simp [cleanOss, tryExcept, pyIf, hc, hh, orRaise, ossRm, onHost, bind_apply]
      refine ⟨_, h, fun _ _ k hk => ?_⟩
      simp only [RafsImage.cleanUpObjects, hh, Option.toList_some, List.map_cons, List.map_nil,
        List.mem_singleton] at hk
      simp [hk]
    · exact ⟨s, by simp [cleanOss, tryExcept, pyIf, hc], fun h₁ h₂ => absurd ⟨h₁, h₂⟩ hc⟩

/-- Without `oss_blob_abs_path`, which no method sets, every statement after
the bootstrap's returns. -/
theorem cleanUpBlobs_returns {i : RafsImage} (hi : i.ossBlobAbsPath = none) :
    Returns (fun _ _ => True) (cleanUpBlobs i) := by
  have ht : ∀ a b c : Sys RafsImage, True → True → True := fun _ _ _ _ _ => trivial
  have hm : ∀ p, Returns (fun _ _ => True) (ignoringMissing (unlink p)) :=
    fun p s => ⟨(), _, ignoringMissing_unlink p s, trivial⟩
  unfold cleanUpBlobs
  rw [hi]
  refine Returns.bind ht (fun s => ⟨(), s, rfl, trivial⟩) fun _ =>
    Returns.bind ht (Returns.ifHasAttr (fun _ => trivial) fun p _ => hm p) fun _ =>
    Returns.bind ht (hm _) fun _ => Returns.bind ht (cleanParents_returns i) fun _ => fun s => ?_
  obtain ⟨s', h, -⟩ := cleanOss_returns i s
  exact ⟨(), s', h, trivial⟩

/-- Once every statement after the bootstrap's has returned, the localfs backing
blob is gone, and so is the OSS object the image owns. -/
theorem cleanUpBlobs_eq_ok_removes {i : RafsImage} {s s' : Sys RafsImage}
    (h : cleanUpBlobs i s = .ok () s') :
    (∀ p, i.localfsBackingBlob = some p → p ∉ s'.host.files) ∧
      (i.clearFromOss = true → i.backendType = some .oss → ∀ k ∈ i.cleanUpObjects, k ∉ s'.host.oss) := by
  obtain ⟨_, s₁, -, h⟩ := bind_eq_ok h
  obtain ⟨_, s₂, h₂, h⟩ := bind_eq_ok h
  obtain ⟨_, s₃, h₃, h⟩ := bind_eq_ok h
  obtain ⟨_, s₄, h₄, h₅⟩ := bind_eq_ok h
  rw [ignoringMissing_unlink] at h₃
  cases h₃
  have hr₄ := cleanParents_removedOnly i ⟨{ s₂.host with files := s₂.host.files.erase i.blobAbsPath }, s₂.self⟩
  rw [h₄] at hr₄
  obtain ⟨s'', h'', hoss⟩ := cleanOss_returns i s₄
  have hr₅ := cleanOss_removedOnly i s₄
  rw [h₅] at h''
  cases h''
  rw [h₅] at hr₅
  refine ⟨fun p hp hmem => ?_, hoss⟩
  have hp₂ : p ∉ s₂.host.files := by
    rw [hp, ifHasAttr, ignoringMissing_unlink] at h₂
    cases h₂
    exact Finset.not_mem_erase p _
  exact hp₂ (Finset.mem_of_mem_erase (hr₄.files_sub (hr₅.files_sub hmem)))

/-- Whatever state `clean_up` starts from, and whether it returns or raises, it
removes no file but the image's own artifact paths and no OSS object but the
one under its own helper prefix and blob id; `self` and the dustbin are left as
they are. It returns whenever the bootstrap file is there (`oss_blob_abs_path`,
whose blob file it would unlink with no `try`, is set by no method). Once it
returns, the localfs backing blob is gone, and so is the OSS object when
`clear_from_oss` is set on an OSS image. -/
theorem cleanUp_removes_own_artifacts (s : Sys RafsImage) :
    RemovedOnly s.self.cleanUpPaths s.self.cleanUpObjects s (resultState (cleanUp s)) ∧
      (s.self.ossBlobAbsPath = none → (∀ p, s.self.bootstrapPath = some p → p ∈ s.host.files) →
        ∃ s', cleanUp s = .ok () s') ∧
      ∀ s', cleanUp s = .ok () s' →
        (∀ p, s.self.localfsBackingBlob = some p → p ∉ s'.host.files) ∧
        (s.self.clearFromOss = true → s.self.backendType = some .oss →
          ∀ k ∈ s.self.cleanUpObjects, k ∉ s'.host.oss) := by
  refine ⟨cleanUp_removedOnly s, fun hi hb => ?_, fun s' h => ?_⟩
  · obtain ⟨s₁, h₁⟩ : ∃ s₁, ifHasAttr s.self.bootstrapPath unlink s = .ok () s₁ := by
      rcases hp : s.self.bootstrapPath with _ | p
      · exact ⟨s, rfl⟩
      · exact ⟨⟨{ s.host with files := s.host.files.erase p }, s.self⟩,
          by simp [ifHasAttr, unlink, onHost, Host.unlink, hb p hp]⟩
    obtain ⟨_, s', h, -⟩ := cleanUpBlobs_returns hi s₁
    refine ⟨s', ?_⟩
    show (ifHasAttr s.self.bootstrapPath unlink >>= fun _ => cleanUpBlobs s.self) s = _
    rw [bind_apply, h₁]
    exact h
  · change (ifHasAttr s.self.bootstrapPath unlink >>= fun _ => cleanUpBlobs s.self) s = _ at h
    obtain ⟨_, _, -, h⟩ := bind_eq_ok h
    exact cleanUpBlobs_eq_ok_removes h

/-- An image on OSS under prefix `p`, built with blob id `abc` and
`clear_from_oss` at its default: `clean_up` returns, and the object is gone. -/
theorem cleanUp_removes_own_artifacts_oss_image :
    let s := resultState ((setBackend default .oss (some "p") >>= fun _ => createImage default {}
      ⟨"/tmp/out.json", ["/t/a"], 0, .ok ["abc"], "/t/a", true⟩)
        ⟨⟨∅, ∅, [], ∅, none, []⟩, RafsImage.init "/src" "/t/a" "/ws/blob-a" "/t" none true " " "--"⟩)
    ⟨some "p", "abc"⟩ ∈ s.host.oss ∧ s.self.cleanUpObjects = [⟨some "p", "abc"⟩] ∧
      (∃ s', cleanUp s = .ok () s') ∧ ∀ s', cleanUp s = .ok () s' → ⟨some "p", "abc"⟩ ∉ s'.host.oss := by
  intro s
  have h := cleanUp_removes_own_artifacts s
  have hb : ∀ p, s.self.bootstrapPath = some p → p ∈ s.host.files := by
    rintro p ⟨⟩
    decide
  exact ⟨by decide, rfl, h.2.1 rfl hb,
    fun s' hs' => (h.2.2 s' hs').2 rfl rfl _ (List.mem_singleton_self _)⟩

/-- Two localfs images whose builder reports the same blob id `abc`: cleaning
the first removes the second's backing blob. -/
theorem cleanUp_removes_shared_backing_blob :
    let anchor : Anchor := { (default : Anchor) with localfsWorkdir := "/wd" }
    let build := fun (i : RafsImage) (h : Host) =>
      resultState ((setBackend anchor .localfs >>= fun _ => createImage anchor {}
        ⟨"/tmp/out.json", [i.bootstrapName, "/wd/abc"], 0, .ok ["abc"], i.bootstrapName, true⟩)
          ⟨h, i⟩)
    let a := build (RafsImage.init "/src" "/t/a" "/ws/blob-a" "/t" none true " " "--")
      ⟨∅, ∅, [], ∅, none, []⟩
    let b := build (RafsImage.init "/src" "/t/b" "/ws/blob-b" "/t" none true " " "--") a.host
    b.self.localfsBackingBlob = some "/wd/abc" ∧ "/wd/abc" ∈ b.host.files ∧
      "/wd/abc" ∉ (resultState (cleanUp ⟨b.host, a.self⟩)).host.files := by
  decide

/-- `clean_up` on an image whose bootstrap file is gone raises at once. -/
theorem cleanUp_raises_of_missing_bootstrap {s : Sys RafsImage} {p : Path}
    (hp : s.self.bootstrapPath = some p) (hmiss : p ∉ s.host.files) :
    cleanUp s = .error (.fileNotFound p) s := by
  show (ifHasAttr s.self.bootstrapPath unlink >>= fun _ => cleanUpBlobs s.self) s = _
  simp [bind_apply, hp, ifHasAttr, unlink, onHost, Host.unlink, hmiss]

/-- A `clean_up` right after one that returned raises `FileNotFoundError` for
the bootstrap, on every image that had one. -/
theorem cleanUp_again_raises {s s' : Sys RafsImage} {p : Path}
    (hp : s.self.bootstrapPath = some p) (h : cleanUp s = .ok () s') :
    cleanUp s' = .error (.fileNotFound p) s' := by
  change (ifHasAttr s.self.bootstrapPath unlink >>= fun _ => cleanUpBlobs s.self) s = _ at h
  simp only [bind_apply, hp, ifHasAttr, unlink, onHost, Host.unlink] at h
  split_ifs at h with hmem
  change cleanUpBlobs s.self ⟨{ s.host with files := s.host.files.erase p }, s.self⟩ = _ at h
  have hr := cleanUpBlobs_removedOnly s.self ⟨{ s.host with files := s.host.files.erase p }, s.self⟩
  rw [h] at hr
  refine cleanUp_raises_of_missing_bootstrap ((congrArg RafsImage.bootstrapPath hr.self_eq).trans hp)
    fun hp' => ?_
  simpa using hr.files_sub hp'

theorem cleanUp_again_raises_with_bootstrap :
    let s : Sys RafsImage := ⟨⟨{"/t/a"}, ∅, [], ∅, none, []⟩,
      { RafsImage.init "/src" "/t/a" "/ws/blob-a" "/t" none true " " "--" with bootstrapPath := some "/t/a" }⟩
    ∃ s', cleanUp s = .ok () s' ∧ cleanUp s' = .error (.fileNotFound "/t/a") s' := by
  intro s
  exact ⟨_, rfl, @cleanUp_again_raises s _ "/t/a" rfl rfl⟩

/-- A localfs image built once and cleaned up twice: the second call raises. -/
theorem cleanUp_twice_after_build :
    let anchor : Anchor := { (default : Anchor) with localfsWorkdir := "/wd" }
    let s := resultState ((setBackend anchor .localfs >>= fun _ => createImage anchor {}
      ⟨"/tmp/out.json", ["/t/a", "/wd/abc"], 0, .ok ["abc"], "/t/a", true⟩)
        ⟨⟨∅, ∅, [], ∅, none, []⟩, RafsImage.init "/src" "/t/a" "/ws/blob-a" "/t" none true " " "--"⟩)
    ∃ s', cleanUp s = .ok () s' ∧ cleanUp s' = .error (.fileNotFound "/t/a") s' :=
  ⟨_, rfl, cleanUp_raises_of_missing_bootstrap rfl (by decide)⟩

end NydusTest
