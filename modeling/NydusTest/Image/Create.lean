import NydusTest.Image.RafsImage

/-!
What `create_image` registers with the anchor's dustbin. Every statement before
the registrations leaves the dustbin as it is, and the registrations come last
and cannot raise. So a call that returns has registered `bootstrap_name`,
`blob_abs_path` and the localfs backing blob when the image has one, and a call
that raises, at whatever step (the builder's exit status, the bootstrap check,
the output JSON, the upload or the proxy copy), has registered nothing, even for
the files the builder left. The copy into the proxy's blob directory is never
registered.
-/

namespace NydusTest

/-- The dustbin is as it was. -/
def DustbinKept (s s' : Sys RafsImage) : Prop := s'.host.dustbin = s.host.dustbin

theorem DustbinKept.refl (s : Sys RafsImage) : DustbinKept s s := rfl

theorem DustbinKept.trans (a b c : Sys RafsImage) (h₁ : DustbinKept a b) (h₂ : DustbinKept b c) :
    DustbinKept a c :=
  Eq.trans h₂ h₁

theorem onHost_dustbinKept {f : Host → Except PyError Host}
    (hf : ∀ h h', f h = .ok h' → h'.dustbin = h.dustbin) : Preserves DustbinKept (onHost f) := by
  intro s
  simp only [onHost]
  split
  · next h' hh => exact hf _ _ hh
  · exact DustbinKept.refl s

theorem modifySelf_dustbinKept (f : RafsImage → RafsImage) :
    Preserves DustbinKept (modifySelf f) := fun _ => rfl

variable (anchor : Anchor)

/-- The statements before the registrations leave the dustbin as it is. -/
theorem buildImage_dustbinKept (args : CreateArgs) (run : BuildRun) :
    Preserves DustbinKept (buildImage anchor args run) := by
  have ht := DustbinKept.trans
  have hr := DustbinKept.refl
  unfold buildImage prepareBuild persistBlob setParam setFlags tweakBuildCommand runBuilder ossUpload
    copyInto
  repeat' with_reducible first
    | refine Preserves.bind ht ?_ fun _ => ?_
    | refine Preserves.ifHasAttr hr fun _ _ => ?_
    | refine Preserves.pyIf hr fun _ => ?_
    | refine Preserves.orRaise_bind hr fun _ _ => ?_
    | exact modifySelf_dustbinKept _
    | exact Preserves.getSelf hr
    | exact Preserves.getHost hr
    | exact Preserves.pyAssert hr _
    | exact Preserves.ofExcept hr _
    | exact Preserves.orRaise hr _ _
    | exact Preserves.pure hr _
    | exact onHost_dustbinKept fun _ _ h => by (try split_ifs at h); cases h; rfl
    | split

/-- The registrations: `bootstrap_name`, `blob_abs_path`, then the localfs
backing blob when the image has one. -/
theorem registerArtifacts_eq (s : Sys RafsImage) :
    registerArtifacts s = .ok () ⟨{ s.host with dustbin := s.host.dustbin ++
      [s.self.bootstrapName, s.self.blobAbsPath] ++ s.self.localfsBackingBlob.toList }, s.self⟩ := by
  cases h : s.self.localfsBackingBlob <;>
    simp [registerArtifacts, bind_apply, getSelf, putDustbin, onHost, Host.putDustbin, ifHasAttr, h]

/-- `create_image`, on every state and every behaviour of the builder, ossutil
and the proxy copy: when it returns, the dustbin gained `bootstrap_name`,
`blob_abs_path` and the localfs backing blob if the image has one; when it
raises, the dustbin is as it was. -/
theorem createImage_registers_only_on_success (s : Sys RafsImage) (args : CreateArgs)
    (run : BuildRun) :
    match createImage anchor args run s with
    | .ok _ s' => s'.host.dustbin = s.host.dustbin ++
        [s'.self.bootstrapName, s'.self.blobAbsPath] ++ s'.self.localfsBackingBlob.toList
    | .error _ s' => s'.host.dustbin = s.host.dustbin := by
  have hb := buildImage_dustbinKept anchor args run s
  change match (buildImage anchor args run >>= fun _ => registerArtifacts) s with
    | .ok _ s' => _ | .error _ s' => _
  rw [bind_apply]
  cases h : buildImage anchor args run s with
  | ok _ t =>
      rw [h] at hb
      simp only [registerArtifacts_eq]
      rw [← hb]
      rfl
  | error e t => rw [h] at hb; exact hb

/-- A builder that exits with status 1 after writing the bootstrap: the
bootstrap is left on disk and was never registered. -/
theorem createImage_failed_build_leaves_bootstrap :
    let s := resultState ((setBackend default .registry >>= fun _ => createImage default {}
      ⟨"/tmp/out.json", ["/t/a", "/ws/blob-a"], 1, .ok ["abc"], "/t/a", true⟩)
        ⟨⟨∅, ∅, [], ∅, none, []⟩, RafsImage.init "/src" "/t/a" "/ws/blob-a" "/t" none true " " "--"⟩)
    "/t/a" ∈ s.host.files ∧ "/t/a" ∉ s.host.dustbin := by
  decide

end NydusTest
