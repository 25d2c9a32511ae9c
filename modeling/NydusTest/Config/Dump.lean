import NydusTest.Config.RafsConf

/-!
What `dump_rafs_conf` writes. From every reachable state it returns; the file
then holds exactly `json.dumps` of the snapshot, whatever it held before, since
the stream is truncated and rewound before the chunks are written; and the
snapshot is the state with the forced v6 cache, the default blobcache, which
replaces any cache configured before. Dumping twice leaves the same state and
the same bytes.
-/

namespace NydusTest

open Json

variable {anchor : Anchor} {c : RafsConf}

/-- `enable_rafs_blobcache` on a state with the shape assigns `device.cache`. -/
theorem enableRafsBlobcache_spec (anchor : Anchor) (isCompressed : Bool) (workDir : Option Path)
    (hc : Shaped c.deviceConf) :
    ∃ d, c.deviceConf.setPath ["device", "cache"] (blobcacheConf anchor isCompressed workDir) = some d ∧
      enableRafsBlobcache anchor isCompressed workDir c = .ok () { c with deviceConf := d } := by
  obtain ⟨fs, hfs⟩ := getPath_of_objAt (hc ["device"] (by simp [shapePaths]))
  obtain ⟨d, hd, -⟩ := setPath_append_singleton hfs "cache" (blobcacheConf anchor isCompressed workDir)
  replace hd : c.deviceConf.setPath ["device", "cache"] _ = some d := hd
  exact ⟨d, hd, by simp [enableRafsBlobcache, Setter.assigns, configureAll, configureRafs_of_setPath hd]⟩

/-- The namespace tree `dump_rafs_conf` serializes: the forced v6 cache. -/
def forcedCache (anchor : Anchor) (d : Json) : Option Json :=
  if anchor.fsVersion = 6 then d.setPath ["device", "cache"] (blobcacheConf anchor false none)
  else some d

theorem dumpRafsConf_spec (anchor : Anchor) (hc : Shaped c.deviceConf) :
    ∃ d, forcedCache anchor c.deviceConf = some d ∧
      dumpRafsConf anchor c = .ok () { c with deviceConf := d }.dumped := by
  by_cases h6 : anchor.fsVersion = 6
  · obtain ⟨d, hd, he⟩ := enableRafsBlobcache_spec anchor false none hc
    exact ⟨d, by simp [forcedCache, h6, hd], by simp [dumpRafsConf, h6, he]⟩
  · exact ⟨c.deviceConf, by simp [forcedCache, h6], by simp [dumpRafsConf, h6]⟩

/-- After a dump the snapshot is the tree and the file holds its serialization
and nothing else, whatever the object held before. -/
@[simp] theorem RafsConf.dumped_eq (c : RafsConf) :
    c.dumped = ⟨c.deviceConf, c.deviceConf,
      ⟨(dumps c.deviceConf).data, (dumps c.deviceConf).data.length⟩⟩ := by
  simpa [RafsConf.dumped, dumps] using TextFile.writeAll_at_end [] (iterencode c.deviceConf)

theorem forcedCache_forcedCache {d d' : Json} (h : forcedCache anchor d = some d') :
    forcedCache anchor d' = some d' := by
  unfold forcedCache at *
  split_ifs at * with h6
  · exact setPath_setPath_self h
  · simp [h]

/-- Every dump from a state a test reaches returns. The file then holds
`json.dumps` of the state with the dump's own forced cache, and nothing of what
it held before. A second dump right after changes neither the state nor a byte
of the file. -/
theorem dumpRafsConf_rewrites_file {mode : Option String} (hc : Reachable anchor mode c) :
    ∃ c', dumpRafsConf anchor c = .ok () c' ∧
      forcedCache anchor c.deviceConf = some c'.deviceConfDict ∧
      c'.deviceConf = c'.deviceConfDict ∧
      c'.confFile.content = (dumps c'.deviceConfDict).data ∧
      dumpRafsConf anchor c' = .ok () c' := by
  obtain ⟨d, hd, hdump⟩ := dumpRafsConf_spec anchor hc.shaped
  have hs := ConfCall.run_shaped anchor .dump hc.shaped
  rw [ConfCall.run, hdump] at hs
  obtain ⟨d', hd', hdump'⟩ := dumpRafsConf_spec anchor (c := { c with deviceConf := d }.dumped) hs
  have hdd : d' = d := Option.some.inj (hd'.symm.trans (forcedCache_forcedCache hd))
  refine ⟨_, hdump, by simpa using hd, rfl, by simp, ?_⟩
  rw [hdump', hdd]
  simp

/-- A dump with `amplify_io(1048576)`, then `amplify_io(1)` and a second dump,
whose document is six characters shorter than the file the first left: the file
holds the second document and nothing more. -/
theorem dumpRafsConf_rewrites_file_after_longer_dump :
    let c := runCalls default [.setter (.amplifyIo 1048576), .dump, .setter (.amplifyIo 1)]
      (RafsConf.init none)
    Reachable default none c ∧
      ∃ c', dumpRafsConf default c = .ok () c' ∧
        forcedCache default c.deviceConf = some c'.deviceConfDict ∧
        c'.deviceConf = c'.deviceConfDict ∧
        c'.confFile.content = (dumps c'.deviceConfDict).data ∧
        dumpRafsConf default c' = .ok () c' := by
  intro c
  have hc : Reachable default none c := ⟨_, rfl⟩
  exact ⟨hc, dumpRafsConf_rewrites_file hc⟩

/-- With `fs_version` 6 the document every dump writes has the default
blobcache, whatever cache the setters configured before. -/
theorem dumpRafsConf_forces_default_blobcache {mode : Option String} (h6 : anchor.fsVersion = 6)
    (hc : Reachable anchor mode c) :
    ∃ c', dumpRafsConf anchor c = .ok () c' ∧
      c'.confFile.content = (dumps c'.deviceConfDict).data ∧
      c'.deviceConfDict.getPath ["device", "cache"] = some (blobcacheConf anchor false none) := by
  obtain ⟨d, hd, hdump⟩ := dumpRafsConf_spec anchor hc.shaped
  rw [forcedCache, if_pos h6] at hd
  exact ⟨_, hdump, by simp, getPath_setPath_self hd⟩

/-- A compressed blobcache under `/w` configured before the dump: the dump
writes the default blobcache in its place. -/
theorem dumpRafsConf_forces_default_blobcache_after_cache :
    let a : Anchor := { (default : Anchor) with fsVersion := 6 }
    let c := runCalls a [.setter (.enableRafsBlobcache true (some "/w"))] (RafsConf.init none)
    a.fsVersion = 6 ∧ Reachable a none c ∧
      ∃ c', dumpRafsConf a c = .ok () c' ∧
        c'.confFile.content = (dumps c'.deviceConfDict).data ∧
        c'.deviceConfDict.getPath ["device", "cache"] = some (blobcacheConf a false none) := by
  intro a c
  have hc : Reachable a none c := ⟨_, rfl⟩
  exact ⟨rfl, hc, dumpRafsConf_forces_default_blobcache rfl hc⟩

/-- A compressed blobcache under `/w`, configured before the dump, is not what
the dump writes. -/
theorem dumpRafsConf_drops_configured_blobcache :
    let a : Anchor := { (default : Anchor) with fsVersion := 6 }
    let c := runCalls a [.setter (.enableRafsBlobcache true (some "/w"))] (RafsConf.init none)
    (resultState (dumpRafsConf a c)).deviceConfDict.getPath ["device", "cache"] ≠
      some (blobcacheConf a true (some "/w")) := by
  decide

end NydusTest
