import NydusTest.Config.RafsConf

/-!
`RafsImage`, the driver of the image builder. `create_image` renders the
builder's command line, runs the builder, checks its exit status and its
bootstrap, reads the blob id from the builder's output JSON, persists the blob
as the backend wants it and only then registers the artifacts with the
anchor's dustbin; `clean_up` removes what the image left. The builder, ossutil
and the copy into the proxy's blob directory are external: one `BuildRun`
fixes what they do in one call, so every theorem ranges over all of it.

Attributes the object may lack (`hasattr`) are `Option`s. `oss_blob_abs_path`,
`parent_blob` and `parent_bootstrap` are read by `clean_up` but assigned
nowhere in this file.
-/

namespace NydusTest

/-- `class Compressor(enum.Enum)`. -/
inductive Compressor where
  | none
  | lz4Block
  | gzip
  | zstd
  deriving DecidableEq, Repr

/-- `Compressor.__str__`. -/
def Compressor.value : Compressor → String
  | .none => "none"
  | .lz4Block => "lz4_block"
  | .gzip => "gzip"
  | .zstd => "zstd"

/-- The `oss.OssHelper` an image builds in `set_backend(OSS)`: of it the
framework relies on the key prefix. -/
structure OssHelper where
  keyPrefix : Option String
  deriving DecidableEq, Repr

/-- A `RafsImage` object. -/
structure RafsImage where
  rootfs : Path
  bootstrapName : Path
  blobAbsPath : Path
  testDir : Path
  blobId : Option String
  opts : String
  clearFromOss : Bool
  created : Bool
  compressor : Option Compressor
  backendType : Option Backend
  ossHelper : Option OssHelper
  ossUploader : Option String
  parentImage : Option Path
  bootstrapPath : Option Path
  localfsBackingBlob : Option Path
  ossBlobAbsPath : Option Path
  parentBlob : Option Path
  parentBootstrap : Option Path
  paramSeparator : String
  paramNamePrefix : String
  paramValuePrefix : String
  commandParamDict : List (String × String)
  commandFlags : List String

/-- `RafsImage.__init__`: the temporary names (`bootstrap_name`,
`blob_abs_path`), `os.getcwd()` and the separators `LinuxCommand.__init__`
sets are given. -/
def RafsImage.init (rootfs bootstrapName blobAbsPath testDir : Path)
    (compressor : Option Compressor) (clearFromOss : Bool)
    (paramSeparator paramNamePrefix : String) : RafsImage where
  rootfs := rootfs
  bootstrapName := bootstrapName
  blobAbsPath := blobAbsPath
  testDir := testDir
  blobId := none
  opts := ""
  clearFromOss := clearFromOss
  created := false
  compressor := compressor
  backendType := none
  ossHelper := none
  ossUploader := none
  parentImage := none
  bootstrapPath := none
  localfsBackingBlob := none
  ossBlobAbsPath := none
  parentBlob := none
  parentBootstrap := none
  paramSeparator := paramSeparator
  paramNamePrefix := paramNamePrefix
  paramValuePrefix := " "
  commandParamDict := []
  commandFlags := []

/-- The state methods of `RafsImage` run on. -/
abbrev ImageM := EStateM PyError (Sys RafsImage)

/-! ### Command line -/

/-- Modelled from the spec: `LinuxCommand.set_param`, outside this file. The
builder's options are a dict; setting a key again replaces its value in place. -/
def setParam (key value : String) : ImageM Unit :=
  modifySelf fun i => { i with commandParamDict := dictSet i.commandParamDict key value }
where
  dictSet : List (String × String) → String → String → List (String × String)
    | [], k, v => [(k, v)]
    | (k', v') :: rest, k, v => if k' = k then (k, v) :: rest else (k', v') :: dictSet rest k v

/-- Modelled from the spec: `LinuxCommand.set_flags`, outside this file; the
flag is appended. -/
def setFlags (flag : String) : ImageM Unit :=
  modifySelf fun i => { i with commandFlags := i.commandFlags ++ [flag] }

/-- The text `_tweak_build_command` appends to `opts`. -/
def RafsImage.renderedOptions (i : RafsImage) : String :=
  String.join (i.commandParamDict.map fun kv =>
      i.paramSeparator ++ i.paramNamePrefix ++ kv.1 ++ i.paramValuePrefix ++ kv.2) ++
    String.join (i.commandFlags.map fun flag => i.paramSeparator ++ i.paramNamePrefix ++ flag)

/-- `_tweak_build_command`: `self.opts += ...` for every option and flag. -/
def tweakBuildCommand : ImageM Unit :=
  modifySelf fun i => { i with opts := i.opts ++ i.renderedOptions }

/-- `str(hex(n))`. -/
def pyHex (n : Nat) : String := "0x" ++ String.mk (Nat.toDigits 16 n)

/-! ### The external collaborators -/

/-- What the world does during one `create_image`. -/
structure BuildRun where
  /-- The name of the `output.json` temporary file. -/
  outputJson : Path
  /-- The files the builder leaves behind. -/
  produced : List Path
  returncode : Int
  /-- `json.load(builder_output_json)["blobs"]`, or the exception it raises. -/
  blobs : Except PyError (List String)
  /-- `os.path.abspath(self.bootstrap_name)`. -/
  bootstrapAbsPath : Path
  /-- Whether `ossutil` uploads the blob. -/
  uploadOk : Bool

/-- `utils.run(cmd, ...)` of the builder followed by `p.wait()`: the command is
run and leaves its files. -/
def runBuilder (cmd : String) (run : BuildRun) : ImageM Unit :=
  onHost fun h => .ok { h with
    files := h.files ∪ run.produced.toFinset
    commands := h.commands ++ [cmd] }

/-- Modelled from the spec: `OssHelper.upload(src, blob_id)`, outside this
file; the blob is stored under the helper's prefix and the id. -/
def ossUpload (helper : OssHelper) (blobId : String) (ok : Bool) : ImageM Unit :=
  onHost fun h =>
    if ok then .ok { h with oss := insert ⟨helper.keyPrefix, blobId⟩ h.oss }
    else .error (.external "ossutil upload")

/-- Modelled from the spec: `OssHelper.rm(blob_id)`, outside this file; it
removes the object the helper stored under that id (`str(None)` for none). -/
def ossRm (helper : OssHelper) (blobId : Option String) : ImageM Unit :=
  onHost fun h => .ok { h with oss := h.oss.erase ⟨helper.keyPrefix, blobId.getD "None"⟩ }

/-- `shutil.copy(src, os.path.join(dir, name))`. -/
def copyInto (src dir name : Path) : ImageM Unit :=
  onHost fun h =>
    if src ∉ h.files then .error (.fileNotFound src)
    else if dir ∉ h.files then .error (.fileNotFound (posixJoin dir name))
    else .ok { h with files := insert (posixJoin dir name) h.files }

/-! ### Methods -/

variable (anchor : Anchor)

/-- `set_backend(type, **kwargs)`; `keyPrefix` is the `prefix` keyword. -/
def setBackend (type : Backend) (keyPrefix : Option String := none) : ImageM Unit := do
  modifySelf fun i => { i with backendType := some type }
  match type with
  | .localfs =>
      onHost fun h => .ok { h with files := insert anchor.localfsWorkdir h.files }
      setParam "blob-dir" anchor.localfsWorkdir
  | .oss =>
      setParam "blob" (← getSelf).blobAbsPath
      modifySelf fun i => { i with ossHelper := some ⟨keyPrefix⟩ }
  | .backendProxy => setParam "blob" (← getSelf).blobAbsPath
  | .registry => setParam "blob" (← getSelf).blobAbsPath

/-- `whiteout_spec(spec)`, with `str(spec)` of the `WhiteoutSpec`. -/
def whiteoutSpec (spec : String) : ImageM Unit := setParam "whiteout-spec" spec

/-- The keyword arguments of `create_image`. -/
structure CreateArgs where
  imageBin : Option String := none
  parentImage : Option Path := none
  clearFromOss : Bool := true
  ossUploader : String := "util"
  compressor : Option Compressor := none
  prefetchPolicy : Option String := none
  fromStargz : Bool := false
  fsVersion : Option String := none
  disableCheck : Bool := false
  chunkSize : Option Nat := none

/-- The command line `create_image` runs, after `_tweak_build_command`. -/
def RafsImage.buildCommand (i : RafsImage) (imageBin : String) : String :=
  imageBin ++ " create --bootstrap " ++ i.bootstrapName ++ " " ++ i.opts ++ " " ++ i.rootfs

/-- Everything `create_image` does before it runs the builder: the recorded
arguments and the builder's options. -/
def prepareBuild (args : CreateArgs) (outputJson : Path) : ImageM Unit := do
  modifySelf fun i => { i with
    clearFromOss := args.clearFromOss
    ossUploader := some args.ossUploader
    compressor := args.compressor
    parentImage := args.parentImage }
  pyAssert (args.ossUploader ∈ ["util", "builder", "none"])
  ifHasAttr args.prefetchPolicy (setParam "prefetch-policy")
  setParam "log-level" anchor.logLevel
  pyIf args.disableCheck (setFlags "disable-check")
  setParam "fs-version" (args.fsVersion.getD (toString anchor.fsVersion))
  ifHasAttr args.compressor fun c => setParam "compressor" c.value
  ifHasAttr args.chunkSize fun n => setParam "chunk-size" (pyHex n)
  setParam "output-json" outputJson
  ifHasAttr args.parentImage (setParam "parent-bootstrap")
  pyIf args.fromStargz (setParam "source-type" "stargz_index")
  tweakBuildCommand

/-- The backend-specific persistence of the blob. -/
def persistBlob (run : BuildRun) : ImageM Unit := do
  let i ← getSelf
  let blobId := i.blobId.getD "None"
  match i.backendType with
  | some .oss =>
      pyIf (i.ossUploader = some "util") do
        ossUpload (← orRaise (.attributeError "oss_helper") i.ossHelper) blobId run.uploadOk
  | some .backendProxy => copyInto i.blobAbsPath anchor.backendProxyBlobsDir blobId
  | some .localfs =>
      modifySelf fun i => { i with localfsBackingBlob := some (posixJoin anchor.localfsWorkdir blobId) }
  | _ => pure ()

/-- The registrations with the anchor's dustbin at the end of `create_image`;
the `AttributeError` of a missing `localfs_backing_blob` is caught. -/
def registerArtifacts : ImageM Unit := do
  let i ← getSelf
  putDustbin i.bootstrapName
  putDustbin i.blobAbsPath
  ifHasAttr i.localfsBackingBlob putDustbin

/-- `create_image` up to its registrations: the build, its checks, the blob id
and the persistence of the blob. -/
def buildImage (args : CreateArgs) (run : BuildRun) : ImageM Unit := do
  prepareBuild anchor args run.outputJson
  let i ← getSelf
  runBuilder (i.buildCommand (args.imageBin.getD anchor.imageBin)) run
  pyAssert (run.returncode = 0)
  pyAssert (posixJoin i.testDir i.bootstrapName ∈ (← getHost).files)
  modifySelf fun i => { i with created := true }
  let blobId ← orRaise .indexError (← ofExcept run.blobs).getLast?
  modifySelf fun i => { i with
    blobId := some blobId
    bootstrapPath := some run.bootstrapAbsPath }
  persistBlob anchor run

/-- `create_image(...)`: the artifacts are registered after everything else. -/
def createImage (args : CreateArgs) (run : BuildRun) : ImageM Unit := do
  buildImage anchor args run
  registerArtifacts

/-! ### `clean_up` -/

/-- `try: x except FileNotFoundError: pass`. -/
def ignoringMissing (x : ImageM Unit) : ImageM Unit :=
  tryExcept x fun | .fileNotFound _ => true | _ => false

/-- The `try` around the parent artifacts: `FileNotFoundError` and the
`AttributeError` of a missing attribute are caught. -/
def cleanParents (i : RafsImage) : ImageM Unit :=
  tryExcept
    (do unlink (← orRaise (.attributeError "parent_blob") i.parentBlob)
        unlink (← orRaise (.attributeError "parent_bootstrap") i.parentBootstrap))
    fun | .fileNotFound _ => true | .attributeError _ => true | _ => false

/-- The last `try` of `clean_up`: the OSS object, when the image owns it. -/
def cleanOss (i : RafsImage) : ImageM Unit :=
  tryExcept
    (pyIf (i.clearFromOss ∧ i.backendType = some .oss) do
      ossRm (← orRaise (.attributeError "oss_helper") i.ossHelper) i.blobId)
    fun | .attributeError _ => true | _ => false

/-- `clean_up` after its first statement: the blob files, the parent artifacts
and the OSS object. -/
def cleanUpBlobs (i : RafsImage) : ImageM Unit := do
  ifHasAttr i.ossBlobAbsPath fun _ => unlink i.blobAbsPath
  ifHasAttr i.localfsBackingBlob fun p => ignoringMissing (unlink p)
  ignoringMissing (unlink i.blobAbsPath)
  cleanParents i
  cleanOss i

/-- `clean_up()`: the bootstrap is unlinked with no `try` around it. -/
def cleanUp : ImageM Unit := do
  let i ← getSelf
  ifHasAttr i.bootstrapPath unlink
  cleanUpBlobs i

end NydusTest
