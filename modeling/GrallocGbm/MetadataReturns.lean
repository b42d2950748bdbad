/-
  What the number tells that a read of metadata returns.

  A client takes a number that is not negative for a count of bytes.  Errors come about at three
  levels:

    the mapper                 positive `AIMAPPER_ERROR_*`
    the provider, a backend    positive `AIMAPPER_ERROR_*`, and one `-EINVAL` of the DMA-BUF backend
    provideStandardMetadata    a negative error for a type it does not know

  The mapper's only test is for a negative result, and that it turns into a positive code.  So a
  read never returns a negative number (`getStandardMetadata_not_negative`), and its number tells
  success from failure exactly where there is no failure to tell (`reads_distinguished_iff`).

  1. **The number** — `relayed` is all that the mapper does with a backend's result, and
  `Mapper.getStandardMetadata_eq` takes a read apart into the readiness of the backend and the
  relayed result.

  2. **The value** — `HasValue` lists, by backend, the types and buffers for which something is
  provided, and `getStandardMetadata_isSome_iff` says that the list is exact.

  3. **Reads by name** — `getMetadata` compares the name of the type and refuses a foreign one with
  a code that is positive like the others, so nothing changes.
-/
import GrallocGbm.MetadataTable

namespace GrallocGbm

/-! ## Reads by name -/

/-- `STANDARD_METADATA_NAME`. -/
def standardMetadataName : String := "android.hardware.graphics.common.StandardMetadataType"

/-- `AIMapper_MetadataType`. -/
structure AIMapperMetadataType where
  name : String
  value : StandardMetadataType
  deriving DecidableEq, Repr

/-- `is_standard_metadata`. -/
def isStandardMetadata (type : AIMapperMetadataType) : Bool := type.name = standardMetadataName

/-- `GrallocGenericMapperV5::getMetadata`. -/
def Mapper.getMetadata (env : Env) (buffer : Option NativeHandle)
    (metadataType : AIMapperMetadataType) (m : Mapper) : (Ret Int × Option MetadataValue) × Mapper :=
  match buffer with
  | none => ((.ok AIMapperError.badBuffer.code, none), m)
  | some buffer =>
    if isStandardMetadata metadataType then m.getStandardMetadata env (some buffer) metadataType.value
    else ((.ok AIMapperError.unsupported.code, none), m)

/-! ## The number returned -/

section

variable {env : Env} {type : StandardMetadataType}

/-- A value that is provided comes with its size. -/
theorem provideStandardMetadata_size {provider : Proc → Provided × Proc} {p : Proc}
    {value : MetadataValue} (h : (provideStandardMetadata env type provider p).2.1 = some value) :
    ∃ n : Nat, (provideStandardMetadata env type provider p).1 = .ok (n : Int) := by
  unfold provideStandardMetadata at h ⊢
  cases hk : type.isKnown with
  | false =>
    rw [hk] at h
    cases h
  | true =>
    rw [hk] at h
    simp only [Bool.not_true, Bool.false_eq_true, if_false] at h ⊢
    cases hprov : provider p with
    | mk provided q =>
      rw [hprov] at h
      cases provided with
      | value v => exact ⟨_, rfl⟩
      | code rc => cases h
      | crash => cases h

/-- What the mapper makes of a backend's result. -/
def relayed (ret : Ret Int) : Ret Int :=
  match ret with
  | .ok n => .ok (if n < 0 then AIMapperError.noResources.code else n)
  | .err rc => .err rc
  | .crash => .crash

/-- The mapper's one test. -/
theorem relayed_not_negative {ret : Ret Int} {n : Int} (h : relayed ret = .ok n) : 0 ≤ n := by
  cases ret with
  | err rc => cases h
  | crash => cases h
  | ok k =>
    have hn : (if k < 0 then AIMapperError.noResources.code else k) = n := Ret.ok.inj h
    split at hn
    · rw [← hn]
      decide
    · omega

/-- The backend's read, on a process with the backend ready. -/
def backendRead (env : Env) (h : NativeHandle) (type : StandardMetadataType) (p : Proc) :
    Ret Int × Option MetadataValue × Proc :=
  match routedTo (grallocHandle h) with
  | .mapperGrallocGbm => MapperBackendGrallocGbm.getStandardMetadata env h type p
  | .mapperGrallocDmabuf => MapperBackendDmaBuf.getStandardMetadata env h type p

/-- A read: the backend's, relayed, or an error where the backend does not get ready. -/
theorem Mapper.getStandardMetadata_eq (h : NativeHandle) (m : Mapper) :
    (m.getStandardMetadata env (some h) type).1
      = if ((routedTo (grallocHandle h)).ensureReady env m.proc).1 then
          (relayed (backendRead env h type (readied env h m.proc)).1,
            (backendRead env h type (readied env h m.proc)).2.1)
        else (.ok AIMapperError.noResources.code, none) := by
  unfold Mapper.getStandardMetadata
  dsimp only
  cases hok : ((routedTo (grallocHandle h)).ensureReady env m.proc).1 with
  | false =>
    rw [Mapper.withBackend_failed hok]
    rfl
  | true =>
    rw [Mapper.withBackend_ready hok, if_pos rfl]
    unfold backendRead GrallocGbm.readied
    dsimp only
    split <;> rename_i heq <;> exact Prod.ext (congrArg relayed heq).symm rfl

/-- **A read never returns a negative number.** -/
theorem getStandardMetadata_not_negative {buffer : Option NativeHandle} {m : Mapper} {n : Int}
    (h : (m.getStandardMetadata env buffer type).1.1 = .ok n) : 0 ≤ n := by
  cases buffer with
  | none =>
    rw [← Ret.ok.inj h]
    decide
  | some buffer =>
    rw [Mapper.getStandardMetadata_eq] at h
    split at h
    · exact relayed_not_negative h
    · rw [← Ret.ok.inj h]
      decide

/-- A value comes with a number that is not negative. -/
theorem getStandardMetadata_size {buffer : Option NativeHandle} {m : Mapper} {value : MetadataValue}
    (h : (m.getStandardMetadata env buffer type).1.2 = some value) :
    ∃ n, (m.getStandardMetadata env buffer type).1.1 = .ok n := by
  cases buffer with
  | none => cases h
  | some buffer =>
    rw [Mapper.getStandardMetadata_eq] at h ⊢
    split at h
    · rename_i hok
      rw [if_pos hok]
      have hsize : ∃ n : Nat, (backendRead env buffer type (readied env buffer m.proc)).1 = .ok n := by
        unfold backendRead at h ⊢
        split at h
        · exact provideStandardMetadata_size h
        · exact provideStandardMetadata_size h
      obtain ⟨n, hn⟩ := hsize
      exact ⟨n, by rw [hn]; rfl⟩
    · cases h

end

/-! ## Where there is a value

  The value does not pass through the number, so it is looked at separately. -/

/-- The buffer is live, and its backend has a value for the type: the GBM backend for all known types
    but two, if the format has a pixel size, and for the planes if it has a plane layout; the DMA-BUF
    backend for some. -/
def HasValue (h : NativeHandle) (type : StandardMetadataType) (p : Proc) : Prop :=
  type.isKnown = true ∧
  ((LiveGbm h p ∧ pixelBytes h ≠ 0 ∧ type ∉ [.smpte209440, .smpte209410] ∧
      (type = .planeLayouts → ((objectFormat h p).bind getPlaneLayouts).isSome = true)) ∨
    (LiveDmaBuf h p ∧ type ∉ dmaBufLacks))

section

variable {env : Env} {h : NativeHandle} {type : StandardMetadataType}

/-- Getting a backend ready changes neither of the tables. -/
theorem readied_tables (env : Env) (h : NativeHandle) (p : Proc) :
    (readied env h p).table = p.table ∧
      (readied env h p).importedBufferTable = p.importedBufferTable := by
  obtain ⟨g, fds, da, n, cs, heq, -⟩ := ensureReady_spec env (routedTo (grallocHandle h)) p
  rw [readied, heq]
  exact ⟨rfl, rfl⟩

/-- There is no value for a buffer that is not in its backend's table. -/
theorem backendRead_unmanaged {p : Proc} (hgbm : ¬ LiveGbm h p) (hdma : ¬ LiveDmaBuf h p) :
    (backendRead env h type p).2.1 = none := by
  unfold backendRead
  cases hk : type.isKnown with
  | false => split <;> exact provideStandardMetadata_unknown hk _ _
  | true =>
    split <;> rename_i hroute
    · have hfind : findBufferK (grallocHandle h).primeFd p.table = none := by
        rw [← Option.not_isSome_iff_eq_none]
        exact fun hsome => hgbm ⟨hroute, hsome⟩
      unfold MapperBackendGrallocGbm.getStandardMetadata
      rw [provideStandardMetadata_value env hk, grallocGbmQueryAndroidBufferMetadata,
        grallocGbmAndroidBufferQuery, hfind]
      rfl
    · have hfind : findBufferInfo (grallocHandle h).primeFd p = none := by
        rw [← Option.not_isSome_iff_eq_none]
        exact fun hsome => hdma ⟨hroute, hsome⟩
      unfold MapperBackendDmaBuf.getStandardMetadata
      rw [provideStandardMetadata_value env hk, queryAndroidBufferMetadata, hfind]
      rfl

/-- **Which reads have a value.** -/
theorem getStandardMetadata_isSome_iff {m : Mapper} (hp : ProcInv m.proc)
    (hblocks : AllHaveBlocks m.proc) :
    (m.getStandardMetadata env (some h) type).1.2.isSome = true ↔ HasValue h type m.proc := by
  by_cases hgbm : LiveGbm h m.proc
  · have hdma : ¬ LiveDmaBuf h m.proc := by
      rintro ⟨hroute, -⟩
      rw [hgbm.1] at hroute
      cases hroute
    rw [getStandardMetadata_gbm_isSome type hp hblocks hgbm]
    unfold HasValue
    simp only [hgbm, hdma, true_and, false_and, or_false]
    constructor
    · exact fun ⟨hpixel, htypes, hk, hplanes⟩ => ⟨hk, hpixel, htypes, hplanes⟩
    · exact fun ⟨hk, hpixel, htypes, hplanes⟩ => ⟨hpixel, htypes, hk, hplanes⟩
  · by_cases hdma : LiveDmaBuf h m.proc
    · rw [getStandardMetadata_dmaBuf_isSome env type hdma]
      unfold HasValue
      simp only [hgbm, hdma, true_and, false_and, false_or]
    · refine iff_of_false ?_ fun hvalue => hvalue.2.elim (fun hl => hgbm hl.1) fun hl => hdma hl.1
      obtain ⟨htable, himported⟩ := readied_tables env h m.proc
      have hgbm' : ¬ LiveGbm h (readied env h m.proc) := by
        unfold LiveGbm
        rwa [htable]
      have hdma' : ¬ LiveDmaBuf h (readied env h m.proc) := by
        unfold LiveDmaBuf findBufferInfo
        rwa [himported]
      rw [Mapper.getStandardMetadata_eq, apply_ite Prod.snd, backendRead_unmanaged hgbm' hdma', ite_self]
      exact Bool.false_ne_true

end

/-! ## What the number tells

  Together: a number that is not negative, with a value or without. -/

/-- The call returns, and with a negative number exactly if it has no value. -/
def Distinguishes (r : Ret Int × Option MetadataValue) : Prop :=
  ∃ n, r.1 = .ok n ∧ (n < 0 ↔ r.2 = none)

/-- Of two codes that are positive, neither tells of a failure. -/
theorem not_distinguishes {n : Int} (hn : 0 ≤ n) : ¬ Distinguishes (.ok n, none) := by
  rintro ⟨k, hk, hiff⟩
  have hneg := hiff.mpr rfl
  cases hk
  omega

section

variable {env : Env} {m : Mapper}

/-- A read tells success from failure exactly if it succeeds. -/
theorem getStandardMetadata_distinguishes_iff (buffer : Option NativeHandle)
    (type : StandardMetadataType) : Distinguishes (m.getStandardMetadata env buffer type).1 ↔
      (m.getStandardMetadata env buffer type).1.2.isSome = true := by
  constructor
  · rintro ⟨n, hn, hiff⟩
    rw [Option.isSome_iff_ne_none]
    intro hnone
    have := getStandardMetadata_not_negative hn
    have := hiff.mpr hnone
    omega
  · intro hsome
    obtain ⟨value, hvalue⟩ := Option.isSome_iff_exists.mp hsome
    obtain ⟨n, hn⟩ := getStandardMetadata_size hvalue
    have hpos := getStandardMetadata_not_negative hn
    refine ⟨n, hn, fun hneg => by omega, fun hnone => ?_⟩
    rw [hvalue] at hnone
    cases hnone

end

/-- **When the number tells.**  After any calls, for any buffer, name and type: a read by type, and a
    read by name, are told apart from failures exactly where they succeed; every failure returns a
    number that is not negative, or not at all. -/
theorem reads_distinguished_iff (cfg : BuildConfig) (env : Env) (ops : List MapperOp)
    (buffer : Option NativeHandle) (metadataType : AIMapperMetadataType) :
    let m := mapperRun cfg env ops
    (Distinguishes (m.getStandardMetadata env buffer metadataType.value).1 ↔
      ∃ h, buffer = some h ∧ HasValue h metadataType.value m.proc) ∧
    (Distinguishes (m.getMetadata env buffer metadataType).1 ↔
      metadataType.name = standardMetadataName ∧
        ∃ h, buffer = some h ∧ HasValue h metadataType.value m.proc) := by
  intro m
  have hread : Distinguishes (m.getStandardMetadata env buffer metadataType.value).1 ↔
      ∃ h, buffer = some h ∧ HasValue h metadataType.value m.proc := by
    rw [getStandardMetadata_distinguishes_iff]
    cases buffer with
    | none => exact iff_of_false Bool.false_ne_true (by simp)
    | some h =>
      rw [getStandardMetadata_isSome_iff (mapperRun_inv cfg env ops) (mapperRun_hasBlocks cfg env ops)]
      constructor
      · exact fun hvalue => ⟨h, rfl, hvalue⟩
      · rintro ⟨h', heq, hvalue⟩
        cases heq
        exact hvalue
  refine ⟨hread, ?_⟩
  cases buffer with
  | none => exact iff_of_false (not_distinguishes (by decide)) (by simp)
  | some h =>
    unfold Mapper.getMetadata isStandardMetadata
    dsimp only
    by_cases hname : metadataType.name = standardMetadataName
    · rw [if_pos (decide_eq_true hname), and_iff_right hname]
      exact hread
    · rw [if_neg (by simpa using hname)]
      exact iff_of_false (not_distinguishes (by decide)) fun h => hname h.1

/-- No buffer is number 2, a name that is not known is number 7, a buffer that is not there is
    number 5, and so might be the size of an answer. -/
theorem failures_not_distinguished :
    let m := mapperRun .androidBp .plain liveOps
    (m.getStandardMetadata .plain none .width).1 = (.ok 2, none) ∧
    (m.getMetadata .plain (some liveHandle) ⟨"vendor", .width⟩).1 = (.ok 7, none) ∧
    (m.getStandardMetadata .plain (some (rgbaHandle 9)) .width).1 = (.ok 5, none) ∧
    (m.getStandardMetadata .plain (some liveHandle) .smpte209440).1 = (.ok 7, none) ∧
    ¬ Distinguishes (m.getStandardMetadata .plain none .width).1 :=
  ⟨rfl, rfl, rfl, rfl, not_distinguishes (by decide)⟩

end GrallocGbm
