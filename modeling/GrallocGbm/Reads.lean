/-
  What reading metadata costs.

  Whatever is asked for, the GBM backend answers from one query of the whole buffer, and the query
  exports a descriptor for the object (`info.fd = gbm_bo_get_fd(bo)`) that nobody looks at and
  nobody closes.  So reads keep the table and the objects, with their lock state and metadata, but
  each read of a type that `provideStandardMetadata` knows opens one more descriptor.

  Both halves are about the process after a read (`getStandardMetadata_proc`), and the value that is
  read is about the answer (`getStandardMetadata_value`):

  * the process is the one before, with a new descriptor if the type is known;
  * the value is looked up in the record that the query makes (`gbmMetadataValue`), and there is
    none where the query divides by a pixel size of zero, which ends the process.

  So a sequence of reads is neutral exactly if no type of it is known
  (`metadataReads_neutral_iff`).  An export that fails opens nothing, and would keep a read neutral
  by accident; the theorem assumes that there are descriptors left.
-/
import GrallocGbm.MapperState

namespace GrallocGbm

/-- The value a provider hands over, if it does. -/
def Provided.encoded : Provided → Option MetadataValue
  | .value v => some v
  | _ => none

/-- The value a read of a known type gives. -/
theorem provideStandardMetadata_value (env : Env) {type : StandardMetadataType}
    (hk : type.isKnown = true) (provider : Proc → Provided × Proc) (p : Proc) :
    (provideStandardMetadata env type provider p).2.1 = (provider p).1.encoded := by
  rw [provideStandardMetadata, hk]
  obtain ⟨provided, p'⟩ := provider p
  cases provided <;> rfl

/-- A live buffer of the GBM backend: routed there, and in its table. -/
def LiveGbm (h : NativeHandle) (p : Proc) : Prop :=
  routedTo (grallocHandle h) = .mapperGrallocGbm ∧
    (findBufferK (grallocHandle h).primeFd p.table).isSome = true

section

variable {env : Env} {h : NativeHandle} {m : Mapper}

/-- On a GBM buffer, with the driver ready, a read is the backend's. -/
theorem Mapper.getStandardMetadata_gbm (type : StandardMetadataType)
    (hgbm : routedTo (grallocHandle h) = .mapperGrallocGbm)
    (hready : isGrallocGbmReady m.proc = true) :
    let r := MapperBackendGrallocGbm.getStandardMetadata env h type m.proc
    (m.getStandardMetadata env (some h) type).1.2 = r.2.1 ∧
      (m.getStandardMetadata env (some h) type).2.proc = r.2.2 := by
  unfold Mapper.getStandardMetadata
  dsimp only
  rw [Mapper.withBackend_gbm hgbm hready]
  dsimp only
  constructor
  · split <;> rfl
  · split <;> rfl

/-- **One read.**  A known type opens a descriptor for the object, an unknown one does nothing. -/
theorem getStandardMetadata_proc (type : StandardMetadataType) (hp : ProcInv m.proc)
    (hgbm : routedTo (grallocHandle h) = .mapperGrallocGbm) {e : AndroidBuffer}
    (he : findBufferK (grallocHandle h).primeFd m.proc.table = some e) :
    (m.getStandardMetadata env (some h) type).2.proc
      = if type.isKnown then (gbmBoGetFd env e.bo m.proc).2 else m.proc := by
  have hmem := Keyed.mem_of_lookup he
  have hready := hp.ready (List.ne_nil_of_mem hmem)
  have hq : (grallocGbmAndroidBufferQuery env h m.proc).2 = (gbmBoGetFd env e.bo m.proc).2 := by
    rcases grallocGbmAndroidBufferQuery_cases env h hp.user_data with
      ⟨-, -, hdead⟩ | ⟨e', b, d, he', -, -, -, hr, -⟩
    · -- the object of an entry is neither NULL nor dead
      obtain ⟨h0, b, d, hb, -⟩ := hp.exists_object hmem
      rcases hdead e he with h0' | hb'
      · exact absurd h0' h0
      · rw [hb] at hb'
        cases hb'
    · rw [he] at he'
      cases he'
      exact hr
  have hprov : (grallocGbmQueryAndroidBufferMetadata env h type m.proc).2
      = (gbmBoGetFd env e.bo m.proc).2 := by
    rw [← hq]
    unfold grallocGbmQueryAndroidBufferMetadata
    split <;> rename_i heq <;> rw [heq]
  rw [(Mapper.getStandardMetadata_gbm type hgbm hready).2,
    MapperBackendGrallocGbm.getStandardMetadata, provideStandardMetadata]
  cases type.isKnown with
  | false => rfl
  | true =>
    rw [← hprov]
    simp only [Bool.not_true, Bool.false_eq_true, if_false, if_true]
    split <;> rename_i heq <;> rw [heq]

/-- What a read of a known type gives: the value dispatched on the query's record, or no return where
    the query divides by a pixel size of zero bytes. -/
theorem getStandardMetadata_value (env : Env) (type : StandardMetadataType) (hk : type.isKnown = true)
    (hp : ProcInv m.proc) (hgbm : routedTo (grallocHandle h) = .mapperGrallocGbm)
    {e : AndroidBuffer} (he : findBufferK (grallocHandle h).primeFd m.proc.table = some e) {b : Bo}
    (hb : m.proc.bos e.bo = some b) {d : GbmBoData} (hd : b.data = some d) :
    ∃ fd, (m.getStandardMetadata env (some h) type).1.2 =
      (grallocGbmCalculateAndroidPixelStride (grallocHandle h).format b.layout.stride).bind
        fun stride => (gbmMetadataValue (bufferInfo (grallocHandle h) e fd b d stride) type).encoded
      := by
  have hmem := Keyed.mem_of_lookup he
  have hready := hp.ready (List.ne_nil_of_mem hmem)
  rcases grallocGbmAndroidBufferQuery_cases env h hp.user_data with
    ⟨-, -, hdead⟩ | ⟨e', b', d', he', -, hb', hd', -, hr⟩
  · rcases hdead e he with h0 | hnone
    · exact absurd h0 (hp.exists_object hmem).1
    · rw [hb] at hnone
      cases hnone
  rw [he] at he'
  cases he'
  rw [hb] at hb'
  cases hb'
  rw [hd] at hd'
  cases hd'
  refine ⟨(gbmBoGetFd env e.bo m.proc).1, ?_⟩
  rw [(Mapper.getStandardMetadata_gbm type hgbm hready).1,
    MapperBackendGrallocGbm.getStandardMetadata, provideStandardMetadata_value env hk,
    grallocGbmQueryAndroidBufferMetadata]
  cases hq : grallocGbmAndroidBufferQuery env h m.proc with
  | mk ret p =>
    rw [hq] at hr
    dsimp only at hr
    rw [hr]
    cases grallocGbmCalculateAndroidPixelStride (grallocHandle h).format b.layout.stride with
    | none => rfl
    | some stride => rfl

end

/-- A read of `type` on `buffer`. -/
def readStep (env : Env) (m : Mapper) (read : NativeHandle × StandardMetadataType) : Mapper :=
  (m.getStandardMetadata env (some read.1) read.2).2

/-- **Reads are neutral exactly when they read nothing.**  In any reachable state, any sequence of
    reads on live GBM buffers keeps the table and all objects; and it keeps the open descriptors
    exactly if none of the types is one that `provideStandardMetadata` knows. -/
theorem metadataReads_neutral_iff (cfg : BuildConfig) (env : Env)
    (hnew : ∀ n fds, (env.newFd n fds).isSome = true) (pre : List MapperOp)
    (reads : List (NativeHandle × StandardMetadataType))
    (hlive : ∀ read ∈ reads, LiveGbm read.1 (mapperRun cfg env pre).proc) :
    let m := mapperRun cfg env pre
    let m' := reads.foldl (readStep env) m
    (m'.proc.table = m.proc.table ∧ m'.proc.bos = m.proc.bos) ∧
      (m'.proc.fds = m.proc.fds ↔ ∀ read ∈ reads, read.2.isKnown = false) := by
  intro m m'
  -- along the reads: the state is in order, and table and objects are those of the start
  let Inv : Mapper → Prop := fun q => ProcInv q.proc ∧ q.proc.table = m.proc.table ∧
    q.proc.bos = m.proc.bos
  let dom : NativeHandle × StandardMetadataType → Prop := fun read => LiveGbm read.1 m.proc
  have hstep : ∀ (q : Mapper) read, Inv q → dom read → ∃ e,
      (readStep env q read).proc
        = if read.2.isKnown then (gbmBoGetFd env e q.proc).2 else q.proc := by
    rintro q read ⟨hq, htable, -⟩ ⟨hgbm, hsome⟩
    obtain ⟨e, he⟩ := Option.isSome_iff_exists.mp hsome
    exact ⟨e.bo, getStandardMetadata_proc read.2 hq hgbm (by rw [htable]; exact he)⟩
  have hinv : ∀ (q : Mapper) read, Inv q → dom read → Inv (readStep env q read) := by
    intro q read hq hd
    obtain ⟨e, hr⟩ := hstep q read hq hd
    refine ⟨mapperStep_inv cfg env (.getStandardMetadata (some read.1) read.2) hq.1, ?_⟩
    rw [hr]
    split
    · exact hq.2
    · exact hq.2
  have hstart : Inv m := ⟨mapperRun_inv cfg env pre, rfl, rfl⟩
  constructor
  · have halong : Run.Along (readStep env) (fun _ read => dom read) m reads :=
      Run.along_const.mpr hlive
    exact (Run.foldl_inv Inv (fun q read hq hd => hinv q read hq hd) hstart halong).2
  · have hconst : Run.Along (readStep env) (fun _ read => read.2.isKnown = false) m reads ↔ _ :=
      Run.along_const
    rw [← hconst]
    refine Run.measure_eq_iff (fun q : Mapper => q.proc.fds) Inv dom _
      (fun q read hq hd => hinv q read hq hd) ?_ ?_ reads hstart hlive
    · intro q read hq hd hok
      obtain ⟨e, hr⟩ := hstep q read hq hd
      rw [hr, hok]
      rfl
    · intro q read hq hd hbad
      obtain ⟨e, hr⟩ := hstep q read hq hd
      have hknown : read.2.isKnown = true := by simpa using hbad
      obtain ⟨fd, hfd⟩ := Option.isSome_iff_exists.mp (hnew q.proc.calls.length q.proc.fds)
      rw [hr, hknown]
      simp only [if_true, gbmBoGetFd, openFd, hfd, addFd]
      exact Finset.ssubset_insert (env.newFd_fresh _ _ _ hfd).2

/-- A mapper with one live GBM buffer, whose handle is `liveHandle`. -/
def liveOps : List MapperOp := [.buffer (.importBuffer (some (rgbaHandle 5)))]

/-- The handle the import hands out: descriptor 4 is the clone's. -/
def liveHandle : NativeHandle := rgbaHandle 4

/-- The theorem at two reads of a buffer just imported. -/
theorem live_reads_neutral_iff :
    let m := mapperRun .androidBp .plain liveOps
    let m' := [(liveHandle, .width), (liveHandle, .other 99)].foldl (readStep .plain) m
    (m'.proc.table = m.proc.table ∧ m'.proc.bos = m.proc.bos) ∧
      (m'.proc.fds = m.proc.fds ↔
        ∀ read ∈ [(liveHandle, StandardMetadataType.width), (liveHandle, .other 99)],
          read.2.isKnown = false) :=
  metadataReads_neutral_iff .androidBp .plain (fun _ fds => lowestFd_isSome fds) liveOps _
    (by intro read hread
        rcases List.mem_pair.mp hread with rfl | rfl <;> exact ⟨by decide, by decide⟩)

/-- Reading the width of a live buffer twice leaves two more descriptors open. -/
theorem width_read_leaks :
    LiveGbm liveHandle (mapperRun .androidBp .plain liveOps).proc ∧
      (mapperRun .androidBp .plain liveOps).proc.fds = {0, 1, 2, 3, 4} ∧
      ([(liveHandle, .width), (liveHandle, .width)].foldl (readStep .plain)
        (mapperRun .androidBp .plain liveOps)).proc.fds = {0, 1, 2, 3, 4, 5, 6} :=
  ⟨⟨by decide, by decide⟩, by decide, by decide⟩

end GrallocGbm
