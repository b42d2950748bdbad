/-
  A buffer from its request to its user.

  One process allocates a buffer and sends its handle to another, which imports it and asks for its
  metadata.  A `Delivery` is one such course of events, with any history of the two processes before
  and any use of the mapper afterwards that frees nothing.  What the request said can only reach the
  reader through the words of the handle: `fields_gbm` and `fields_dmabuf` say what the allocator
  writes there, `reports_gbm` and `reports_dmabuf` what the mapper makes of it.

  The object and the record of an import are what every later read finds (`mapperRun_lasts`).

  1. **What lasts** — `Lasts fd p p'`: what is found under a descriptor is found again, up to the
     user data of the object and the mapping of the record.  Every call keeps it for every
     descriptor, but for the frees; and an object lasts until its own buffer is freed
     (`mapperRun_object_lasts`).

  2. **What an import stores** — `StoredObject` and the record, from the words of the clone.

  3. **The two halves** — on the allocator's side the words of the handle, on the mapper's the
     object or the record; `routed` says that the second is the backend of the first.

  4. **Direct deliveries** — `Delivery.direct`, in an environment where everything succeeds, is how
     concrete deliveries are made: it has a delivery for every descriptor that is accepted.

  The descriptor in the handle is the only word that changes on the way.  It is a number of one
  process, and the kernel gives the client another; nothing in a `Delivery` assumes which.
-/
import GrallocGbm.DmaRecords
import GrallocGbm.Ownership
import GrallocGbm.Reads
import GrallocGbm.Session
import GrallocGbm.SyncBracketing

namespace GrallocGbm

/-! ## What lasts

  A read is made long after the import, with any calls in between.  What it looks at is the
  object or the record found under its key, and that stays until the buffer is freed. -/

/-- What is found under `fd` is found again, up to the user data of the object and the mapping of the
    record. -/
structure Lasts (fd : Int) (p p' : Proc) : Prop where
  object : ∀ e b, findBufferK fd p.table = some e → p.bos e.bo = some b →
    findBufferK fd p'.table = some e ∧ ∃ data, p'.bos e.bo = some { b with data := data }
  record : ∀ r, findBufferInfo fd p = some r →
    ∃ mapped, findBufferInfo fd p' = some { r with mapped := mapped }

/-- Nothing has changed. -/
theorem Lasts.refl (fd : Int) (p : Proc) : Lasts fd p p where
  object := fun _ b he hb => ⟨he, b.data, hb⟩
  record := fun r hr => ⟨r.mapped, hr⟩

/-- Two stretches are one. -/
theorem Lasts.trans {fd : Int} {p p' p'' : Proc} (h : Lasts fd p p') (h' : Lasts fd p' p'') :
    Lasts fd p p'' where
  object := by
    intro e b he hb
    obtain ⟨he', data, hb'⟩ := h.object e b he hb
    obtain ⟨he'', data', hb''⟩ := h'.object e _ he' hb'
    exact ⟨he'', data', hb''⟩
  record := by
    intro r hr
    obtain ⟨mapped, hr'⟩ := h.record r hr
    obtain ⟨mapped', hr''⟩ := h'.record _ hr'
    exact ⟨mapped', hr''⟩

/-- A mild step keeps everything, under every descriptor. -/
theorem Mild.lasts {p p' : Proc} (h : Mild p p') (fd : Int) : Lasts fd p p' where
  object := by
    intro e b he hb
    rw [h.table]
    exact ⟨he, h.bos e.bo b hb⟩
  record := by
    intro r hr
    obtain ⟨f, hf⟩ := h.records
    refine ⟨f r, ?_⟩
    rw [findBufferInfo, hf, Keyed.lookup_map (fun _ => by rfl),
      show Keyed.lookup DmaBufferInfo.primeFd fd p.importedBufferTable = some r from hr]
    rfl

section

variable (cfg : BuildConfig) (env : Env) {m : Mapper}

/-- An import adds under a descriptor that was not open, and keys are open. -/
theorem Mapper.importBuffer_lasts (h : NativeHandle) (hp : ProcInv m.proc)
    (hopen : RecordsOpen m.proc) (fd : Int) :
    Lasts fd m.proc (m.importBuffer cfg env (some h)).2.proc := by
  have hready := (readied_mild env h m.proc).lasts fd
  rcases Mapper.importBuffer_cases cfg env h hp with
    ⟨-, hr⟩ | ⟨-, -, -, n, cs, -, hr⟩ | ⟨⟨h0, -⟩, -, c, hr, hc, hi⟩
  · rw [hr]
    exact .refl fd _
  · rw [hr]
    apply hready.trans
    apply Mild.lasts
    exact .of_same rfl rfl rfl
  -- the clone's descriptor is new
  have hmem : c.data 0 ∈ c.fds := data_zero_mem_fds (by
    have := hc.numFds_pos h0
    rw [hc.numFds]
    exact this)
  have hnew := (hc.fresh _ hmem).2
  have hinv := hp.readied env h
  have hsub := (readied_frame env h m.proc 0).fds_sub
  constructor
  case object =>
    intro e b he hb
    obtain ⟨he', data, hb'⟩ := hready.object e b he hb
    have hmem' := Keyed.mem_of_lookup he'
    generalize readied env h m.proc = p at he' hb' hmem' hnew hinv hi ⊢
    generalize (m.importBuffer cfg env (some h)).2.proc = p' at hi ⊢
    generalize routedTo (grallocHandle h) = backend at hi
    cases hi with
    | dmabuf t cs => exact ⟨he', data, hb'⟩
    | gbm layout heap cs =>
      have hkey : c.data 0 ≠ fd := by
        intro heq
        rw [heq, ← Keyed.key_of_lookup he'] at hnew
        exact hnew (hinv.key_open e hmem')
      have hbo : e.bo ≠ p.next + 2 := by
        have := (hinv.bo_lt e.bo (hinv.alive e hmem')).2
        omega
      refine ⟨?_, data, ?_⟩
      · rw [findBufferK, Keyed.lookup_cons, if_neg hkey]
        exact he'
      · simp only [Function.update_of_ne hbo]
        exact hb'
  case record =>
    intro r hrec
    refine ⟨r.mapped, ?_⟩
    rcases Mapper.importBuffer_records cfg env h hp h0 hopen with
      ⟨htable, -⟩ | ⟨-, c', hsome, hnew', -, htable⟩
    · rw [findBufferInfo, htable]
      exact hrec
    · have hkey : (bufferInfoCreate ((readied env h m.proc).next + 1) c').primeFd ≠ fd := by
        intro heq
        have hfd : r.primeFd ∈ m.proc.fds := hopen r (Keyed.mem_of_lookup hrec)
        rw [Keyed.key_of_lookup hrec, ← heq] at hfd
        exact hnew' (hsub hfd)
      rw [findBufferInfo, htable, Keyed.lookup_cons, if_neg hkey]
      exact hrec

/-- So does every call but a free. -/
theorem mapperStep_lasts (op : MapperOp) (hp : ProcInv m.proc) (hopen : RecordsOpen m.proc)
    (hfree : ∀ h, op ≠ .buffer (.freeBuffer (some h))) (fd : Int) :
    Lasts fd m.proc (mapperStep cfg env m op).proc := by
  by_cases hop : ∃ h, op = .buffer (.importBuffer (some h))
  · obtain ⟨h, rfl⟩ := hop
    exact Mapper.importBuffer_lasts cfg env h hp hopen fd
  · exact (mapperStep_mild cfg env op hp (fun h heq => hop ⟨h, heq⟩) hfree).lasts fd

/-- **What is stored lasts** until something is freed. -/
theorem mapperRun_lasts {ops : List MapperOp} (hp : ProcInv m.proc) (hopen : RecordsOpen m.proc)
    (hfree : ∀ op ∈ ops, ∀ h, op ≠ .buffer (.freeBuffer (some h))) (fd : Int) :
    ProcInv (ops.foldl (mapperStep cfg env) m).proc ∧
      Lasts fd m.proc (ops.foldl (mapperStep cfg env) m).proc := by
  have hrun : let q := (ops.foldl (mapperStep cfg env) m).proc
      ProcInv q ∧ RecordsOpen q ∧ Lasts fd m.proc q :=
    Run.foldl_inv (fun m' : Mapper => ProcInv m'.proc ∧ RecordsOpen m'.proc ∧ Lasts fd m.proc m'.proc)
      (fun m' op h hop => ⟨mapperStep_inv cfg env op h.1, mapperStep_recordsOpen cfg env op h.1 h.2.1,
        h.2.2.trans (mapperStep_lasts cfg env op h.1 h.2.1 hop fd)⟩)
      ⟨hp, hopen, .refl fd _⟩ (Run.along_const.mpr hfree)
  exact ⟨hrun.1, hrun.2.2⟩

/-- The free of another buffer leaves the object found under `fd`. -/
theorem Mapper.freeBuffer_object {h : NativeHandle} {fd : Int} {e : AndroidBuffer} {b : Bo}
    (hp : ProcInv m.proc) (hne : (grallocHandle h).primeFd ≠ fd)
    (he : findBufferK fd m.proc.table = some e) (hb : m.proc.bos e.bo = some b) :
    let p' := (m.freeBuffer env (some h)).2.proc
    findBufferK fd p'.table = some e ∧ ∃ data, p'.bos e.bo = some { b with data := data } := by
  intro p'
  have hinv := hp.readied env h
  obtain ⟨he', data, hb'⟩ := ((readied_mild env h m.proc).lasts fd).object e b he hb
  have hmem := Keyed.mem_of_lookup he'
  -- an entry found under the other descriptor is another entry, of another object
  have hother : ∀ e', findBufferK (grallocHandle h).primeFd (readied env h m.proc).table = some e' →
      e'.bo ≠ e.bo := by
    intro e' hfind heq
    have hsame := Keyed.eq_of_key_eq hinv.objects (Keyed.mem_of_lookup hfind) hmem heq
    rw [hsame] at hfind
    exact hne ((Keyed.key_of_lookup hfind).symm.trans (Keyed.key_of_lookup he'))
  rcases Mapper.freeBuffer_cases env h hp with ⟨hstill, -⟩ | ⟨e', heap, cs, -, hfind, -, hr⟩
  · refine ⟨?_, data, ?_⟩
    · rw [hstill.1.table]
      exact he'
    · rw [hstill.1.others e.bo hother]
      exact hb'
  · have hbo : e.bo ≠ e'.bo := fun heq => hother e' hfind heq.symm
    refine ⟨?_, data, ?_⟩
    · show findBufferK fd (m.freeBuffer env (some h)).2.proc.table = some e
      rw [hr]
      exact (Keyed.lookup_remove_found hinv.addrs hfind hne.symm).trans he'
    · show (m.freeBuffer env (some h)).2.proc.bos e.bo = _
      rw [hr]
      exact (Function.update_of_ne hbo _ _).trans hb'

/-- **An object lasts** until its own buffer is freed. -/
theorem mapperRun_object_lasts {ops : List MapperOp} {fd : Int} {e : AndroidBuffer} {b : Bo}
    (hp : ProcInv m.proc) (hopen : RecordsOpen m.proc)
    (hkept : ∀ op ∈ ops, ∀ h, op = .buffer (.freeBuffer (some h)) → (grallocHandle h).primeFd ≠ fd)
    (he : findBufferK fd m.proc.table = some e) (hb : m.proc.bos e.bo = some b) :
    let p' := (ops.foldl (mapperStep cfg env) m).proc
    ProcInv p' ∧ findBufferK fd p'.table = some e ∧
      ∃ data, p'.bos e.bo = some { b with data := data } := by
  let Inv : Mapper → Prop := fun m' => ProcInv m'.proc ∧ RecordsOpen m'.proc ∧
    findBufferK fd m'.proc.table = some e ∧ ∃ data, m'.proc.bos e.bo = some { b with data := data }
  have hstep : ∀ m' op, Inv m' →
      (∀ h, op = .buffer (.freeBuffer (some h)) → (grallocHandle h).primeFd ≠ fd) →
        Inv (mapperStep cfg env m' op) := by
    rintro m' op ⟨hp', hopen', he', data, hb'⟩ hop
    refine ⟨mapperStep_inv cfg env op hp', mapperStep_recordsOpen cfg env op hp' hopen', ?_⟩
    by_cases hfree : ∃ h, op = .buffer (.freeBuffer (some h))
    · obtain ⟨h, rfl⟩ := hfree
      have hfound := Mapper.freeBuffer_object env hp' (hop h rfl) he' hb'
      exact hfound
    · have hlasts := mapperStep_lasts cfg env op hp' hopen' (fun h heq => hfree ⟨h, heq⟩) fd
      have hfound := hlasts.object e _ he' hb'
      exact hfound
  have hrun := Run.foldl_inv Inv hstep ⟨hp, hopen, he, b.data, hb⟩ (Run.along_const.mpr hkept)
  exact ⟨hrun.1, hrun.2.2.1, hrun.2.2.2⟩

end

/-! ## What an import stores

  The object, with the arguments that the handle gives; or the record, with the fields of the
  handle. -/

/-- The object stored for a clone on the GBM backend, with what gbm reported for it. -/
def StoredObject (cfg : BuildConfig) (env : Env) (c : NativeHandle) (layout : BoLayout) (p : Proc) :
    Prop :=
  (∃ n, env.boImport n (importArgs cfg (grallocHandle c)).1 (importArgs cfg (grallocHandle c)).2
    = some layout) ∧
  ∃ e a, findBufferK (c.data 0) p.table = some e ∧
    p.bos e.bo = some (importedBo cfg (grallocHandle c) layout a)

section

variable {cfg : BuildConfig} {env : Env} {h c : NativeHandle}

/-- An import into the GBM backend stores the object that the clone describes. -/
theorem importClone_object {p : Proc} (hp : ∀ a ∈ p.handles, a < p.next)
    (hr : (importClone cfg env h .mapperGrallocGbm p).1.2 = some c) :
    ∃ layout, StoredObject cfg env c layout (importClone cfg env h .mapperGrallocGbm p).2 := by
  unfold importClone at hr ⊢
  rcases nativeHandleClone_spec env h hp with ⟨c', cs, hclone, -⟩ | ⟨n, cs, hclone, -⟩
  swap
  · rw [hclone] at hr
    cases hr
  rw [hclone] at hr ⊢
  dsimp only at hr ⊢
  rcases grallocGbmAndroidBufferImport_cases cfg env c' _ with
    ⟨-, hi⟩ | ⟨-, -, hi⟩ | ⟨-, -, -, hi⟩ | ⟨layout, -, -, hlayout, hi⟩
  · rw [hi] at hr
    cases hr
  · rw [hi] at hr
    cases hr
  · rw [hi] at hr
    cases hr
  · rw [hi] at hr ⊢
    cases hr
    refine ⟨layout, ⟨_, hlayout⟩, ⟨p.next + 1 + 5, c.data 0, p.next + 1 + 1⟩, p.next + 1 + 2, ?_,
      Function.update_self ..⟩
    exact (Keyed.lookup_cons _).trans (if_pos rfl)

/-- What an import that succeeds has stored under the descriptor of its clone. -/
theorem Mapper.importBuffer_stored {m : Mapper} (hp : ProcInv m.proc) (hopen : RecordsOpen m.proc)
    (hr : (m.importBuffer cfg env (some h)).1 = (.none, some c)) :
    let p' := (m.importBuffer cfg env (some h)).2.proc
    (∃ p, CloneOf h p c) ∧
      match routedTo (grallocHandle h) with
      | .mapperGrallocGbm => ∃ layout, StoredObject cfg env c layout p'
      | .mapperGrallocDmabuf => ∃ a, findBufferInfo (c.data 0) p' = some (bufferInfoCreate a c) := by
  intro p'
  rcases Mapper.importBuffer_cases cfg env h hp with
    ⟨-, hno⟩ | ⟨-, -, hno, -⟩ | ⟨htaken, -, c', hr', hc, -⟩
  · rw [hno] at hr
    cases hr
  · rw [hno] at hr
    cases hr
  rw [hr'] at hr
  cases hr
  refine ⟨⟨_, hc⟩, ?_⟩
  have hcall : let r := importClone cfg env h (routedTo (grallocHandle h)) (readied env h m.proc)
      (m.importBuffer cfg env (some h)).1 = r.1 ∧ p' = r.2 := by
    have hready : m.importBuffer cfg env (some h) = _ :=
      (if_neg htaken.1).trans (Mapper.withBackend_ready htaken.2.1)
    simp only [p', hready]
    exact ⟨rfl, rfl⟩
  cases hroute : routedTo (grallocHandle h) with
  | mapperGrallocGbm =>
    rw [hroute, hr'] at hcall
    obtain ⟨layout, hstored⟩ := importClone_object (hp.readied env h).handle_lt
      (congrArg Prod.snd hcall.1.symm)
    rw [hcall.2]
    exact ⟨layout, hstored⟩
  | mapperGrallocDmabuf =>
    rcases Mapper.importBuffer_records cfg env h hp htaken.1 hopen with
      ⟨-, hnone⟩ | ⟨-, c', hsome, -, -, htable⟩
    · rw [hr'] at hnone
      cases hnone hroute
    · rw [hr'] at hsome
      cases hsome
      refine ⟨(readied env h m.proc).next + 1, ?_⟩
      show Keyed.lookup _ _ p'.importedBufferTable = _
      rw [show p'.importedBufferTable = _ from htable, Keyed.lookup_cons]
      exact if_pos rfl

/-- The value of a read is computed from the record. -/
theorem MapperBackendDmaBuf.getStandardMetadata_value (env : Env) {p : Proc} {type : StandardMetadataType}
    (hk : type.isKnown = true) {r : DmaBufferInfo}
    (hr : findBufferInfo (grallocHandle h).primeFd p = some r) :
    (MapperBackendDmaBuf.getStandardMetadata env h type p).2.1
      = (dmaBufMetadataValue r type).encoded := by
  rw [getStandardMetadata, provideStandardMetadata_value env hk, queryAndroidBufferMetadata, hr]

/-- A read on a DMA-BUF buffer is answered from its record. -/
theorem Mapper.getStandardMetadata_dmabuf {m : Mapper} {type : StandardMetadataType}
    (hk : type.isKnown = true) (hdma : routedTo (grallocHandle h) = .mapperGrallocDmabuf)
    {r : DmaBufferInfo} (hr : findBufferInfo (grallocHandle h).primeFd m.proc = some r) :
    (m.getStandardMetadata env (some h) type).1.2 = (dmaBufMetadataValue r type).encoded := by
  unfold Mapper.getStandardMetadata
  dsimp only
  obtain ⟨da, cs, -, heq⟩ := Mapper.withBackend_dmabuf hdma
  rw [heq]
  have hvalue := MapperBackendDmaBuf.getStandardMetadata_value env hk
    (show findBufferInfo _ { m.proc with dmaAllocator := da, calls := cs ++ m.proc.calls } = _ from hr)
  dsimp only
  split <;> exact hvalue

end

/-! ## A delivery

  The whole way of a buffer, from the request to the read, in one structure: the allocator's
  process, the handle that it returns, the client's process, and the calls there.  Fields that
  are propositions say that each station was passed. -/

/-- A buffer requested with the descriptor `d`: allocated by a service that has started, after any
    requests; its handle rebuilt in a client, imported there after any calls of the mapper, and used
    by any calls that free nothing. -/
structure Delivery (cfg : BuildConfig) (d : BufferDescriptorInfo) where
  env : Env
  decode : List UInt8 → Option Allocator.BufferDescriptorInfoV4
  requests : List AllocatorOp
  started : (Allocator.init env).1 = 0
  count : Int32
  result : AllocationResult
  accepted : ((allocatorRun cfg env decode requests).allocate2 cfg env d count).1 = .ok result
  buffer : AidlNativeHandle
  returned : buffer ∈ result.buffers
  /-- The block the client rebuilds the handle in, and the memory behind it. -/
  addr : Nat
  memory : Nat → Int
  clientEnv : Env
  before : List MapperOp
  clone : NativeHandle
  imported : ((mapperRun cfg clientEnv before).importBuffer cfg clientEnv
    (some (makeFromAidl addr memory buffer))).1 = (.none, some clone)
  later : List MapperOp
  kept : ∀ op ∈ later, ∀ h, op ≠ .buffer (.freeBuffer (some h))

namespace Delivery

variable {cfg : BuildConfig} {d : BufferDescriptorInfo} (x : Delivery cfg d)

/-- The handle the client imports. -/
def handle : NativeHandle := makeFromAidl x.addr x.memory x.buffer

/-- The backend that has allocated the buffer. -/
def backend : Option AllocatorBackendType :=
  ((allocatorRun cfg x.env x.decode x.requests).allocate2 cfg x.env d x.count).2.mBackend

/-- The client's mapper in the end. -/
def mapper : Mapper :=
  x.later.foldl (mapperStep cfg x.clientEnv)
    ((mapperRun cfg x.clientEnv x.before).importBuffer cfg x.clientEnv (some x.handle)).2

/-- What it reports for the buffer. -/
def read (type : StandardMetadataType) : Option MetadataValue :=
  (x.mapper.getStandardMetadata x.clientEnv (some x.clone) type).1.2

/-! ### From the request to the handle -/

/-- The backend has answered the request itself, and is the one the request goes to. -/
theorem allocated : ∃ backend p, x.backend = some backend ∧
    served cfg x.env d (allocatorRun cfg x.env x.decode x.requests) = some backend ∧
    (backend.allocate2 cfg x.env d x.count p).1 = .ok x.result := by
  have hready := allocatorRun_ready cfg x.env x.decode x.requests x.started
  have hok := x.accepted
  rw [backend]
  generalize allocatorRun cfg x.env x.decode x.requests = s at hready hok ⊢
  obtain ⟨da, cs, heq⟩ := Allocator.allocate2_eq cfg x.env d x.count hready
  rw [heq] at hok ⊢
  cases hserved : served cfg x.env d s with
  | none =>
    rw [hserved] at hok
    cases hok
  | some backend =>
    rw [hserved] at hok
    exact ⟨backend, _, rfl, rfl, hok⟩

/-- What the GBM backend writes into the handle. -/
theorem fields_gbm (hb : x.backend = some .allocatorGrallocGbm) :
    ¬ (d.format = pixelFormatBlob ∧ d.height = 1) ∧ OneTwelve x.handle ∧
    ∃ desc layout last,
      AllocatorBackendGrallocGbm.Made cfg x.env d x.count x.result.stride x.buffer desc layout last ∧
      grallocHandle x.handle = ⟨x.handle.data 0, grallocHandleMagic, grallocHandleVersion,
        (newArgs cfg desc).width, (newArgs cfg desc).height, desc.format.toUInt32,
        usageBits desc.usage, layout.stride, layout.modifier⟩ := by
  obtain ⟨backend, p, hbackend, hserved, hok⟩ := x.allocated
  rw [hb] at hbackend
  cases hbackend
  obtain ⟨desc, layout, last, hmade⟩ :=
    AllocatorBackendGrallocGbm.allocate2_made hok x.buffer x.returned
  obtain ⟨fd, a, q, hcrossed⟩ := hmade.crossed
  have hview := grallocHandle_makeFromAidl x.env
    (h := createdHandle cfg x.env desc layout fd a) ⟨rfl, rfl⟩ q x.addr x.memory
  rw [← hcrossed, createdHandle_fields] at hview
  exact ⟨not_linearBlob_of_served hserved, hview.1, desc, layout, last, hmade, hview.2⟩

/-- What the DMA-BUF backend writes into the handle, and reports as the stride. -/
theorem fields_dmabuf (hb : x.backend = some .allocatorGrallocDmabuf) :
    x.result.stride = d.width / 8 ∧ OneTwelve x.handle ∧ ∃ modifier,
      grallocHandle x.handle = ⟨x.handle.data 0, grallocHandleMagic, grallocHandleVersion,
        d.width.toUInt32, d.height.toUInt32, d.format.toUInt32, usageBits d.usage,
        (d.width / 8).toUInt32, modifier⟩ := by
  obtain ⟨backend, p, hbackend, -, hok⟩ := x.allocated
  rw [hb] at hbackend
  cases hbackend
  obtain ⟨-, -, hstride, hmade⟩ := AllocatorBackendDmaBuf.allocate2_made hok
  obtain ⟨h, q, ⟨h12, fd, modifier, hfields⟩, hcrossed⟩ := hmade x.buffer x.returned
  have hview := grallocHandle_makeFromAidl x.env h12 q x.addr x.memory
  rw [← hcrossed, hfields] at hview
  exact ⟨hstride, hview.1, modifier, hview.2⟩

/-- So the handle has the shape of a gralloc handle. -/
theorem shaped : GrallocShaped x.handle := by
  obtain ⟨backend, -, hb, -⟩ := x.allocated
  cases backend with
  | allocatorGrallocGbm =>
    obtain ⟨-, ⟨h1, h2⟩, desc, layout, last, -, hfields⟩ := x.fields_gbm hb
    exact ⟨h1, h2, by rw [hfields], by rw [hfields]⟩
  | allocatorGrallocDmabuf =>
    obtain ⟨-, ⟨h1, h2⟩, modifier, hfields⟩ := x.fields_dmabuf hb
    exact ⟨h1, h2, by rw [hfields], by rw [hfields]⟩

/-- Where the mapper routes it: a BLOB of height 1 to the DMA-BUF backend, all else to the GBM
    backend. -/
theorem routed : routedTo (grallocHandle x.handle) = if d.format = pixelFormatBlob ∧ d.height = 1
    then .mapperGrallocDmabuf else .mapperGrallocGbm := by
  obtain ⟨backend, p, -, hserved, hok⟩ := x.allocated
  cases backend with
  | allocatorGrallocGbm =>
    have hd := not_linearBlob_of_served hserved
    rw [if_neg hd]
    exact AllocatorBackendGrallocGbm.allocate2_routed hok hd x.addr x.memory x.buffer x.returned
  | allocatorGrallocDmabuf =>
    exact AllocatorBackendDmaBuf.allocate2_routed hok x.buffer x.returned x.addr x.memory

/-! ### From the handle to the reader

  The mapper's side.  What is reported is what the import computed. -/

/-- What the reads find: the object of the import or its record, and the fields of the handle. -/
theorem stored :
    ProcInv x.mapper.proc ∧
    grallocHandle x.clone = { grallocHandle x.handle with primeFd := x.clone.data 0 } ∧
    match routedTo (grallocHandle x.handle) with
    | .mapperGrallocGbm => ∃ layout p, StoredObject cfg x.clientEnv x.clone layout p ∧
        Lasts (x.clone.data 0) p x.mapper.proc
    | .mapperGrallocDmabuf => ∃ a mapped, findBufferInfo (x.clone.data 0) x.mapper.proc
        = some { bufferInfoCreate a x.clone with mapped := mapped } := by
  have hp := mapperRun_inv cfg x.clientEnv x.before
  have hopen := mapperRun_recordsOpen cfg x.clientEnv x.before
  obtain ⟨⟨p, hclone⟩, hstored⟩ := Mapper.importBuffer_stored hp hopen x.imported
  obtain ⟨hinv, hlasts⟩ := mapperRun_lasts cfg x.clientEnv
    (importBuffer_inv cfg x.clientEnv x.handle hp)
    (mapperStep_recordsOpen cfg x.clientEnv (.buffer (.importBuffer (some x.handle))) hp hopen)
    x.kept (x.clone.data 0)
  refine ⟨hinv, hclone.grallocHandle_eq x.shaped, ?_⟩
  cases hroute : routedTo (grallocHandle x.handle) with
  | mapperGrallocGbm =>
    rw [show routedTo (grallocHandle (makeFromAidl x.addr x.memory x.buffer)) = _ from hroute]
      at hstored
    obtain ⟨layout, hobject⟩ := hstored
    exact ⟨layout, _, hobject, hlasts⟩
  | mapperGrallocDmabuf =>
    rw [show routedTo (grallocHandle (makeFromAidl x.addr x.memory x.buffer)) = _ from hroute]
      at hstored
    obtain ⟨a, hrecord⟩ := hstored
    exact ⟨a, hlasts.record _ hrecord⟩

/-- The mapper reports this width and height, this usage, and this stride. -/
structure Reports (w h : Int32) (u : Int64) (s : Int32) : Prop where
  width : x.read .width = some (.int32 w)
  height : x.read .height = some (.int32 h)
  crop : x.read .crop = some (.crop [⟨0, 0, w, h⟩])
  usage : x.read .usage = some (.bufferUsage u)
  stride : x.read .stride = some (.int32 s)

/-- From its record, the DMA-BUF backend reports the words of the handle. -/
theorem reports_dmabuf (hdma : routedTo (grallocHandle x.handle) = .mapperGrallocDmabuf) :
    let g := grallocHandle x.handle
    x.Reports g.width.toInt32 g.height.toInt32 g.usage.toUInt64.toInt64 g.stride.toInt32 := by
  intro g
  obtain ⟨-, hview, hrecord⟩ := x.stored
  rw [hdma] at hrecord
  obtain ⟨a, mapped, hfind⟩ := hrecord
  have hroute : routedTo (grallocHandle x.clone) = .mapperGrallocDmabuf := by
    rw [hview]
    exact hdma
  have hread : ∀ type : StandardMetadataType, type.isKnown = true → x.read type
      = (dmaBufMetadataValue { bufferInfoCreate a x.clone with mapped := mapped } type).encoded :=
    fun type hk => Mapper.getStandardMetadata_dmabuf hk hroute hfind
  constructor <;> rw [hread _ rfl] <;> simp only [dmaBufMetadataValue, bufferInfoCreate, hview] <;> rfl

/-- The GBM backend reports the size of the imported object, the usage of the handle, and a stride
    computed from the one gbm reports for the object.  It does not return if that divides by zero. -/
theorem reports_gbm (hgbm : routedTo (grallocHandle x.handle) = .mapperGrallocGbm) :
    let g := grallocHandle x.handle
    ∃ layout,
      (∃ n data flags, data.stride = g.stride.toInt32 ∧
        x.clientEnv.boImport n data flags = some layout) ∧
      match grallocGbmCalculateAndroidPixelStride g.format layout.stride with
      | none => ∀ type : StandardMetadataType, type.isKnown = true → x.read type = none
      | some stride => x.Reports (importArgs cfg g).1.width.toInt32
          (importArgs cfg g).1.height.toInt32 g.usage.toInt32.toInt64 stride := by
  intro g
  obtain ⟨hinv, hview, hobject⟩ := x.stored
  rw [hgbm] at hobject
  obtain ⟨layout, p, ⟨⟨n, hlayout⟩, e, a, he, hb⟩, hlasts⟩ := hobject
  obtain ⟨he', data, hb'⟩ := hlasts.object e _ he hb
  have hroute : routedTo (grallocHandle x.clone) = .mapperGrallocGbm := by
    rw [hview]
    exact hgbm
  have hsize : (importArgs cfg (grallocHandle x.clone)).1.width = (importArgs cfg g).1.width ∧
      (importArgs cfg (grallocHandle x.clone)).1.height = (importArgs cfg g).1.height ∧
      (importArgs cfg (grallocHandle x.clone)).1.stride = g.stride.toInt32 := by
    rw [hview]
    exact ⟨rfl, rfl, rfl⟩
  have hfields : (grallocHandle x.clone).format = g.format ∧
      (grallocHandle x.clone).usage = g.usage := by
    rw [hview]
    exact ⟨rfl, rfl⟩
  -- of the object, the reads look at the size and at what gbm reported
  obtain ⟨b, hb', hw, hh, hl⟩ : ∃ b, x.mapper.proc.bos e.bo = some b ∧
      b.width = (importArgs cfg g).1.width ∧ b.height = (importArgs cfg g).1.height ∧
      b.layout = layout := ⟨_, hb', hsize.1, hsize.2.1, rfl⟩
  obtain ⟨d', hd'⟩ := hinv.user_data e.bo b hb'
  have hread : ∀ type : StandardMetadataType, type.isKnown = true → ∃ fd, x.read type
      = (grallocGbmCalculateAndroidPixelStride g.format layout.stride).bind fun stride =>
        (gbmMetadataValue (bufferInfo (grallocHandle x.clone) e fd b d' stride) type).encoded := by
    intro type hk
    have hvalue := getStandardMetadata_value x.clientEnv type hk hinv hroute he' hb' hd'
    rw [hfields.1, hl] at hvalue
    exact hvalue
  refine ⟨layout, ⟨n, _, _, hsize.2.2, hlayout⟩, ?_⟩
  cases hstride : grallocGbmCalculateAndroidPixelStride g.format layout.stride with
  | none =>
    intro type hk
    obtain ⟨fd, hr⟩ := hread type hk
    rw [hr, hstride]
    rfl
  | some stride =>
    have hvalue : ∀ (type : StandardMetadataType) v, type.isKnown = true →
        (∀ fd, gbmMetadataValue (bufferInfo (grallocHandle x.clone) e fd b d' stride) type = .value v) →
        x.read type = some v := by
      intro type v hk hv
      obtain ⟨fd, hr⟩ := hread type hk
      rw [hr, hstride, Option.bind_some, hv fd]
      rfl
    constructor
    case width => exact hvalue .width _ rfl fun fd => by simp only [gbmMetadataValue, bufferInfo, hw]
    case height => exact hvalue .height _ rfl fun fd => by simp only [gbmMetadataValue, bufferInfo, hh]
    case crop => exact hvalue .crop _ rfl fun fd => by simp only [gbmMetadataValue, bufferInfo, hw, hh]
    case usage =>
      exact hvalue .usage _ rfl fun fd => by simp only [gbmMetadataValue, bufferInfo, hfields.2]
    case stride => exact hvalue .stride _ rfl fun fd => by simp only [gbmMetadataValue, bufferInfo]

end Delivery

/-! ## Direct deliveries

  A delivery with nothing else going on, for the concrete cases. -/

/-- What a service answers to a request for one buffer. -/
def directResult (cfg : BuildConfig) (env : Env) (requests : List AllocatorOp)
    (d : BufferDescriptorInfo) : AllocationResult :=
  match ((allocatorRun cfg env (fun _ => none) requests).allocate2 cfg env d 1).1 with
  | .ok result => result
  | _ => ⟨0, []⟩

/-- The buffer it returns, its handle in the client, and the clone that a fresh mapper makes of it. -/
def directBuffer (cfg : BuildConfig) (env : Env) (requests : List AllocatorOp)
    (d : BufferDescriptorInfo) : AidlNativeHandle :=
  (directResult cfg env requests d).buffers.headD ⟨[], []⟩

/-- The handle the client rebuilds, -/
def directHandle (cfg : BuildConfig) (env : Env) (requests : List AllocatorOp)
    (d : BufferDescriptorInfo) : NativeHandle :=
  makeFromAidl 0 (fun _ => 0) (directBuffer cfg env requests d)

/-- and its clone. -/
def directClone (cfg : BuildConfig) (env : Env) (requests : List AllocatorOp)
    (d : BufferDescriptorInfo) : NativeHandle :=
  let h := directHandle cfg env requests d
  (Mapper.start.importBuffer cfg .plain (some h)).1.2.getD h

/-- One buffer, imported into a client in which everything succeeds, and read from at once. -/
def Delivery.direct (cfg : BuildConfig) (env : Env) (requests : List AllocatorOp)
    (d : BufferDescriptorInfo) (hstarted : (Allocator.init env).1 = 0)
    (haccepted : ((allocatorRun cfg env (fun _ => none) requests).allocate2 cfg env d 1).1
      = .ok (directResult cfg env requests d))
    (hreturned : directBuffer cfg env requests d ∈ (directResult cfg env requests d).buffers)
    (himported : (Mapper.start.importBuffer cfg .plain (some (directHandle cfg env requests d))).1
      = (.none, some (directClone cfg env requests d))) : Delivery cfg d where
  env := env
  decode := fun _ => none
  requests := requests
  started := hstarted
  count := 1
  result := directResult cfg env requests d
  accepted := haccepted
  buffer := directBuffer cfg env requests d
  returned := hreturned
  addr := 0
  memory := fun _ => 0
  clientEnv := .plain
  before := []
  clone := directClone cfg env requests d
  imported := himported
  later := []
  kept := fun _ h => absurd h List.not_mem_nil

end GrallocGbm
