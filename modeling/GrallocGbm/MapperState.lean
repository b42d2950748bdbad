/-
  Runs of the mapper, and the invariant along them.

  `MapperOp` has the calls that do something to buffers: import, free, lock, unlock, and the reads
  and sets of standard metadata.  `mapperStep` is one of them, `mapperRun` a sequence of them from a
  process that has just started, with any handles, valid or not, and any answers of the outside.

  Every call readies the backend of its handle first, and only then does what it is for.  `readied`
  is the process in between.  So the lemmas about a call have two parts, and the rules at the
  beginning say how they are put together: what holds of the readied process and is kept by the
  backend's function holds after the call (`Mapper.withBackend_proc`, with `Mapper.lock_proc` and
  `Mapper.unlock_proc` for the two calls that do more).

  There follows one inversion lemma for each call, with all that it can do to the process:

  * `Mapper.lock_still`, `Mapper.unlock_still` — nothing but to the user data of the handle's object
    and to the mapping of its record;
  * `Mapper.freeBuffer_cases` — a record goes, or an entry goes with its object, or nothing does;
  * `Mapper.getStandardMetadata_leaves` — at most one descriptor is opened;
  * `Mapper.setStandardMetadata_cases` — the temporary record is taken or not, and what was staged
    goes to the backend or is refused;
  * `Mapper.importBuffer_cases` — a handle without descriptors, a refusal that leaves nothing behind
    (`ImportTaken` fails), or a clone that is handed out and imported.

  From these `mapperStep_inv` and `mapperRun_inv`: the buffer table is in order in every reachable
  state.  Most of the other modules begin with this and add what they need to it.

  The concrete runs of the development are taken from two handles, `firstClone` and `blobClone`, the
  clones that the first import of a fresh mapper hands out for a GBM buffer and for a BLOB.
-/
import GrallocGbm.Invariant
import GrallocGbm.Lib.Run

namespace GrallocGbm

/-! ## The machine

  A call of the mapper is a letter, and a run is a word.  Handles are arguments, so nothing is
  assumed about them: they may be NULL, freed, forged, or made by another process. -/

/-- A call that imports, uses or releases a buffer. -/
inductive BufferOp where
  | importBuffer (handle : Option NativeHandle)
  | freeBuffer (buffer : Option NativeHandle)
  | lock (buffer : Option NativeHandle) (cpuUsage : UInt64)
  | unlock (buffer : Option NativeHandle)

/-- A call of the mapper. -/
inductive MapperOp where
  | buffer (op : BufferOp)
  | getStandardMetadata (buffer : Option NativeHandle) (type : StandardMetadataType)
  | setStandardMetadata (buffer : Option NativeHandle) (type : StandardMetadataType)
      (metadata : Payload)

/-- The mapper after a call on a buffer; what it returns is left out. -/
def bufferStep (cfg : BuildConfig) (env : Env) (m : Mapper) : BufferOp → Mapper
  | .importBuffer handle => (m.importBuffer cfg env handle).2
  | .freeBuffer buffer => (m.freeBuffer env buffer).2
  | .lock buffer cpuUsage => (m.lock env buffer cpuUsage).2
  | .unlock buffer => (m.unlock env buffer).2

/-- The mapper after any call. -/
def mapperStep (cfg : BuildConfig) (env : Env) (m : Mapper) : MapperOp → Mapper
  | .buffer op => bufferStep cfg env m op
  | .getStandardMetadata buffer type => (m.getStandardMetadata env buffer type).2
  | .setStandardMetadata buffer type metadata => (m.setStandardMetadata env buffer type metadata).2

/-- The mapper after a sequence of calls. -/
def mapperRun (cfg : BuildConfig) (env : Env) (ops : List MapperOp) : Mapper :=
  ops.foldl (mapperStep cfg env) Mapper.start

/-! ## Every call keeps it

  Calls start with getting a backend ready, and go on in that backend; the lemmas about outcomes
  are stated after the first and before the second. -/

/-- The process with the backend of `h` readied. -/
def readied (env : Env) (h : NativeHandle) (p : Proc) : Proc :=
  ((routedTo (grallocHandle h)).ensureReady env p).2

/-- Getting ready is no concern of any entry. -/
theorem readied_frame (env : Env) (h : NativeHandle) (p : Proc) (fd : Int) :
    Frame fd p (readied env h p) :=
  ensureReady_frame env _ p fd

/-- It keeps the process in order. -/
theorem ProcInv.readied {p : Proc} (hp : ProcInv p) (env : Env) (h : NativeHandle) :
    ProcInv (readied env h p) :=
  hp.of_frame (readied_frame env h p 0)

/-- A driver that is ready needs no initialisation. -/
theorem readied_of_ready (env : Env) {h : NativeHandle} {p : Proc}
    (hgbm : routedTo (grallocHandle h) = .mapperGrallocGbm)
    (hready : isGrallocGbmReady p = true) :
    ((routedTo (grallocHandle h)).ensureReady env p) = (true, p) ∧ readied env h p = p := by
  simp [readied, hgbm, MapperBackendType.ensureReady, MapperBackendType.isReady, hready]

/-- What holds of the process with the backend readied, and is kept by the rest of a call, holds
    after the call. -/
theorem Mapper.withBackend_proc {α : Type} {env : Env} {h : NativeHandle} {m : Mapper}
    {noResources : α} {k : MapperBackendType → Proc → α × Proc} {Q : Proc → Prop}
    (h1 : Q (readied env h m.proc))
    (h2 : Q (k (routedTo (grallocHandle h)) (readied env h m.proc)).2) :
    Q (m.withBackend env h noResources k).2.proc := by
  cases hok : ((routedTo (grallocHandle h)).ensureReady env m.proc).1 with
  | true =>
    rw [Mapper.withBackend_ready hok]
    exact h2
  | false =>
    rw [Mapper.withBackend_failed hok]
    exact h1

/-- The process with the temporary record of a set. -/
def withRecord (p : Proc) : Proc :=
  { p with next := p.next + 1, calls := .alloc true :: p.calls, heap := insert p.next p.heap }

/-- The process without it: the allocation has failed. -/
def withoutRecord (p : Proc) : Proc :=
  { p with next := p.next + 1, calls := .alloc false :: p.calls }

/-- The call gets as far as to allocate its temporary record. -/
def TakesRecord (env : Env) (h : NativeHandle) (p : Proc) : Prop :=
  ((routedTo (grallocHandle h)).ensureReady env p).1 = true ∧
    env.alloc (readied env h p).calls.length = true

section Calls

variable (env : Env) (h : NativeHandle) {m : Mapper}

/-- What the locks of both backends keep of the readied process, a lock keeps. -/
theorem Mapper.lock_proc (cpuUsage : UInt64) {Q : Proc → Prop} (hzero : cpuUsage = 0 → Q m.proc)
    (hready : Q (readied env h m.proc))
    (hgbm : Q (grallocGbmAndroidBufferLock env h cpuUsage.toUInt32 (readied env h m.proc)).2.2)
    (hdma : Q (MapperBackendDmaBuf.lock env h cpuUsage (readied env h m.proc)).2.2) :
    Q (m.lock env (some h) cpuUsage).2.proc := by
  by_cases h0 : cpuUsage = 0
  · have hlock : m.lock env (some h) cpuUsage = ((some .badValue, none), m) := if_pos h0
    rw [hlock]
    exact hzero h0
  · have hlock : m.lock env (some h) cpuUsage = m.withBackend env h (some .noResources, none) _ :=
      if_neg h0
    rw [hlock]
    refine Mapper.withBackend_proc hready ?_
    cases routedTo (grallocHandle h) with
    | mapperGrallocGbm => exact hgbm
    | mapperGrallocDmabuf => exact hdma

/-- The same for an unlock. -/
theorem Mapper.unlock_proc {Q : Proc → Prop} (hready : Q (readied env h m.proc))
    (hgbm : Q (grallocGbmAndroidBufferUnlock h (readied env h m.proc)).2)
    (hdma : Q (MapperBackendDmaBuf.unlock h (readied env h m.proc)).2) :
    Q (m.unlock env (some h)).2.proc := by
  refine Mapper.withBackend_proc hready ?_
  cases routedTo (grallocHandle h) with
  | mapperGrallocGbm => exact hgbm
  | mapperGrallocDmabuf => exact hdma

/-- A lock of a client that asks for access. -/
theorem Mapper.lock_still (cpuUsage : UInt64) (h0 : cpuUsage ≠ 0) (hp : ProcInv m.proc) :
    Still (grallocHandle h).primeFd (readied env h m.proc) (m.lock env (some h) cpuUsage).2.proc :=
  Mapper.lock_proc env h cpuUsage (fun hzero => absurd hzero h0) .refl
    (grallocGbmAndroidBufferLock_still env h cpuUsage.toUInt32 (hp.readied env h).user_data)
    (MapperBackendDmaBuf.lock_still env h cpuUsage _ _)

/-- An unlock. -/
theorem Mapper.unlock_still (m : Mapper) :
    Still (grallocHandle h).primeFd (readied env h m.proc) (m.unlock env (some h)).2.proc :=
  Mapper.unlock_proc env h .refl (grallocGbmAndroidBufferUnlock_still h _)
    (MapperBackendDmaBuf.unlock_still h _ _)

/-- Every outcome of a free: nothing but a DMA-BUF record goes, or the entry found under the handle's
    descriptor goes with its object. -/
theorem Mapper.freeBuffer_cases (hp : ProcInv m.proc) :
    let p := readied env h m.proc
    let r := m.freeBuffer env (some h)
    (Still (grallocHandle h).primeFd p r.2.proc ∧
      (routedTo (grallocHandle h) = .mapperGrallocGbm → isGrallocGbmReady m.proc = true →
        r.1 = some .none ∧ findBufferK (grallocHandle h).primeFd p.table = none)) ∨
    (∃ e heap cs, routedTo (grallocHandle h) = .mapperGrallocGbm ∧
      findBufferK (grallocHandle h).primeFd p.table = some e ∧ r.1 = some .none ∧
      r.2.proc = { p with
        table := Keyed.remove AndroidBuffer.addr e.addr p.table
        bos := Function.update p.bos e.bo none
        heap := heap
        calls := cs }) := by
  intro p r
  have hinv : ProcInv p := hp.readied env h
  have hr : r = m.freeBuffer env (some h) := rfl
  unfold Mapper.freeBuffer at hr
  dsimp only at hr
  cases hok : ((routedTo (grallocHandle h)).ensureReady env m.proc).1 with
  | false =>
    rw [Mapper.withBackend_failed hok] at hr
    refine .inl ⟨by rw [hr]; exact .refl, fun hgbm hready => ?_⟩
    rw [hgbm] at hok
    simp [MapperBackendType.ensureReady, MapperBackendType.isReady, hready] at hok
  | true =>
    rw [Mapper.withBackend_ready hok] at hr
    cases hb : routedTo (grallocHandle h) with
    | mapperGrallocDmabuf =>
      have hp' : (MapperBackendType.ensureReady env .mapperGrallocDmabuf m.proc).2 = p := by
        simp only [p, GrallocGbm.readied, hb]
      refine .inl ⟨?_, fun hgbm => by cases hgbm⟩
      rw [hr, hb, hp']
      exact MapperBackendDmaBuf.freeBuffer_still env h p _
    | mapperGrallocGbm =>
      simp only [hb] at hr hok
      have hp' : (MapperBackendType.ensureReady env .mapperGrallocGbm m.proc).2 = p := by
        simp only [p, GrallocGbm.readied, hb]
      rw [hp'] at hr
      rcases grallocGbmAndroidBufferFree_cases h p with
        ⟨hno, hf⟩ | ⟨-, hfind, hf⟩ | ⟨e, -, hfind, hdead, -⟩ | ⟨e, b, -, hfind, hlive, hf⟩
      · refine .inl ⟨by rw [hr, hf]; exact .refl, fun _ hready => ?_⟩
        have hready' := (readied_frame env h m.proc 0).ready hready
        exact absurd (hready'.symm.trans hno) (by simp)
      · refine .inl ⟨by rw [hr, hf]; exact .refl, fun _ _ => ⟨?_, hfind⟩⟩
        rw [hr, hf]
        rfl
      · -- no object in the table is dead
        obtain ⟨-, b, d, hb', -⟩ := hinv.exists_object (Keyed.mem_of_lookup hfind)
        rw [hdead] at hb'
        cases hb'
      · obtain ⟨heap, hd⟩ := gbmBoDestroy_eq e.bo b p
        refine .inr ⟨e, heap, .boDestroy e.bo :: p.calls, rfl, hfind, ?_, ?_⟩
        · rw [hr, hf]
          rfl
        · rw [hr, hf, hd]
          rfl

/-- A read leaves the readied process alone, or has opened a descriptor for an object. -/
theorem Mapper.getStandardMetadata_leaves (type : StandardMetadataType) (hp : ProcInv m.proc) :
    (m.getStandardMetadata env (some h) type).2.proc = readied env h m.proc ∨
      ∃ bo, (m.getStandardMetadata env (some h) type).2.proc
        = (gbmBoGetFd env bo (readied env h m.proc)).2 := by
  refine Mapper.withBackend_proc (Q := fun q => q = readied env h m.proc ∨
    ∃ bo, q = (gbmBoGetFd env bo (readied env h m.proc)).2) (.inl rfl) ?_
  cases routedTo (grallocHandle h) with
  | mapperGrallocGbm =>
    have hgbm := MapperBackendGrallocGbm.getStandardMetadata_leaves env h type
      (hp.readied env h).user_data
    dsimp only
    split <;> exact hgbm
  | mapperGrallocDmabuf =>
    have hdma := MapperBackendDmaBuf.getStandardMetadata_leaves env h type (readied env h m.proc)
    dsimp only
    split <;> exact .inl hdma

/-- A read: nothing but descriptors changes. -/
theorem Mapper.getStandardMetadata_frame (type : StandardMetadataType) (hp : ProcInv m.proc)
    (fd : Int) :
    Frame fd (readied env h m.proc) (m.getStandardMetadata env (some h) type).2.proc := by
  rcases Mapper.getStandardMetadata_leaves env h type hp with hr | ⟨bo, hr⟩ <;> rw [hr]
  · exact .refl
  · exact gbmBoGetFd_frame env bo _ fd

/-- Every outcome of a set: no record, nothing staged, or what was staged goes to the backend. -/
theorem Mapper.setStandardMetadata_cases (type : StandardMetadataType) (payload : Payload) :
    let staging := stageMetadata type payload (withRecord (readied env h m.proc))
    let r := m.setStandardMetadata env (some h) type payload
    (¬ TakesRecord env h m.proc ∧ r.1 = some .noResources ∧
      (r.2.proc = readied env h m.proc ∨ r.2.proc = withoutRecord (readied env h m.proc))) ∨
    (TakesRecord env h m.proc ∧ staging.1 = none ∧ r.1 = some .badValue ∧ r.2.proc = staging.2) ∨
    (TakesRecord env h m.proc ∧ ∃ staged, staging.1 = some staged ∧
      ((routedTo (grallocHandle h) = .mapperGrallocDmabuf ∧ r.1 = some .none ∧
          r.2.proc = staging.2) ∨
        (routedTo (grallocHandle h) = .mapperGrallocGbm ∧
          let set := MapperBackendGrallocGbm.setStandardMetadata h type staged staging.2
          (r.1 = some .none ↔ set.1 = .ok 0) ∧ r.2.proc = set.2))) := by
  intro staging r
  have hr : r = m.setStandardMetadata env (some h) type payload := rfl
  unfold Mapper.setStandardMetadata at hr
  dsimp only at hr
  cases hok : ((routedTo (grallocHandle h)).ensureReady env m.proc).1 with
  | false =>
    rw [Mapper.withBackend_failed hok] at hr
    refine .inl ⟨?_, by rw [hr], .inl (by rw [hr]; rfl)⟩
    rintro ⟨hok', -⟩
    rw [hok] at hok'
    cases hok'
  | true =>
    rw [Mapper.withBackend_ready hok] at hr
    cases ha : env.alloc (GrallocGbm.readied env h m.proc).calls.length with
    | false =>
      have hno : ¬ TakesRecord env h m.proc := by
        rintro ⟨-, ha'⟩
        rw [ha] at ha'
        cases ha'
      rw [GrallocGbm.readied] at ha
      simp only [callocChecked, ha, Bool.false_eq_true, if_false] at hr
      exact .inl ⟨hno, by rw [hr], .inr (by rw [hr]; rfl)⟩
    | true =>
      have ht : TakesRecord env h m.proc := ⟨hok, ha⟩
      rw [GrallocGbm.readied] at ha
      simp only [callocChecked, ha, if_true] at hr
      right
      split at hr
      · rename_i q heq
        have hq : staging.2 = q := congrArg Prod.snd heq
        exact .inl ⟨ht, congrArg Prod.fst heq, by rw [hr], by rw [hr, hq]⟩
      · rename_i staged q heq
        have hq : staging.2 = q := congrArg Prod.snd heq
        refine .inr ⟨ht, staged, congrArg Prod.fst heq, ?_⟩
        rw [hq]
        cases hb : routedTo (grallocHandle h) with
        | mapperGrallocDmabuf =>
          rw [hb] at hr
          exact .inl ⟨rfl, by rw [hr], by rw [hr]⟩
        | mapperGrallocGbm =>
          rw [hb] at hr
          dsimp only at hr
          refine .inr ⟨rfl, ?_⟩
          dsimp only
          cases hset : MapperBackendGrallocGbm.setStandardMetadata h type staged q with
          | mk ret q' =>
            rw [hset] at hr
            cases ret with
            | ok rc =>
              rw [hr]
              refine ⟨?_, rfl⟩
              by_cases h0 : rc = 0
              · simp [statusOf, h0]
              · simp [statusOf, h0]
            | err rc =>
              rw [hr]
              exact ⟨by simp, rfl⟩
            | crash =>
              rw [hr]
              exact ⟨by simp, rfl⟩

/-- What staging keeps, and the GBM backend keeps, a set keeps. -/
theorem Mapper.setStandardMetadata_proc (type : StandardMetadataType) (payload : Payload)
    {Q : Proc → Prop}
    (hstaged : ∀ heap n cs, (readied env h m.proc).next ≤ n →
      (cs = (readied env h m.proc).calls ∨ ∃ ok, cs = .alloc ok :: (readied env h m.proc).calls) →
      Q { readied env h m.proc with heap := heap, next := n, calls := cs })
    (hset : ∀ data q, HasUserData q → Q q →
      Q (MapperBackendGrallocGbm.setStandardMetadata h type data q).2) (hp : ProcInv m.proc) :
    Q (m.setStandardMetadata env (some h) type payload).2.proc := by
  obtain ⟨heap, n, hs, hn⟩ := stageMetadata_spec type payload (withRecord (readied env h m.proc))
  have hstaging : Q (stageMetadata type payload (withRecord (readied env h m.proc))).2 := by
    rw [hs]
    exact hstaged _ _ _ (le_trans (Nat.le_succ _) hn) (.inr ⟨true, rfl⟩)
  rcases Mapper.setStandardMetadata_cases env h type payload (m := m) with
    ⟨-, -, hr | hr⟩ | ⟨-, -, -, hr⟩ | ⟨-, staged, -, ⟨-, -, hr⟩ | ⟨-, -, hr⟩⟩
  · rw [hr]
    exact hstaged _ _ _ (le_refl _) (.inl rfl)
  · rw [hr]
    exact hstaged _ _ _ (Nat.le_succ _) (.inr ⟨false, rfl⟩)
  · rw [hr]
    exact hstaging
  · rw [hr]
    exact hstaging
  · rw [hr]
    refine hset staged _ ?_ hstaging
    rw [hs]
    exact (hp.readied env h).user_data

/-- A set: the record of the handle's own object changes, and the heap. -/
theorem Mapper.setStandardMetadata_still (type : StandardMetadataType) (metadata : Payload)
    (hp : ProcInv m.proc) :
    Still (grallocHandle h).primeFd (readied env h m.proc)
      (m.setStandardMetadata env (some h) type metadata).2.proc := by
  refine Mapper.setStandardMetadata_proc env h type metadata
    (fun heap n cs hn _ => ⟨.of_same rfl rfl rfl hn subset_rfl id, rfl⟩)
    (fun data q hq hstill => ?_) hp
  have hset := MapperBackendGrallocGbm.setStandardMetadata_still h type data hq
  exact ⟨hstill.1.trans hset.1, hset.2.trans hstill.2⟩

end Calls

/-! ## Import -/

/-- Does everything an import of `h` needs succeed: its backend, the clone, and what the backend
    asks for? -/
def ImportTaken (cfg : BuildConfig) (env : Env) (h : NativeHandle) (p : Proc) : Prop :=
  let backend := routedTo (grallocHandle h)
  h.numFds ≠ 0 ∧ (backend.ensureReady env p).1 = true ∧
    CloneTaken cfg env h backend (readied env h p)

/-- Every outcome of an import: a handle without descriptors, a refusal that leaves nothing behind,
    or the clone, handed out and imported. -/
theorem Mapper.importBuffer_cases (cfg : BuildConfig) (env : Env) (h : NativeHandle) {m : Mapper}
    (hp : ProcInv m.proc) :
    let p := readied env h m.proc
    let r := m.importBuffer cfg env (some h)
    (h.numFds = 0 ∧ r = ((.badBuffer, none), m)) ∨
    (h.numFds ≠ 0 ∧ ¬ ImportTaken cfg env h m.proc ∧ r.1 = (.noResources, none) ∧
      ∃ n cs, p.next ≤ n ∧ r.2.proc = { p with next := n, calls := cs }) ∨
    (ImportTaken cfg env h m.proc ∧
      (routedTo (grallocHandle h) = .mapperGrallocGbm → isGrallocGbmReady p = true) ∧
      ∃ c, r.1 = (.none, some c) ∧ CloneOf h p c ∧
        Imported cfg p c (routedTo (grallocHandle h)) r.2.proc) := by
  intro p r
  have hinv : ProcInv p := hp.readied env h
  have hr : r = m.importBuffer cfg env (some h) := rfl
  by_cases h0 : h.numFds = 0
  · exact .inl ⟨h0, hr.trans (if_pos h0)⟩
  replace hr : r = m.withBackend env h (.noResources, none) (importClone cfg env h) :=
    hr.trans (if_neg h0)
  refine .inr ?_
  cases hok : ((routedTo (grallocHandle h)).ensureReady env m.proc).1 with
  | false =>
    rw [Mapper.withBackend_failed hok] at hr
    refine .inl ⟨h0, fun ht => absurd (hok.symm.trans ht.2.1) (by simp), ?_⟩
    rw [hr]
    exact ⟨rfl, _, _, le_refl _, rfl⟩
  | true =>
    rw [Mapper.withBackend_ready hok] at hr
    have hready : routedTo (grallocHandle h) = .mapperGrallocGbm → isGrallocGbmReady p = true := by
      intro hgbm
      obtain ⟨-, -, -, -, -, -, -, -, -, hready⟩ :=
        ensureReady_spec env (routedTo (grallocHandle h)) m.proc
      exact hready hgbm hok
    rcases importClone_cases cfg env h (routedTo (grallocHandle h)) hinv.handle_lt hready with
      ⟨hno, h1, hrest⟩ | ⟨htaken, c, h1, hc, hi⟩
    · rw [hr]
      exact .inl ⟨h0, fun ht => hno ht.2.2, h1, hrest⟩
    · rw [hr]
      exact .inr ⟨⟨h0, hok, htaken⟩, hready, c, h1, hc, hi⟩

/-! ### A process in which everything succeeds -/

/-- The counts are some that `native_handle_create` accepts, and no descriptor is negative. -/
def Clonable (h : NativeHandle) : Prop :=
  (0 ≤ h.numFds ∧ 0 ≤ h.numInts ∧ h.numFds ≤ 1024 ∧ h.numInts ≤ 1024) ∧ ∀ fd ∈ h.fds, 0 ≤ fd

/-- In the plain environment every descriptor that is not negative can be duplicated. -/
theorem dupAll_plain {l : List Int} (hl : ∀ fd ∈ l, 0 ≤ fd) (p : Proc) :
    ∃ ds p', dupAll .plain l p = (some ds, p') := by
  induction l generalizing p with
  | nil => exact ⟨_, _, rfl⟩
  | cons fd l ih =>
    obtain ⟨h0, hl⟩ := List.forall_mem_cons.mp hl
    obtain ⟨d, hd⟩ := Option.isSome_iff_exists.mp (lowestFd_isSome p.fds)
    have hdup : dupFd .plain fd p = (some d, (openFd .plain (.dup fd) p).2) := by
      rw [dupFd_of_open (by simp [fdIsOpen, h0, Env.plain])]
      exact Prod.ext hd rfl
    obtain ⟨ds, p', hrest⟩ := ih hl (openFd .plain (.dup fd) p).2
    refine ⟨d :: ds, p', ?_⟩
    rw [dupAll, hdup]
    simp only [hrest]

/-- In the plain environment nothing refuses a clone. -/
theorem nativeHandleClone_plain {h : NativeHandle} (hc : Clonable h) (p : Proc) :
    ∃ c p', nativeHandleClone .plain h p = (some c, p') := by
  obtain ⟨⟨hfds, hints, hfds', hints'⟩, hopen⟩ := hc
  unfold nativeHandleClone nativeHandleCreate callocChecked
  rw [if_neg (by omega)]
  simp only [show ∀ n, Env.plain.alloc n = true from fun _ => rfl, if_true]
  obtain ⟨ds, p', hdup⟩ := dupAll_plain hopen { p with
    next := p.next + 1
    calls := .alloc true :: p.calls
    handles := insert p.next p.handles }
  rw [hdup]
  exact ⟨_, _, rfl⟩

/-- A fresh mapper takes any handle that has a descriptor and can be cloned. -/
theorem Mapper.importBuffer_plain (cfg : BuildConfig) {h : NativeHandle} (h0 : h.numFds ≠ 0)
    (hc : Clonable h) :
    ∃ c, (Mapper.start.importBuffer cfg .plain (some h)).1 = (.none, some c) := by
  have htaken : ImportTaken cfg .plain h Proc.start := by
    obtain ⟨c, p', hclone⟩ := nativeHandleClone_plain hc (GrallocGbm.readied .plain h Proc.start)
    refine ⟨h0, ?_, c, p', hclone, fun _ => ⟨rfl, rfl⟩⟩
    cases routedTo (grallocHandle h) <;> rfl
  rcases Mapper.importBuffer_cases cfg .plain h (m := .start) ProcInv.start with
    ⟨hno, -⟩ | ⟨-, hno, -⟩ | ⟨-, -, c, hr, -⟩
  · exact absurd hno h0
  · exact absurd htaken hno
  · exact ⟨c, hr⟩

/-! ## Runs

  The step lemma, one case for each call, and the run lemma from it. -/

/-- The step of an import. -/
theorem importBuffer_inv (cfg : BuildConfig) (env : Env) (h : NativeHandle) {m : Mapper}
    (hp : ProcInv m.proc) : ProcInv (m.importBuffer cfg env (some h)).2.proc := by
  have hinv := hp.readied env h
  rcases Mapper.importBuffer_cases cfg env h hp with
    ⟨-, hr⟩ | ⟨-, -, -, n, cs, hn, hr⟩ | ⟨htaken, hready, c, -, hc, hi⟩
  · rw [hr]
    exact hp
  · rw [hr]
    exact hinv.of_same rfl rfl rfl hn subset_rfl id
  · exact hinv.of_imported hc (hc.numFds_pos htaken.1) hready hi

/-- The step of a call on a buffer. -/
theorem bufferStep_inv (cfg : BuildConfig) (env : Env) {m : Mapper} (op : BufferOp)
    (hp : ProcInv m.proc) : ProcInv (bufferStep cfg env m op).proc := by
  cases op with
  | importBuffer handle =>
    cases handle with
    | none => exact hp
    | some h => exact importBuffer_inv cfg env h hp
  | freeBuffer buffer =>
    cases buffer with
    | none => exact hp
    | some h =>
      rcases Mapper.freeBuffer_cases env h hp with ⟨hf, -⟩ | ⟨e, heap, cs, -, hfind, -, hr⟩
      · exact (hp.readied env h).of_frame hf.1
      · exact (hp.readied env h).of_freed (Keyed.mem_of_lookup hfind) hr
  | lock buffer cpuUsage =>
    cases buffer with
    | none => exact hp
    | some h =>
      by_cases h0 : cpuUsage = 0
      · have hlock : m.lock env (some h) cpuUsage = ((some .badValue, none), m) := if_pos h0
        simp only [bufferStep, hlock]
        exact hp
      · exact (hp.readied env h).of_frame (Mapper.lock_still env h cpuUsage h0 hp).1
  | unlock buffer =>
    cases buffer with
    | none => exact hp
    | some h => exact (hp.readied env h).of_frame (Mapper.unlock_still env h m).1

/-- The step of any call. -/
theorem mapperStep_inv (cfg : BuildConfig) (env : Env) {m : Mapper} (op : MapperOp)
    (hp : ProcInv m.proc) : ProcInv (mapperStep cfg env m op).proc := by
  cases op with
  | buffer op => exact bufferStep_inv cfg env op hp
  | getStandardMetadata buffer type =>
    cases buffer with
    | none => exact hp
    | some h =>
      exact (hp.readied env h).of_frame (Mapper.getStandardMetadata_frame env h type hp 0)
  | setStandardMetadata buffer type metadata =>
    cases buffer with
    | none => exact hp
    | some h =>
      exact (hp.readied env h).of_frame (Mapper.setStandardMetadata_still env h type metadata hp).1

/-- **The table is in order in every reachable state.** -/
theorem mapperRun_inv (cfg : BuildConfig) (env : Env) (ops : List MapperOp) :
    ProcInv (mapperRun cfg env ops).proc :=
  Run.foldl_inv_all (fun m : Mapper => ProcInv m.proc) (fun _ op h => mapperStep_inv cfg env op h) ops
    ProcInv.start

/-! ## Two handles -/

/-- The handle that the first import of a mapper hands out. -/
def firstClone : NativeHandle :=
  ((Mapper.start.importBuffer .androidBp .plain (some (rgbaHandle 5))).1.2).getD (rgbaHandle 0)

/-- The same for a BLOB of height 1. -/
def blobClone : NativeHandle :=
  ((Mapper.start.importBuffer .androidBp .plain (some (blobHandle 5))).1.2).getD (blobHandle 0)

end GrallocGbm
