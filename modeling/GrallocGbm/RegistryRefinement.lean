/-
  The mapper refines the registry.

  Each call is taken apart once, by the lemma about what it does to the process, and put together
  again as a step of the registry; there is one theorem for each call (`…_registryStep`), and
  `MapState.registryStep` is the case analysis over them.

  Three parts of the abstraction have an argument of their own.

  1. **The lock** — three fields of the user data stand for one `Hold`.  Not all values of the
     fields make sense as one: a mapped object with a count of two would not.  That they do is
     `LockOk`, and `LockOk.hold_cases` is the list of what is possible.  A grant and a release of
     the `Hold` are then compared with what the code does to the fields, for a lock without a
     mapping, one with it, a refused one, and an unlock.

  2. **Metadata** — what a set stages and stores is, without its addresses, the set of the view
     (`metadataViewOf_store`); and no read looks at an address (`gbmMetadataValue_view`).

  3. **Entries** — the registry at a descriptor is the first entry with that key and its object.  A
     step within the frame of a descriptor keeps the registry everywhere else
     (`Frame.registryOf_eq`), a step within every frame keeps all of it (`registryOf_of_frames`):
     this is how a readied backend, and a call on the other backend, come to change nothing.

  The invariant of the runs is `MapState`: the buffer table is in order, and the log of the calls
  agrees with the objects and the records.  It holds of every run of the mapper, so the result has
  no hypothesis.

  The registry starts empty and an import always finds its key free there, since the clone's
  descriptor was not open and every key is.
-/
import GrallocGbm.Registry

namespace GrallocGbm

/-! ## The lock

  The code has three fields, and the registry a `Hold`: nobody, some who need no mapping, or
  some with a mapping.  `holdOf` reads the fields as one of these, and every outcome of the
  code's lock and unlock is one of the `Hold`'s. -/

section

variable {calls : List ExtCall} {bo : Nat} {d : GbmBoData} {usage : UInt32}

/-- The three states of the lock fields. -/
theorem LockOk.hold_cases (h : LockOk calls bo d) :
    (d.lockCount = 0 ∧ d.lockedFor = 0 ∧ d.mapData = none ∧ holdOf d = .idle) ∨
    (∃ n : Nat, d.lockCount = n + 1 ∧ d.lockedFor &&& cpuAccessMask = 0 ∧ d.mapData = none ∧
      holdOf d = .shared n d.lockedFor) ∨
    ∃ a, d.lockCount = 1 ∧ d.lockedFor &&& cpuAccessMask ≠ 0 ∧ d.mapData = some a ∧
      holdOf d = .mapped d.lockedFor a := by
  cases hm : d.mapData with
  | some a =>
    have hs : d.mapData.isSome = true := by rw [hm]; rfl
    exact .inr (.inr ⟨a, h.mapped_once hs, h.mapped_iff.mp hs, rfl, by rw [holdOf, hm]⟩)
  | none =>
    have hmask : d.lockedFor &&& cpuAccessMask = 0 := by
      by_contra hne
      have hs := h.mapped_iff.mpr hne
      rw [hm] at hs
      cases hs
    have hcount := h.count_nonneg
    by_cases h0 : d.lockCount = 0
    · exact .inl ⟨h0, h.idle h0, rfl, by simp [holdOf, hm, h0]⟩
    · refine .inr (.inl ⟨(d.lockCount - 1).toNat, by omega, hmask, rfl, ?_⟩)
      have hpos : ¬ d.lockCount ≤ 0 := by omega
      simp [holdOf, hm, hpos]

/-- A lock that maps nothing. -/
theorem LockOk.grant_unmapped (h : LockOk calls bo d)
    (hcompat : d.lockCount = 0 ∨ d.lockedFor &&& usage = usage)
    (hmask : (usage ||| d.lockedFor) &&& cpuAccessMask = 0) (addr : Option Nat) :
    (holdOf d).grant lockPolicy usage addr = some (holdOf (lockedData (usage ||| d.lockedFor) d)) ∧
      (holdOf (lockedData (usage ||| d.lockedFor) d)).addr? = none := by
  have hfor := lockedData_lockedFor usage d
  rcases h.hold_cases with
    ⟨h0, hfor0, hm, hhold⟩ | ⟨n, hn, -, hm, hhold⟩ | ⟨a, h1, hcpu, -, -⟩
  · have hcpu : ¬ usage &&& cpuAccessMask ≠ 0 := by
      rw [hfor0, UInt32.or_zero] at hmask
      exact not_not.mpr hmask
    have hnew : holdOf (lockedData (usage ||| d.lockedFor) d) = .shared 0 usage := by
      have hcount : (lockedData (usage ||| d.lockedFor) d).lockCount = 1 := by
        show d.lockCount + 1 = 1
        omega
      unfold holdOf
      rw [hfor, hcount, show (lockedData (usage ||| d.lockedFor) d).mapData = none from hm, hfor0,
        UInt32.or_zero]
      rfl
    rw [hhold, hnew]
    exact ⟨by simp [Hold.grant, lockPolicy, hcpu], rfl⟩
  · have hcover : d.lockedFor &&& usage = usage := hcompat.resolve_left (by omega)
    have hnew : holdOf (lockedData (usage ||| d.lockedFor) d) = .shared (n + 1) d.lockedFor := by
      have hcount : (lockedData (usage ||| d.lockedFor) d).lockCount = n + 2 := by
        show d.lockCount + 1 = n + 2
        omega
      unfold holdOf
      rw [hfor, hcount, show (lockedData (usage ||| d.lockedFor) d).mapData = none from hm,
        or_of_and_eq hcover]
      dsimp only
      rw [if_neg (by omega), show ((n : Int) + 2 - 1).toNat = n + 1 by omega]
    rw [hhold, hnew]
    exact ⟨by simp [Hold.grant, lockPolicy, hcover], rfl⟩
  · -- a mapped object's use has a CPU bit
    have hcover : d.lockedFor &&& usage = usage := hcompat.resolve_left (by omega)
    rw [or_of_and_eq hcover] at hmask
    exact absurd hmask hcpu

/-- A lock that maps. -/
theorem LockOk.grant_mapped (h : LockOk calls bo d)
    (hcompat : d.lockCount = 0 ∨ d.lockedFor &&& usage = usage)
    (hmask : (usage ||| d.lockedFor) &&& cpuAccessMask ≠ 0) (hnone : d.mapData = none) :
    (∀ a, (holdOf d).grant lockPolicy usage (some a)
      = some (holdOf (lockedData (usage ||| d.lockedFor) { d with mapData := some a })) ∧
        (holdOf (lockedData (usage ||| d.lockedFor) { d with mapData := some a })).addr? = some a) ∧
      (holdOf d).grant lockPolicy usage none = none := by
  rcases h.hold_cases with
    ⟨h0, hfor0, -, hhold⟩ | ⟨n, hn, hcpu, -, -⟩ | ⟨a, -, -, hm, -⟩
  · rw [hfor0, UInt32.or_zero] at hmask
    rw [hhold]
    refine ⟨fun a => ⟨?_, rfl⟩, by simp [Hold.grant, lockPolicy, hmask]⟩
    have hnew : holdOf (lockedData (usage ||| d.lockedFor) { d with mapData := some a })
        = .mapped usage a := by
      show Hold.mapped (d.lockedFor ||| (usage ||| d.lockedFor)) a = .mapped usage a
      rw [hfor0, UInt32.or_zero, UInt32.zero_or]
    rw [hnew]
    simp [Hold.grant, lockPolicy, hmask]
  · have hcover : d.lockedFor &&& usage = usage := hcompat.resolve_left (by omega)
    rw [or_of_and_eq hcover] at hmask
    exact absurd hcpu hmask
  · rw [hnone] at hm
    cases hm

/-- A lock that is not compatible with the ones before it, or comes to a mapped object. -/
theorem LockOk.grant_refused (h : LockOk calls bo d)
    (hno : ¬ (d.lockCount = 0 ∨ d.lockedFor &&& usage = usage) ∨ d.mapData.isSome = true) :
    (holdOf d).grant lockPolicy usage none = none := by
  rcases h.hold_cases with
    ⟨h0, -, hm, -⟩ | ⟨n, -, -, hm, hhold⟩ | ⟨a, -, -, -, hhold⟩
  · rcases hno with hno | hno
    · exact absurd (.inl h0) hno
    · rw [hm] at hno
      cases hno
  · rcases hno with hno | hno
    · rw [hhold]
      simp [Hold.grant, lockPolicy, (not_or.mp hno).2]
    · rw [hm] at hno
      cases hno
  · rw [hhold]
    rfl

/-- An unlock, with or without an unmapping. -/
theorem LockOk.release_hold (h : LockOk calls bo d) :
    (d.lockCount = 0 → (holdOf d).release = holdOf d) ∧
      (d.lockedFor &&& cpuAccessMask ≠ 0 →
        holdOf (unlockedData { d with mapData := none }) = (holdOf d).release) ∧
      (d.lockCount ≠ 0 → d.lockedFor &&& cpuAccessMask = 0 →
        holdOf (unlockedData d) = (holdOf d).release) := by
  rcases h.hold_cases with
    ⟨h0, hfor0, -, hhold⟩ | ⟨n, hn, hcpu, hm, hhold⟩ | ⟨a, h1, hcpu, -, hhold⟩
  · rw [hhold]
    refine ⟨fun _ => rfl, fun hne => ?_, fun hne => absurd h0 hne⟩
    rw [hfor0] at hne
    exact absurd rfl hne
  · refine ⟨fun h0 => by omega, fun hne => absurd hcpu hne, fun _ _ => ?_⟩
    rw [hhold]
    unfold holdOf
    rw [show (unlockedData d).mapData = none from hm]
    show (if d.lockCount - 1 ≤ 0 then Hold.idle
      else .shared (d.lockCount - 1 - 1).toNat (if d.lockCount - 1 = 0 then 0 else d.lockedFor)) = _
    cases n with
    | zero =>
      rw [if_pos (by omega)]
      rfl
    | succ n =>
      rw [if_neg (by omega), if_neg (by omega), show (d.lockCount - 1 - 1).toNat = n by omega]
      rfl
  · refine ⟨fun h0 => by omega, fun _ => ?_, fun _ h0 => absurd h0 hcpu⟩
    rw [hhold]
    show (if d.lockCount - 1 ≤ 0 then Hold.idle else _) = .idle
    rw [if_pos (by omega)]

end

/-! ## Metadata

  A set goes through two switches in the code, and is one case of the registry. -/

/-- A payload is staged exactly if the registry accepts it. -/
theorem stageMetadata_accepts (type : StandardMetadataType) (m : Payload) (p : Proc) :
    (stageMetadata type m p).1.isSome = acceptsPayload type m := by
  cases type
  case smpte209450 =>
    by_cases hlen : m.metadataSize ≤ grallocGenericSmpte209450MaxSize
    · simp [stageMetadata, acceptsPayload, hlen, Nat.not_lt.mpr hlen]
    · simp [stageMetadata, acceptsPayload, hlen, Nat.lt_of_not_le hlen]
  all_goals rfl

/-- What is staged and stored is the set of the view. -/
theorem metadataViewOf_store {type : StandardMetadataType} {m : Payload} {p : Proc}
    {staged stored : BufferMetadata} (h : (stageMetadata type m p).1 = some staged) :
    metadataViewOf (storeMetadata type staged stored) = (metadataViewOf stored).set type m := by
  cases type
  case smpte209450 =>
    obtain ⟨-, hsize, a, hblock⟩ := stageMetadata_smpte209450 h
    simp [metadataViewOf, storeMetadata, MetadataView.set, hsize, hblock]
  all_goals first
    | cases h
      rfl
    | cases h

/-- The dispatch of a read does not look at addresses, nor at the descriptor of the query. -/
theorem gbmMetadataValue_view (g : GrallocHandle) (e : AndroidBuffer) (fd : Int) (b : Bo)
    (d : GbmBoData) (stride : Int32) (type : StandardMetadataType) :
    gbmMetadataValue (bufferInfo g e fd b d stride) type
      = gbmMetadataValue ((viewOf e b d).info g stride) type := by
  cases type
  case smpte2086 =>
    cases h : d.metadata.smpte2086 <;>
      simp [gbmMetadataValue, bufferInfo, BufferView.info, viewOf, metadataViewOf, MetadataView.record, h]
  case cta8613 =>
    cases h : d.metadata.cta8613 <;>
      simp [gbmMetadataValue, bufferInfo, BufferView.info, viewOf, metadataViewOf, MetadataView.record, h]
  case smpte209450 =>
    cases h : d.metadata.smpte209450 <;>
      simp [gbmMetadataValue, bufferInfo, BufferView.info, viewOf, metadataViewOf, MetadataView.record, h]
  all_goals rfl

/-! ## Entries

  The registry of a process has a buffer for every entry, made of the entry's object; so what a
  call does to one entry and its object, it does to one buffer. -/

section

variable {p p' : Proc} {fd : Int}

/-- The buffer behind the entry that is found. -/
theorem registryOf_entry {e : AndroidBuffer} {b : Bo} {d : GbmBoData}
    (he : findBufferK fd p.table = some e) (hb : p.bos e.bo = some b) (hd : b.data = some d) :
    registryOf p fd = some (viewOf e b d) := by
  simp [registryOf, he, hb, hd]

/-- In a process in order, every entry is a buffer. -/
theorem ProcInv.registryOf_eq_some (hp : ProcInv p) {e : AndroidBuffer}
    (he : findBufferK fd p.table = some e) :
    ∃ b d, p.bos e.bo = some b ∧ b.data = some d ∧ gbmBoGetUserData e.bo p = some d ∧
      registryOf p fd = some (viewOf e b d) := by
  obtain ⟨-, b, d, hb, hd⟩ := hp.exists_object (Keyed.mem_of_lookup he)
  exact ⟨b, d, hb, hd, by rw [gbmBoGetUserData, hb]; exact hd, registryOf_entry he hb hd⟩

/-- No entry, no buffer. -/
theorem registryOf_none (he : findBufferK fd p.table = none) : registryOf p fd = none := by
  rw [registryOf, he]
  rfl

/-- The registry depends on the table and the objects only. -/
theorem registryOf_of_same (htable : p'.table = p.table) (hbos : p'.bos = p.bos) :
    registryOf p' = registryOf p := by
  unfold registryOf
  rw [htable, hbos]

/-- A step within the frame of `fd` keeps all other buffers. -/
theorem Frame.registryOf_eq (hf : Frame fd p p') (hp : ProcInv p) {fd' : Int} (hne : fd' ≠ fd) :
    registryOf p' fd' = registryOf p fd' := by
  unfold registryOf
  rw [hf.table]
  cases he : findBufferK fd' p.table with
  | none => rfl
  | some e =>
    rw [Option.bind_some, Option.bind_some, hf.others e.bo fun e' he' => (hp.bo_ne hne he' he).symm]

/-- A step that is within every frame keeps the registry. -/
theorem registryOf_of_frames (hf : ∀ fd, Frame fd p p') (hp : ProcInv p) :
    registryOf p' = registryOf p := by
  funext fd
  exact (hf (fd + 1)).registryOf_eq hp (by omega)

/-- A change of the user data behind `fd`. -/
theorem ProcInv.registryOf_modify (hp : ProcInv p) {e : AndroidBuffer}
    (he : findBufferK fd p.table = some e) {b : Bo} {d : GbmBoData} (hb : p.bos e.bo = some b)
    (hd : b.data = some d) (f : GbmBoData → GbmBoData) (calls : List ExtCall) :
    registryOf (modifyBoData e.bo f { p with calls := calls })
      = Function.update (registryOf p) fd (some (viewOf e b (f d))) := by
  funext fd'
  by_cases hfd : fd' = fd
  · rw [hfd, Function.update_self]
    have hb' : (modifyBoData e.bo f { p with calls := calls }).bos e.bo
        = some { b with data := b.data.map f } := by
      simp [modifyBoData, hb]
    have hentry : registryOf (modifyBoData e.bo f { p with calls := calls }) fd
        = some (viewOf e { b with data := b.data.map f } (f d)) :=
      registryOf_entry he hb' (by simp [hd])
    exact hentry
  · rw [Function.update_of_ne hfd]
    exact (Frame.of_modify calls he).registryOf_eq hp hfd

/-- An entry is released with its object. -/
theorem ProcInv.registryOf_freed (hp : ProcInv p) {e : AndroidBuffer}
    (he : findBufferK fd p.table = some e) {heap : Finset Nat} {cs : List ExtCall} :
    registryOf { p with
      table := Keyed.remove AndroidBuffer.addr e.addr p.table
      bos := Function.update p.bos e.bo none
      heap := heap
      calls := cs } = Function.update (registryOf p) fd none := by
  funext fd'
  by_cases hfd : fd' = fd
  · rw [hfd, Function.update_self]
    exact registryOf_none (Keyed.lookup_remove_self hp.keys he)
  · rw [Function.update_of_ne hfd]
    have hkeep : findBufferK fd' (Keyed.remove AndroidBuffer.addr e.addr p.table)
        = findBufferK fd' p.table := Keyed.lookup_remove_found hp.addrs he hfd
    unfold registryOf
    rw [hkeep]
    cases he' : findBufferK fd' p.table with
    | none => rfl
    | some e' =>
      have hbo : Function.update p.bos e.bo none e'.bo = p.bos e'.bo :=
        Function.update_of_ne (hp.bo_ne hfd he he') _ _
      simp only [Option.bind_some, hbo]

end

/-! ## The calls

  For every call, its outcomes are taken one by one, as `Effects` and `MapperState` list them,
  and each is matched with a case of `RegistryStep`.  An answer is matched with the answer. -/

section

variable {cfg : BuildConfig} {env : Env} {m : Mapper} {h : NativeHandle}

/-- A handle that goes to the GBM backend names the buffer under its descriptor, -/
theorem Registry.named_gbm {r : Registry} (hgbm : routedTo (grallocHandle h) = .mapperGrallocGbm) :
    r.named (some h) = r (keyOf h) := if_pos hgbm

/-- and one that does not names none. -/
theorem Registry.named_other {r : Registry} (hgbm : routedTo (grallocHandle h) ≠ .mapperGrallocGbm) :
    r.named (some h) = none := if_neg hgbm

/-- There are two backends. -/
theorem routedTo_dmabuf (hgbm : routedTo (grallocHandle h) ≠ .mapperGrallocGbm) :
    routedTo (grallocHandle h) = .mapperGrallocDmabuf := by
  cases hb : routedTo (grallocHandle h) with
  | mapperGrallocGbm => exact absurd hb hgbm
  | mapperGrallocDmabuf => rfl

/-- Readying a backend changes no buffer. -/
theorem registryOf_readied (env : Env) (h : NativeHandle) (p : Proc) :
    registryOf (readied env h p) = registryOf p :=
  registryOf_of_same (readied_frame env h p 0).table (readied_quiet env h p).bos

/-- A step within the frame of a key that has no entry. -/
theorem Frame.registryOf_of_none {fd : Int} {p p' : Proc} (hf : Frame fd p p') (hp : ProcInv p)
    (hnone : findBufferK fd p.table = none) : registryOf p' = registryOf p := by
  funext fd'
  by_cases hfd : fd' = fd
  · rw [hfd, registryOf_none hnone, registryOf_none (by rw [hf.table]; exact hnone)]
  · exact hf.registryOf_eq hp hfd

/-- The registry after an import into the GBM backend. -/
theorem ProcInv.registryOf_imported {p p' : Proc} (hp : ProcInv p) {orig c : NativeHandle}
    (hc : CloneOf orig p c) (h0 : 0 < orig.numFds)
    (hi : Imported cfg p c .mapperGrallocGbm p') :
    registryOf p (keyOf c) = none ∧ ∃ id layout, registryOf p'
      = Function.update (registryOf p) (keyOf c) (some (freshView cfg (grallocHandle c) id layout)) := by
  have hmem : c.data 0 ∈ c.fds := data_zero_mem_fds (by rw [hc.numFds]; exact h0)
  -- the key is a descriptor that was not open, so it has no entry
  have hfresh : ∀ e ∈ p.table, e.fd ≠ keyOf c := by
    intro e he heq
    have hopen := hp.key_open e he
    rw [heq] at hopen
    exact (hc.fresh _ hmem).2 hopen
  refine ⟨registryOf_none (Keyed.lookup_eq_none.mpr hfresh), ?_⟩
  cases hi with
  | gbm layout heap cs =>
    refine ⟨p.next + 6, layout, ?_⟩
    funext fd
    by_cases hfd : fd = keyOf c
    · rw [hfd, Function.update_self]
      have hentry : findBufferK (keyOf c) (⟨p.next + 6, c.data 0, p.next + 2⟩ :: p.table)
          = some ⟨p.next + 6, c.data 0, p.next + 2⟩ := by
        rw [findBufferK, Keyed.lookup_cons]
        exact if_pos rfl
      refine (registryOf_entry (b := importedBo cfg (grallocHandle c) layout (p.next + 3))
        (d := zeroBoData (p.next + 3)) hentry ?_ rfl).trans rfl
      exact Function.update_self ..
    · rw [Function.update_of_ne hfd]
      have hother : findBufferK fd (⟨p.next + 6, c.data 0, p.next + 2⟩ :: p.table)
          = findBufferK fd p.table := by
        rw [findBufferK, Keyed.lookup_cons]
        exact if_neg fun heq => hfd heq.symm
      unfold registryOf
      rw [hother]
      cases he : findBufferK fd p.table with
      | none => rfl
      | some e =>
        have hlt := (hp.bo_lt e.bo (hp.alive e (Keyed.mem_of_lookup he))).2
        have hne : e.bo ≠ p.next + 2 := by omega
        simp only [Option.bind_some, Function.update_of_ne hne]

/-- **Import.**  Refused, or the buffer of another backend, or one that is new to the registry. -/
theorem importBuffer_registryStep (handle : Option NativeHandle) (hm : MapState m.proc) :
    RegistryStep cfg (registryOf m.proc) (.buffer (.importBuffer handle))
      (answerOf cfg env m (.buffer (.importBuffer handle)))
      (registryOf (m.importBuffer cfg env handle).2.proc) := by
  cases handle with
  | none => exact .importRefused none .badBuffer (by decide)
  | some h =>
    have hinv := hm.inv.readied env h
    rcases Mapper.importBuffer_cases cfg env h hm.inv with
      ⟨-, hr⟩ | ⟨-, -, hr, n, cs, -, hp⟩ | ⟨htaken, -, c, hr, hc, hi⟩
    · simp only [answerOf, hr]
      exact .importRefused _ .badBuffer (by decide)
    · have hsame : registryOf (m.importBuffer cfg env (some h)).2.proc = registryOf m.proc := by
        rw [hp]
        exact registryOf_readied env h m.proc
      rw [hsame]
      simp only [answerOf, hr]
      exact .importRefused _ .noResources (by decide)
    · simp only [answerOf, hr]
      by_cases hgbm : routedTo (grallocHandle h) = .mapperGrallocGbm
      · rw [hgbm] at hi
        obtain ⟨hnew, id, layout, heq⟩ :=
          hinv.registryOf_imported hc (hc.numFds_pos htaken.1) hi
        rw [registryOf_readied] at hnew heq
        rw [heq]
        exact .importGbm h c id layout hgbm hnew
      · rw [routedTo_dmabuf hgbm] at hi
        have hsame : registryOf (m.importBuffer cfg env (some h)).2.proc = registryOf m.proc := by
          rw [← registryOf_readied env h m.proc]
          generalize (m.importBuffer cfg env (some h)).2.proc = p' at hi
          cases hi with
          | dmabuf t cs => rfl
        rw [hsame]
        exact .importOther h c hgbm

/-- **Free.**  The buffer of the handle goes, or there was none. -/
theorem freeBuffer_registryStep (buffer : Option NativeHandle) (hm : MapState m.proc) :
    RegistryStep cfg (registryOf m.proc) (.buffer (.freeBuffer buffer))
      (answerOf cfg env m (.buffer (.freeBuffer buffer)))
      (registryOf (m.freeBuffer env buffer).2.proc) := by
  cases buffer with
  | none => exact .freeNothing none _ rfl
  | some h =>
    have hinv := hm.inv.readied env h
    rcases Mapper.freeBuffer_cases env h hm.inv with
      ⟨hstill, hgone⟩ | ⟨e, heap, cs, hgbm, hfind, hr, hp⟩
    · by_cases hgbm : routedTo (grallocHandle h) = .mapperGrallocGbm
      · have hnone : findBufferK (grallocHandle h).primeFd m.proc.table = none := by
          cases hready : isGrallocGbmReady m.proc with
          | true =>
            rw [← (readied_frame env h m.proc 0).table]
            exact (hgone hgbm hready).2
          | false =>
            -- a driver that is not ready has no buffers
            have hempty : m.proc.table = [] := by
              by_contra hne
              have hready' := hm.inv.ready hne
              rw [hready] at hready'
              cases hready'
            rw [hempty]
            rfl
        have hsame : registryOf (m.freeBuffer env (some h)).2.proc = registryOf m.proc := by
          rw [← registryOf_readied env h m.proc]
          exact hstill.1.registryOf_of_none hinv
            (by rw [(readied_frame env h m.proc 0).table]; exact hnone)
        rw [hsame]
        refine .freeNothing (some h) _ ?_
        rw [Registry.named_gbm hgbm]
        exact registryOf_none hnone
      · have hsame : registryOf (m.freeBuffer env (some h)).2.proc = registryOf m.proc := by
          rw [← registryOf_readied env h m.proc]
          refine registryOf_of_frames (fun fd => ?_) hinv
          refine Mapper.withBackend_proc (Q := Frame fd (readied env h m.proc)) .refl ?_
          rw [routedTo_dmabuf hgbm]
          exact (MapperBackendDmaBuf.freeBuffer_still env h _ fd).1
        rw [hsame]
        exact .freeNothing (some h) _ (Registry.named_other hgbm)
    · obtain ⟨b, d, -, -, -, hv⟩ := hinv.registryOf_eq_some hfind
      rw [registryOf_readied] at hv
      have heq : registryOf (m.freeBuffer env (some h)).2.proc
          = Function.update (registryOf m.proc) (keyOf h) none := by
        rw [hp, hinv.registryOf_freed hfind, registryOf_readied]
        rfl
      rw [heq]
      simp only [answerOf, hr]
      exact .free h (viewOf e b d) ((Registry.named_gbm hgbm).trans hv)

/-- What is done to the lock of the buffer `h` names, which has the entry `e`. -/
theorem lock_registryStep_of_entry (cpuUsage : UInt64) (h0 : cpuUsage ≠ 0) (hm : MapState m.proc)
    (hgbm : routedTo (grallocHandle h) = .mapperGrallocGbm) {e : AndroidBuffer}
    (hfind : findBufferK (grallocHandle h).primeFd m.proc.table = some e) :
    RegistryStep cfg (registryOf m.proc) (.buffer (.lock (some h) cpuUsage))
      (answerOf cfg env m (.buffer (.lock (some h) cpuUsage)))
      (registryOf (m.lock env (some h) cpuUsage).2.proc) := by
  have hready := hm.inv.ready (List.ne_nil_of_mem (Keyed.mem_of_lookup hfind))
  obtain ⟨b, d, hb, hbd, hd, hv⟩ := hm.inv.registryOf_eq_some hfind
  have hok := hm.maps.lib.lock_ok e.bo d hd
  have hn : (registryOf m.proc).named (some h) = some (viewOf e b d) :=
    (Registry.named_gbm hgbm).trans hv
  have hlock := Mapper.lock_gbm env h0 hgbm hready
  have heq := grallocGbmAndroidBufferLock_eq env cpuUsage.toUInt32 hm.inv.lockable hfind hd
  simp only [answerOf, hlock]
  by_cases hpass : PassesUsageChecks (grallocHandle h).usage cpuUsage.toUInt32
  swap
  · rw [if_neg fun hadm => hpass hadm.1] at heq
    rw [heq]
    exact .lockRefused h cpuUsage _ _ _ (by simp [statusOfRet]) hn (.inl (.inr hpass))
  have hadmitted : ¬ LockRejected h cpuUsage := not_or.mpr ⟨h0, not_not.mpr hpass⟩
  by_cases hcompat : d.lockCount = 0 ∨ d.lockedFor &&& cpuUsage.toUInt32 = cpuUsage.toUInt32
  swap
  · rw [if_neg fun hadm => hcompat hadm.2] at heq
    rw [heq]
    exact .lockRefused h cpuUsage _ _ _ (by simp [statusOfRet]) hn
      (.inr (hok.grant_refused (.inl hcompat)))
  rw [if_pos ⟨hpass, hcompat⟩] at heq
  by_cases hmask : (cpuUsage.toUInt32 ||| d.lockedFor) &&& cpuAccessMask = 0
  · rw [if_pos hmask] at heq
    obtain ⟨hg, haddr⟩ := hok.grant_unmapped hcompat hmask none
    have hstep : RegistryStep cfg (registryOf m.proc) (.buffer (.lock (some h) cpuUsage)) _ _ :=
      .lock h cpuUsage (viewOf e b d) none _ hn hadmitted hg
    rw [haddr] at hstep
    rw [heq]
    have hreg := hm.inv.registryOf_modify hfind hb hbd
      (lockedData (cpuUsage.toUInt32 ||| d.lockedFor)) m.proc.calls
    exact hreg.symm ▸ hstep
  rw [if_neg hmask] at heq
  by_cases hmapped : d.mapData.isSome = true
  · rw [if_pos hmapped] at heq
    rw [heq]
    exact .lockRefused h cpuUsage _ _ _ (by simp [statusOfRet]) hn
      (.inr (hok.grant_refused (.inr hmapped)))
  rw [if_neg hmapped] at heq
  obtain ⟨hsome, hnone⟩ := hok.grant_mapped hcompat hmask (Option.not_isSome_iff_eq_none.mp hmapped)
  cases ha : env.boMap m.proc.calls.length with
  | none =>
    simp only [ha, Option.elim_none] at heq
    rw [heq]
    exact .lockRefused h cpuUsage _ _ _ (by simp [statusOfRet]) hn (.inr hnone)
  | some a =>
    simp only [ha, Option.elim_some] at heq
    obtain ⟨hg, haddr⟩ := hsome a
    have hstep : RegistryStep cfg (registryOf m.proc) (.buffer (.lock (some h) cpuUsage)) _ _ :=
      .lock h cpuUsage (viewOf e b d) (some a) _ hn hadmitted hg
    rw [haddr] at hstep
    rw [heq]
    have hreg := hm.inv.registryOf_modify hfind hb hbd
      (fun d' => lockedData (cpuUsage.toUInt32 ||| d.lockedFor) { d' with mapData := some a })
      (.boMap e.bo (transferFlags ((cpuUsage.toUInt32 ||| d.lockedFor) &&&
        grallocUsageSwWriteMask != 0)) (some a) :: m.proc.calls)
    exact hreg.symm ▸ hstep

/-- **Lock.**  Each outcome of the code is one of the `Hold`, or a refusal with its reason. -/
theorem lock_registryStep (buffer : Option NativeHandle) (cpuUsage : UInt64) (hm : MapState m.proc) :
    RegistryStep cfg (registryOf m.proc) (.buffer (.lock buffer cpuUsage))
      (answerOf cfg env m (.buffer (.lock buffer cpuUsage)))
      (registryOf (m.lock env buffer cpuUsage).2.proc) := by
  cases buffer with
  | none => exact .lockNothing none _ (some .badBuffer) _ (by decide) rfl
  | some h =>
    by_cases h0 : cpuUsage = 0
    · have hlock : m.lock env (some h) cpuUsage = ((some .badValue, none), m) := if_pos h0
      simp only [answerOf, hlock]
      cases hn : (registryOf m.proc).named (some h) with
      | none => exact .lockNothing _ _ _ _ (by decide) hn
      | some v => exact .lockRefused h cpuUsage v _ _ (by decide) hn (.inl (.inl h0))
    by_cases hgbm : routedTo (grallocHandle h) = .mapperGrallocGbm
    · cases hfind : findBufferK (grallocHandle h).primeFd m.proc.table with
      | some e => exact lock_registryStep_of_entry cpuUsage h0 hm hgbm hfind
      | none =>
        have hsame : registryOf (m.lock env (some h) cpuUsage).2.proc = registryOf m.proc := by
          rw [← registryOf_readied env h m.proc]
          exact (Mapper.lock_still env h cpuUsage h0 hm.inv).1.registryOf_of_none
            (hm.inv.readied env h) (by rw [(readied_frame env h m.proc 0).table]; exact hfind)
        rw [hsame]
        exact .lockNothing _ _ _ _ (Mapper.lock_unmanaged hm.inv hgbm hfind)
          ((Registry.named_gbm hgbm).trans (registryOf_none hfind))
    · have hsame : registryOf (m.lock env (some h) cpuUsage).2.proc = registryOf m.proc := by
        rw [← registryOf_readied env h m.proc]
        refine registryOf_of_frames (fun fd => ?_) (hm.inv.readied env h)
        have hlock : m.lock env (some h) cpuUsage = m.withBackend env h (some .noResources, none) _ :=
          if_neg h0
        rw [hlock]
        refine Mapper.withBackend_proc (Q := Frame fd (readied env h m.proc)) .refl ?_
        rw [routedTo_dmabuf hgbm]
        exact (MapperBackendDmaBuf.lock_still env h cpuUsage _ fd).1
      rw [hsame]
      exact .lockOther h cpuUsage _ _ hgbm

/-- No entry, no unlock. -/
theorem Mapper.unlock_unmanaged (hgbm : routedTo (grallocHandle h) = .mapperGrallocGbm)
    (hfind : findBufferK (grallocHandle h).primeFd m.proc.table = none) :
    (m.unlock env (some h)).1 = some .noResources := by
  unfold Mapper.unlock
  dsimp only
  cases hok : ((routedTo (grallocHandle h)).ensureReady env m.proc).1 with
  | false => rw [Mapper.withBackend_failed hok]
  | true =>
    rw [Mapper.withBackend_ready hok]
    have htable : (readied env h m.proc).table = m.proc.table := (readied_frame env h m.proc 0).table
    simp only [GrallocGbm.readied, hgbm] at htable ⊢
    unfold grallocGbmAndroidBufferUnlock
    rw [htable, hfind]
    rfl

/-- **Unlock.**  What is done to the fields is a release of the `Hold`, also where nobody holds it.
    -/
theorem unlock_registryStep (buffer : Option NativeHandle) (hm : MapState m.proc) :
    RegistryStep cfg (registryOf m.proc) (.buffer (.unlock buffer))
      (answerOf cfg env m (.buffer (.unlock buffer)))
      (registryOf (m.unlock env buffer).2.proc) := by
  cases buffer with
  | none => exact .unlockNothing none (some .badBuffer) (by decide) rfl
  | some h =>
    have hinv := hm.inv.readied env h
    by_cases hgbm : routedTo (grallocHandle h) = .mapperGrallocGbm
    swap
    · have hsame : registryOf (m.unlock env (some h)).2.proc = registryOf m.proc := by
        rw [← registryOf_readied env h m.proc]
        refine registryOf_of_frames (fun fd => ?_) hinv
        refine Mapper.withBackend_proc (Q := Frame fd (readied env h m.proc)) .refl ?_
        rw [routedTo_dmabuf hgbm]
        exact (MapperBackendDmaBuf.unlock_still h _ fd).1
      rw [hsame]
      exact .unlockOther h _ hgbm
    cases hfind : findBufferK (grallocHandle h).primeFd m.proc.table with
    | none =>
      have hsame : registryOf (m.unlock env (some h)).2.proc = registryOf m.proc := by
        rw [← registryOf_readied env h m.proc]
        exact (Mapper.unlock_still env h m).1.registryOf_of_none hinv
          (by rw [(readied_frame env h m.proc 0).table]; exact hfind)
      rw [hsame]
      refine .unlockNothing _ _ ?_ ((Registry.named_gbm hgbm).trans (registryOf_none hfind))
      rw [Mapper.unlock_unmanaged hgbm hfind]
      decide
    | some e =>
      have hready := hm.inv.ready (List.ne_nil_of_mem (Keyed.mem_of_lookup hfind))
      obtain ⟨b, d, hb, hbd, hd, hv⟩ := hm.inv.registryOf_eq_some hfind
      obtain ⟨hidle, hmapped, hshared⟩ := (hm.maps.lib.lock_ok e.bo d hd).release_hold
      have hstep : RegistryStep cfg (registryOf m.proc) (.buffer (.unlock (some h))) _ _ :=
        .unlock h (viewOf e b d) ((Registry.named_gbm hgbm).trans hv)
      have hunlock : m.unlock env (some h)
          = (statusOfRet (grallocGbmAndroidBufferUnlock h m.proc).1,
            ⟨(grallocGbmAndroidBufferUnlock h m.proc).2, some .mapperGrallocGbm⟩) := by
        unfold Mapper.unlock
        dsimp only
        rw [Mapper.withBackend_gbm hgbm hready]
      have h0 := (hm.inv.exists_object (Keyed.mem_of_lookup hfind)).1
      have heq := grallocGbmAndroidBufferUnlock_eq hfind h0 hd
      simp only [answerOf, hunlock]
      by_cases hcount : d.lockCount = 0
      · rw [if_pos hcount] at heq
        rw [heq]
        have hreg : Function.update (registryOf m.proc) (keyOf h)
            (some { viewOf e b d with hold := (viewOf e b d).hold.release }) = registryOf m.proc := by
          rw [show (viewOf e b d).hold.release = (viewOf e b d).hold from hidle hcount]
          show Function.update (registryOf m.proc) (keyOf h) (some (viewOf e b d)) = registryOf m.proc
          rw [← show registryOf m.proc (keyOf h) = some (viewOf e b d) from hv, Function.update_eq_self]
        rw [hreg] at hstep
        exact hstep
      rw [if_neg hcount] at heq
      by_cases hmask : d.lockedFor &&& cpuAccessMask ≠ 0
      · rw [if_pos hmask] at heq
        rw [heq]
        have hreg := hm.inv.registryOf_modify hfind hb hbd
          (fun d => unlockedData { d with mapData := none }) (.boUnmap e.bo :: m.proc.calls)
        have hhold : viewOf e b (unlockedData { d with mapData := none })
            = { viewOf e b d with hold := (viewOf e b d).hold.release } := by
          show { viewOf e b d with hold := holdOf (unlockedData { d with mapData := none }) } = _
          rw [hmapped hmask]
          rfl
        rw [hhold] at hreg
        exact hreg.symm ▸ hstep
      · rw [if_neg hmask] at heq
        rw [heq]
        have hreg := hm.inv.registryOf_modify hfind hb hbd unlockedData m.proc.calls
        have hhold : viewOf e b (unlockedData d)
            = { viewOf e b d with hold := (viewOf e b d).hold.release } := by
          show { viewOf e b d with hold := holdOf (unlockedData d) } = _
          rw [hshared hcount (not_not.mp hmask)]
          rfl
        rw [hhold] at hreg
        exact hreg.symm ▸ hstep

/-- A read of a type without a name gives nothing. -/
theorem getStandardMetadata_unknown (type : StandardMetadataType) (hk : type.isKnown = false)
    (hgbm : routedTo (grallocHandle h) = .mapperGrallocGbm)
    (hready : isGrallocGbmReady m.proc = true) :
    (m.getStandardMetadata env (some h) type).1.2 = none := by
  rw [(Mapper.getStandardMetadata_gbm type hgbm hready).1,
    MapperBackendGrallocGbm.getStandardMetadata, provideStandardMetadata, hk]
  rfl

/-- **Read.**  The query computes from the object and the handle what the registry does. -/
theorem getStandardMetadata_registryStep (buffer : Option NativeHandle) (type : StandardMetadataType)
    (hm : MapState m.proc) :
    RegistryStep cfg (registryOf m.proc) (.getStandardMetadata buffer type)
      (answerOf cfg env m (.getStandardMetadata buffer type))
      (registryOf (m.getStandardMetadata env buffer type).2.proc) := by
  cases buffer with
  | none => exact .readNothing none type _ rfl
  | some h =>
    have hsame : registryOf (m.getStandardMetadata env (some h) type).2.proc = registryOf m.proc := by
      rw [← registryOf_readied env h m.proc]
      exact registryOf_of_frames (Mapper.getStandardMetadata_frame env h type hm.inv)
        (hm.inv.readied env h)
    rw [hsame]
    cases hn : (registryOf m.proc).named (some h) with
    | none => exact .readNothing _ type _ hn
    | some v =>
      by_cases hgbm : routedTo (grallocHandle h) = .mapperGrallocGbm
      swap
      · rw [Registry.named_other hgbm] at hn
        cases hn
      rw [Registry.named_gbm hgbm] at hn
      cases hfind : findBufferK (grallocHandle h).primeFd m.proc.table with
      | none =>
        rw [show registryOf m.proc (keyOf h) = none from registryOf_none hfind] at hn
        cases hn
      | some e =>
        have hready := hm.inv.ready (List.ne_nil_of_mem (Keyed.mem_of_lookup hfind))
        obtain ⟨b, d, hb, hbd, -, hv⟩ := hm.inv.registryOf_eq_some hfind
        rw [show registryOf m.proc (keyOf h) = some (viewOf e b d) from hv] at hn
        cases hn
        have hvalue : (m.getStandardMetadata env (some h) type).1.2
            = (viewOf e b d).read (grallocHandle h) type := by
          unfold BufferView.read
          cases hk : type.isKnown with
          | false => exact getStandardMetadata_unknown type hk hgbm hready
          | true =>
            obtain ⟨fd, hread⟩ := getStandardMetadata_value env type hk hm.inv hgbm hfind hb hbd
            rw [hread]
            refine congrArg _ (funext fun stride => ?_)
            rw [gbmMetadataValue_view]
        simp only [answerOf, hvalue]
        exact .read h type _ ((Registry.named_gbm hgbm).trans hv)

/-- **Set.**  Refused for want of memory or for its type, or done to the metadata of the one buffer.
    -/
theorem setStandardMetadata_registryStep (buffer : Option NativeHandle) (type : StandardMetadataType)
    (metadata : Payload) (hm : MapState m.proc) :
    RegistryStep cfg (registryOf m.proc) (.setStandardMetadata buffer type metadata)
      (answerOf cfg env m (.setStandardMetadata buffer type metadata))
      (registryOf (m.setStandardMetadata env buffer type metadata).2.proc) := by
  cases buffer with
  | none => exact .setRefused none type metadata (some .badBuffer) (by decide)
  | some h =>
    have hreadied := registryOf_readied env h m.proc
    have hinv := hm.inv.readied env h
    obtain ⟨heap, n, hs, hn⟩ := stageMetadata_spec type metadata (withRecord (readied env h m.proc))
    have hstaged : registryOf (stageMetadata type metadata (withRecord (readied env h m.proc))).2
        = registryOf m.proc := by
      rw [hs, ← hreadied]
      rfl
    rcases Mapper.setStandardMetadata_cases env h type metadata (m := m) with
      ⟨-, hr, hp | hp⟩ | ⟨-, -, hr, hp⟩ | ⟨-, staged, hst, ⟨hdma, hr, hp⟩ | ⟨hgbm, hok, hp⟩⟩
    · rw [hp, hreadied]
      simp only [answerOf, hr]
      exact .setRefused _ type metadata _ (by decide)
    · rw [hp, show registryOf (withoutRecord (readied env h m.proc)) = registryOf m.proc from hreadied]
      simp only [answerOf, hr]
      exact .setRefused _ type metadata _ (by decide)
    · rw [hp, hstaged]
      simp only [answerOf, hr]
      exact .setRefused _ type metadata _ (by decide)
    · rw [hp, hstaged]
      exact .setOther h type metadata _ (by rw [hdma]; decide)
    · have hinv' : ProcInv (stageMetadata type metadata (withRecord (readied env h m.proc))).2 := by
        rw [hs]
        exact hinv.of_same rfl rfl rfl (le_trans (Nat.le_succ _) hn) subset_rfl id
      rcases MapperBackendGrallocGbm.setStandardMetadata_cases h type staged hinv'.user_data with
        ⟨hne, hsame, -⟩ | ⟨e, hfind, hset⟩
      · rw [hp, hsame, hstaged]
        exact .setRefused _ type metadata _ fun heq => hne (hok.mp heq)
      · have haccepts : acceptsPayload type metadata = true := by
          rw [← stageMetadata_accepts type metadata (withRecord (readied env h m.proc)), hst]
          rfl
        obtain ⟨b, d, hb, hbd, -, hv⟩ := hinv'.registryOf_eq_some hfind
        have hreg := hinv'.registryOf_modify hfind hb hbd
          (fun d => { d with metadata := storeMetadata type staged d.metadata })
          (stageMetadata type metadata (withRecord (readied env h m.proc))).2.calls
        have hmetadata : viewOf e b { d with metadata := storeMetadata type staged d.metadata }
            = { viewOf e b d with metadata := (viewOf e b d).metadata.set type metadata } := by
          show { viewOf e b d with metadata := metadataViewOf (storeMetadata type staged d.metadata) } = _
          rw [metadataViewOf_store hst]
          rfl
        rw [hmetadata, hstaged] at hreg
        rw [hstaged] at hv
        have hstep : RegistryStep cfg (registryOf m.proc)
            (.setStandardMetadata (some h) type metadata) _ _ :=
          .set h type metadata (viewOf e b d) ((Registry.named_gbm hgbm).trans hv) haccepts
        have hstatus := hok.mpr (by rw [hset])
        rw [hp, hset]
        simp only [answerOf, hstatus]
        exact hreg.symm ▸ hstep

end

/-- **The step of the refinement.** -/
theorem MapState.registryStep (cfg : BuildConfig) (env : Env) {m : Mapper} (hm : MapState m.proc)
    (op : MapperOp) :
    RegistryStep cfg (registryOf m.proc) op (answerOf cfg env m op)
      (registryOf (mapperStep cfg env m op).proc) := by
  cases op with
  | buffer op =>
    cases op with
    | importBuffer handle => exact importBuffer_registryStep handle hm
    | freeBuffer buffer => exact freeBuffer_registryStep buffer hm
    | lock buffer cpuUsage => exact lock_registryStep buffer cpuUsage hm
    | unlock buffer => exact unlock_registryStep buffer hm
  | getStandardMetadata buffer type => exact getStandardMetadata_registryStep buffer type hm
  | setStandardMetadata buffer type metadata =>
    exact setStandardMetadata_registryStep buffer type metadata hm

/-- **The mapper is a registry of buffers.**  It starts empty, and after any calls with any handles
    and any answers of the outside, the next call does to it what a registry may do, and answers
    accordingly.  The count of a lock has no bound here; in the source it is an `int`. -/
theorem mapperRun_registryStep (cfg : BuildConfig) (env : Env) (ops : List MapperOp) (op : MapperOp) :
    registryOf Mapper.start.proc = (fun _ => none) ∧
      RegistryStep cfg (registryOf (mapperRun cfg env ops).proc) op
        (answerOf cfg env (mapperRun cfg env ops) op)
        (registryOf (mapperStep cfg env (mapperRun cfg env ops) op).proc) :=
  ⟨rfl, (mapperRun_mapState cfg env ops).registryStep cfg env op⟩

end GrallocGbm
