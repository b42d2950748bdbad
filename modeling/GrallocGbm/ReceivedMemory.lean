/-
  Whose memory does a client see?

  A client process gets native handles from elsewhere: the kernel installs descriptors for memory
  that some other process has allocated.  The client imports such a handle, closes it, and works
  with the clone that the import has handed out.  All the mapper knows of the memory is the number
  of a descriptor, and numbers are used again.

  1. **The log** — what each descriptor and each object stands for and what each CPU mapping shows
     follows from the calls that were made (`ExtCall.event`, `sightAfter`); the state of the mapper
     has none of it.  So what is said about memory is said of the calls the code makes, in their
     order, and cannot be read into the tables.

  2. **The client** — `Client` is a process with the mapper in it, `ClientOp` what it may do: it is
     sent a descriptor, closes one that it was sent, or makes any call of the mapper with any
     handle. `Client.Allows` has the kernel's promise that a number which is sent is free, the
     client's that it closes nothing that is not its own, and for frees of DMA-BUF records that they
     keep their keys, for past one that does not the record is not the program's any more
     (`RecordRelease`).

  3. **The crux** — `SightOk`: the object of an entry stands for what the descriptor of the entry
     stands for, and the mapping kept in a record shows it.  It holds because the key is a
     descriptor that the mapper has made for itself and that nobody closes: `Spared` says of every
     call that it leaves alone the descriptors that are open and the objects that stay in the table.

  `clientRun_lock_shows` is the result: an address that a client gets from a lock of a clone shows
  the memory that the handle stood for when it was imported, whatever has happened in between.  A
  lock need not give an address: a lock for a use without CPU access is granted without one.
-/
import GrallocGbm.DmaRecords
import GrallocGbm.Lib.Views
import GrallocGbm.LockAddresses

namespace GrallocGbm

open Views

/-! ## What the calls mean

  A call on record is translated into an event of the library of views: a descriptor that comes
  to stand for what another one stands for, an object made of a descriptor, a mapping of an
  object or of a descriptor.  Calls that do neither have no event. -/

/-- What a call does to descriptors, objects and mappings, if it does anything. -/
def ExtCall.event : ExtCall → Option (Event Int Nat Nat)
  | .openRenderNode (some fd) => some (.opened fd)
  | .allocSystem _ (some fd) => some (.opened fd)
  | .dup fd (some d) => some (.copied fd d)
  | .boGetFd bo (some fd) => some (.exported bo fd)
  | .boCreate _ _ _ _ (some bo) => some (.created bo)
  | .boImport data _ (some bo) => some (.imported data.fd bo)
  | .boDestroy bo => some (.released bo)
  | .mmap fd (some a) => some (.viewedName fd a)
  | .boMap bo _ (some a) => some (.viewedObject bo a)
  | .boUnmap bo => some (.unviewed bo)
  | _ => none

/-- The events of some calls, newest first. -/
def eventsOf (calls : List ExtCall) : List (Event Int Nat Nat) := calls.filterMap ExtCall.event

/-- The calls from `p` to `p'`. -/
def newCalls (p p' : Proc) : List ExtCall := p'.calls.take (p'.calls.length - p.calls.length)

/-- The calls that stand in front of those of before. -/
theorem newCalls_eq {p p' : Proc} {cs : List ExtCall} (h : p'.calls = cs ++ p.calls) :
    newCalls p p' = cs := by
  rw [newCalls, h, List.length_append, Nat.add_sub_cancel, List.take_left]

/-! ## What a call of the mapper spares

  `Spared T p p'` is what the invariant needs to know of a stretch of calls: it takes no open
  descriptor for a new one, and leaves the objects `T` what they are.  Every call of the mapper
  is one such stretch, with the objects of the table as `T`. -/

/-- From `p` to `p'` calls are added that open only descriptors that were not open, and that spare the
    objects `T`. -/
def Spared (T : Nat → Prop) (p p' : Proc) : Prop :=
  ∃ cs, p'.calls = cs ++ p.calls ∧ ∀ e ∈ eventsOf cs, e.Spares (· ∈ p.fds) T

section

variable {T : Nat → Prop} {p p' p'' : Proc}

/-- No call was made. -/
theorem Spared.of_calls (h : p'.calls = p.calls) : Spared T p p' :=
  ⟨[], h, fun _ he => by cases he⟩

/-- Nothing was done. -/
theorem Spared.refl : Spared T p p := .of_calls rfl

/-- Two stretches, in the second of which the descriptors of the first are open still. -/
theorem Spared.trans (h : Spared T p p') (hfds : p.fds ⊆ p'.fds) (h' : Spared T p' p'') :
    Spared T p p'' := by
  obtain ⟨cs, hcs, hs⟩ := h
  obtain ⟨cs', hcs', hs'⟩ := h'
  refine ⟨cs' ++ cs, by rw [hcs', hcs, List.append_assoc], fun e he => ?_⟩
  rw [eventsOf, List.filterMap_append, List.mem_append] at he
  rcases he with he | he
  · exact (hs' e he).mono (fun _ hmem => hfds hmem) fun _ ho => ho
  · exact hs e he

/-- Fewer objects to spare. -/
theorem Spared.mono {T' : Nat → Prop} (h : Spared T' p p') (hT : ∀ bo, T bo → T' bo) :
    Spared T p p' := by
  obtain ⟨cs, hcs, hs⟩ := h
  exact ⟨cs, hcs, fun e he => (hs e he).mono (fun _ hk => hk) hT⟩

/-- One call. -/
theorem Spared.call {c : ExtCall} (h : p'.calls = c :: p.calls)
    (hc : ∀ e, c.event = some e → e.Spares (· ∈ p.fds) T) : Spared T p p' := by
  refine ⟨[c], h, fun e he => ?_⟩
  obtain ⟨c', hc', hevent⟩ := List.mem_filterMap.mp he
  obtain rfl := List.mem_singleton.mp hc'
  exact hc e hevent

/-- A call that means nothing here. -/
theorem Spared.silent {c : ExtCall} (h : p'.calls = c :: p.calls) (hc : c.event = none) :
    Spared T p p' :=
  .call h fun e he => by rw [hc] at he; cases he

end

/-- An initialisation opens one descriptor, which was not open. -/
theorem grallocGbmInit_spared (T : Nat → Prop) (env : Env) (p : Proc) :
    Spared T p (grallocGbmInit env p).2 := by
  unfold grallocGbmInit callocChecked openFd
  cases isGrallocGbmReady p with
  | true => exact .refl
  | false =>
    simp only [Bool.false_eq_true, if_false]
    cases env.alloc p.calls.length with
    | false => exact .silent rfl rfl
    | true =>
      simp only [if_true]
      cases hf : env.newFd (ExtCall.alloc true :: p.calls).length p.fds with
      | none => exact ⟨[.openRenderNode none, .alloc true], rfl, fun e he => by cases he⟩
      | some fd =>
        have hfresh := (env.newFd_fresh _ _ _ hf).2
        have hnode : ∀ ok, ∀ e ∈ eventsOf [.createDevice ok, .openRenderNode (some fd), .alloc true],
            e.Spares (· ∈ p.fds) T := by
          intro ok e he
          obtain rfl := List.mem_singleton.mp he
          exact hfresh
        simp only [addFd]
        split
        · exact ⟨_, rfl, hnode _⟩
        · exact ⟨_, rfl, hnode _⟩

/-- So does readying a backend, at most. -/
theorem readied_spared (T : Nat → Prop) (env : Env) (h : NativeHandle) (p : Proc) :
    Spared T p (readied env h p) := by
  unfold readied MapperBackendType.ensureReady
  cases routedTo (grallocHandle h) with
  | mapperGrallocGbm =>
    simp only [MapperBackendType.isReady, MapperBackendType.init]
    cases isGrallocGbmReady p with
    | true => exact .refl
    | false => exact grallocGbmInit_spared T env p
  | mapperGrallocDmabuf =>
    simp only [MapperBackendType.isReady, MapperBackendType.init, MapperBackendDmaBuf.isReady]
    cases p.dmaAllocator with
    | false => exact .of_calls rfl
    | true =>
      cases env.heapListEmpty p.calls.length <;> exact .silent rfl rfl

section

variable (env : Env) (h : NativeHandle) {m : Mapper}

/-- What is spared after the backend has been readied, is spared by the call. -/
theorem Spared.after_readied {T : Nat → Prop} {p p' : Proc} (hs : Spared T (readied env h p) p') :
    Spared T p p' :=
  (readied_spared T env h p).trans (readied_frame env h p 0).fds_sub hs

/-- A lock makes no object, and if a backend is readied for it, what that opens was not open. -/
theorem Mapper.lock_spared (T : Nat → Prop) (cpuUsage : UInt64) (hp : ProcInv m.proc) :
    Spared T m.proc (m.lock env (some h) cpuUsage).2.proc := by
  apply Mapper.lock_proc env h cpuUsage (fun _ => .refl) (readied_spared T env h m.proc)
  · apply Spared.after_readied env h
    rcases grallocGbmAndroidBufferLock_cases env h cpuUsage.toUInt32 (hp.readied env h).user_data with
      ⟨ret, hr, -⟩ | ⟨e, d, -, -, -, -, ⟨-, hr⟩ | ⟨-, -, transfer, hr | ⟨a, hr⟩⟩⟩
    · rw [hr]
      exact .refl
    · rw [hr]
      exact .of_calls rfl
    · rw [hr]
      exact .silent rfl rfl
    · rw [hr]
      refine .call rfl fun e he => ?_
      obtain rfl := Option.some.inj he
      trivial
  · apply Spared.after_readied env h
    rcases MapperBackendDmaBuf.lock_cases env h cpuUsage (readied env h m.proc) with
      ⟨-, hr⟩ | ⟨r, -, ⟨-, hr⟩ | ⟨a, q, hq, hr⟩⟩
    · rw [hr]
      exact .refl
    · rw [hr]
      exact .silent rfl rfl
    -- the mapping, if there is none yet, and the start of the access, if it is granted
    have hmap : Spared T (readied env h m.proc) q ∧ (readied env h m.proc).fds ⊆ q.fds := by
      rcases hq with ⟨-, rfl⟩ | ⟨-, rfl⟩
      · exact ⟨.refl, subset_rfl⟩
      · refine ⟨.call rfl fun e he => ?_, subset_rfl⟩
        obtain rfl := Option.some.inj he
        trivial
    rcases hr with ⟨-, hr⟩ | ⟨-, hr⟩ <;> rw [hr]
    · exact hmap.1
    · exact hmap.1.trans hmap.2 (.silent rfl rfl)

/-- Nor does an unlock. -/
theorem Mapper.unlock_spared (T : Nat → Prop) (m : Mapper) :
    Spared T m.proc (m.unlock env (some h)).2.proc := by
  apply Mapper.unlock_proc env h (readied_spared T env h m.proc)
  · apply Spared.after_readied env h
    rcases grallocGbmAndroidBufferUnlock_cases h (readied env h m.proc) with
      hr | ⟨e, d, -, -, -, ⟨-, hr⟩ | ⟨-, hr⟩⟩
    · rw [hr]
      exact .refl
    · rw [hr]
      refine .call rfl fun e he => ?_
      obtain rfl := Option.some.inj he
      trivial
    · rw [hr]
      exact .of_calls rfl
  · apply Spared.after_readied env h
    unfold MapperBackendDmaBuf.unlock
    dsimp only
    split
    · exact .refl
    · exact .silent rfl rfl

/-- A read opens a descriptor that was not open. -/
theorem Mapper.getStandardMetadata_spared (T : Nat → Prop) (type : StandardMetadataType)
    (hp : ProcInv m.proc) : Spared T m.proc (m.getStandardMetadata env (some h) type).2.proc := by
  rcases Mapper.getStandardMetadata_leaves env h type hp with hr | ⟨bo, hr⟩ <;> rw [hr]
  · exact readied_spared T env h m.proc
  apply Spared.after_readied env h
  unfold gbmBoGetFd openFd
  refine .call rfl fun e he => ?_
  cases hfd : env.newFd (readied env h m.proc).calls.length (readied env h m.proc).fds with
  | none =>
    rw [hfd] at he
    cases he
  | some fd =>
    rw [hfd] at he
    obtain rfl := Option.some.inj he
    exact (env.newFd_fresh _ _ _ hfd).2

/-- A set makes no object either. -/
theorem Mapper.setStandardMetadata_spared (T : Nat → Prop) (type : StandardMetadataType)
    (payload : Payload) (hp : ProcInv m.proc) :
    Spared T m.proc (m.setStandardMetadata env (some h) type payload).2.proc := by
  refine Mapper.setStandardMetadata_proc env h type payload (fun heap n cs _ hcs => ?_)
    (fun data q hq hs => ?_) hp
  · apply Spared.after_readied env h
    rcases hcs with rfl | ⟨ok, rfl⟩
    · exact .of_calls rfl
    · exact .silent rfl rfl
  · rcases MapperBackendGrallocGbm.setStandardMetadata_cases h type data hq with
      ⟨-, hr, -⟩ | ⟨e, -, hr⟩
    · rw [hr]
      exact hs
    · obtain ⟨cs, hcs, hcs'⟩ := hs
      rw [hr]
      exact ⟨cs, hcs, hcs'⟩

end

/-! ### Free

  A free destroys the object of its entry.  No other entry has that object, so the ones that are
  still in the table are spared. -/

/-- Is `bo` the object of an entry? -/
def InTable (p : Proc) (bo : Nat) : Prop := ∃ e ∈ p.table, e.bo = bo

/-- A free releases no object that is still in the table. -/
theorem Mapper.freeBuffer_spared (env : Env) (h : NativeHandle) {m : Mapper} (hp : ProcInv m.proc) :
    Spared (InTable (m.freeBuffer env (some h)).2.proc) m.proc (m.freeBuffer env (some h)).2.proc := by
  have hinv : ProcInv (readied env h m.proc) := hp.readied env h
  refine Mapper.withBackend_proc
    (Q := fun q => Spared (InTable q) m.proc q) (readied_spared _ env h m.proc) ?_
  dsimp only
  cases routedTo (grallocHandle h) with
  | mapperGrallocDmabuf =>
    dsimp only
    apply Spared.after_readied env h
    rcases MapperBackendDmaBuf.freeBuffer_cases env h (readied env h m.proc) with
      ⟨-, hr⟩ | ⟨r, -, hr⟩ <;> rw [hr] <;> exact .of_calls rfl
  | mapperGrallocGbm =>
    dsimp only
    apply Spared.after_readied env h
    rcases grallocGbmAndroidBufferFree_cases h (readied env h m.proc) with
      ⟨-, hr⟩ | ⟨-, -, hr⟩ | ⟨e, -, -, -, hr⟩ | ⟨e, b, -, hfind, hb, hr⟩
    · rw [hr]
      exact .refl
    · rw [hr]
      exact .refl
    · rw [hr]
      exact .refl
    obtain ⟨heap, hd⟩ := gbmBoDestroy_eq e.bo b (readied env h m.proc)
    rw [hr, hd]
    refine .call rfl fun ev hev => ?_
    obtain rfl := Option.some.inj hev
    -- the object was in one entry only, and that is gone
    rintro ⟨x, hx, hbo⟩
    obtain ⟨hmem, hne⟩ := Keyed.mem_remove.mp hx
    have heq := Keyed.eq_of_key_eq hinv.objects hmem (Keyed.mem_of_lookup hfind) hbo
    exact hne (by rw [heq])

/-! ### Import

  The one call that makes something.  The clone's first descriptor is a duplicate of the handle's
  first; the GBM backend then makes an object of the word that it takes for the descriptor,
  which is the same word. -/

/-- The duplicates were not open before. -/
theorem dupAll_spared (T : Nat → Prop) (env : Env) (l : List Int) (p : Proc) :
    Spared T p (dupAll env l p).2 := by
  induction l generalizing p with
  | nil => exact .refl
  | cons fd l ih =>
    unfold dupAll
    rcases dupFd_cases env fd p with hno | ⟨d, -, hnew, hyes⟩
    · rw [hno]
      exact .silent rfl rfl
    · have hdup : Spared T p { p with fds := insert d p.fds, calls := .dup fd (some d) :: p.calls } :=
        .call rfl fun e he => by
          obtain rfl := Option.some.inj he
          exact (env.newFd_fresh _ _ _ hnew).2
      rw [hyes]
      dsimp only
      have hrest := hdup.trans (Finset.subset_insert d p.fds) (ih _)
      cases hr : dupAll env l { p with fds := insert d p.fds, calls := .dup fd (some d) :: p.calls } with
      | mk ds q =>
        rw [hr] at hrest
        cases ds with
        | none =>
          obtain ⟨cs, hcs, hs⟩ := hrest
          exact ⟨cs, hcs, hs⟩
        | some ds => exact hrest

/-- The first duplicate stands for what the first descriptor stands for. -/
theorem dupAll_names {μ : Type} {env : Env} {fd d : Int} {l ds : List Int} {p q : Proc}
    (h : dupAll env (fd :: l) p = (some (d :: ds), q)) :
    ∃ cs, q.calls = cs ++ p.calls ∧
      ∀ s : Sight Int Nat Nat μ, (s.run (eventsOf cs)).names d = s.names fd := by
  unfold dupAll at h
  rcases dupFd_cases env fd p with hno | ⟨x, -, -, hyes⟩
  · rw [hno] at h
    cases h
  · rw [hyes] at h
    dsimp only at h
    obtain ⟨cs, hcs, hs⟩ := dupAll_spared (fun _ => False) env l
      { p with fds := insert x p.fds, calls := .dup fd (some x) :: p.calls }
    cases hr : dupAll env l { p with fds := insert x p.fds, calls := .dup fd (some x) :: p.calls } with
    | mk ds' q' =>
      rw [hr] at h hcs
      cases ds' with
      | none => simp at h
      | some ds' =>
        simp only [Prod.mk.injEq, Option.some.injEq, List.cons.injEq] at h
        obtain ⟨⟨rfl, rfl⟩, rfl⟩ := h
        refine ⟨cs ++ [.dup fd (some x)], by rw [hcs, List.append_assoc]; rfl, fun s => ?_⟩
        rw [eventsOf, List.filterMap_append, Sight.run_append]
        have hkeep := Sight.run_keeps (s.run (eventsOf [.dup fd (some x)])) hs
        rw [← eventsOf, ← eventsOf, hkeep.names x (Finset.mem_insert_self x p.fds)]
        exact Function.update_self _ _ _

/-- So the descriptors of a clone were not. -/
theorem nativeHandleClone_spared (T : Nat → Prop) (env : Env) (h : NativeHandle) (p : Proc) :
    Spared T p (nativeHandleClone env h p).2 := by
  unfold nativeHandleClone nativeHandleCreate callocChecked
  split
  · rename_i q heq
    split at heq
    · obtain rfl := (Prod.mk.inj heq).2
      exact .refl
    cases ha : env.alloc p.calls.length with
    | false =>
      simp only [ha, Bool.false_eq_true, if_false] at heq
      obtain rfl := (Prod.mk.inj heq).2
      exact .silent rfl rfl
    | true => simp [ha] at heq
  · rename_i c q heq
    split at heq
    · cases heq
    cases ha : env.alloc p.calls.length with
    | false => simp [ha] at heq
    | true =>
      simp only [ha, if_true] at heq
      obtain ⟨-, rfl⟩ := Prod.mk.inj heq
      have hcreate : Spared T p { p with
          next := p.next + 1
          calls := .alloc true :: p.calls
          handles := insert p.next p.handles } := .silent rfl rfl
      have hall := hcreate.trans subset_rfl (dupAll_spared T env h.fds _)
      split
      · rename_i q' hq'
        rw [hq'] at hall
        obtain ⟨cs, hcs, hs⟩ := hall
        exact ⟨cs, hcs, hs⟩
      · rename_i ds q' hq'
        rw [hq'] at hall
        exact hall

/-- A handle with descriptors has a first one. -/
theorem NativeHandle.fds_cons {h : NativeHandle} (h0 : 0 < h.numFds) :
    ∃ l, h.fds = h.data 0 :: l := by
  obtain ⟨n, hn⟩ : ∃ n, h.numFds.toNat = n + 1 := ⟨h.numFds.toNat - 1, by omega⟩
  rw [NativeHandle.fds, hn, List.range_succ_eq_map]
  exact ⟨_, rfl⟩

/-- The first descriptor of a clone stands for what that of the handle stands for. -/
theorem nativeHandleClone_names {μ : Type} {env : Env} {h c : NativeHandle} {p q : Proc}
    (h0 : 0 < h.numFds) (hc : nativeHandleClone env h p = (some c, q)) :
    ∃ cs, q.calls = cs ++ p.calls ∧
      ∀ s : Sight Int Nat Nat μ, (s.run (eventsOf cs)).names (c.data 0) = s.names (h.data 0) := by
  unfold nativeHandleClone nativeHandleCreate callocChecked at hc
  split at hc
  · cases hc
  rename_i c' q' heq
  split at heq
  · cases heq
  cases ha : env.alloc p.calls.length with
  | false => simp [ha] at heq
  | true =>
    simp only [ha, if_true] at heq
    obtain ⟨-, rfl⟩ := Prod.mk.inj heq
    obtain ⟨l, hl⟩ := NativeHandle.fds_cons h0
    split at hc
    · cases hc
    rename_i ds q'' hdup
    obtain ⟨hdata, rfl⟩ := Prod.mk.inj hc
    obtain rfl := Option.some.inj hdata
    cases ds with
    | nil =>
      rcases dupAll_spec env h.fds _ with ⟨ds, cs, hspec, hlen, -⟩ | ⟨cs, hspec⟩
      · rw [hspec] at hdup
        obtain rfl := Option.some.inj (Prod.mk.inj hdup).1
        rw [hl] at hlen
        cases hlen
      · rw [hspec] at hdup
        cases hdup
    | cons d ds =>
      rw [hl] at hdup
      obtain ⟨cs, hcs, hs⟩ := dupAll_names (μ := μ) hdup
      refine ⟨cs ++ [.alloc true], by rw [hcs, List.append_assoc]; rfl, fun s => ?_⟩
      rw [eventsOf, List.filterMap_append, Sight.run_append]
      exact hs s

section

variable (cfg : BuildConfig) (env : Env) (h : NativeHandle)

/-- An import makes no object that was there before. -/
theorem importClone_spared (backend : MapperBackendType) {p : Proc} (hp : ProcInv p) :
    Spared (InTable p) p (importClone cfg env h backend p).2 := by
  have hclone := nativeHandleClone_spared (InTable p) env h p
  have hfds : p.fds ⊆ (nativeHandleClone env h p).2.fds ∧ p.next ≤ (nativeHandleClone env h p).2.next := by
    rcases nativeHandleClone_spec env h hp.handle_lt with ⟨c, cs, hc, -⟩ | ⟨n, cs, hc, hn⟩ <;> rw [hc]
    · exact ⟨Finset.subset_union_left, Nat.le_succ _⟩
    · exact ⟨subset_rfl, hn⟩
  unfold importClone
  cases hr : nativeHandleClone env h p with
  | mk c q =>
    rw [hr] at hclone hfds
    cases c with
    | none => exact hclone
    | some c =>
      -- a clone that is given up again leaves the log as it is
      have hend : ∀ r : Int × Proc, Spared (InTable p) q r.2 → Spared (InTable p) p
          (if r.1 ≠ 0 then (((.noResources, none) : AIMapperError × Option NativeHandle),
              nativeHandleDelete c (nativeHandleClose c r.2))
            else ((.none, some c), r.2)).2 := by
        intro r hr
        obtain ⟨cs, hcs, hs⟩ := hclone.trans hfds.1 hr
        by_cases h0 : r.1 ≠ 0
        · rw [if_pos h0]
          exact ⟨cs, hcs, hs⟩
        · rw [if_neg h0]
          exact ⟨cs, hcs, hs⟩
      cases backend with
      | mapperGrallocDmabuf =>
        refine hend (MapperBackendDmaBuf.importBuffer c q) ?_
        obtain ⟨t, hi⟩ := MapperBackendDmaBuf.importBuffer_spec c q
        rw [hi]
        exact .of_calls rfl
      | mapperGrallocGbm =>
        refine hend (grallocGbmAndroidBufferImport cfg env c q) ?_
        rcases grallocGbmAndroidBufferImport_cases cfg env c q with
          ⟨-, hi⟩ | ⟨-, -, hi⟩ | ⟨-, -, -, hi⟩ | ⟨layout, -, -, -, hi⟩ <;> rw [hi]
        · exact .refl
        · exact .silent rfl rfl
        · exact ⟨[_, _], rfl, fun e he => by cases he⟩
        · refine ⟨[_, _], rfl, fun e he => ?_⟩
          obtain rfl := List.mem_singleton.mp he
          rintro ⟨x, hx, hbo⟩
          have hlt := (hp.bo_lt x.bo (hp.alive x hx)).2
          have hle : p.next ≤ q.next := hfds.2
          omega

/-- What an import makes of a handle stands for what the handle stood for: the first descriptor of
    the clone, and the object that a GBM import has made of it. -/
theorem importClone_sight {μ : Type} {backend : MapperBackendType} {p : Proc} {c : NativeHandle}
    (h0 : 0 < h.numFds) (hp : ProcInv p)
    (hc : (importClone cfg env h backend p).1 = (.none, some c)) :
    ∃ cs, (importClone cfg env h backend p).2.calls = cs ++ p.calls ∧
      ∀ s : Sight Int Nat Nat μ, let s' := s.run (eventsOf cs)
        s'.names (c.data 0) = s.names (h.data 0) ∧
          (backend = .mapperGrallocGbm → s'.objects (p.next + 2) = s.names (h.data 0)) := by
  unfold importClone at hc ⊢
  cases hr : nativeHandleClone env h p with
  | mk c' q =>
    cases c' with
    | none => simp [hr] at hc
    | some c' =>
    obtain ⟨cs, hcs, hs⟩ := nativeHandleClone_names (μ := μ) h0 hr
    have hnext : q.next = p.next + 1 := by
      rcases nativeHandleClone_spec env h hp.handle_lt with ⟨x, cs', hx, -⟩ | ⟨n, cs', hx, -⟩
      · rw [hx] at hr
        rw [← (Prod.mk.inj hr).2]
      · rw [hx] at hr
        cases hr
    cases backend with
    | mapperGrallocDmabuf =>
      obtain ⟨t, hi⟩ := MapperBackendDmaBuf.importBuffer_spec c' q
      simp only [hr, hi, ne_eq, not_true, if_false, Prod.mk.injEq, Option.some.injEq, true_and] at hc ⊢
      subst hc
      exact ⟨cs, hcs, fun s => ⟨hs s, fun hb => by cases hb⟩⟩
    | mapperGrallocGbm =>
      rcases grallocGbmAndroidBufferImport_cases cfg env c' q with
        ⟨-, hi⟩ | ⟨-, -, hi⟩ | ⟨-, -, -, hi⟩ | ⟨layout, -, -, -, hi⟩
      · simp [hr, hi, eNODEV] at hc
      · simp [hr, hi, eNOMEM] at hc
      · simp [hr, hi, eINVAL] at hc
      · simp only [hr, hi, ne_eq, not_true, if_false, Prod.mk.injEq, Option.some.injEq, true_and] at hc ⊢
        subst hc
        refine ⟨.boImport (importArgs cfg (grallocHandle c')).1 (importArgs cfg (grallocHandle c')).2
          (some (q.next + 1)) :: .alloc true :: cs, by rw [hcs]; rfl, fun s => ?_⟩
        show ((s.run (eventsOf cs)).apply (.imported (c'.data 0) (q.next + 1))).names _ = _ ∧ _
        refine ⟨hs s, fun _ => ?_⟩
        have hobject : ((s.run (eventsOf cs)).apply (.imported (c'.data 0) (q.next + 1))).objects
            (q.next + 1) = (s.run (eventsOf cs)).names (c'.data 0) := Function.update_self _ _ _
        have hbo : p.next + 2 = q.next + 1 := by omega
        rw [hbo]
        exact hobject.trans (hs s)

end

section

variable (cfg : BuildConfig) (env : Env) {m : Mapper}

/-- The whole import. -/
theorem Mapper.importBuffer_spared (h : NativeHandle) (hp : ProcInv m.proc) :
    Spared (InTable m.proc) m.proc (m.importBuffer cfg env (some h)).2.proc := by
  by_cases h0 : h.numFds = 0
  · have hr : m.importBuffer cfg env (some h) = ((.badBuffer, none), m) := if_pos h0
    rw [hr]
    exact .refl
  have hr : m.importBuffer cfg env (some h)
      = m.withBackend env h (.noResources, none) (importClone cfg env h) := if_neg h0
  rw [hr]
  apply Mapper.withBackend_proc (readied_spared _ env h m.proc)
  apply Spared.after_readied env h
  have hclone := importClone_spared cfg env h (routedTo (grallocHandle h)) (hp.readied env h)
  have htable : InTable (readied env h m.proc) = InTable m.proc := by
    funext bo
    rw [InTable, InTable, (readied_frame env h m.proc 0).table]
  rw [← htable]
  exact hclone

/-- **What a call of the mapper spares**: the open descriptors, and the objects that are in the table
    before it and after it. -/
theorem mapperStep_spared (op : MapperOp) (hp : ProcInv m.proc) :
    let p' := (mapperStep cfg env m op).proc
    Spared (fun bo => InTable m.proc bo ∧ InTable p' bo) m.proc p' := by
  have himport : ∀ h, Spared (InTable m.proc) m.proc (m.importBuffer cfg env (some h)).2.proc :=
    fun h => Mapper.importBuffer_spared cfg env h hp
  have hfree := fun h => Mapper.freeBuffer_spared env h hp
  intro p'
  cases op with
  | buffer op =>
    cases op with
    | importBuffer handle =>
      cases handle with
      | none => exact .refl
      | some h => exact (himport h).mono fun _ hbo => hbo.1
    | freeBuffer buffer =>
      cases buffer with
      | none => exact .refl
      | some h => exact (hfree h).mono fun _ hbo => hbo.2
    | lock buffer cpuUsage =>
      cases buffer with
      | none => exact .refl
      | some h => exact Mapper.lock_spared env h _ cpuUsage hp
    | unlock buffer =>
      cases buffer with
      | none => exact .refl
      | some h => exact Mapper.unlock_spared env h _ m
  | getStandardMetadata buffer type =>
    cases buffer with
    | none => exact .refl
    | some h => exact Mapper.getStandardMetadata_spared env h _ type hp
  | setStandardMetadata buffer type metadata =>
    cases buffer with
    | none => exact .refl
    | some h => exact Mapper.setStandardMetadata_spared env h _ type metadata hp

end

/-! ## What a call adds to the tables

  The mappings of the DMA-BUF backend are in its records.  A record that shows an address after a
  call, and did not before, got it from a call on record in between. -/

/-- Where the calls say what a record of `p'` is mapped at, they say it of a descriptor of `p`. -/
def MapsNoted (p p' : Proc) : Prop :=
  ∀ r ∈ p'.importedBufferTable, ∀ a, r.mapped = some a → r ∈ p.importedBufferTable ∨
    (r.primeFd ∈ p.fds ∧ .viewedName r.primeFd a ∈ eventsOf (newCalls p p'))

/-- Records that were there were mapped then. -/
theorem MapsNoted.of_sub {p p' : Proc} (h : ∀ r ∈ p'.importedBufferTable, r ∈ p.importedBufferTable) :
    MapsNoted p p' := fun r hr _ _ => .inl (h r hr)

/-- The same records. -/
theorem MapsNoted.of_same {p p' : Proc} (h : p'.importedBufferTable = p.importedBufferTable) :
    MapsNoted p p' := .of_sub fun _ hr => h ▸ hr

section

variable (cfg : BuildConfig) (env : Env) (h : NativeHandle) {m : Mapper}

/-- A lock maps at most the record it finds, whose descriptor is open. -/
theorem Mapper.lock_mapsNoted (cpuUsage : UInt64) (hp : ProcInv m.proc) (hopen : RecordsOpen m.proc) :
    MapsNoted m.proc (m.lock env (some h) cpuUsage).2.proc := by
  have hsame : MapsNoted m.proc (readied env h m.proc) := .of_same (readied_records env h m.proc)
  apply Mapper.lock_proc env h cpuUsage (fun _ => .of_same rfl) hsame
  · rcases grallocGbmAndroidBufferLock_cases env h cpuUsage.toUInt32 (hp.readied env h).user_data with
      ⟨ret, hr, -⟩ | ⟨e, d, -, -, -, -, ⟨-, hr⟩ | ⟨-, -, transfer, hr | ⟨a, hr⟩⟩⟩ <;> rw [hr] <;>
      exact .of_same (readied_records env h m.proc)
  rcases MapperBackendDmaBuf.lock_cases env h cpuUsage (readied env h m.proc) with
    ⟨-, hr⟩ | ⟨r, hfind, ⟨-, hr⟩ | ⟨a, q, hq, hr⟩⟩
  · rw [hr]
    exact hsame
  · rw [hr]
    exact .of_same (readied_records env h m.proc)
  -- the table and the log are those of `q`, up to the start of the access
  have hend : ∃ cs, (MapperBackendDmaBuf.lock env h cpuUsage (readied env h m.proc)).2.2.calls
        = cs ++ q.calls ∧
      (MapperBackendDmaBuf.lock env h cpuUsage (readied env h m.proc)).2.2.importedBufferTable
        = q.importedBufferTable := by
    rcases hr with ⟨-, hr⟩ | ⟨-, hr⟩ <;> rw [hr]
    · exact ⟨[], rfl, rfl⟩
    · exact ⟨[_], rfl, rfl⟩
  obtain ⟨cs, hcs, htable⟩ := hend
  obtain ⟨cs', hcs', -⟩ := readied_spared (fun _ => True) env h m.proc
  rcases hq with ⟨-, rfl⟩ | ⟨-, rfl⟩
  · exact .of_same (htable.trans (readied_records env h m.proc))
  intro r' hr' a' ha'
  rw [htable] at hr'
  obtain ⟨r0, hr0, heq⟩ := List.mem_map.mp hr'
  by_cases hkey : r0.primeFd = r.primeFd
  · rw [if_pos hkey] at heq
    subst heq
    obtain rfl := Option.some.inj ha'
    refine .inr ⟨hopen r0 (readied_records env h m.proc ▸ hr0), ?_⟩
    have hnew : newCalls m.proc
        (MapperBackendDmaBuf.lock env h cpuUsage (readied env h m.proc)).2.2
        = cs ++ .mmap r.primeFd (some a) :: cs' :=
      newCalls_eq (by rw [hcs, hcs']; simp)
    rw [hnew]
    refine List.mem_filterMap.mpr ⟨.mmap r.primeFd (some a), by simp, ?_⟩
    rw [ExtCall.event, hkey]
  · rw [if_neg hkey] at heq
    subst heq
    exact .inl (readied_records env h m.proc ▸ hr0)

/-- An unlock touches no record. -/
theorem Mapper.unlock_records (m : Mapper) :
    (m.unlock env (some h)).2.proc.importedBufferTable = m.proc.importedBufferTable := by
  apply Mapper.unlock_proc env h (Q := fun q => q.importedBufferTable = m.proc.importedBufferTable)
    (readied_records env h m.proc)
  · rcases grallocGbmAndroidBufferUnlock_cases h (readied env h m.proc) with
      hr | ⟨e, d, -, -, -, ⟨-, hr⟩ | ⟨-, hr⟩⟩ <;> rw [hr] <;> exact readied_records env h m.proc
  · unfold MapperBackendDmaBuf.unlock
    dsimp only
    split <;> exact readied_records env h m.proc

/-- Nor does a set. -/
theorem Mapper.setStandardMetadata_records (type : StandardMetadataType) (payload : Payload)
    (hp : ProcInv m.proc) :
    (m.setStandardMetadata env (some h) type payload).2.proc.importedBufferTable
      = m.proc.importedBufferTable := by
  refine Mapper.setStandardMetadata_proc env h type payload
    (Q := fun q => q.importedBufferTable = m.proc.importedBufferTable)
    (fun _ _ _ _ _ => readied_records env h m.proc) (fun data q hq hs => ?_) hp
  rcases MapperBackendGrallocGbm.setStandardMetadata_cases h type data hq with
    ⟨-, hr, -⟩ | ⟨e, -, hr⟩ <;> rw [hr] <;> exact hs

end

/-! ## A client

  A process does more than call its mapper: it is sent handles over binder, and closes what it
  was sent.  So its state has the mapper's process, what the descriptors, objects and mappings
  stand for, and the descriptors that it has been sent.  A free of a DMA-BUF record must find the
  record's key in the released block; that is the one thing that the environment could spoil. -/

/-- A process with the mapper in it: what its descriptors, objects and mappings are of, and which
    descriptors it has been sent and has not closed. -/
structure Client (μ : Type) where
  mapper : Mapper
  sight : Sight Int Nat Nat μ
  received : Finset Int

/-- What a client process does with handles. -/
inductive ClientOp (μ : Type) where
  /-- the kernel installs a descriptor of a handle that is sent -/
  | receive (fd : Int) (memory : μ)
  /-- the client closes it -/
  | close (fd : Int)
  | call (op : MapperOp)

namespace Client

variable {μ : Type}

/-- The process of the client. -/
def proc (c : Client μ) : Proc := c.mapper.proc

/-- A process that has just started. -/
def start : Client μ := ⟨Mapper.start, .blank, ∅⟩

/-- The mapper's process with other descriptors. -/
def withFds (fds : Finset Int) (m : Mapper) : Mapper := { m with proc := { m.proc with fds := fds } }

/-- What things stand for after the calls from `p` to `p'`; what is not open stands for nothing. -/
def sightAfter (s : Sight Int Nat Nat μ) (p p' : Proc) : Sight Int Nat Nat μ :=
  (s.run (eventsOf (newCalls p p'))).restrict (· ∈ p'.fds)

/-- What an operation does: to the process, to what its descriptors stand for, and to what it was
    sent. -/
def step (cfg : BuildConfig) (env : Env) (c : Client μ) : ClientOp μ → Client μ
  | .receive fd memory =>
    ⟨withFds (insert fd c.proc.fds) c.mapper, c.sight.receive fd memory, insert fd c.received⟩
  | .close fd =>
    ⟨withFds (c.proc.fds.erase fd) c.mapper, c.sight.restrict (· ∈ c.proc.fds.erase fd),
      c.received.erase fd⟩
  | .call op =>
    let m := mapperStep cfg env c.mapper op
    ⟨m, sightAfter c.sight c.proc m.proc, c.received⟩

/-- The kernel takes a number that is free, the client closes only what it has been sent, and a free
    of a DMA-BUF record finds its key in the released block. -/
def Allows (env : Env) (c : Client μ) : ClientOp μ → Prop
  | .receive fd _ => 0 ≤ fd ∧ fd ∉ c.proc.fds
  | .close fd => fd ∈ c.received
  | .call op => op.KeepsKey env c.mapper

instance (env : Env) (c : Client μ) : DecidablePred (c.Allows env)
  | .receive fd _ => inferInstanceAs (Decidable (0 ≤ fd ∧ fd ∉ c.proc.fds))
  | .close fd => inferInstanceAs (Decidable (fd ∈ c.received))
  | .call op => inferInstanceAs (Decidable (op.KeepsKey env c.mapper))

/-- One operation after another. -/
def run (cfg : BuildConfig) (env : Env) (c : Client μ) (ops : List (ClientOp μ)) : Client μ :=
  ops.foldl (step cfg env) c

/-- The run consists of what is allowed in the state it is done in. -/
def AllowsRun (cfg : BuildConfig) (env : Env) (c : Client μ) (ops : List (ClientOp μ)) : Prop :=
  Run.Along (step cfg env) (Allows env) c ops

/-- A descriptor of the process itself: open, and not one it has been sent. -/
def Own (c : Client μ) (fd : Int) : Prop := fd ∈ c.proc.fds ∧ fd ∉ c.received

end Client

/-- Objects stand for what the descriptor of their entry stands for, and the mapping in a record shows
    what its descriptor stands for. -/
structure SightOk {μ : Type} (s : Sight Int Nat Nat μ) (p : Proc) : Prop where
  objects : ∀ e ∈ p.table, s.objects e.bo = s.names e.fd
  mapped : ∀ r ∈ p.importedBufferTable, ∀ a, r.mapped = some a →
    ⟨.inl r.primeFd, a, s.names r.primeFd⟩ ∈ s.views

/-- What holds of a client in every state: its process is in order, the tables are about descriptors
    of its own, and `SightOk`. -/
structure Client.Ok {μ : Type} (c : Client μ) : Prop where
  inv : ProcInv c.proc
  records_open : RecordsOpen c.proc
  received_open : c.received ⊆ c.proc.fds
  /-- The keys are descriptors that the mapper has made. -/
  keys_own : ∀ e ∈ c.proc.table, e.fd ∉ c.received
  records_own : ∀ r ∈ c.proc.importedBufferTable, r.primeFd ∉ c.received
  /-- What stands for something is open. -/
  names_open : ∀ fd, c.sight.names fd ≠ none → fd ∈ c.proc.fds
  sight : SightOk c.sight c.proc

section

variable {μ : Type} {s s' : Sight Int Nat Nat μ} {p p' : Proc}

/-- What is kept of a process whose tables have lost at most some entries. -/
theorem SightOk.of_keeps {S : Int → Prop} {T : Nat → Prop} (h : SightOk s p) (hk : Keeps S T s s')
    (htable : ∀ e ∈ p'.table, e ∈ p.table ∧ S e.fd ∧ T e.bo)
    (hrecords : ∀ r ∈ p'.importedBufferTable, r ∈ p.importedBufferTable ∧ S r.primeFd) :
    SightOk s' p' where
  objects := by
    intro e he
    obtain ⟨hmem, hS, hT⟩ := htable e he
    rw [hk.objects e.bo hT, hk.names e.fd hS]
    exact h.objects e hmem
  mapped := by
    intro r hr a ha
    obtain ⟨hmem, hS⟩ := hrecords r hr
    rw [hk.names r.primeFd hS]
    exact hk.views _ (h.mapped r hmem a ha) r.primeFd rfl

/-- What the log of a call keeps. -/
theorem Spared.keeps {T : Nat → Prop} (h : Spared T p p') (hfds : p.fds ⊆ p'.fds)
    (s : Sight Int Nat Nat μ) :
    Keeps (· ∈ p.fds) T s (Client.sightAfter s p p') := by
  obtain ⟨cs, hcs, hs⟩ := h
  rw [Client.sightAfter, newCalls_eq hcs]
  exact (Sight.run_keeps s hs).trans (Sight.restrict_keeps _ fun k hk => hfds hk)

/-- A record that a call has mapped shows what its descriptor stands for. -/
theorem Spared.views {T : Nat → Prop} (h : Spared T p p') {fd : Int} {a : Nat} (hfd : fd ∈ p.fds)
    (hview : .viewedName fd a ∈ eventsOf (newCalls p p')) (s : Sight Int Nat Nat μ) :
    ⟨.inl fd, a, s.names fd⟩ ∈ (Client.sightAfter s p p').views := by
  obtain ⟨cs, hcs, hs⟩ := h
  rw [newCalls_eq hcs] at hview
  rw [Client.sightAfter, newCalls_eq hcs]
  exact Sight.run_views s (S := (· ∈ p.fds)) hfd hs hview

/-- **A call that adds no entry.** -/
theorem SightOk.of_call {T : Nat → Prop} (h : SightOk s p) (hp : ProcInv p) (hopen : RecordsOpen p)
    (hs : Spared T p p') (hfds : p.fds ⊆ p'.fds) (htable : ∀ e ∈ p'.table, e ∈ p.table)
    (hT : ∀ e ∈ p'.table, T e.bo) (hmaps : MapsNoted p p') :
    SightOk (Client.sightAfter s p p') p' where
  objects := by
    intro e he
    have hk := hs.keeps hfds s
    rw [hk.objects e.bo (hT e he), hk.names e.fd (hp.key_open e (htable e he))]
    exact h.objects e (htable e he)
  mapped := by
    intro r hr a ha
    have hk := hs.keeps hfds s
    rcases hmaps r hr a ha with hmem | ⟨hfd, hview⟩
    · rw [hk.names r.primeFd (hopen r hmem)]
      exact hk.views _ (h.mapped r hmem a ha) r.primeFd rfl
    · rw [hk.names r.primeFd hfd]
      exact hs.views hfd hview s

end

section

variable {μ : Type} (cfg : BuildConfig) (env : Env) {m : Mapper} {s : Sight Int Nat Nat μ}

/-- **What an import makes of a handle.**  The object stands for what the clone's first descriptor
    stands for, and that is what the handle's stood for, if it was open. -/
theorem Mapper.importBuffer_sight {h c : NativeHandle} (hp : ProcInv m.proc)
    (hc : (m.importBuffer cfg env (some h)).1 = (.none, some c)) :
    let s' := Client.sightAfter s m.proc (m.importBuffer cfg env (some h)).2.proc
    (h.data 0 ∈ m.proc.fds → s'.names (c.data 0) = s.names (h.data 0)) ∧
      (routedTo (grallocHandle h) = .mapperGrallocGbm →
        s'.objects ((readied env h m.proc).next + 2) = s'.names (c.data 0)) := by
  intro s'
  have h0 : h.numFds ≠ 0 := by
    intro h0
    have hr : m.importBuffer cfg env (some h) = ((.badBuffer, none), m) := if_pos h0
    rw [hr] at hc
    cases hc
  have hcall : m.importBuffer cfg env (some h)
      = m.withBackend env h (.noResources, none) (importClone cfg env h) := if_neg h0
  -- the clone's descriptors are open
  have hopen : 0 < h.numFds ∧ c.data 0 ∈ (m.importBuffer cfg env (some h)).2.proc.fds := by
    rcases Mapper.importBuffer_cases cfg env h hp with
      ⟨h0', -⟩ | ⟨-, -, hr, -⟩ | ⟨-, -, c', hr, hcl, hi⟩
    · exact absurd h0' h0
    · rw [hr] at hc
      cases hc
    · obtain rfl : c' = c := by simpa [hr] using hc
      have hpos := hcl.numFds_pos h0
      refine ⟨hpos, ?_⟩
      rw [hi.acquired.1]
      exact Finset.mem_union_right _
        (List.mem_toFinset.mpr (data_zero_mem_fds (by rw [hcl.numFds]; exact hpos)))
  cases hok : ((routedTo (grallocHandle h)).ensureReady env m.proc).1 with
  | false =>
    rw [hcall, Mapper.withBackend_failed hok] at hc
    cases hc
  | true =>
    have hwith : m.importBuffer cfg env (some h)
        = ((importClone cfg env h (routedTo (grallocHandle h)) (readied env h m.proc)).1,
          ⟨(importClone cfg env h (routedTo (grallocHandle h)) (readied env h m.proc)).2,
            some (routedTo (grallocHandle h))⟩) := by
      rw [hcall, Mapper.withBackend_ready hok]
      rfl
    have hfst : (importClone cfg env h (routedTo (grallocHandle h)) (readied env h m.proc)).1
        = (.none, some c) := by rw [← hc, hwith]
    obtain ⟨cs', hcs', hspare⟩ := readied_spared (fun _ => True) env h m.proc
    obtain ⟨cs, hcs, hs⟩ := importClone_sight cfg env h (μ := μ) hopen.1
      (hp.readied env h) hfst
    have hproc : (m.importBuffer cfg env (some h)).2.proc
        = (importClone cfg env h (routedTo (grallocHandle h)) (readied env h m.proc)).2 := by
      rw [hwith]
    have hrun : s' = ((s.run (eventsOf cs')).run (eventsOf cs)).restrict
        (· ∈ (m.importBuffer cfg env (some h)).2.proc.fds) := by
      have hnew : newCalls m.proc (m.importBuffer cfg env (some h)).2.proc = cs ++ cs' :=
        newCalls_eq (by rw [hproc, hcs, hcs', List.append_assoc])
      show Sight.restrict (s.run (eventsOf (newCalls _ _))) _ = _
      rw [hnew, eventsOf, List.filterMap_append, Sight.run_append]
      rfl
    obtain ⟨hname, hobject⟩ := hs (s.run (eventsOf cs'))
    have hkey : s'.names (c.data 0) = (s.run (eventsOf cs')).names (h.data 0) := by
      rw [hrun, ← hname]
      exact if_pos hopen.2
    refine ⟨fun hfd => ?_, fun hgbm => ?_⟩
    · rw [hkey]
      exact (Sight.run_keeps s hspare).names (h.data 0) hfd
    · rw [hkey, hrun]
      exact hobject hgbm

/-- An import keeps it: what is added stands for what its key stands for. -/
theorem Mapper.importBuffer_sightOk (h : NativeHandle) (hp : ProcInv m.proc)
    (hopen : RecordsOpen m.proc) (hs : SightOk s m.proc) :
    let p' := (m.importBuffer cfg env (some h)).2.proc
    SightOk (Client.sightAfter s m.proc p') p' := by
  intro p'
  have hspare := Mapper.importBuffer_spared cfg env h hp
  have hfds := Mapper.importBuffer_fds cfg env h hp
  have hkeep := hspare.keeps hfds s
  have htable : (readied env h m.proc).table = m.proc.table := (readied_frame env h m.proc 0).table
  constructor
  case objects =>
    have hold : ∀ e ∈ m.proc.table, (Client.sightAfter s m.proc p').objects e.bo
        = (Client.sightAfter s m.proc p').names e.fd := by
      intro e he
      rw [hkeep.objects e.bo ⟨e, he, rfl⟩, hkeep.names e.fd (hp.key_open e he)]
      exact hs.objects e he
    rcases Mapper.importBuffer_cases cfg env h hp with
      ⟨-, hr⟩ | ⟨-, -, -, n, cs, -, hr⟩ | ⟨-, -, c, hc, -, hi⟩
    · intro e he
      exact hold e (by simpa [p', hr] using he)
    · intro e he
      exact hold e (by simpa [p', hr, htable] using he)
    · have hnew := Mapper.importBuffer_sight (s := s) cfg env hp hc
      generalize hb : routedTo (grallocHandle h) = backend at hi hnew
      rw [show p' = (m.importBuffer cfg env (some h)).2.proc from rfl] at hold ⊢
      generalize (m.importBuffer cfg env (some h)).2.proc = q at hi hnew hold ⊢
      cases hi with
      | dmabuf t cs =>
        intro e he
        exact hold e (by simpa [htable] using he)
      | gbm layout heap cs =>
        intro e he
        rcases List.mem_cons.mp he with rfl | he
        · exact hnew.2 rfl
        · exact hold e (by rwa [htable] at he)
  case mapped =>
    have hold : ∀ r ∈ m.proc.importedBufferTable, ∀ a, r.mapped = some a →
        ⟨.inl r.primeFd, a, (Client.sightAfter s m.proc p').names r.primeFd⟩
          ∈ (Client.sightAfter s m.proc p').views := by
      intro r hr a ha
      rw [hkeep.names r.primeFd (hopen r hr)]
      exact hkeep.views _ (hs.mapped r hr a ha) r.primeFd rfl
    intro r hr a ha
    by_cases h0 : h.numFds = 0
    · have hnone : m.importBuffer cfg env (some h) = ((.badBuffer, none), m) := if_pos h0
      exact hold r (by simpa [p', hnone] using hr) a ha
    rcases Mapper.importBuffer_records cfg env h hp h0 hopen with ⟨hsame, -⟩ | ⟨-, c, -, -, -, hsome⟩
    · exact hold r (hsame ▸ hr) a ha
    · have hr' : r ∈ bufferInfoCreate ((readied env h m.proc).next + 1) c ::
          m.proc.importedBufferTable := hsome ▸ hr
      rcases List.mem_cons.mp hr' with rfl | hr'
      · cases ha
      · exact hold r hr' a ha

/-- No call but an import adds a record, and a record is mapped by a call that says so. -/
theorem mapperStep_mapsNoted (op : MapperOp) (hp : ProcInv m.proc) (hopen : RecordsOpen m.proc)
    (hop : ∀ h, op ≠ .buffer (.importBuffer (some h))) :
    MapsNoted m.proc (mapperStep cfg env m op).proc := by
  cases op with
  | buffer op =>
    cases op with
    | importBuffer handle =>
      cases handle with
      | none => exact .of_same rfl
      | some h => exact absurd rfl (hop h)
    | freeBuffer buffer =>
      cases buffer with
      | none => exact .of_same rfl
      | some h => exact .of_sub (Mapper.freeBuffer_records env h m)
    | lock buffer cpuUsage =>
      cases buffer with
      | none => exact .of_same rfl
      | some h => exact Mapper.lock_mapsNoted env h cpuUsage hp hopen
    | unlock buffer =>
      cases buffer with
      | none => exact .of_same rfl
      | some h => exact .of_same (Mapper.unlock_records env h m)
  | getStandardMetadata buffer type =>
    cases buffer with
    | none => exact .of_same rfl
    | some h => exact .of_same (Mapper.getStandardMetadata_quiet env h type hp).records
  | setStandardMetadata buffer type metadata =>
    cases buffer with
    | none => exact .of_same rfl
    | some h => exact .of_same (Mapper.setStandardMetadata_records env h type metadata hp)

/-- **Every call of the mapper keeps it.** -/
theorem mapperStep_sightOk (op : MapperOp) (hp : ProcInv m.proc) (hopen : RecordsOpen m.proc)
    (hs : SightOk s m.proc) :
    let p' := (mapperStep cfg env m op).proc
    SightOk (Client.sightAfter s m.proc p') p' := by
  by_cases hop : ∃ h, op = .buffer (.importBuffer (some h))
  · obtain ⟨h, rfl⟩ := hop
    exact Mapper.importBuffer_sightOk cfg env h hp hopen hs
  · have hno : ∀ h, op ≠ .buffer (.importBuffer (some h)) := fun h heq => hop ⟨h, heq⟩
    have htable := mapperStep_table cfg env op hp hno
    exact hs.of_call hp hopen (mapperStep_spared cfg env op hp) (mapperStep_fds cfg env op hp) htable
      (fun e he => ⟨⟨e, htable e he, rfl⟩, e, he, rfl⟩) (mapperStep_mapsNoted cfg env op hp hopen hno)

end

/-! ## What a lock shows

  A lock gives the address of a mapping, by either backend; what that mapping shows is read off
  the tables. -/

section

variable {μ : Type} (env : Env) {m : Mapper} {s : Sight Int Nat Nat μ}

/-- The DMA-BUF backend hands out the address in a record of the handle's descriptor. -/
theorem MapperBackendDmaBuf.lock_address {h : NativeHandle} {cpuUsage : UInt64} {p : Proc} {a : Nat}
    {rc : Int} (hr : (MapperBackendDmaBuf.lock env h cpuUsage p).2.1 = some a)
    (hrc : (MapperBackendDmaBuf.lock env h cpuUsage p).1 = rc) :
    ∃ r ∈ (MapperBackendDmaBuf.lock env h cpuUsage p).2.2.importedBufferTable,
      r.primeFd = (grallocHandle h).primeFd ∧ r.mapped = some a ∧
        ∃ r0 ∈ p.importedBufferTable, r0.primeFd = (grallocHandle h).primeFd := by
  rcases MapperBackendDmaBuf.lock_cases env h cpuUsage p with
    ⟨-, hl⟩ | ⟨r, hfind, ⟨-, hl⟩ | ⟨a', q, hq, ⟨-, hl⟩ | ⟨-, hl⟩⟩⟩
  · rw [hl] at hr
    cases hr
  · rw [hl] at hr
    cases hr
  · rw [hl] at hr
    cases hr
  rw [hl] at hr ⊢
  obtain rfl := Option.some.inj hr
  have hmem := Keyed.mem_of_lookup hfind
  have hkey := Keyed.key_of_lookup hfind
  rcases hq with ⟨hm, rfl⟩ | ⟨-, rfl⟩
  · exact ⟨r, hmem, hkey, hm, r, hmem, hkey⟩
  · exact ⟨{ r with mapped := some a' }, List.mem_map.mpr ⟨r, hmem, if_pos rfl⟩, hkey, rfl, r, hmem,
      hkey⟩

/-- **A lock shows what the descriptor stands for.** -/
theorem Mapper.lock_shows (cfg : BuildConfig) {h : NativeHandle} {cpuUsage : UInt64} {a : Nat} (hp : ProcInv m.proc)
    (hopen : RecordsOpen m.proc) (hs : SightOk s m.proc)
    (hlock : (m.lock env (some h) cpuUsage).1 = (some .none, some (some a))) :
    ∃ v ∈ (Client.sightAfter s m.proc (m.lock env (some h) cpuUsage).2.proc).views,
      v.addr = a ∧ v.shows = s.names (grallocHandle h).primeFd := by
  have hafter : let p' := (m.lock env (some h) cpuUsage).2.proc
      SightOk (Client.sightAfter s m.proc p') p' :=
    mapperStep_sightOk cfg env (.buffer (.lock (some h) cpuUsage)) hp hopen hs
  have hkeep := (Mapper.lock_spared env h (InTable m.proc) cpuUsage hp).keeps
    (mapperStep_fds cfg env (.buffer (.lock (some h) cpuUsage)) hp) s
  by_cases h0 : cpuUsage = 0
  · have hbad : m.lock env (some h) cpuUsage = ((some .badValue, none), m) := if_pos h0
    rw [hbad] at hlock
    cases hlock
  have hcall : m.lock env (some h) cpuUsage = m.withBackend env h (some .noResources, none) _ :=
    if_neg h0
  cases hok : ((routedTo (grallocHandle h)).ensureReady env m.proc).1 with
  | false =>
    rw [hcall, Mapper.withBackend_failed hok] at hlock
    cases hlock
  | true =>
  rw [Mapper.withBackend_ready hok] at hcall
  have hready : (MapperBackendType.ensureReady env (routedTo (grallocHandle h)) m.proc).2
      = readied env h m.proc := rfl
  rw [hready] at hcall
  generalize routedTo (grallocHandle h) = backend at hcall
  cases backend with
  | mapperGrallocDmabuf =>
    have hout : (MapperBackendDmaBuf.lock env h cpuUsage (readied env h m.proc)).2.1 = some a := by
      rw [hcall] at hlock
      obtain ⟨a', ha', heq⟩ := Option.map_eq_some_iff.mp (Prod.mk.inj hlock).2
      rw [ha', Option.some.inj heq]
    have hproc : (m.lock env (some h) cpuUsage).2.proc
        = (MapperBackendDmaBuf.lock env h cpuUsage (readied env h m.proc)).2.2 := by rw [hcall]
    obtain ⟨r, hr, hkey, ha, r0, hr0, hkey0⟩ := MapperBackendDmaBuf.lock_address env hout rfl
    rw [← hproc] at hr
    refine ⟨_, hafter.mapped r hr a ha, rfl, ?_⟩
    rw [← hkey]
    rw [readied_records] at hr0
    have hfd : r.primeFd ∈ m.proc.fds := by
      rw [hkey, ← hkey0]
      exact hopen r0 hr0
    exact hkeep.names r.primeFd hfd
  | mapperGrallocGbm =>
    have hlib : (grallocGbmAndroidBufferLock env h cpuUsage.toUInt32 (readied env h m.proc)).2.1
        = some (some a) := by
      rw [hcall] at hlock
      exact (Prod.mk.inj hlock).2
    have hproc : (m.lock env (some h) cpuUsage).2.proc
        = (grallocGbmAndroidBufferLock env h cpuUsage.toUInt32 (readied env h m.proc)).2.2 := by
      rw [hcall]
    rcases grallocGbmAndroidBufferLock_cases env h cpuUsage.toUInt32 (hp.readied env h).user_data with
      ⟨ret, hr, -⟩ | ⟨e, d, -, hfind, -, -, ⟨-, hr⟩ | ⟨-, -, transfer, hr | ⟨a', hr⟩⟩⟩
    · rw [hr] at hlib
      cases hlib
    · rw [hr] at hlib
      cases hlib
    · rw [hr] at hlib
      cases hlib
    -- the object has just been mapped
    rw [hr] at hlib hproc
    obtain rfl : a' = a := by simpa using hlib
    have hmem : e ∈ m.proc.table := by
      rw [← (readied_frame env h m.proc 0).table]
      exact Keyed.mem_of_lookup hfind
    obtain ⟨cs, hcs, hspare⟩ := readied_spared (InTable m.proc) env h m.proc
    have hnew : newCalls m.proc (m.lock env (some h) cpuUsage).2.proc
        = .boMap e.bo transfer (some a') :: cs := by
      apply newCalls_eq
      rw [hproc]
      show ExtCall.boMap e.bo transfer (some a') :: (readied env h m.proc).calls = _
      rw [hcs]
      rfl
    refine ⟨⟨.inr e.bo, a', (s.run (eventsOf cs)).objects e.bo⟩, ?_, rfl, ?_⟩
    · rw [Client.sightAfter, hnew]
      exact List.mem_cons_self
    · show (s.run (eventsOf cs)).objects e.bo = _
      rw [(Sight.run_keeps s hspare).objects e.bo ⟨e, hmem, rfl⟩, hs.objects e hmem,
        Keyed.key_of_lookup hfind]

end

/-! ## Runs of a client

  The step lemma has a case for each operation of the client, and the run lemma follows by
  induction on the operations.  The promise about a lock is of a run that ends with it. -/

namespace Client

variable {μ : Type} (cfg : BuildConfig) (env : Env) {c : Client μ}

/-- Nothing is open, and nothing is followed. -/
theorem Ok.start : (Client.start : Client μ).Ok where
  inv := .start
  records_open := fun r hr => by cases hr
  received_open := fun fd hfd => by cases hfd
  keys_own := fun e he => by cases he
  records_own := fun r hr => by cases hr
  names_open := fun fd hfd => absurd rfl hfd
  sight :=
    { objects := fun e he => by cases he
      mapped := fun r hr => by cases hr }

/-- The tables of `c` only have descriptors of the process itself. -/
theorem Ok.keys (h : c.Ok) : (∀ e ∈ c.proc.table, c.Own e.fd) ∧
    ∀ r ∈ c.proc.importedBufferTable, c.Own r.primeFd :=
  ⟨fun e he => ⟨h.inv.key_open e he, h.keys_own e he⟩,
    fun r hr => ⟨h.records_open r hr, h.records_own r hr⟩⟩

/-- Other descriptors, that the tables have nothing to do with. -/
theorem Ok.withFds (h : c.Ok) {fds received : Finset Int} {s : Sight Int Nat Nat μ}
    (hsub : received ⊆ fds) (hown : ∀ fd, c.Own fd → fd ∈ fds ∧ fd ∉ received)
    (hopen : ∀ fd, s.names fd ≠ none → fd ∈ fds) (hs : Keeps c.Own (fun _ => True) c.sight s) :
    (⟨Client.withFds fds c.mapper, s, received⟩ : Client μ).Ok where
  inv := h.inv.of_closed (fun e he => (hown e.fd (h.keys.1 e he)).1) subset_rfl rfl
  records_open := fun r hr => (hown r.primeFd (h.keys.2 r hr)).1
  received_open := hsub
  keys_own := fun e he => (hown e.fd (h.keys.1 e he)).2
  records_own := fun r hr => (hown r.primeFd (h.keys.2 r hr)).2
  names_open := hopen
  sight := h.sight.of_keeps hs (fun e he => ⟨he, h.keys.1 e he, trivial⟩)
    fun r hr => ⟨hr, h.keys.2 r hr⟩

/-- What is closed stands for nothing. -/
theorem restrict_open (s : Sight Int Nat Nat μ) (fds : Finset Int) (fd : Int)
    (h : (s.restrict (· ∈ fds)).names fd ≠ none) : fd ∈ fds := by
  by_contra hno
  exact h (if_neg hno)

/-- **Every step keeps the invariant, and what the process's own descriptors stand for.** -/
theorem Ok.step (h : c.Ok) {op : ClientOp μ} (hop : c.Allows env op) :
    (Client.step cfg env c op).Ok ∧ ∀ fd, c.Own fd → (Client.step cfg env c op).Own fd ∧
      (Client.step cfg env c op).sight.names fd = c.sight.names fd := by
  cases op with
  | receive fd memory =>
    have hown : ∀ k, c.Own k → k ∈ insert fd c.proc.fds ∧ k ∉ insert fd c.received := by
      intro k hk
      have hne : k ≠ fd := by
        rintro rfl
        exact hop.2 hk.1
      exact ⟨Finset.mem_insert_of_mem hk.1, by simp [hne, hk.2]⟩
    have hs : Keeps c.Own (fun _ => True) c.sight (c.sight.receive fd memory) :=
      Sight.receive_keeps _ (fun hk => hop.2 hk.1) memory
    have hopen : ∀ k, (c.sight.receive fd memory).names k ≠ none → k ∈ insert fd c.proc.fds := by
      intro k hk
      by_cases hne : k = fd
      · exact Finset.mem_insert.mpr (.inl hne)
      · refine Finset.mem_insert_of_mem (h.names_open k fun hnone => hk ?_)
        exact (Function.update_of_ne hne _ _).trans hnone
    exact ⟨h.withFds (Finset.insert_subset_insert fd h.received_open) hown hopen hs,
      fun k hk => ⟨hown k hk, hs.names k hk⟩⟩
  | close fd =>
    have hown : ∀ k, c.Own k → k ∈ c.proc.fds.erase fd ∧ k ∉ c.received.erase fd := by
      intro k hk
      have hne : k ≠ fd := by
        rintro rfl
        exact hk.2 hop
      exact ⟨Finset.mem_erase_of_ne_of_mem hne hk.1, fun hmem => hk.2 (Finset.mem_of_mem_erase hmem)⟩
    have hs : Keeps c.Own (fun _ => True) c.sight (c.sight.restrict (· ∈ c.proc.fds.erase fd)) :=
      Sight.restrict_keeps _ fun k hk => (hown k hk).1
    exact ⟨h.withFds (Finset.erase_subset_erase fd h.received_open) hown (restrict_open _ _) hs,
      fun k hk => ⟨hown k hk, hs.names k hk⟩⟩
  | call op =>
    have hfds := mapperStep_fds cfg env op h.inv
    have hkeep := (mapperStep_spared cfg env op h.inv).keeps hfds c.sight
    -- a key that is new was not open, so it has not been received
    have hnew : (∀ e ∈ (mapperStep cfg env c.mapper op).proc.table, e.fd ∉ c.received) ∧
        ∀ r ∈ (mapperStep cfg env c.mapper op).proc.importedBufferTable, r.primeFd ∉ c.received := by
      by_cases himport : ∃ x, op = .buffer (.importBuffer (some x))
      · obtain ⟨x, rfl⟩ := himport
        have hsub := (readied_frame env x c.proc 0).fds_sub
        constructor
        · intro e he
          have he' : e ∈ (c.mapper.importBuffer cfg env (some x)).2.proc.table := he
          have htable : (readied env x c.mapper.proc).table = c.mapper.proc.table :=
            (readied_frame env x c.proc 0).table
          rcases Mapper.importBuffer_cases cfg env x h.inv with
            ⟨-, hr⟩ | ⟨-, -, -, n, cs, -, hr⟩ | ⟨⟨h0, -⟩, -, d, -, hc, hi⟩
          · rw [hr] at he'
            exact h.keys_own e he'
          · simp only [hr, htable] at he'
            exact h.keys_own e he'
          · have hfresh : d.data 0 ∉ c.received := by
              intro hmem
              have hd := hc.fresh (d.data 0)
                (data_zero_mem_fds (by rw [hc.numFds]; exact hc.numFds_pos h0))
              exact hd.2 (hsub (h.received_open hmem))
            generalize routedTo (grallocHandle x) = backend at hi
            generalize (c.mapper.importBuffer cfg env (some x)).2.proc = q at hi he'
            cases hi with
            | dmabuf t cs => exact h.keys_own e (htable ▸ he')
            | gbm layout heap cs =>
              rcases List.mem_cons.mp he' with rfl | he'
              · exact hfresh
              · exact h.keys_own e (htable ▸ he')
        · intro r hr
          by_cases h0 : x.numFds = 0
          · have hnone : c.mapper.importBuffer cfg env (some x) = ((.badBuffer, none), c.mapper) :=
              if_pos h0
            simp only [mapperStep, bufferStep, hnone] at hr
            exact h.records_own r hr
          rcases Mapper.importBuffer_records cfg env x h.inv h0 h.records_open with
            ⟨hsame, -⟩ | ⟨-, d, -, hfresh, -, hsome⟩
          · exact h.records_own r (hsame ▸ hr)
          · have hr' : r ∈ bufferInfoCreate ((readied env x c.mapper.proc).next + 1) d ::
                c.mapper.proc.importedBufferTable := hsome ▸ hr
            rcases List.mem_cons.mp hr' with rfl | hr'
            · exact fun hmem => hfresh (hsub (h.received_open hmem))
            · exact h.records_own r hr'
      · have hno : ∀ x, op ≠ .buffer (.importBuffer (some x)) := fun x heq => himport ⟨x, heq⟩
        refine ⟨fun e he => h.keys_own e (mapperStep_table cfg env op h.inv hno e he), fun r hr => ?_⟩
        obtain ⟨r0, hr0, hkey⟩ := mapperStep_keys cfg env op h.inv hno r hr
        rw [← hkey]
        exact h.records_own r0 hr0
    refine ⟨⟨mapperStep_inv cfg env op h.inv, mapperStep_recordsOpen cfg env op h.inv h.records_open,
      h.received_open.trans hfds, hnew.1, hnew.2, restrict_open _ _,
      mapperStep_sightOk cfg env op h.inv h.records_open h.sight⟩, fun fd hfd => ?_⟩
    exact ⟨⟨hfds hfd.1, hfd.2⟩, hkeep.names fd hfd.1⟩

/-- The same for a run. -/
theorem Ok.run (h : c.Ok) {ops : List (ClientOp μ)} (hops : c.AllowsRun cfg env ops) :
    (c.run cfg env ops).Ok ∧ ∀ fd, c.Own fd → (c.run cfg env ops).Own fd ∧
      (c.run cfg env ops).sight.names fd = c.sight.names fd := by
  induction ops generalizing c with
  | nil => exact ⟨h, fun _ hfd => ⟨hfd, rfl⟩⟩
  | cons op ops ih =>
    obtain ⟨hop, hrest⟩ := hops
    obtain ⟨hstep, hown⟩ := h.step cfg env hop
    obtain ⟨hok, hrun⟩ := ih hstep hrest
    refine ⟨hok, fun fd hfd => ?_⟩
    obtain ⟨hfd', hname⟩ := hown fd hfd
    obtain ⟨hfd'', hname'⟩ := hrun fd hfd'
    exact ⟨hfd'', hname'.trans hname⟩

end Client

/-- A lock of a clone, after anything that has been done since the import. -/
theorem Client.Ok.lock_shows {μ : Type} (cfg : BuildConfig) (env : Env) {s : Client μ} (hs : s.Ok)
    {ops : List (ClientOp μ)} {h c : NativeHandle} {cpuUsage : UInt64} {a : Nat}
    (hfd : h.data 0 ∈ s.proc.fds)
    (himport : (s.mapper.importBuffer cfg env (some h)).1 = (.none, some c))
    (hops : (s.step cfg env (.call (.buffer (.importBuffer (some h))))).AllowsRun cfg env ops)
    (hlock : (((s.step cfg env (.call (.buffer (.importBuffer (some h))))).run cfg env
      ops).mapper.lock env (some c) cpuUsage).1 = (some .none, some (some a))) :
    ∃ v ∈ (((s.step cfg env (.call (.buffer (.importBuffer (some h))))).run cfg env ops).step cfg env
      (.call (.buffer (.lock (some c) cpuUsage)))).sight.views,
      v.addr = a ∧ v.shows = s.sight.names (h.data 0) := by
  have hstep := hs.step cfg env
    (show s.Allows env (.call (.buffer (.importBuffer (some h)))) from trivial)
  have hname := (Mapper.importBuffer_sight (s := s.sight) cfg env hs.inv himport).1 hfd
  -- the clone's descriptor is one of the process itself
  have hown : (s.step cfg env (.call (.buffer (.importBuffer (some h))))).Own (c.data 0) := by
    have h0 : h.numFds ≠ 0 := by
      intro h0
      have hr : s.mapper.importBuffer cfg env (some h) = ((.badBuffer, none), s.mapper) := if_pos h0
      rw [hr] at himport
      cases himport
    rcases Mapper.importBuffer_cases cfg env h hs.inv with
      ⟨h0', -⟩ | ⟨-, -, hr, -⟩ | ⟨-, -, c', hr, hc, hi⟩
    · exact absurd h0' h0
    · rw [hr] at himport
      cases himport
    · obtain rfl : c' = c := by simpa [hr] using himport
      have hmem := data_zero_mem_fds (by rw [hc.numFds]; exact hc.numFds_pos h0)
      constructor
      · show c'.data 0 ∈ (s.mapper.importBuffer cfg env (some h)).2.proc.fds
        rw [hi.acquired.1]
        exact Finset.mem_union_right _ (List.mem_toFinset.mpr hmem)
      · intro hr'
        exact (hc.fresh _ hmem).2 ((readied_frame env h s.proc 0).fds_sub (hs.received_open hr'))
  obtain ⟨hs', hrun⟩ := hstep.1.run cfg env hops
  obtain ⟨v, hv, haddr, hshows⟩ := Mapper.lock_shows
    (s := ((s.step cfg env (.call (.buffer (.importBuffer (some h))))).run cfg env ops).sight) env cfg
    hs'.inv hs'.records_open hs'.sight hlock
  refine ⟨v, hv, haddr, hshows.trans ?_⟩
  exact (hrun (c.data 0) hown).2.trans hname

/-- **A lock shows the memory the buffer was imported for**: in every run of a client, an address
    that a lock of a clone gives is that of a mapping that shows what the imported handle stood for
    at the import.  Only the frees of DMA-BUF records are restricted, to those whose released record
    still holds its key. -/
theorem clientRun_lock_shows {μ : Type} (cfg : BuildConfig) (env : Env) (ops ops' : List (ClientOp μ))
    (h c : NativeHandle) (cpuUsage : UInt64) (a : Nat) :
    let s : Client μ := Client.start.run cfg env ops
    let s1 := s.step cfg env (.call (.buffer (.importBuffer (some h))))
    let s' := s1.run cfg env ops'
    Client.start.AllowsRun cfg env ops → h.data 0 ∈ s.proc.fds →
      (s.mapper.importBuffer cfg env (some h)).1 = (.none, some c) → s1.AllowsRun cfg env ops' →
      (s'.mapper.lock env (some c) cpuUsage).1 = (some .none, some (some a)) →
      ∃ v ∈ (s'.step cfg env (.call (.buffer (.lock (some c) cpuUsage)))).sight.views,
        v.addr = a ∧ v.shows = s.sight.names (h.data 0) := by
  intro s s1 s' hops hfd himport hops' hlock
  have hs : s.Ok := (Client.Ok.start.run cfg env hops).1
  exact hs.lock_shows cfg env hfd himport hops' hlock

/-! ### A number that is used again

  The memory that a number stands for may be another at the time of the lock, and the lock does
  not care. -/

/-- The heap leaves in every released block what the key of `otherClone` looks like. -/
def reuseEnv : Env := { Env.plain with memory := fun _ _ => 6 }

/-- A client that has been sent a buffer as descriptor 5. -/
def sentOps : List (ClientOp Nat) := [.receive 5 10]

/-- The clone of its handle. -/
def receivedClone : NativeHandle :=
  (((Client.start.run .androidBp reuseEnv sentOps).mapper.importBuffer .androidBp reuseEnv
    (some (rgbaHandle 5))).1.2).get (by decide)

/-- The descriptor is closed, and its number used for other memory. -/
def closedOps : List (ClientOp Nat) := [.close 5, .receive 5 20]

/-- The clone of a BLOB in that memory. -/
def otherClone : NativeHandle :=
  (((Client.start.run .androidBp reuseEnv (sentOps ++
    .call (.buffer (.importBuffer (some (rgbaHandle 5)))) :: closedOps)).mapper.importBuffer .androidBp
      reuseEnv (some (blobHandle 5))).1.2).get (by decide)

/-- The BLOB is imported, locked and freed again. -/
def reuseOps : List (ClientOp Nat) :=
  closedOps ++ [.call (.buffer (.importBuffer (some (blobHandle 5)))),
    .call (.buffer (.lock (some otherClone) 0x3)), .call (.buffer (.freeBuffer (some otherClone)))]

/-- The lock of the first buffer shows what descriptor 5 stood for when that was imported. -/
theorem reused_number_lock_shows :
    let s : Client Nat := Client.start.run .androidBp reuseEnv sentOps
    let s' := (s.step .androidBp reuseEnv (.call (.buffer (.importBuffer (some (rgbaHandle 5)))))).run
      .androidBp reuseEnv reuseOps
    ∃ v ∈ (s'.step .androidBp reuseEnv (.call (.buffer (.lock (some receivedClone) 0x3)))).sight.views,
      v.addr = 57344 ∧ v.shows = some 10 :=
  clientRun_lock_shows .androidBp reuseEnv sentOps reuseOps (rgbaHandle 5) receivedClone 0x3 57344
    ⟨by decide, trivial⟩ (by decide) (Prod.ext (by decide) (Option.some_get _).symm)
    ⟨by decide, by decide, trivial, trivial, by decide, trivial⟩ (by decide)

end GrallocGbm
