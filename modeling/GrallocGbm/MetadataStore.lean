/-
  The metadata of a session's buffers follows what was set on them.

  A set goes through two switches, and what it stores is one field of the record; locks, unlocks and
  reads leave the record alone.  So a property of the record that holds of zeros, that a successful
  set on the handle keeps, and that sets on other handles do not touch (`FollowsSets`) holds of
  every live handle's record in every state of a session (`sessionRun_stored`).

  `FollowsSets` is what a user of this module has to show, and it speaks about one record and one
  list of sets; no session, no process and no other handle occurs in it.  The scalar types and the
  HDR types each have an instance.

  The steps to it are the usual ones:

  * what each call does to the record of a handle: `Mapper.lock_stored`, `Mapper.unlock_stored`,
    `Mapper.getStandardMetadata_stored`, `Mapper.setStandardMetadata_stored`;
  * what an allowed call does to all records: the new handle's for an import, the target's for
    any other call, the rest as before (`sessionStep_storedOk`);
  * and the run (`sessionRun_stored`).

  The last part is about reading: `metadataRead_eq` says what a read of a live handle gives, in
  terms of the stored record.
-/
import GrallocGbm.Isolation
import GrallocGbm.Reads

namespace GrallocGbm

/-! ## What the calls do to the metadata of their own object -/

section

variable (env : Env) {h : NativeHandle} {m : Mapper}

/-- Rewriting the user data of the object found for `h`. -/
theorem storedOf_modify {p : Proc} {e : AndroidBuffer}
    (he : findBufferK (grallocHandle h).primeFd p.table = some e) (f : GbmBoData → GbmBoData)
    (calls : List ExtCall) :
    storedOf (modifyBoData e.bo f { p with calls := calls }) h = (storedOf p h).map f := by
  have he' : findBufferK (grallocHandle h).primeFd
      (modifyBoData e.bo f { p with calls := calls }).table = some e := he
  rw [storedOf_of_entry he', storedOf_of_entry he, gbmBoGetUserData_modify, if_pos rfl]
  rfl

/-- A lock rewrites the lock state alone. -/
theorem Mapper.lock_stored (cpuUsage : UInt64) (hp : ProcInv m.proc)
    (hgbm : routedTo (grallocHandle h) = .mapperGrallocGbm)
    (hready : isGrallocGbmReady m.proc = true) :
    ∃ f, (∀ d, (f d).metadata = d.metadata) ∧
      storedOf (m.lock env (some h) cpuUsage).2.proc h = (storedOf m.proc h).map f := by
  by_cases h0 : cpuUsage = 0
  · have hlock : m.lock env (some h) cpuUsage = ((some .badValue, none), m) := if_pos h0
    exact ⟨id, fun _ => rfl, by rw [hlock, Option.map_id]; rfl⟩
  have hlock : (m.lock env (some h) cpuUsage).2.proc
      = (grallocGbmAndroidBufferLock env h cpuUsage.toUInt32 m.proc).2.2 := by
    unfold Mapper.lock
    dsimp only
    rw [if_neg h0, Mapper.withBackend_gbm hgbm hready]
  rw [hlock]
  rcases grallocGbmAndroidBufferLock_cases env h cpuUsage.toUInt32 hp.user_data with
    ⟨ret, hr, -⟩ | ⟨e, d, -, he, -, -, ⟨-, hr⟩ | ⟨-, -, transfer, hr | ⟨a, hr⟩⟩⟩ <;> rw [hr]
  · exact ⟨id, fun _ => rfl, by rw [Option.map_id]; rfl⟩
  · exact ⟨lockedData (cpuUsage.toUInt32 ||| d.lockedFor), fun _ => rfl,
      storedOf_modify he _ m.proc.calls⟩
  · exact ⟨id, fun _ => rfl, by rw [Option.map_id]; rfl⟩
  · exact ⟨fun d' => lockedData (cpuUsage.toUInt32 ||| d.lockedFor) { d' with mapData := some a },
      fun _ => rfl, storedOf_modify he _ _⟩

/-- And so does an unlock. -/
theorem Mapper.unlock_stored (hgbm : routedTo (grallocHandle h) = .mapperGrallocGbm)
    (hready : isGrallocGbmReady m.proc = true) :
    ∃ f, (∀ d, (f d).metadata = d.metadata) ∧
      storedOf (m.unlock env (some h)).2.proc h = (storedOf m.proc h).map f := by
  have hunlock : (m.unlock env (some h)).2.proc = (grallocGbmAndroidBufferUnlock h m.proc).2 := by
    unfold Mapper.unlock
    dsimp only
    rw [Mapper.withBackend_gbm hgbm hready]
  rw [hunlock]
  rcases grallocGbmAndroidBufferUnlock_cases h m.proc with
    hr | ⟨e, d, he, -, -, ⟨-, hr⟩ | ⟨-, hr⟩⟩ <;> rw [hr]
  · exact ⟨id, fun _ => rfl, by rw [Option.map_id]; rfl⟩
  · exact ⟨fun d => unlockedData { d with mapData := none }, fun _ => rfl,
      storedOf_modify he _ _⟩
  · exact ⟨unlockedData, fun _ => rfl, storedOf_modify he _ m.proc.calls⟩

/-- A read keeps everything that is stored. -/
theorem Mapper.getStandardMetadata_stored (type : StandardMetadataType) (hp : ProcInv m.proc)
    (hgbm : routedTo (grallocHandle h) = .mapperGrallocGbm) {e : AndroidBuffer}
    (he : findBufferK (grallocHandle h).primeFd m.proc.table = some e) :
    storedOf (m.getStandardMetadata env (some h) type).2.proc h = storedOf m.proc h := by
  rw [getStandardMetadata_proc type hp hgbm he]
  split <;> rfl

/-- A set fails and changes nothing, or it succeeds and stores the staged record. -/
theorem Mapper.setStandardMetadata_stored (type : StandardMetadataType) (metadata : Payload)
    (hp : ProcInv m.proc) (hgbm : routedTo (grallocHandle h) = .mapperGrallocGbm)
    (hready : isGrallocGbmReady m.proc = true) :
    let r := m.setStandardMetadata env (some h) type metadata
    (r.1 ≠ some .none ∧ storedOf r.2.proc h = storedOf m.proc h) ∨
    (r.1 = some .none ∧ ∃ staged p, (stageMetadata type metadata p).1 = some staged ∧
      storedOf r.2.proc h = (storedOf m.proc h).map fun d =>
        { d with metadata := storeMetadata type staged d.metadata }) := by
  intro r
  have hready' : readied env h m.proc = m.proc := (readied_of_ready env hgbm hready).2
  obtain ⟨heap, n, hs, -⟩ := stageMetadata_spec type metadata (withRecord (readied env h m.proc))
  -- staging takes blocks, but the table and the objects are still those of the start
  have hstored : storedOf (stageMetadata type metadata (withRecord (readied env h m.proc))).2 h
      = storedOf m.proc h := by
    rw [hs, hready']
    rfl
  rcases Mapper.setStandardMetadata_cases env h type metadata (m := m) with
    ⟨-, hr, hr' | hr'⟩ | ⟨-, -, hr, hr'⟩ | ⟨-, staged, hst, ⟨hdma, -⟩ | ⟨-, hok, hr'⟩⟩
  · exact .inl ⟨by rw [hr]; simp, by rw [hr', hready']⟩
  · exact .inl ⟨by rw [hr]; simp, by rw [hr', hready']; rfl⟩
  · exact .inl ⟨by rw [hr]; simp, by rw [hr', hstored]⟩
  · rw [hgbm] at hdma
    cases hdma
  · have hdata : HasUserData
        (stageMetadata type metadata (withRecord (readied env h m.proc))).2 := by
      rw [hs, hready']
      exact hp.user_data
    rcases MapperBackendGrallocGbm.setStandardMetadata_cases h type staged hdata with
      ⟨hne, hsame, -⟩ | ⟨e, he, hset⟩
    · exact .inl ⟨fun h => hne (hok.mp h), by rw [hr', hsame, hstored]⟩
    · refine .inr ⟨hok.mpr (by rw [hset]), staged, _, hst, ?_⟩
      rw [hr', hset, ← hstored]
      exact storedOf_modify he _ _

end

/-! ## What is stored follows what was set -/

/-- A relation between the sets of a session on the handle at `a` and the record stored for it, that
    each call of the session keeps. -/
structure FollowsSets
    (R : Nat → List (Nat × StandardMetadataType × Payload) → BufferMetadata → Prop) : Prop where
  /-- Nothing was set on the handle, and the record is that of a fresh object. -/
  fresh : ∀ a sets addr, (∀ x ∈ sets, x.1 ≠ a) → R a sets (zeroBoData addr).metadata
  own : ∀ a sets type metadata p staged stored,
    (stageMetadata type metadata p).1 = some staged → R a sets stored →
      R a ((a, type, metadata) :: sets) (storeMetadata type staged stored)
  other : ∀ a sets x stored, x.1 ≠ a → R a sets stored → R a (x :: sets) stored

/-- `R` holds of every live handle's record. -/
def StoredOk (R : Nat → List (Nat × StandardMetadataType × Payload) → BufferMetadata → Prop)
    (s : Session) : Prop :=
  ∀ h, s.Live h → ∃ d, storedOf s.proc h = some d ∧ R h.addr s.sets d.metadata

section

variable {R : Nat → List (Nat × StandardMetadataType × Payload) → BufferMetadata → Prop}
  {cfg : BuildConfig} {env : Env} {s : Session}

/-- The fresh object of an import holds zeros, and nothing was set on its handle. -/
theorem sessionStep_import_storedOk (hR : FollowsSets R) (hs : SessionInv s) (hok : StoredOk R s)
    {h : NativeHandle} (hshape : GrallocShaped h)
    (hgbm : routedTo (grallocHandle h) = .mapperGrallocGbm) :
    StoredOk R (sessionStep cfg env s (.buffer (.importBuffer (some h)))) := by
  have hold : ∀ h', s.Live h' → ∃ d,
      storedOf (sessionStep cfg env s (.buffer (.importBuffer (some h)))).proc h' = some d ∧
      R h'.addr s.sets d.metadata := by
    intro h' hlive
    rw [sessionStep_import_stored hs hshape hgbm hlive.1]
    exact hok h' hlive
  obtain ⟨hfreed, hsets, ⟨-, hret, -⟩ | ⟨c, -, hret, -, hc, hi⟩⟩ :=
    sessionStep_import cfg env hs hshape hgbm
  · rintro h' ⟨hh', hnot⟩
    rw [hsets]
    exact hold h' ⟨hret ▸ hh', hfreed ▸ hnot⟩
  · rintro h' ⟨hh', hnot⟩
    rw [hsets]
    rw [hret] at hh'
    rcases List.mem_cons.mp hh' with rfl | hh'
    swap
    · exact hold h' ⟨hh', hfreed ▸ hnot⟩
    have hle : s.proc.next ≤ h'.addr := by
      rw [hc.addr]
      exact (readied_frame env h s.proc 0).next_le
    have hnever : ∀ x ∈ s.sets, x.1 ≠ h'.addr := by
      intro x hx heq
      have := hs.sets_lt x hx
      omega
    generalize readied env h s.proc = p at hi
    generalize (sessionStep cfg env s (.buffer (.importBuffer (some h)))).proc = p' at hi
    cases hi with
    | gbm layout heap cs =>
      refine ⟨zeroBoData (p.next + 3), ?_, hR.fresh _ _ _ hnever⟩
      have hfind : findBufferK (grallocHandle h').primeFd
          (⟨p.next + 6, h'.data 0, p.next + 2⟩ :: p.table)
          = some ⟨p.next + 6, h'.data 0, p.next + 2⟩ := by
        rw [findBufferK, Keyed.lookup_cons]
        exact if_pos rfl
      rw [storedOf_of_entry hfind]
      simp [gbmBoGetUserData, importedBo]

/-- A call that keeps the record of `h`. -/
theorem StoredOk.of_map {s' : Session} (hok : StoredOk R s) {h : NativeHandle} (hlive : s.Live h)
    (f : GbmBoData → GbmBoData) (hf : ∀ d, (f d).metadata = d.metadata)
    (hstored : storedOf s'.proc h = (storedOf s.proc h).map f) (hsets : s'.sets = s.sets) :
    ∃ d, storedOf s'.proc h = some d ∧ R h.addr s'.sets d.metadata := by
  obtain ⟨d, hd, hr⟩ := hok h hlive
  refine ⟨f d, by rw [hstored, hd, Option.map_some], ?_⟩
  rw [hf, hsets]
  exact hr

/-- The calls about `h`, for `h` itself. -/
theorem sessionStep_own_storedOk (hR : FollowsSets R) (hs : SessionInv s) (hok : StoredOk R s)
    {h : NativeHandle} (hlive : s.Live h) {op : MapperOp} (ht : op.target = some h)
    (hfree : op ≠ .buffer (.freeBuffer (some h))) :
    ∃ d, storedOf (sessionStep cfg env s op).proc h = some d ∧
      R h.addr (sessionStep cfg env s op).sets d.metadata := by
  have hgbm := hs.routed h hlive.1
  have hready := hs.ready (List.ne_nil_of_mem hlive.1)
  obtain ⟨e, he⟩ := hs.entry h hlive
  cases op with
  | buffer op =>
    cases op with
    | importBuffer handle => cases ht
    | freeBuffer buffer =>
      cases ht
      exact absurd rfl hfree
    | lock buffer cpuUsage =>
      cases ht
      obtain ⟨f, hf, hstored⟩ := Mapper.lock_stored env cpuUsage hs.inv hgbm hready
      exact hok.of_map hlive f hf hstored rfl
    | unlock buffer =>
      cases ht
      obtain ⟨f, hf, hstored⟩ := Mapper.unlock_stored env hgbm hready
      exact hok.of_map hlive f hf hstored rfl
  | getStandardMetadata buffer type =>
    cases ht
    have hstored := Mapper.getStandardMetadata_stored env type hs.inv hgbm he
    exact hok.of_map hlive id (fun _ => rfl) (by rw [Option.map_id]; exact hstored) rfl
  | setStandardMetadata buffer type metadata =>
    cases ht
    have hsets : (sessionStep cfg env s (.setStandardMetadata (some h) type metadata)).sets
        = if (s.mapper.setStandardMetadata env (some h) type metadata).1 = some .none
          then (h.addr, type, metadata) :: s.sets else s.sets := rfl
    rcases Mapper.setStandardMetadata_stored env type metadata hs.inv hgbm hready with
      ⟨hne, hstored⟩ | ⟨heq, staged, p, hst, hstored⟩
    · rw [if_neg hne] at hsets
      exact hok.of_map hlive id (fun _ => rfl) (by rw [Option.map_id]; exact hstored) hsets
    · rw [if_pos heq] at hsets
      obtain ⟨d, hd, hr⟩ := hok h hlive
      refine ⟨_, hstored.trans (by rw [show storedOf s.mapper.proc h = some d from hd]; rfl), ?_⟩
      rw [hsets]
      exact hR.own _ _ _ _ _ _ _ hst hr

/-- **Every allowed call keeps what is stored in step with what was set.** -/
theorem sessionStep_storedOk (hR : FollowsSets R) (hs : SessionInv s) (hok : StoredOk R s)
    {op : MapperOp} (ha : Allowed s op) : StoredOk R (sessionStep cfg env s op) := by
  rcases ha.cases with ⟨h, rfl, hshape, hgbm⟩ | ⟨h, hh, ht⟩
  · exact sessionStep_import_storedOk hR hs hok hshape hgbm
  · rintro h' ⟨hh', hnot⟩
    obtain ⟨hret, hout⟩ := sessionStep_target cfg env hs hh ht
    rw [hret] at hh'
    have hlive : s.Live h' := by
      refine ⟨hh', fun hmem => hnot ?_⟩
      rcases hout with ⟨-, -, hfreed, -⟩ | ⟨-, hfreed, -⟩ <;> rw [hfreed]
      · exact hmem
      · exact List.mem_cons_of_mem _ hmem
    by_cases heq : h'.addr = h.addr
    · have : h' = h := Keyed.eq_of_key_eq hs.addrs hh' hh heq
      subst this
      refine sessionStep_own_storedOk hR hs hok hlive ht ?_
      rintro rfl
      rcases hout with ⟨hno, -⟩ | ⟨-, hfreed, -⟩
      · exact hno rfl
      · exact hnot (hfreed ▸ List.mem_cons_self)
    · have hne : ∀ h1, op.target = some h1 → h' ≠ h1 := by
        rintro h1 ht1 rfl
        apply heq
        rw [Option.some.inj (ht.symm.trans ht1)]
      obtain ⟨d, hd, hr⟩ := hok h' hlive
      refine ⟨d, by rw [sessionStep_stored hs ha hh' hne, hd], ?_⟩
      rcases hout with ⟨-, -, -, hsets | ⟨x, hx, hsets⟩⟩ | ⟨-, -, hsets, -⟩ <;> rw [hsets]
      · exact hr
      · apply hR.other _ _ _ _ _ hr
        rw [hx]
        exact fun h => heq h.symm
      · exact hr

end

/-- **The store is right**: after any allowed calls, `R` holds of every live handle's record. -/
theorem sessionRun_stored
    {R : Nat → List (Nat × StandardMetadataType × Payload) → BufferMetadata → Prop}
    (hR : FollowsSets R) {cfg : BuildConfig} {env : Env} {ops : List MapperOp}
    (h : AllowedRun cfg env ops) : StoredOk R (sessionRun cfg env ops) := by
  have hstart : StoredOk R Session.start := by
    rintro h ⟨hh, -⟩
    cases hh
  exact (Run.foldl_inv (fun s => SessionInv s ∧ StoredOk R s)
    (fun _ _ hs ha => ⟨sessionStep_inv cfg env hs.1 ha, sessionStep_storedOk hR hs.1 hs.2 ha⟩)
    ⟨SessionInv.start, hstart⟩ h).2

/-! ## What is read -/

/-- The bytes of a pixel in the format of a handle. -/
def pixelBytes (h : NativeHandle) := colorBytesPerPixel (colorFmtA2g (grallocHandle h).format)

/-- A read of a known type gives the value dispatched on a record with the stored metadata, if the
    format has a pixel size. -/
theorem metadataRead_eq (env : Env) {h : NativeHandle} {m : Mapper} (type : StandardMetadataType)
    (hk : type.isKnown = true) (hp : ProcInv m.proc)
    (hgbm : routedTo (grallocHandle h) = .mapperGrallocGbm) {d : GbmBoData}
    (hd : storedOf m.proc h = some d) :
    ∃ info : AndroidBufferInfo, info.metadata = d.metadata ∧
      (m.getStandardMetadata env (some h) type).1.2 =
        if pixelBytes h = 0 then none else (gbmMetadataValue info type).encoded := by
  obtain ⟨e, he, hed⟩ := Option.bind_eq_some_iff.mp hd
  obtain ⟨b, hb, hbd⟩ := Option.bind_eq_some_iff.mp hed
  obtain ⟨fd, hv⟩ := getStandardMetadata_value env type hk hp hgbm he hb hbd
  have hstride : grallocGbmCalculateAndroidPixelStride (grallocHandle h).format b.layout.stride = none ↔
      pixelBytes h = 0 := grallocGbmCalculateAndroidPixelStride_eq_none
  rw [hv]
  cases hs : grallocGbmCalculateAndroidPixelStride (grallocHandle h).format b.layout.stride with
  | none =>
    refine ⟨bufferInfo (grallocHandle h) e fd b d 0, rfl, ?_⟩
    rw [if_pos (hstride.mp hs), Option.bind_none]
  | some stride =>
    have h0 : ¬ pixelBytes h = 0 := by
      intro h0
      rw [hstride.mpr h0] at hs
      cases hs
    refine ⟨bufferInfo (grallocHandle h) e fd b d stride, rfl, ?_⟩
    rw [if_neg h0, Option.bind_some]

end GrallocGbm
