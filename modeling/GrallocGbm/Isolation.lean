/-
  Isolation: in a session, every handle has an object of its own.

  A live handle's number is the key of one entry, whose object is alive and behind no other live
  handle; a freed handle finds nothing; and a call about one handle leaves what is stored for every
  other handle as it was.  An import that fails leaves the table and the objects alone; the only
  descriptor it can leave open is the render node, when it was the call that initialised the
  driver.

  What is stored for a handle (`storedOf`) is the user data of the object that its number leads to:
  the lock and the metadata.  So isolation is two things, that two handles lead to two objects, and
  that a call touches the object of its own handle.

  * The first is `SessionInv.object_ne`: different handles have different numbers, entries under
    different keys have different objects.
  * The second is `sessionStep_stored`.  For a call that is no import and no free it is the frame of
    the call, seen from another key (`Frame.storedOf_eq`); a free takes one entry
    away, and what an import adds is under a number that no handle of before has.

  A failed import is looked at apart, since its condition is about descriptors as well.

  `sessionRun_isolated` has all of it, after any allowed calls (`Session`).
-/
import GrallocGbm.Session

namespace GrallocGbm

/-! ## What is stored for a handle -/

/-- The lock state and the metadata of the object a handle leads to. -/
def storedOf (p : Proc) (h : NativeHandle) : Option GbmBoData :=
  (findBufferK (grallocHandle h).primeFd p.table).bind fun e => gbmBoGetUserData e.bo p

section

variable {p p' : Proc} {h : NativeHandle}

/-- Of a handle that is found, it is the user data of the object. -/
theorem storedOf_of_entry {e : AndroidBuffer}
    (he : findBufferK (grallocHandle h).primeFd p.table = some e) :
    storedOf p h = gbmBoGetUserData e.bo p := by
  rw [storedOf, he, Option.bind_some]

/-- Of one that is not, nothing. -/
theorem storedOf_of_none (he : findBufferK (grallocHandle h).primeFd p.table = none) :
    storedOf p h = none := by
  rw [storedOf, he, Option.bind_none]

/-- Entries under two keys have two objects. -/
theorem ProcInv.bo_ne (hp : ProcInv p) {k k' : Int} (hk : k' ≠ k) {e e' : AndroidBuffer}
    (he : findBufferK k p.table = some e) (he' : findBufferK k' p.table = some e') :
    e'.bo ≠ e.bo := by
  intro heq
  have : e' = e := Keyed.eq_of_key_eq hp.objects (Keyed.mem_of_lookup he') (Keyed.mem_of_lookup he) heq
  rw [this] at he'
  exact hk ((Keyed.key_of_lookup he').symm.trans (Keyed.key_of_lookup he))

/-- What is stored under another key than the frame's. -/
theorem Frame.storedOf_eq {fd : Int} (hf : Frame fd p p') (hp : ProcInv p)
    (hne : (grallocHandle h).primeFd ≠ fd) : storedOf p' h = storedOf p h := by
  cases he : findBufferK (grallocHandle h).primeFd p.table with
  | none => rw [storedOf_of_none he, storedOf_of_none (by rw [hf.table]; exact he)]
  | some e =>
    rw [storedOf_of_entry he, storedOf_of_entry (by rw [hf.table]; exact he)]
    refine hf.boData_eq fun e' he' => ?_
    exact (hp.bo_ne hne he' he).symm

end

/-! ## Isolation

  Two handles of a session have two keys, and a call changes what is stored under one. -/

section

variable {cfg : BuildConfig} {env : Env} {s : Session}

/-- An import keeps what is stored for every handle of before. -/
theorem sessionStep_import_stored (hs : SessionInv s) {h h' : NativeHandle}
    (hshape : GrallocShaped h) (hgbm : routedTo (grallocHandle h) = .mapperGrallocGbm)
    (hh' : h' ∈ s.returned) :
    storedOf (sessionStep cfg env s (.buffer (.importBuffer (some h)))).proc h'
      = storedOf s.proc h' := by
  have hf : Frame (-1) s.proc (readied env h s.proc) := readied_frame env h s.proc _
  have hopen := hs.key_open h' hh'
  -- readying the backend does not touch the objects at all
  have hready : storedOf (readied env h s.proc) h' = storedOf s.proc h' := by
    obtain ⟨g, fds, da, n, cs, heq, -⟩ :=
      ensureReady_spec env (routedTo (grallocHandle h)) s.proc
    rw [readied, heq]
    rfl
  rw [← hready]
  obtain ⟨-, -, ⟨-, -, n, cs, -, hr⟩ | ⟨c, -, -, -, hc, hi⟩⟩ :=
    sessionStep_import cfg env hs hshape hgbm
  · rw [hr]
    rfl
  · have hinv := hs.inv.readied env h
    have hmem : c.data 0 ∈ c.fds :=
      data_zero_mem_fds (by rw [hc.numFds, hshape.1]; decide)
    -- the new key is a descriptor that was not open, the new object an address not yet handed out
    have hkey : c.data 0 ≠ (grallocHandle h').primeFd := fun heq =>
      (hc.fresh _ hmem).2 (heq ▸ hf.fds_sub hopen)
    generalize readied env h s.proc = p at hi hinv
    generalize (sessionStep cfg env s (.buffer (.importBuffer (some h)))).proc = p' at hi
    cases hi with
    | gbm layout heap cs =>
      have hfind : findBufferK (grallocHandle h').primeFd
          (⟨p.next + 6, c.data 0, p.next + 2⟩ :: p.table)
          = findBufferK (grallocHandle h').primeFd p.table := by
        rw [findBufferK, Keyed.lookup_cons, if_neg hkey, findBufferK]
      cases he : findBufferK (grallocHandle h').primeFd p.table with
      | none => rw [storedOf_of_none he, storedOf_of_none (hfind.trans he)]
      | some e =>
        have hlt := (hinv.bo_lt e.bo (hinv.alive e (Keyed.mem_of_lookup he))).2
        have hne : e.bo ≠ p.next + 2 := by omega
        rw [storedOf_of_entry he, storedOf_of_entry (hfind.trans he)]
        simp only [gbmBoGetUserData, Function.update_of_ne hne]

/-- **Isolation**: a call keeps what is stored for every returned handle it is not about. -/
theorem sessionStep_stored (hs : SessionInv s) {op : MapperOp} (ha : Allowed s op)
    {h' : NativeHandle} (hh' : h' ∈ s.returned) (hne : ∀ h, op.target = some h → h' ≠ h) :
    storedOf (sessionStep cfg env s op).proc h' = storedOf s.proc h' := by
  rcases ha.cases with ⟨h, rfl, hshape, hgbm⟩ | ⟨h, hh, ht⟩
  · exact sessionStep_import_stored hs hshape hgbm hh'
  · have haddr : h'.addr ≠ h.addr := fun heq => hne h ht (Keyed.eq_of_key_eq hs.addrs hh' hh heq)
    have hkey := hs.key_ne hh hh' haddr
    obtain ⟨-, ⟨-, hf, -⟩ | ⟨-, -, -, ⟨hf, -⟩ | ⟨e, heap, cs, hfind, hr⟩⟩⟩ :=
      sessionStep_target cfg env hs hh ht
    · exact hf.storedOf_eq hs.inv hkey
    · exact hf.storedOf_eq hs.inv hkey
    · have hother : findBufferK (grallocHandle h').primeFd (sessionStep cfg env s op).proc.table
          = findBufferK (grallocHandle h').primeFd s.proc.table := by
        rw [hr]
        exact Keyed.lookup_remove_found hs.inv.addrs hfind hkey
      cases he : findBufferK (grallocHandle h').primeFd s.proc.table with
      | none => rw [storedOf_of_none he, storedOf_of_none (hother.trans he)]
      | some e' =>
        have hbo := hs.inv.bo_ne hkey hfind he
        rw [storedOf_of_entry he, storedOf_of_entry (hother.trans he), hr]
        simp only [gbmBoGetUserData, Function.update_of_ne hbo]

/-- Two live handles lead to two objects. -/
theorem SessionInv.object_ne (hs : SessionInv s) {h h' : NativeHandle} (hh : h ∈ s.returned)
    (hh' : h' ∈ s.returned) (hne : h' ≠ h) {e e' : AndroidBuffer}
    (he : findBufferK (grallocHandle h).primeFd s.proc.table = some e)
    (he' : findBufferK (grallocHandle h').primeFd s.proc.table = some e') : e'.bo ≠ e.bo :=
  hs.inv.bo_ne
    (hs.key_ne hh hh' fun heq => hne (Keyed.eq_of_key_eq hs.addrs hh' hh heq)) he he'

end

/-! ## Failed imports

  A failed import may have got the backend ready, and nothing else. -/

/-- Readying the GBM driver opens the render node or nothing. -/
theorem readied_gbm (env : Env) {h : NativeHandle} (p : Proc)
    (hgbm : routedTo (grallocHandle h) = .mapperGrallocGbm) :
    let q := readied env h p
    q.table = p.table ∧ q.bos = p.bos ∧
      (q.fds = p.fds ∨
        isGrallocGbmReady p = false ∧
          ∃ fd, fd ∉ p.fds ∧ q.gDriver = .live fd ∧ q.fds = insert fd p.fds) := by
  cases hready : isGrallocGbmReady p with
  | true =>
    simp only [(readied_of_ready env hgbm hready).2]
    exact ⟨trivial, trivial, .inl trivial⟩
  | false =>
    have hq : readied env h p = (grallocGbmInit env p).2 := by
      simp [readied, hgbm, MapperBackendType.ensureReady, MapperBackendType.isReady,
        MapperBackendType.init, hready]
    intro q
    rcases grallocGbmInit_cases env p with ⟨h, -⟩ | ⟨-, rc, g, n, cs, -, -, hr⟩ |
      ⟨-, fd, n, cs, -, hfd, -, hr⟩
    · rw [hready] at h
      cases h
    · have : q = { p with gDriver := g, next := n, calls := cs } := by
        rw [show q = _ from hq, hr]
      rw [this]
      exact ⟨rfl, rfl, .inl rfl⟩
    · have : q = { p with gDriver := .live fd, fds := insert fd p.fds, next := n, calls := cs } := by
        rw [show q = _ from hq, hr]
      rw [this]
      exact ⟨rfl, rfl, .inr ⟨rfl, fd, hfd, rfl, rfl⟩⟩

/-! ## Sessions

  The two parts for a whole session, and what a failed import leaves. -/

/-- What a session guarantees in its state `s`. -/
structure Isolated (cfg : BuildConfig) (env : Env) (s : Session) : Prop where
  /-- A live handle's number is the key of exactly one entry, whose object is alive and behind no
      other live handle. -/
  entry : ∀ h, s.Live h → ∃ e,
    s.proc.table.filter (fun e => decide (e.fd = (grallocHandle h).primeFd)) = [e] ∧
    (s.proc.bos e.bo).isSome = true ∧
    ∀ h', s.Live h' → h' ≠ h → ∀ e',
      findBufferK (grallocHandle h').primeFd s.proc.table = some e' → e'.bo ≠ e.bo
  freed : ∀ h ∈ s.returned, h.addr ∈ s.freed →
    findBufferK (grallocHandle h).primeFd s.proc.table = none
  /-- A failed import hands out nothing and changes neither table nor objects.  The descriptors it
      leaves open are those of before, and the render node if it was this call that initialised the
      driver. -/
  failedImport : ∀ h, Allowed s (.buffer (.importBuffer (some h))) →
    let r := s.mapper.importBuffer cfg env (some h)
    r.1.1 ≠ .none → r.1.2 = none ∧ r.2.proc.table = s.proc.table ∧ r.2.proc.bos = s.proc.bos ∧
      (r.2.proc.fds = s.proc.fds ∨
        isGrallocGbmReady s.proc = false ∧ ∃ fd, fd ∉ s.proc.fds ∧
          r.2.proc.gDriver = .live fd ∧ r.2.proc.fds = insert fd s.proc.fds)
  /-- A call keeps the lock state and the metadata of every handle it is not about. -/
  others : ∀ op, Allowed s op → ∀ h' ∈ s.returned, (∀ h, op.target = some h → h' ≠ h) →
    storedOf (sessionStep cfg env s op).proc h' = storedOf s.proc h'

/-- **Every handle of a session has an object of its own**, after any allowed calls and with any
    answers of the outside. -/
theorem sessionRun_isolated (cfg : BuildConfig) (env : Env) (ops : List MapperOp)
    (hops : AllowedRun cfg env ops) : Isolated cfg env (sessionRun cfg env ops) := by
  have hs : SessionInv (sessionRun cfg env ops) := sessionRun_inv hops
  generalize sessionRun cfg env ops = s at hs
  constructor
  case entry =>
    intro h hlive
    obtain ⟨e, he⟩ := hs.entry h hlive
    have hmem := Keyed.mem_of_lookup he
    refine ⟨e, ?_, hs.inv.alive e hmem, fun h' hlive' hne e' he' =>
      hs.object_ne hlive.1 hlive'.1 hne he he'⟩
    rw [← Keyed.key_of_lookup he]
    exact Keyed.filter_key_eq hs.inv.keys hmem
  case freed => exact hs.gone
  case failedImport =>
    rintro h ⟨h', heq, hshape, hgbm⟩ r hfail
    cases heq
    obtain ⟨-, -, ⟨hr, -, n, cs, -, hp⟩ | ⟨c, hr, -⟩⟩ :=
      sessionStep_import cfg env hs hshape hgbm
    · obtain ⟨htable, hbos, hfds⟩ := readied_gbm env s.proc hgbm
      have hp' : r.2.proc = { readied env h s.proc with next := n, calls := cs } := hp
      rw [show r.1 = _ from hr, hp']
      exact ⟨rfl, htable, hbos, hfds⟩
    · rw [show r.1 = _ from hr] at hfail
      exact absurd rfl hfail
  case others => exact fun op ha h' hh' hne => sessionStep_stored hs ha hh' hne

/-- Two imports, and in between a lock of the first buffer; at last a free of it. -/
def isolationOps : List MapperOp :=
  [.buffer (.importBuffer (some (rgbaHandle 5))), .buffer (.lock (some firstClone) 0x3),
    .buffer (.importBuffer (some (rgbaHandle 5))), .buffer (.freeBuffer (some firstClone))]

/-- After them, each of the two handles has its object. -/
theorem isolationOps_isolated :
    Isolated .androidBp .plain (sessionRun .androidBp .plain isolationOps) :=
  sessionRun_isolated .androidBp .plain isolationOps
    ⟨⟨_, rfl, ⟨rfl, rfl, rfl, rfl⟩, rfl⟩, ⟨firstClone, List.mem_cons_self, rfl⟩,
      ⟨_, rfl, ⟨rfl, rfl, rfl, rfl⟩, rfl⟩,
      ⟨firstClone, List.mem_cons_of_mem _ List.mem_cons_self, rfl⟩, trivial⟩

/-- Everything succeeds but `gbm_bo_import`. -/
def Env.refusing : Env := { Env.plain with boImport := fun _ _ _ => none }

/-- The first import fails, and leaves the render node open. -/
theorem failed_import_opens_node :
    Allowed Session.start (.buffer (.importBuffer (some (rgbaHandle 5)))) ∧
    let r := Session.start.mapper.importBuffer .androidBp Env.refusing (some (rgbaHandle 5))
    r.1 = (.noResources, none) ∧ Session.start.proc.fds = {0, 1, 2} ∧
      r.2.proc.fds = {0, 1, 2, 3} :=
  ⟨⟨_, rfl, ⟨rfl, rfl, rfl, rfl⟩, rfl⟩, rfl, by decide, by decide⟩

end GrallocGbm
