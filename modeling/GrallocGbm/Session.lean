/-
  A client that keeps to the protocol.

  A session is a run of the mapper in which every imported handle has the shape that
  `gralloc_handle_create` makes and goes to the GBM backend, and every other call is on a handle
  that an import returned.  It remembers those handles, which of them have been freed, and the
  metadata that was set.

  A buffer's identity is nothing but the number of the descriptor inside its handle.  `SessionInv`
  says why that is enough: the numbers of all handles ever returned are distinct open descriptors,
  so an entry is found under the handle it was made for and under no other.

  What keeps them distinct is that an import works on a clone, whose descriptors are new, and that
  nothing closes a descriptor but `importBuffer` when it fails, and `freeBuffer` that of its own
  handle.

  The invariant is kept in three steps, of which each is about processes and not about calls:

    SessionInv.of_frame      a call that changes nothing but the entry of its own handle
    SessionInv.of_imported   a new handle, a new entry, a new object
    SessionInv.of_freed      an entry and a descriptor less

  `sessionStep_inv` sorts the calls among them, and `sessionRun_inv` is the run.  `AllowedRun` is
  the client's side of the contract, decided call by call in the state the call is made in.
-/
import GrallocGbm.MapperState

namespace GrallocGbm

/-! ## Sessions

  The client's ledger is part of the state, so that what it may do next can be said about the
  state alone. -/

/-- The mapper, and what the client knows. -/
structure Session where
  mapper : Mapper
  /-- The handles returned by imports, newest first. -/
  returned : List NativeHandle
  /-- The addresses of those that have been freed. -/
  freed : List Nat
  /-- The metadata set so far on which handle, newest first. -/
  sets : List (Nat × StandardMetadataType × Payload)

/-- Nothing has been imported. -/
def Session.start : Session := ⟨Mapper.start, [], [], []⟩

/-- The process of a session. -/
def Session.proc (s : Session) : Proc := s.mapper.proc

/-- Returned and not freed. -/
def Session.Live (s : Session) (h : NativeHandle) : Prop := h ∈ s.returned ∧ h.addr ∉ s.freed

/-- A call, and what the client learns from it. -/
def sessionStep (cfg : BuildConfig) (env : Env) (s : Session) : MapperOp → Session
  | .buffer (.importBuffer handle) =>
    let (r, m) := s.mapper.importBuffer cfg env handle
    { s with mapper := m, returned := r.2.toList ++ s.returned }
  | .buffer (.freeBuffer buffer) =>
    let (r, m) := s.mapper.freeBuffer env buffer
    { s with
      mapper := m
      freed := if r = some .none then (buffer.map NativeHandle.addr).toList ++ s.freed else s.freed }
  | .setStandardMetadata buffer type metadata =>
    let (r, m) := s.mapper.setStandardMetadata env buffer type metadata
    { s with
      mapper := m
      sets := if r = some .none then
        (buffer.map fun h => (h.addr, type, metadata)).toList ++ s.sets else s.sets }
  | op => { s with mapper := mapperStep cfg env s.mapper op }

/-- The handle a call other than an import is about. -/
def MapperOp.target : MapperOp → Option NativeHandle
  | .buffer (.importBuffer _) => none
  | .buffer (.freeBuffer h) => h
  | .buffer (.lock h _) => h
  | .buffer (.unlock h) => h
  | .getStandardMetadata h _ => h
  | .setStandardMetadata h _ _ => h

/-- What the client may do next. -/
def Allowed (s : Session) : MapperOp → Prop
  | .buffer (.importBuffer handle) => ∃ h, handle = some h ∧ GrallocShaped h ∧
      routedTo (grallocHandle h) = .mapperGrallocGbm
  | op => ∃ h ∈ s.returned, op.target = some h

/-- An allowed call is an import of a well-shaped handle, or it is about a returned handle. -/
theorem Allowed.cases {s : Session} {op : MapperOp} (ha : Allowed s op) :
    (∃ h, op = .buffer (.importBuffer (some h)) ∧ GrallocShaped h ∧
        routedTo (grallocHandle h) = .mapperGrallocGbm) ∨
      ∃ h ∈ s.returned, op.target = some h := by
  cases op with
  | buffer op =>
    cases op with
    | importBuffer handle =>
      obtain ⟨h, rfl, hshape, hgbm⟩ := ha
      exact .inl ⟨h, rfl, hshape, hgbm⟩
    | freeBuffer _ => exact .inr ha
    | lock _ _ => exact .inr ha
    | unlock _ => exact .inr ha
  | getStandardMetadata _ _ => exact .inr ha
  | setStandardMetadata _ _ _ => exact .inr ha

/-! ## Clones of well-shaped handles

  The clone has the words of its original but for the first, and all fields are read from the
  others. -/

/-- A clone differs from its original in the descriptor alone. -/
theorem CloneOf.grallocHandle_eq {h c : NativeHandle} {p : Proc} (hc : CloneOf h p c)
    (hs : GrallocShaped h) :
    grallocHandle c = { grallocHandle h with primeFd := c.data 0 } := by
  obtain ⟨h1, h2, -, -⟩ := hs
  have hword : ∀ i, 1 ≤ i → i < 13 → c.word i = h.word i := by
    intro i hi hi'
    rw [NativeHandle.word, NativeHandle.word,
      hc.ints i (by rw [h1, grallocHandleNumFds]; omega)
        (by rw [h1, h2, grallocHandleNumFds, grallocHandleNumInts]; omega)]
  simp only [grallocHandle, hword 1 (by omega) (by omega), hword 2 (by omega) (by omega),
    hword 3 (by omega) (by omega), hword 4 (by omega) (by omega), hword 5 (by omega) (by omega),
    hword 6 (by omega) (by omega), hword 7 (by omega) (by omega), hword 9 (by omega) (by omega),
    hword 10 (by omega) (by omega)]

/-! ## The invariant

  Numbers are all that tells buffers apart, so most of it is about numbers. -/

/-- What holds in every state of a session. -/
structure SessionInv (s : Session) : Prop where
  inv : ProcInv s.proc
  addr_lt : ∀ h ∈ s.returned, h.addr < s.proc.next
  freed_lt : ∀ a ∈ s.freed, a < s.proc.next
  sets_lt : ∀ x ∈ s.sets, x.1 < s.proc.next
  routed : ∀ h ∈ s.returned, routedTo (grallocHandle h) = .mapperGrallocGbm
  ready : s.returned ≠ [] → isGrallocGbmReady s.proc = true
  key_open : ∀ h ∈ s.returned, (grallocHandle h).primeFd ∈ s.proc.fds
  /-- The numbers that identify buffers are distinct, also those of freed handles. -/
  keys : (s.returned.map fun h => (grallocHandle h).primeFd).Nodup
  addrs : (s.returned.map NativeHandle.addr).Nodup
  entry : ∀ h, s.Live h → ∃ e, findBufferK (grallocHandle h).primeFd s.proc.table = some e
  gone : ∀ h ∈ s.returned, h.addr ∈ s.freed →
    findBufferK (grallocHandle h).primeFd s.proc.table = none

/-- At the start there is nothing to say. -/
theorem SessionInv.start : SessionInv Session.start where
  inv := ProcInv.start
  addr_lt := by intro h hh; cases hh
  freed_lt := by intro a ha; cases ha
  sets_lt := by intro x hx; cases hx
  routed := by intro h hh; cases hh
  ready := by intro h; exact absurd rfl h
  key_open := by intro h hh; cases hh
  keys := List.nodup_nil
  addrs := List.nodup_nil
  entry := by rintro h ⟨hh, -⟩; cases hh
  gone := by intro h hh; cases hh

section Steps

variable {s s' : Session}

/-- Two returned handles at different addresses have different numbers. -/
theorem SessionInv.key_ne (hs : SessionInv s) {h h' : NativeHandle} (hh : h ∈ s.returned)
    (hh' : h' ∈ s.returned) (hne : h'.addr ≠ h.addr) :
    (grallocHandle h').primeFd ≠ (grallocHandle h).primeFd := by
  intro heq
  have : h' = h := Keyed.eq_of_key_eq hs.keys hh' hh heq
  exact hne (by rw [this])

/-- On a returned handle, nothing has to be initialised. -/
theorem SessionInv.readied_eq (hs : SessionInv s) (env : Env) {h : NativeHandle}
    (hh : h ∈ s.returned) :
    ((routedTo (grallocHandle h)).ensureReady env s.proc) = (true, s.proc) ∧
      readied env h s.proc = s.proc :=
  readied_of_ready env (hs.routed h hh) (hs.ready (List.ne_nil_of_mem hh))

/-- A step within a frame. -/
theorem SessionInv.of_frame (hs : SessionInv s) {fd : Int} (hf : Frame fd s.proc s'.proc)
    (hret : s'.returned = s.returned) (hfreed : s'.freed = s.freed)
    (hsets : ∀ x ∈ s'.sets, x ∈ s.sets ∨ ∃ h ∈ s.returned, x.1 = h.addr) : SessionInv s' where
  inv := hs.inv.of_frame hf
  addr_lt := by
    rw [hret]
    exact fun h hh => lt_of_lt_of_le (hs.addr_lt h hh) hf.next_le
  freed_lt := by
    rw [hfreed]
    exact fun a ha => lt_of_lt_of_le (hs.freed_lt a ha) hf.next_le
  sets_lt := by
    intro x hx
    rcases hsets x hx with hx | ⟨h, hh, heq⟩
    · exact lt_of_lt_of_le (hs.sets_lt x hx) hf.next_le
    · rw [heq]
      exact lt_of_lt_of_le (hs.addr_lt h hh) hf.next_le
  routed := hret ▸ hs.routed
  ready := by
    rw [hret]
    exact fun hne => hf.ready (hs.ready hne)
  key_open := by
    rw [hret]
    exact fun h hh => hf.fds_sub (hs.key_open h hh)
  keys := hret ▸ hs.keys
  addrs := hret ▸ hs.addrs
  entry := by
    intro h hlive
    rw [Session.Live, hret, hfreed] at hlive
    rw [hf.table]
    exact hs.entry h hlive
  gone := by
    rw [hret, hfreed, hf.table]
    exact hs.gone

/-- An import that hands out the clone `c`: its number is new to the session, and its entry is the
    one just made. -/
theorem SessionInv.of_imported (hs : SessionInv s) {cfg : BuildConfig} {orig c : NativeHandle}
    {p : Proc} (hp : Frame 0 s.proc p) (hpinv : ProcInv p)
    (hpready : isGrallocGbmReady p = true) (hc : CloneOf orig p c) (hshape : GrallocShaped orig)
    (hgbm : routedTo (grallocHandle orig) = .mapperGrallocGbm)
    (hi : Imported cfg p c .mapperGrallocGbm s'.proc) (hret : s'.returned = c :: s.returned)
    (hfreed : s'.freed = s.freed) (hsets : s'.sets = s.sets) : SessionInv s' := by
  have hpos : 0 < orig.numFds := by rw [hshape.1]; decide
  have hinv : ProcInv s'.proc := hpinv.of_imported hc hpos (fun _ => hpready) hi
  have hview := hc.grallocHandle_eq hshape
  have hkey : (grallocHandle c).primeFd = c.data 0 := rfl
  have hmem : c.data 0 ∈ c.fds := data_zero_mem_fds (by rw [hc.numFds]; exact hpos)
  have hfresh : ∀ h ∈ s.returned, c.data 0 ≠ (grallocHandle h).primeFd := by
    intro h hh heq
    exact (hc.fresh _ hmem).2 (heq ▸ hp.fds_sub (hs.key_open h hh))
  have haddr : ∀ h ∈ s.returned, h.addr < c.addr := by
    intro h hh
    rw [hc.addr]
    exact lt_of_lt_of_le (hs.addr_lt h hh) hp.next_le
  have hcfreed : c.addr ∉ s.freed := by
    intro hmem'
    have := lt_of_lt_of_le (hs.freed_lt _ hmem') hp.next_le
    rw [hc.addr] at this
    exact lt_irrefl _ this
  generalize hq : s'.proc = q at hi hinv
  cases hi with
  | gbm layout heap cs =>
    have hfind : ∀ k, findBufferK k s'.proc.table
        = if c.data 0 = k then some ⟨p.next + 6, c.data 0, p.next + 2⟩
          else findBufferK k s.proc.table := by
      intro k
      rw [hq, ← hp.table]
      exact Keyed.lookup_cons _
    have hnext : s.proc.next ≤ s'.proc.next := by
      rw [hq]
      exact le_trans hp.next_le (Nat.le_add_right _ 7)
    constructor
    case inv => exact hq ▸ hinv
    case addr_lt =>
      rw [hret]
      intro h hh
      rcases List.mem_cons.mp hh with rfl | hh
      · rw [hc.addr, hq]
        exact Nat.lt_add_of_pos_right (by omega)
      · exact lt_of_lt_of_le (hs.addr_lt h hh) hnext
    case freed_lt =>
      rw [hfreed]
      exact fun a ha => lt_of_lt_of_le (hs.freed_lt a ha) hnext
    case sets_lt =>
      rw [hsets]
      exact fun x hx => lt_of_lt_of_le (hs.sets_lt x hx) hnext
    case routed =>
      rw [hret]
      intro h hh
      rcases List.mem_cons.mp hh with rfl | hh
      · rw [hview]
        exact hgbm
      · exact hs.routed h hh
    case ready =>
      intro _
      rw [hq]
      exact hpready
    case key_open =>
      rw [hret]
      intro h hh
      rcases List.mem_cons.mp hh with rfl | hh
      · rw [hq, hkey]
        exact Finset.mem_union_right _ (List.mem_toFinset.mpr hmem)
      · rw [hq]
        exact Finset.mem_union_left _ (hp.fds_sub (hs.key_open h hh))
    case keys =>
      rw [hret]
      refine List.nodup_cons.mpr ⟨fun hmem' => ?_, hs.keys⟩
      obtain ⟨h, hh, heq⟩ := List.mem_map.mp hmem'
      exact hfresh h hh (heq.trans hkey).symm
    case addrs =>
      rw [hret]
      refine List.nodup_cons.mpr ⟨fun hmem' => ?_, hs.addrs⟩
      obtain ⟨h, hh, heq⟩ := List.mem_map.mp hmem'
      have := haddr h hh
      omega
    case entry =>
      rintro h ⟨hh, hnot⟩
      rw [hfind]
      rw [hret] at hh
      rcases List.mem_cons.mp hh with rfl | hh
      · exact ⟨_, if_pos rfl⟩
      · rw [if_neg (hfresh h hh)]
        exact hs.entry h ⟨hh, hfreed ▸ hnot⟩
    case gone =>
      rw [hret, hfreed]
      intro h hh hfr
      rcases List.mem_cons.mp hh with rfl | hh
      · exact absurd hfr hcfreed
      · rw [hfind, if_neg (hfresh h hh)]
        exact hs.gone h hh hfr

/-- A free of a returned handle, that finds no entry or takes the one it finds: either way the
    handle is gone, and no other handle's lookup has changed. -/
theorem SessionInv.of_freed (hs : SessionInv s) {h : NativeHandle} (hh : h ∈ s.returned)
    (hinv : ProcInv s'.proc) (hnext : s.proc.next ≤ s'.proc.next)
    (hfds : s.proc.fds ⊆ s'.proc.fds)
    (hready : isGrallocGbmReady s.proc = true → isGrallocGbmReady s'.proc = true)
    (hret : s'.returned = s.returned) (hfreed : s'.freed = h.addr :: s.freed)
    (hsets : s'.sets = s.sets)
    (hself : findBufferK (grallocHandle h).primeFd s'.proc.table = none)
    (hother : ∀ k, k ≠ (grallocHandle h).primeFd →
      findBufferK k s'.proc.table = findBufferK k s.proc.table) : SessionInv s' where
  inv := hinv
  addr_lt := by
    rw [hret]
    exact fun h' hh' => lt_of_lt_of_le (hs.addr_lt h' hh') hnext
  freed_lt := by
    rw [hfreed]
    intro a ha
    rcases List.mem_cons.mp ha with rfl | ha
    · exact lt_of_lt_of_le (hs.addr_lt h hh) hnext
    · exact lt_of_lt_of_le (hs.freed_lt a ha) hnext
  sets_lt := by
    rw [hsets]
    exact fun x hx => lt_of_lt_of_le (hs.sets_lt x hx) hnext
  routed := hret ▸ hs.routed
  ready := by
    rw [hret]
    exact fun hne => hready (hs.ready hne)
  key_open := by
    rw [hret]
    exact fun h' hh' => hfds (hs.key_open h' hh')
  keys := hret ▸ hs.keys
  addrs := hret ▸ hs.addrs
  entry := by
    rintro h' ⟨hh', hnot⟩
    rw [hret] at hh'
    rw [hfreed, List.mem_cons, not_or] at hnot
    rw [hother _ (hs.key_ne hh hh' hnot.1)]
    exact hs.entry h' ⟨hh', hnot.2⟩
  gone := by
    rw [hret, hfreed]
    intro h' hh' hfr
    by_cases heq : h'.addr = h.addr
    · have : h' = h := Keyed.eq_of_key_eq hs.addrs hh' hh heq
      rw [this]
      exact hself
    · rw [hother _ (hs.key_ne hh hh' heq)]
      exact hs.gone h' hh' ((List.mem_cons.mp hfr).resolve_left heq)

end Steps

/-! ## What a call of the client does

  The outcomes of the mapper's calls, as they look to a session. -/

section Calls

variable (cfg : BuildConfig) (env : Env) {s : Session} {h : NativeHandle}

/-- Every outcome of an import. -/
theorem sessionStep_import (hs : SessionInv s) (hshape : GrallocShaped h)
    (hgbm : routedTo (grallocHandle h) = .mapperGrallocGbm) :
    let p := readied env h s.proc
    let r := (s.mapper.importBuffer cfg env (some h)).1
    let s' := sessionStep cfg env s (.buffer (.importBuffer (some h)))
    s'.freed = s.freed ∧ s'.sets = s.sets ∧
    ((r = (.noResources, none) ∧ s'.returned = s.returned ∧
        ∃ n cs, p.next ≤ n ∧ s'.proc = { p with next := n, calls := cs }) ∨
      ∃ c, r = (.none, some c) ∧ s'.returned = c :: s.returned ∧ isGrallocGbmReady p = true ∧
        CloneOf h p c ∧ Imported cfg p c .mapperGrallocGbm s'.proc) := by
  intro p r s'
  refine ⟨rfl, rfl, ?_⟩
  have hret : s'.returned = r.2.toList ++ s.returned := rfl
  rcases Mapper.importBuffer_cases cfg env h hs.inv with
    ⟨h0, -⟩ | ⟨-, -, hr, hrest⟩ | ⟨-, hready, c, hr, hc, hi⟩
  · rw [hshape.1] at h0
    exact absurd h0 (by decide)
  · refine .inl ⟨hr, ?_, hrest⟩
    rw [hret, show r = _ from hr]
    rfl
  · refine .inr ⟨c, hr, ?_, hready hgbm, hc, hgbm ▸ hi⟩
    rw [hret, show r = _ from hr]
    rfl

/-- Every outcome of another call: it keeps to the object of its handle, or it frees the handle. -/
theorem sessionStep_target (hs : SessionInv s) (hh : h ∈ s.returned) {op : MapperOp}
    (ht : op.target = some h) :
    let fd := (grallocHandle h).primeFd
    let s' := sessionStep cfg env s op
    s'.returned = s.returned ∧
    ((op ≠ .buffer (.freeBuffer (some h)) ∧ Frame fd s.proc s'.proc ∧ s'.freed = s.freed ∧
        (s'.sets = s.sets ∨ ∃ x, x.1 = h.addr ∧ s'.sets = x :: s.sets)) ∨
      (op = .buffer (.freeBuffer (some h)) ∧ s'.freed = h.addr :: s.freed ∧ s'.sets = s.sets ∧
        ((Frame fd s.proc s'.proc ∧ findBufferK fd s.proc.table = none) ∨
          ∃ e heap cs, findBufferK fd s.proc.table = some e ∧ s'.proc = { s.proc with
            table := Keyed.remove AndroidBuffer.addr e.addr s.proc.table
            bos := Function.update s.proc.bos e.bo none
            heap := heap
            calls := cs }))) := by
  intro fd s'
  have hsame := (hs.readied_eq env hh).2
  have hgbm := hs.routed h hh
  have hready := hs.ready (List.ne_nil_of_mem hh)
  cases op with
  | buffer op =>
    cases op with
    | importBuffer handle => cases ht
    | freeBuffer buffer =>
      cases ht
      refine ⟨rfl, .inr ⟨rfl, ?_⟩⟩
      have hfreed : s'.freed = if (s.mapper.freeBuffer env (some h)).1 = some .none
          then h.addr :: s.freed else s.freed := rfl
      have hproc : s'.proc = (s.mapper.freeBuffer env (some h)).2.proc := rfl
      rcases Mapper.freeBuffer_cases env h hs.inv with ⟨hf, hno⟩ | ⟨e, heap, cs, -, hfind, hok, hr⟩
      · obtain ⟨hok, hfind⟩ := hno hgbm hready
        refine ⟨by rw [hfreed, if_pos hok], rfl, .inl ⟨?_, ?_⟩⟩
        · have hf' := hf.1
          rw [show readied env h s.mapper.proc = s.proc from hsame] at hf'
          exact hf'
        · rw [show readied env h s.mapper.proc = s.proc from hsame] at hfind
          exact hfind
      · rw [show readied env h s.mapper.proc = s.proc from hsame] at hfind hr
        exact ⟨by rw [hfreed, if_pos hok], rfl, .inr ⟨e, heap, cs, hfind, hr⟩⟩
    | lock buffer cpuUsage =>
      cases ht
      refine ⟨rfl, .inl ⟨by simp, ?_, rfl, .inl rfl⟩⟩
      by_cases h0 : cpuUsage = 0
      · have hlock : s'.proc = s.proc := by
          simp only [s', sessionStep, mapperStep, bufferStep, Session.proc, Mapper.lock, if_pos h0]
        rw [hlock]
        exact .refl
      · exact hsame ▸ (Mapper.lock_still env h cpuUsage h0 hs.inv).1
    | unlock buffer =>
      cases ht
      exact ⟨rfl, .inl ⟨by simp, hsame ▸ (Mapper.unlock_still env h s.mapper).1, rfl, .inl rfl⟩⟩
  | getStandardMetadata buffer type =>
    cases ht
    exact ⟨rfl, .inl ⟨by simp,
      hsame ▸ Mapper.getStandardMetadata_frame env h type hs.inv fd, rfl, .inl rfl⟩⟩
  | setStandardMetadata buffer type metadata =>
    cases ht
    refine ⟨rfl, .inl ⟨by simp,
      hsame ▸ (Mapper.setStandardMetadata_still env h type metadata hs.inv).1, rfl, ?_⟩⟩
    have hsets : s'.sets = if (s.mapper.setStandardMetadata env (some h) type metadata).1 = some .none
        then (h.addr, type, metadata) :: s.sets else s.sets := rfl
    rw [hsets]
    split
    · exact .inr ⟨_, rfl, rfl⟩
    · exact .inl rfl

/-- **Every allowed call keeps the invariant.** -/
theorem sessionStep_inv (hs : SessionInv s) {op : MapperOp} (ha : Allowed s op) :
    SessionInv (sessionStep cfg env s op) := by
  rcases ha.cases with ⟨h, rfl, hshape, hgbm⟩ | ⟨h, hh, ht⟩
  · obtain ⟨hfreed, hsets, ⟨-, hret, n, cs, hn, hr⟩ | ⟨c, -, hret, hready, hc, hi⟩⟩ :=
      sessionStep_import cfg env hs hshape hgbm
    · have hf : Frame 0 s.proc (sessionStep cfg env s (.buffer (.importBuffer (some h)))).proc := by
        refine (readied_frame env h s.proc 0).trans ?_
        rw [hr]
        exact .of_same rfl rfl rfl hn subset_rfl id
      refine hs.of_frame hf hret hfreed fun x hx => ?_
      rw [hsets] at hx
      exact .inl hx
    · exact hs.of_imported (readied_frame env h s.proc 0) (hs.inv.readied env h) hready hc hshape
        hgbm hi hret hfreed hsets
  · obtain ⟨hret, ⟨-, hf, hfreed, hsets⟩ |
        ⟨-, hfreed, hsets, ⟨hf, hfind⟩ | ⟨e, heap, cs, hfind, hr⟩⟩⟩ :=
      sessionStep_target cfg env hs hh ht
    · refine hs.of_frame hf hret hfreed fun x hx => ?_
      rcases hsets with hsets | ⟨y, hy, hsets⟩ <;> rw [hsets] at hx
      · exact .inl hx
      · rcases List.mem_cons.mp hx with rfl | hx
        · exact .inr ⟨h, hh, hy⟩
        · exact .inl hx
    · refine hs.of_freed hh (hs.inv.of_frame hf) hf.next_le hf.fds_sub hf.ready hret hfreed hsets
        ?_ ?_
      · rw [hf.table]
        exact hfind
      · intro k _
        rw [hf.table]
    · refine hs.of_freed hh (hs.inv.of_freed (Keyed.mem_of_lookup hfind) hr) (by rw [hr])
        (by rw [hr]) (by rw [hr]; exact id) hret hfreed hsets ?_ ?_
      · rw [hr]
        exact Keyed.lookup_remove_self hs.inv.keys hfind
      · intro k hk
        rw [hr]
        exact Keyed.lookup_remove_found hs.inv.addrs hfind hk

end Calls

/-- The session after a sequence of calls. -/
def sessionRun (cfg : BuildConfig) (env : Env) (ops : List MapperOp) : Session :=
  ops.foldl (sessionStep cfg env) Session.start

/-- A run of the client's. -/
def AllowedRun (cfg : BuildConfig) (env : Env) (ops : List MapperOp) : Prop :=
  Run.Along (sessionStep cfg env) Allowed Session.start ops

/-- The invariant holds in every state of a session. -/
theorem sessionRun_inv {cfg : BuildConfig} {env : Env} {ops : List MapperOp}
    (h : AllowedRun cfg env ops) : SessionInv (sessionRun cfg env ops) :=
  Run.foldl_inv SessionInv (fun _ _ hs ha => sessionStep_inv cfg env hs ha) SessionInv.start h

end GrallocGbm
