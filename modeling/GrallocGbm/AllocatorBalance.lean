/-
  What an allocation leaves behind in the allocator.

  Between its two loops an allocation holds `count` buffers: their entries stand in front of the
  table, their objects are alive, their keys are open.  `Pending` describes this state against the
  one at the start; the first loop adds to what is pending (`Pending.new`), the second takes away
  from it, oldest first (`Pending.release`).  At the end the table and the objects are back to what
  they were.  The descriptors are not: for each buffer, the closing log message of
  `gralloc_gbm_android_buffer_new` has exported one more, that nobody closes.

  So each call leaves what it hands out and as many descriptors more, and it conserves the
  descriptors exactly if it was for no buffer (`grallocGbmAllocate_effect`).  What a call leaves is
  again a process in order, so the next call can be looked at in the same way, and over a run of
  successful calls the two facts hold at every step (`grallocGbmAllocate_conserves_iff`).

  Here every descriptor that is asked for is to be had; what happens when one is not, or when
  anything else fails, is in `Batch` and `Rollback`.  What makes this case simpler is that every key
  is then a real descriptor, so that each entry is found by its own handle, and the second loop can
  follow the first, handle by handle.

  The state a service starts in is that of `Allocator.init`, with the render node open.
-/
import GrallocGbm.Allocator
import GrallocGbm.Invariant
import GrallocGbm.Lib.Run

namespace GrallocGbm

open AllocatorBackendGrallocGbm

/-! ## Pending buffers

  In the middle of a call the table holds the entries of the buffers made so far, and nothing
  else; the invariant says whose they are. -/

/-- In `p`, reached from `p0`, the buffers behind `handles` are pending, with the entries `es`,
    oldest first; besides their keys, the descriptors `x` have been opened. -/
structure Pending (p0 p : Proc) (handles : List NativeHandle) (es : List AndroidBuffer)
    (x : Finset Int) : Prop where
  inv : ProcInv p
  ready : isGrallocGbmReady p = true
  table : p.table = es.reverse ++ p0.table
  keys : handles.map NativeHandle.fds = es.map fun e => [e.fd]
  bos : ∀ bo, (∀ e ∈ es, e.bo ≠ bo) → p.bos bo = p0.bos bo
  unborn : ∀ e ∈ es, p0.bos e.bo = none
  fds : p.fds = p0.fds ∪ (es.map AndroidBuffer.fd).toFinset ∪ x
  key_new : ∀ e ∈ es, e.fd ∉ p0.fds ∧ e.fd ∉ x
  key_nonneg : ∀ e ∈ es, 0 ≤ e.fd
  extra_new : ∀ d ∈ x, d ∉ p0.fds

/-- Nothing is pending at the start. -/
theorem Pending.start {p : Proc} (hp : ProcInv p) (hready : isGrallocGbmReady p = true) :
    Pending p p [] [] ∅ where
  inv := hp
  ready := hready
  table := rfl
  keys := rfl
  bos := fun _ _ => rfl
  unborn := by simp
  fds := by simp
  key_new := by simp
  key_nonneg := by simp
  extra_new := by simp

section

variable {cfg : BuildConfig} {env : Env} {p0 p p' : Proc} {x : Finset Int}
  {handles : List NativeHandle} {es : List AndroidBuffer}

/-- Nothing pending: table and objects are those of the start. -/
theorem Pending.done (h : Pending p0 p [] [] x) :
    p.table = p0.table ∧ p.bos = p0.bos ∧ p.fds = p0.fds ∪ x := by
  refine ⟨h.table, funext fun bo => h.bos bo (by simp), ?_⟩
  rw [h.fds]
  simp

/-- The first word of a handle with one descriptor. -/
theorem primeFd_of_fds {h : NativeHandle} {fd : Int} (hfds : h.fds = [fd]) :
    (grallocHandle h).primeFd = fd := by
  have hlen : h.numFds.toNat = 1 := by simpa [NativeHandle.fds] using congrArg List.length hfds
  rw [NativeHandle.fds, hlen] at hfds
  exact List.head_eq_of_cons_eq hfds

/-- What is pending is in the table. -/
theorem Pending.mem_table (hp : Pending p0 p handles es x) {e : AndroidBuffer} (he : e ∈ es) :
    e ∈ p.table := by
  rw [hp.table]
  exact List.mem_append_left _ (List.mem_reverse.mpr he)

/-- A descriptor that is not open is none of those accounted for. -/
theorem Pending.not_open (hp : Pending p0 p handles es x) {fd : Int} (hfd : fd ∉ p.fds) :
    fd ∉ p0.fds ∧ fd ∉ x ∧ ∀ e ∈ es, fd ≠ e.fd := by
  rw [hp.fds, Finset.mem_union, Finset.mem_union, not_or, not_or] at hfd
  refine ⟨hfd.1.1, hfd.2, fun e he heq => hfd.1.2 ?_⟩
  rw [heq]
  exact List.mem_toFinset.mpr (List.mem_map_of_mem he)

/-- One more descriptor that is nobody's key. -/
theorem Pending.opened (hp : Pending p0 p handles es x) {d : Int} (hd : d ∉ p.fds)
    (cs : List ExtCall) :
    Pending p0 { p with fds := insert d p.fds, calls := cs } handles es (insert d x) where
  inv := hp.inv.of_same rfl rfl rfl (le_refl _) (Finset.subset_insert _ _) id
  ready := hp.ready
  table := hp.table
  keys := hp.keys
  bos := hp.bos
  unborn := hp.unborn
  fds := by
    show insert d p.fds = _
    rw [hp.fds, Finset.union_insert]
  key_new := by
    intro e he
    refine ⟨(hp.key_new e he).1, fun hmem => ?_⟩
    rcases Finset.mem_insert.mp hmem with heq | hmem
    · exact (hp.not_open hd).2.2 e he heq.symm
    · exact (hp.key_new e he).2 hmem
  key_nonneg := hp.key_nonneg
  extra_new := by
    intro y hy
    rcases Finset.mem_insert.mp hy with rfl | hy
    · exact (hp.not_open hd).1
    · exact hp.extra_new y hy

/-- One more pending buffer, under a new key and with a new object. -/
theorem Pending.added (hp : Pending p0 p handles es x) {handle : NativeHandle} {e : AndroidBuffer}
    {b : Bo} {d : GbmBoData} {handles' heap : Finset Nat} {n : Nat} (cs : List ExtCall)
    (hfds : handle.fds = [e.fd]) (hb : b.data = some d) (hkey : 0 ≤ e.fd ∧ e.fd ∉ p.fds)
    (hbo : p.next ≤ e.bo ∧ e.bo < n) (haddr : p.next ≤ e.addr ∧ e.addr < n)
    (hhandles : ∀ a ∈ handles', a ∈ p.handles ∨ a < n)
    (hp' : p' = { p with
      table := e :: p.table
      bos := Function.update p.bos e.bo (some b)
      fds := insert e.fd p.fds
      handles := handles'
      heap := heap
      next := n
      calls := cs }) : Pending p0 p' (handles ++ [handle]) (es ++ [e]) x := by
  have hinv : ProcInv p' := hp.inv.of_added hb hkey.2 (Finset.mem_insert_self _ _)
    (Finset.subset_insert _ _) hbo haddr hhandles hp.ready hp'
  subst hp'
  -- the new object's address has not been handed out
  have hlt : ∀ e' ∈ es, e'.bo < p.next := fun e' he' =>
    (hp.inv.bo_lt e'.bo (hp.inv.alive e' (hp.mem_table he'))).2
  have hnone : p.bos e.bo = none := by
    by_contra hsome
    have := (hp.inv.bo_lt e.bo (Option.isSome_iff_ne_none.mpr hsome)).2
    omega
  constructor
  case inv => exact hinv
  case ready => exact hp.ready
  case table =>
    show e :: p.table = _
    rw [List.reverse_append, hp.table]
    rfl
  case keys =>
    rw [List.map_append, List.map_append, hp.keys, List.map_singleton, hfds, List.map_singleton]
  case bos =>
    intro bo hne
    have hbo' : bo ≠ e.bo := fun heq => hne e (by simp) heq.symm
    simp only [Function.update_of_ne hbo']
    exact hp.bos bo fun e' he' => hne e' (List.mem_append_left _ he')
  case unborn =>
    intro e' he'
    rcases List.mem_append.mp he' with he' | he'
    · exact hp.unborn e' he'
    · rw [List.mem_singleton.mp he', ← hp.bos e.bo fun e' he' => by have := hlt e' he'; omega]
      exact hnone
  case fds =>
    show insert e.fd p.fds = _
    rw [hp.fds, List.map_append, List.map_singleton, List.toFinset_append, List.toFinset_cons,
      List.toFinset_nil]
    ext y
    simp only [Finset.mem_union, Finset.mem_insert, Finset.notMem_empty, or_false]
    tauto
  case key_new =>
    intro e' he'
    rcases List.mem_append.mp he' with he' | he'
    · exact hp.key_new e' he'
    · rw [List.mem_singleton.mp he']
      exact ⟨(hp.not_open hkey.2).1, (hp.not_open hkey.2).2.1⟩
  case key_nonneg =>
    intro e' he'
    rcases List.mem_append.mp he' with he' | he'
    · exact hp.key_nonneg e' he'
    · rw [List.mem_singleton.mp he']
      exact hkey.1
  case extra_new => exact hp.extra_new

/-- A new buffer is one more pending, and leaves one descriptor open that is not its key. -/
theorem Pending.new (hnew : ∀ n fds, (env.newFd n fds).isSome = true)
    (hp : Pending p0 p handles es x) {desc : AllocatorDesc} {handle : NativeHandle}
    {stride : UInt32} (h : grallocGbmAndroidBufferNew cfg env desc p = (.ok (handle, stride), p')) :
    ∃ e d, d ∉ x ∧ Pending p0 p' (handles ++ [handle]) (es ++ [e]) (insert d x) := by
  obtain ⟨layout, fd?, logFd?, -, hfd, hlog, hr, hp'⟩ := grallocGbmAndroidBufferNew_ok h
  obtain ⟨fd, hfd'⟩ := Option.isSome_iff_exists.mp (hnew (p.calls.length + 2) p.fds)
  obtain ⟨d, hd'⟩ := Option.isSome_iff_exists.mp (hnew (p.calls.length + 4) (insert fd p.fds))
  obtain rfl : fd? = some fd := hfd.trans hfd'
  obtain rfl : logFd? = some d := hlog.trans hd'
  have hfresh := env.newFd_fresh _ _ _ hfd'
  have hdfresh := env.newFd_fresh _ _ _ hd'
  have hdx : d ∉ x := (hp.not_open fun hmem => hdfresh.2 (Finset.mem_insert_of_mem hmem)).2.1
  have hhandle : handle.fds = [fd] := by
    rw [(Prod.mk.inj hr).1]
    rfl
  refine ⟨⟨p.next + 5, fd, p.next + 1⟩, d, hdx, ?_⟩
  -- first the buffer, then the descriptor of the log message
  rw [hp']
  refine Pending.opened (hp.added p.calls hhandle (b := createdBo cfg desc layout (p.next + 2)) rfl
    hfresh ⟨by simp, by simp⟩ ⟨by simp, by simp⟩ ?_ rfl) hdfresh.2 _
  intro a ha
  rcases Finset.mem_insert.mp ha with rfl | ha
  · exact .inr (by omega)
  · exact .inl ha

/-! ## Taking the oldest away

  The second loop and the clean-up both take the first handle of the list, whose entry is the
  oldest in the table. -/

/-- Releasing a handle whose entry and object are there: both go, and its descriptors are closed. -/
theorem releaseHandle_eq {handle : NativeHandle} {e : AndroidBuffer} {b : Bo}
    (hready : isGrallocGbmReady p = true)
    (hfind : findBufferK (grallocHandle handle).primeFd p.table = some e)
    (hb : p.bos e.bo = some b) :
    ∃ heap, releaseHandle handle p = (.ok (), { p with
      table := Keyed.remove AndroidBuffer.addr e.addr p.table
      bos := Function.update p.bos e.bo none
      fds := p.fds \ handle.fds.toFinset
      handles := p.handles.erase handle.addr
      heap := heap
      calls := .boDestroy e.bo :: p.calls }) := by
  obtain ⟨heap, hdestroy⟩ := gbmBoDestroy_eq e.bo b p
  refine ⟨heap, ?_⟩
  simp only [releaseHandle, grallocGbmAndroidBufferFree, hready, hfind, hb, hdestroy, deleteBuffer,
    nativeHandleDelete, nativeHandleClose]
  rfl

/-- Without the oldest buffer: its entry, its object and its key are gone. -/
theorem Pending.dropped {handle : NativeHandle} {e : AndroidBuffer}
    (hp : Pending p0 p (handle :: handles) (e :: es) x) {handles' heap : Finset Nat}
    {cs : List ExtCall} (hhandles : handles' ⊆ p.handles)
    (hp' : p' = { p with
      table := Keyed.remove AndroidBuffer.addr e.addr p.table
      bos := Function.update p.bos e.bo none
      fds := p.fds \ handle.fds.toFinset
      handles := handles'
      heap := heap
      calls := cs }) : Pending p0 p' handles es x := by
  have hclosed : handle.fds.toFinset = {e.fd} := by
    rw [(List.cons.inj hp.keys).1]
    rfl
  rw [hclosed] at hp'
  have hmem := hp.mem_table List.mem_cons_self
  have hrest : Keyed.remove AndroidBuffer.addr e.addr p.table = es.reverse ++ p0.table := by
    have haddrs := hp.inv.addrs
    rw [hp.table, List.reverse_cons, List.append_assoc, List.singleton_append] at haddrs ⊢
    exact Keyed.remove_append_cons haddrs
  -- no entry that stays has the key of the one that goes
  have hkey : ∀ e' ∈ Keyed.remove AndroidBuffer.addr e.addr p.table, e'.fd ≠ e.fd := by
    intro e' he' heq
    have hsame : e' = e := Keyed.eq_of_key_eq hp.inv.keys (Keyed.mem_remove.mp he').1 hmem heq
    exact (Keyed.mem_remove.mp he').2 (by rw [hsame])
  have hkey' : ∀ e' ∈ es, e'.fd ≠ e.fd := fun e' he' => hkey e' (by rw [hrest]; simp [he'])
  have hinv : ProcInv p' := by
    have h1 : ProcInv { p with
        table := Keyed.remove AndroidBuffer.addr e.addr p.table
        bos := Function.update p.bos e.bo none
        heap := heap
        calls := cs } := hp.inv.of_freed hmem rfl
    refine h1.of_closed (fun e' he' => ?_) hhandles hp'
    exact Finset.mem_sdiff.mpr ⟨h1.key_open e' he', by simpa using hkey e' he'⟩
  subst hp'
  constructor
  case inv => exact hinv
  case ready => exact hp.ready
  case table => exact hrest
  case keys => exact (List.cons.inj hp.keys).2
  case bos =>
    intro bo hbo
    by_cases heq : bo = e.bo
    · rw [heq, hp.unborn e List.mem_cons_self]
      exact Function.update_self ..
    · simp only [Function.update_of_ne heq]
      refine hp.bos bo fun e' he' => ?_
      rcases List.mem_cons.mp he' with rfl | he'
      · exact fun h => heq h.symm
      · exact hbo e' he'
  case unborn => exact fun e' he' => hp.unborn e' (List.mem_cons_of_mem _ he')
  case fds =>
    have hnew0 := hp.key_new e List.mem_cons_self
    have hkes : e.fd ∉ (es.map AndroidBuffer.fd).toFinset := by
      intro hmem'
      obtain ⟨e', he', heq⟩ := List.mem_map.mp (List.mem_toFinset.mp hmem')
      exact hkey' e' he' heq
    show p.fds \ {e.fd} = _
    rw [hp.fds, List.map_cons, List.toFinset_cons, Finset.union_insert, Finset.insert_union,
      Finset.sdiff_singleton_eq_erase, Finset.erase_insert]
    simp only [Finset.mem_union, not_or]
    exact ⟨⟨hnew0.1, hkes⟩, hnew0.2⟩
  case key_new => exact fun e' he' => hp.key_new e' (List.mem_cons_of_mem _ he')
  case key_nonneg => exact fun e' he' => hp.key_nonneg e' (List.mem_cons_of_mem _ he')
  case extra_new => exact hp.extra_new

/-- Exporting and releasing the oldest pending buffer. -/
theorem Pending.release (hnew : ∀ n fds, (env.newFd n fds).isSome = true) {handle : NativeHandle}
    {e : AndroidBuffer} (hp : Pending p0 p (handle :: handles) (e :: es) x) :
    ∃ d p', (dupToAidl env handle p).1.fds = [d] ∧ 0 ≤ d ∧
      releaseHandle handle (dupToAidl env handle p).2 = (.ok (), p') ∧ d ∉ x ∧
      Pending p0 p' handles es (insert d x) := by
  obtain ⟨hfds, -⟩ := List.cons.inj hp.keys
  obtain ⟨d, hd⟩ := Option.isSome_iff_exists.mp (hnew p.calls.length p.fds)
  have hfresh := (env.newFd_fresh _ _ _ hd).2
  have hmem := hp.mem_table List.mem_cons_self
  have h0 := hp.key_nonneg e List.mem_cons_self
  have hdup : dupToAidl env handle p = (⟨[d], (dupToAidl env handle p).1.ints⟩,
      { p with fds := insert d p.fds, calls := .dup e.fd (some d) :: p.calls }) := by
    simp [dupToAidl, hfds, dupEach, dupFd_of_open (fdIsOpen_of_mem env h0 (hp.inv.key_open e hmem)),
      openFd, hd, addFd]
  rw [hdup]
  have hp1 := hp.opened hfresh (.dup e.fd (some d) :: p.calls)
  obtain ⟨-, b, -, hb, -⟩ := hp1.inv.exists_object hmem
  have hfind : findBufferK (grallocHandle handle).primeFd p.table = some e := by
    rw [primeFd_of_fds hfds]
    exact Keyed.lookup_eq_some_of_mem hp.inv.keys hmem
  obtain ⟨heap, hrel⟩ := releaseHandle_eq (p := { p with
    fds := insert d p.fds, calls := .dup e.fd (some d) :: p.calls }) hp.ready hfind hb
  exact ⟨d, _, rfl, (env.newFd_fresh _ _ _ hd).1, hrel, (hp.not_open hfresh).2.1,
    hp1.dropped (Finset.erase_subset handle.addr _) rfl⟩

/-! ## The two loops

  The first adds buffers at the end, the second takes them from the front. -/

/-- The first loop: every buffer it makes is pending, and has left one more descriptor open. -/
theorem newHandles_pending (hnew : ∀ n fds, (env.newFd n fds).isSome = true) {desc : AllocatorDesc} :
    ∀ {n : Nat} {handles : List NativeHandle} {es : List AndroidBuffer} {x : Finset Int}
      {pixelStride : Int32} {p p' : Proc} {r : List NativeHandle × Int32},
      Pending p0 p handles es x →
      newHandles cfg env desc n handles pixelStride p = (.ok r, p') →
      ∃ es' x', Pending p0 p' r.1 es' x' ∧ x'.card = x.card + n := by
  intro n
  induction n with
  | zero =>
    intro handles es x _ p p' r hp h
    obtain ⟨h1, rfl⟩ := Prod.mk.inj h
    obtain rfl := Status.ok.inj h1
    exact ⟨_, _, hp, rfl⟩
  | succ n ih =>
    intro handles es x _ p p' r hp h
    unfold newHandles at h
    cases hb : grallocGbmAndroidBufferNew cfg env desc p with
    | mk ret p1 =>
      rw [hb] at h
      cases ret with
      | crash => cases h
      | err rc =>
        dsimp only at h
        split at h <;> cases h
      | ok created =>
        obtain ⟨handle, stride⟩ := created
        obtain ⟨e, d, hd, hp1⟩ := hp.new hnew hb
        dsimp only at h
        split at h
        · cases h
        · obtain ⟨es', x', hp', hcard⟩ := ih hp1 h
          refine ⟨es', x', hp', ?_⟩
          rw [hcard, Finset.card_insert_of_notMem hd]
          omega

/-- The descriptors handed out with a list of buffers. -/
def returnedFds (buffers : List AidlNativeHandle) : Finset Int :=
  (buffers.flatMap AidlNativeHandle.fds).toFinset

/-- The second loop: it comes to its end with nothing pending, what it opened is what it hands out,
    and every duplicate is there. -/
theorem exportHandles_pending (hnew : ∀ n fds, (env.newFd n fds).isSome = true) :
    ∀ {handles : List NativeHandle} {es : List AndroidBuffer} {x : Finset Int} {p : Proc},
      Pending p0 p handles es x →
      ∃ buffers p', exportHandles env handles p = (.ok buffers, p') ∧
        Pending p0 p' [] [] (x ∪ returnedFds buffers) ∧ Disjoint x (returnedFds buffers) ∧
        ∀ a ∈ buffers, ∀ fd ∈ a.fds, 0 ≤ fd := by
  intro handles
  induction handles with
  | nil =>
    intro es x p hp
    have hes : es = [] := by
      have := hp.keys
      simpa using this.symm
    subst hes
    refine ⟨[], p, rfl, ?_, ?_, List.forall_mem_nil _⟩
    · simpa [returnedFds] using hp
    · simp [returnedFds]
  | cons handle handles ih =>
    intro es x p hp
    cases es with
    | nil => cases hp.keys
    | cons e es =>
      obtain ⟨d, p1, hfds, h0, hrel, hd, hp1⟩ := hp.release hnew
      obtain ⟨buffers, p', heq, hp', hdisj, hnonneg⟩ := ih hp1
      have hret : returnedFds ((dupToAidl env handle p).1 :: buffers)
          = insert d (returnedFds buffers) := by
        simp [returnedFds, hfds]
      refine ⟨(dupToAidl env handle p).1 :: buffers, p', ?_, ?_, ?_,
        List.forall_mem_cons.mpr ⟨?_, hnonneg⟩⟩
      · unfold exportHandles
        simp only [hrel, heq]
      · rw [hret, Finset.union_insert, ← Finset.insert_union]
        exact hp'
      · rw [hret, Finset.disjoint_insert_right]
        exact ⟨hd, Finset.disjoint_of_subset_left (Finset.subset_insert d x) hdisj⟩
      · rw [hfds]
        exact List.forall_mem_singleton.mpr h0

end

/-! ## Calls -/

/-- The call leaves behind what it hands out, and nothing else. -/
def Conserves (cfg : BuildConfig) (env : Env) (p : Proc) (call : AllocatorDesc × Int32) : Prop :=
  ∀ res p', grallocGbmAllocate cfg env call.1 call.2 p = (.ok res, p') →
    p'.table = p.table ∧ p'.bos = p.bos ∧ p'.fds = p.fds ∪ returnedFds res.buffers

/-- **One successful call**: the table and the objects are back to what they were, and so are the
    descriptors, but for those handed out, exactly if the count was 0. -/
theorem grallocGbmAllocate_effect {cfg : BuildConfig} {env : Env}
    (hnew : ∀ n fds, (env.newFd n fds).isSome = true) {desc : AllocatorDesc} {count : Int32}
    {p p' : Proc} {res : AllocationResult} (hp : ProcInv p)
    (h : grallocGbmAllocate cfg env desc count p = (.ok res, p')) :
    ProcInv p' ∧ p'.table = p.table ∧ p'.bos = p.bos ∧
      (p'.fds = p.fds ∪ returnedFds res.buffers ↔ count = 0) := by
  obtain ⟨hsup, hneg, handles, p1, hn, hexp'⟩ := grallocGbmAllocate_ok h
  have hready := grallocGbmIsAllocatorDescSupported_ready hsup
  obtain ⟨es, x, hp1, hcard⟩ := newHandles_pending hnew (Pending.start hp hready) hn
  obtain ⟨buffers, p2, hexp, hp2, hdisj, -⟩ := exportHandles_pending hnew hp1
  rw [hexp'] at hexp
  obtain ⟨hbuffers, rfl⟩ := Prod.mk.inj hexp
  obtain rfl := Status.ok.inj hbuffers
  obtain ⟨htable, hbos, hfds⟩ := hp2.done
  refine ⟨hp2.inv, htable, hbos, ?_⟩
  rw [hfds]
  have hx : p.fds ∪ (x ∪ returnedFds res.buffers) = p.fds ∪ returnedFds res.buffers ↔ x = ∅ := by
    constructor
    · intro heq
      refine Finset.eq_empty_of_forall_notMem fun d hd => ?_
      have hmem : d ∈ p.fds ∪ returnedFds res.buffers := by
        rw [← heq]
        exact Finset.mem_union_right _ (Finset.mem_union_left _ hd)
      rcases Finset.mem_union.mp hmem with h0 | h0
      · exact hp1.extra_new d hd h0
      · exact Finset.disjoint_left.mp hdisj hd h0
    · rintro rfl
      rw [Finset.empty_union]
  rw [hx, ← Finset.card_eq_zero, hcard, Finset.card_empty, Nat.zero_add]
  have hle : 0 ≤ count.toInt := by
    have := Int32.not_lt.mp hneg
    exact Int32.le_iff_toInt_le.mp this
  constructor
  · intro h0
    exact Int32.toInt_inj.mp (by rw [Int32.toInt_zero]; omega)
  · rintro rfl
    rfl

/-! ## Runs

  What a call conserves, a run of successful calls conserves, and one that does not shows where. -/

/-- The process after a call. -/
def grallocGbmAllocateStep (cfg : BuildConfig) (env : Env) (p : Proc)
    (call : AllocatorDesc × Int32) : Proc :=
  (grallocGbmAllocate cfg env call.1 call.2 p).2

/-- The call succeeds. -/
def Succeeds (cfg : BuildConfig) (env : Env) (p : Proc) (call : AllocatorDesc × Int32) : Prop :=
  ∃ res, (grallocGbmAllocate cfg env call.1 call.2 p).1 = .ok res

/-- A started service is in order. -/
theorem Allocator.init_inv (env : Env) : ProcInv (Allocator.init env).2.proc := by
  have h1 : ProcInv { Proc.start with dmaAllocator := true } :=
    ProcInv.start.of_same rfl rfl rfl (le_refl _) subset_rfl id
  have hinit : (Allocator.init env).2.proc
      = (grallocGbmInit env { Proc.start with dmaAllocator := true }).2 := rfl
  rw [hinit]
  rcases grallocGbmInit_cases env { Proc.start with dmaAllocator := true } with
    ⟨h, -⟩ | ⟨-, rc, g, n, cs, -, hn, hr⟩ | ⟨-, fd, n, cs, -, -, hn, hr⟩
  · cases h
  · rw [hr]
    exact h1.of_same rfl rfl rfl hn subset_rfl fun h => by cases h
  · rw [hr]
    exact h1.of_same rfl rfl rfl hn (Finset.subset_insert _ _) fun h => by cases h

/-- A successful call: the state it leaves, and where it conserves. -/
theorem grallocGbmAllocateStep_spec {cfg : BuildConfig} {env : Env}
    (hnew : ∀ n fds, (env.newFd n fds).isSome = true) {p : Proc} {call : AllocatorDesc × Int32}
    (hp : ProcInv p) (hs : Succeeds cfg env p call) :
    let p' := grallocGbmAllocateStep cfg env p call
    ProcInv p' ∧ (p'.table = p.table ∧ p'.bos = p.bos) ∧
      (Conserves cfg env p call ↔ call.2 = 0) := by
  intro p'
  obtain ⟨res, hres⟩ := hs
  have hcall : grallocGbmAllocate cfg env call.1 call.2 p = (.ok res, p') := Prod.ext hres rfl
  obtain ⟨hp', htable, hbos, hfds⟩ := grallocGbmAllocate_effect hnew hp hcall
  refine ⟨hp', ⟨htable, hbos⟩, ?_⟩
  rw [← hfds]
  constructor
  · intro h
    exact (h res p' hcall).2.2
  · intro h res' p'' hcall'
    rw [hcall] at hcall'
    obtain ⟨h1, rfl⟩ := Prod.mk.inj hcall'
    obtain rfl := Status.ok.inj h1
    exact ⟨htable, hbos, h⟩

/-- **What accumulates in the allocator.**  In every run of successful calls of a started service,
    each call leaves the table and the objects as they were; and each leaves the descriptors as they
    were, but for those it hands out, exactly if all counts are 0. -/
theorem grallocGbmAllocate_conserves_iff (cfg : BuildConfig) (env : Env)
    (hnew : ∀ n fds, (env.newFd n fds).isSome = true) (calls : List (AllocatorDesc × Int32))
    (hok : Run.Along (grallocGbmAllocateStep cfg env) (Succeeds cfg env)
      (Allocator.init env).2.proc calls) :
    Run.Along (grallocGbmAllocateStep cfg env)
        (fun p call => (grallocGbmAllocateStep cfg env p call).table = p.table ∧
          (grallocGbmAllocateStep cfg env p call).bos = p.bos)
        (Allocator.init env).2.proc calls ∧
      (Run.Along (grallocGbmAllocateStep cfg env) (Conserves cfg env)
          (Allocator.init env).2.proc calls ↔
        ∀ call ∈ calls, call.2 = 0) := by
  have hinv := Allocator.init_inv env
  have hstep : ∀ p call, ProcInv p → Succeeds cfg env p call →
      ProcInv (grallocGbmAllocateStep cfg env p call) :=
    fun p call hp hs => (grallocGbmAllocateStep_spec hnew hp hs).1
  constructor
  · exact Run.along_of_inv ProcInv hstep
      (fun p call hp hs => (grallocGbmAllocateStep_spec hnew hp hs).2.1) hinv hok
  · rw [← Run.along_const (P := fun call : AllocatorDesc × Int32 => call.2 = 0)]
    exact Run.along_congr ProcInv hstep
      (fun p call hp hs => (grallocGbmAllocateStep_spec hnew hp hs).2.2) hinv hok

/-- The descriptor of a 64x64 RGBA_8888 buffer for CPU access. -/
def rgbaDesc : AllocatorDesc := ⟨64, 64, 1, 1, 0x33, 0⟩

/-- Two calls, for two buffers and for none. -/
theorem two_calls_conserve_iff :
    Run.Along (grallocGbmAllocateStep .androidBp .plain)
        (fun p call => (grallocGbmAllocateStep .androidBp .plain p call).table = p.table ∧
          (grallocGbmAllocateStep .androidBp .plain p call).bos = p.bos)
        (Allocator.init .plain).2.proc [(rgbaDesc, 2), (rgbaDesc, 0)] ∧
      (Run.Along (grallocGbmAllocateStep .androidBp .plain) (Conserves .androidBp .plain)
          (Allocator.init .plain).2.proc [(rgbaDesc, 2), (rgbaDesc, 0)] ↔
        ∀ call ∈ [(rgbaDesc, (2 : Int32)), (rgbaDesc, 0)], call.2 = 0) :=
  grallocGbmAllocate_conserves_iff .androidBp .plain (fun _ fds => lowestFd_isSome fds) _
    ⟨⟨_, rfl⟩, ⟨_, rfl⟩, trivial⟩

/-- One buffer is allocated and handed out as descriptor 6; descriptor 5 stays open with it. -/
theorem allocated_buffer_leaks :
    ∃ res p', grallocGbmAllocate .androidBp .plain rgbaDesc 1 (Allocator.init .plain).2.proc
        = (.ok res, p') ∧
      (Allocator.init .plain).2.proc.fds = {0, 1, 2, 3} ∧ returnedFds res.buffers = {6} ∧
      p'.fds = {0, 1, 2, 3, 5, 6} :=
  ⟨_, _, rfl, by decide, by decide, by decide⟩

end GrallocGbm
