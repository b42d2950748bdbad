/-
  Buffers that are shared.

  The allocator serves a batch; its buffers are sent to clients, which import and lock them.  A
  `Viewing` is one such client, with everything that it does before and after the import: what it
  was sent and closed, which other buffers it imported, locked and freed, up to the lock that gave
  it an address.

  Two clients that look at buffers of the batch look at the same memory exactly if it is the same
  buffer (`viewings_share_iff`).  This is what both halves of the repository are for, and neither
  half says it.

  * On the allocator's side no two buffers of a batch are the same memory, and the descriptor that
    is sent stands for the memory that was allocated (`Exports.duplicates`), though the allocator
    gives its own descriptors up before it returns.
  * On the client's side a lock shows what the descriptor stood for when it came
    (`Client.Ok.lock_shows`), though the client has closed that descriptor since.

  In between is the kernel, which gives the client a descriptor for the same memory under another
  number; that is the `memory` of a viewing.

  The batches are those that were served in full (`BatchServed`): the answer is OK and every
  duplicate could be made.  In a batch with one duplicate that failed, that buffer is sent as `-1`,
  and the statement is not about it.
-/
import GrallocGbm.BatchShape
import GrallocGbm.ReceivedMemory

namespace GrallocGbm

open Views

/-- The handle a client rebuilds of a buffer whose descriptor it has got as `fd`. -/
def rebuilt (addr : Nat) (words : Nat → Int) (fd : Int) (buffer : AidlNativeHandle) : NativeHandle :=
  makeFromAidl addr words ⟨[fd], buffer.ints⟩

/-- A client that has been sent `buffer`, has imported it and has got an address from a lock of it.
    `memory` says what the descriptors of the sender stand for. -/
structure Viewing (cfg : BuildConfig) (memory : Int → Option Memory) (buffer : AidlNativeHandle) where
  env : Env
  before : List (ClientOp Memory)
  before_allowed : Client.start.AllowsRun cfg env before
  /-- The descriptor as the client knows it stands for the same memory. -/
  fd : Int
  sent : buffer.fds.map memory = [(Client.start.run cfg env before).sight.names fd]
  /-- The block the client rebuilds the handle in, and the memory behind it. -/
  addr : Nat
  words : Nat → Int
  clone : NativeHandle
  imported : ((Client.start.run cfg env before).mapper.importBuffer cfg env
    (some (rebuilt addr words fd buffer))).1 = (.none, some clone)
  later : List (ClientOp Memory)
  later_allowed : ((Client.start.run cfg env before).step cfg env
    (.call (.buffer (.importBuffer (some (rebuilt addr words fd buffer)))))).AllowsRun cfg env later
  cpuUsage : UInt64
  address : Nat
  locked : ((((Client.start.run cfg env before).step cfg env
    (.call (.buffer (.importBuffer (some (rebuilt addr words fd buffer)))))).run cfg env
      later).mapper.lock env (some clone) cpuUsage).1 = (some .none, some (some address))

namespace Viewing

variable {cfg : BuildConfig} {memory : Int → Option Memory} {buffer : AidlNativeHandle}

/-- The client when it has got the address. -/
def client (x : Viewing cfg memory buffer) : Client Memory :=
  (((Client.start.run cfg x.env x.before).step cfg x.env
    (.call (.buffer (.importBuffer (some (rebuilt x.addr x.words x.fd buffer)))))).run cfg x.env
      x.later).step cfg x.env (.call (.buffer (.lock (some x.clone) x.cpuUsage)))

/-- What a mapping at the address shows. -/
def Shows (x : Viewing cfg memory buffer) (m : Memory) : Prop :=
  ∃ v ∈ x.client.sight.views, v.addr = x.address ∧ v.shows = some m

/-- What the buffer stands for with the sender, its client sees. -/
theorem shows_of_memory (x : Viewing cfg memory buffer) {m : Memory}
    (hm : buffer.fds.map memory = [some m]) : x.Shows m := by
  have hname : (Client.start.run cfg x.env x.before).sight.names x.fd = some m := by
    have hsent := x.sent
    rw [hm] at hsent
    exact (List.cons.inj hsent).1.symm
  have hok := (Client.Ok.start.run cfg x.env x.before_allowed).1
  have hopen : x.fd ∈ (Client.start.run cfg x.env x.before).proc.fds :=
    hok.names_open x.fd (by rw [hname]; exact Option.some_ne_none m)
  obtain ⟨v, hv, haddr, hshows⟩ := hok.lock_shows cfg x.env hopen x.imported x.later_allowed x.locked
  exact ⟨v, hv, haddr, hshows.trans hname⟩

end Viewing

/-! ## Two clients

  Each client's mapping shows what its handle stood for; the handles are duplicates of two
  elements of the batch; and different elements are different memory. -/

/-- **Clients share memory exactly if they share a buffer.**  After any requests to a started
    service, for any batch that is served in full: every client that has got an address for a buffer
    of the batch sees memory through it, and two clients see the same memory exactly if they have
    been sent the same buffer. -/
theorem viewings_share_iff (cfg : BuildConfig) (env : Env)
    (decode : List UInt8 → Option Allocator.BufferDescriptorInfoV4)
    (hinit : (Allocator.init env).1 = 0) (ops : List AllocatorOp)
    (hops : Run.Along (allocatorStep cfg env decode) (Returns cfg env decode)
      (Allocator.init env).2 ops) (backend : AllocatorBackendType) (d : BufferDescriptorInfo)
    (count : Int32) (res : AllocationResult) (p' : Proc)
    (hserved : backend.BatchServed cfg env d count (allocatorRun cfg env decode ops).proc)
    (hcall : backend.allocate2 cfg env d count (allocatorRun cfg env decode ops).proc = (.ok res, p'))
    (i j : Fin res.buffers.length) (x : Viewing cfg p'.memoryOf (res.buffers.get i))
    (y : Viewing cfg p'.memoryOf (res.buffers.get j)) :
    ∃ m n, x.Shows m ∧ y.Shows n ∧ (m = n ↔ i = j) := by
  have hshape := (batchShape_iff_of_settled backend (allocatorRun_settled hinit hops)).mpr hserved
  obtain ⟨-, hnodup, handles, p1, -, hdup⟩ := hshape.shape res p' hcall
  -- the memory of each buffer, from the handle it is a duplicate of
  have hmemory : ∀ k : Fin res.buffers.length, ∃ m, (res.buffers.get k).fds.map p'.memoryOf = [some m] := by
    intro k
    have hlt : k.val < handles.length := by
      rw [hdup.length_eq]
      exact k.isLt
    obtain ⟨m, -, hm⟩ := (hdup.get hlt k.isLt).memory
    exact ⟨m, hm⟩
  obtain ⟨m, hm⟩ := hmemory i
  obtain ⟨n, hn⟩ := hmemory j
  refine ⟨m, n, x.shows_of_memory hm, y.shows_of_memory hn, ?_⟩
  constructor
  · rintro rfl
    have hbuffer := List.inj_on_of_nodup_map hnodup (List.get_mem _ i) (List.get_mem _ j)
      (hm.trans hn.symm)
    exact List.nodup_iff_injective_get.mp hnodup.of_map hbuffer
  · rintro rfl
    rw [hm] at hn
    exact Option.some.inj (List.cons.inj hn).1

/-! ### A batch of two -/

/-- The words a BLOB of 4096 bytes is sent with. -/
def blobInts : List Int := [1616401232, 4, 4096, 1, 33, 51, 512, 0, 0, 0, 0, 0]

/-- What a request for two of them is answered with. -/
def blobResult : AllocationResult := ⟨512, [⟨[6], blobInts⟩, ⟨[4], blobInts⟩]⟩

/-- A client that is sent a BLOB, as descriptor 5, imports it, closes the descriptor, and locks the
    clone. -/
def blobViewing (memory : Int → Option Memory) (k : Int) (m : Memory) (hm : memory k = some m) :
    Viewing .androidBp memory ⟨[k], blobInts⟩ where
  env := .plain
  before := [.receive 5 m]
  before_allowed := ⟨⟨by decide, by decide⟩, trivial⟩
  fd := 5
  sent := by rw [List.map_singleton, hm]; rfl
  addr := 100
  words := fun _ => 0
  clone := ((Client.start.run .androidBp .plain [.receive 5 m]).mapper.importBuffer .androidBp .plain
    (some (rebuilt 100 (fun _ => 0) 5 ⟨[k], blobInts⟩))).1.2.get rfl
  imported := rfl
  later := [.close 5]
  later_allowed := ⟨Finset.mem_insert_self _ _, trivial⟩
  cpuUsage := 0x3
  address := 16384
  locked := rfl

/-- The handles of a BLOB batch have descriptors of the heap, which are positive. -/
theorem AllocatorBackendDmaBuf.newHandles_primeFd_pos {env : Env} {d : BufferDescriptorInfo} {n : Nat}
    {p p' : Proc} {handles : List NativeHandle}
    (h : AllocatorBackendDmaBuf.newHandles env d n p = (.ok handles, p')) :
    ∀ handle ∈ handles, 0 < (grallocHandle handle).primeFd := by
  induction n generalizing handles p with
  | zero =>
    obtain ⟨hr, rfl⟩ := Prod.mk.inj h
    obtain rfl := Status.ok.inj hr
    exact List.forall_mem_nil _
  | succ n ih =>
    obtain ⟨handle, rest, hfds, hpos, rfl, hrest⟩ := newHandles_succ_ok h
    refine List.forall_mem_cons.mpr ⟨?_, ih hrest⟩
    rw [primeFd_of_fds hfds]
    exact hpos

/-- Where every call succeeds, every duplicate is made. -/
theorem dupsSucceed_plain (release : NativeHandle → Proc → Proc) {handles : List NativeHandle}
    (h : ∀ handle ∈ handles, 0 < (grallocHandle handle).primeFd) (p : Proc) :
    DupsSucceed .plain release handles p := by
  induction handles generalizing p with
  | nil => trivial
  | cons handle handles ih =>
    obtain ⟨hpos, h⟩ := List.forall_mem_cons.mp h
    refine ⟨?_, ih h _⟩
    rw [← Option.isSome_iff_ne_none, dupFd_of_open (by simp [fdIsOpen, Env.plain, hpos.le])]
    exact lowestFd_isSome p.fds

/-- Two clients, each with one of the two BLOBs, both under descriptor 5. -/
theorem blob_viewings_share :
    let p' := (AllocatorBackendType.allocatorGrallocDmabuf.allocate2 .androidBp .plain (blobInfo 4096 1) 2
      (allocatorRun .androidBp .plain (fun _ => none) []).proc).2
    ∃ m n, (blobViewing p'.memoryOf 6 (.heap 4) rfl).Shows m ∧
      (blobViewing p'.memoryOf 4 (.heap 6) rfl).Shows n ∧
      (m = n ↔ (⟨0, by decide⟩ : Fin blobResult.buffers.length) = ⟨1, by decide⟩) :=
  viewings_share_iff .androidBp .plain (fun _ => none) rfl [] trivial .allocatorGrallocDmabuf
    (blobInfo 4096 1) 2 blobResult _
    ⟨by decide, fun _ _ _ => rfl, fun _ _ _ => rfl, fun _ p1 h =>
      dupsSucceed_plain _ (AllocatorBackendDmaBuf.newHandles_primeFd_pos h) p1⟩ (Prod.ext rfl rfl)
    ⟨0, by decide⟩ ⟨1, by decide⟩ (blobViewing _ 6 (.heap 4) rfl) (blobViewing _ 4 (.heap 6) rfl)

end GrallocGbm
