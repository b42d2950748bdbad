/-
  The buffer table as a map from descriptors to buffer objects.

  `add_buffer` looks whether the key is there already, says in its log that it skips the buffer, and
  adds it.  With two entries under one key a free releases one of them, and the other one comes to
  light: the descriptor still has a buffer after a free that returned 0.

  The mapper never gives a key twice, because it imports clones and its clones' descriptors are new
  (`Invariant`).  The library itself is not protected by that.  So here the table is used directly,
  by the library's entry points with any handles, and by `add_buffer` and `delete_buffer`
  themselves; descriptors are closed in between, so that keys come back.

  `tableRun_map_iff` says when the table is a map all along: exactly if every insertion is under a
  key that is not there.  The condition speaks of the key that a call *will* insert (`insertedKey`),
  which for an import is in its handle, and for a new buffer the descriptor that libgbm exports;
  what has to succeed before the insertion is part of it.

  * `tableStep_cases` — what a call does to the table: it adds an entry at a fresh address under the
    key it announces, or announces none and adds none;
  * `TableInv.of_added` — adding keeps the table a map exactly if the key was not there;
  * `TableInv.freed` — in a map, a free that returns 0 leaves nothing under the key;
  * `TableInv.step_ok_iff` — the step lemma, from which the run follows by `Run.along_iff`.

  Which of two entries with one key is found first does not matter here, and is not the same in the
  list and in the source's hash table (`HashedTable`).
-/
import GrallocGbm.Buffer
import GrallocGbm.Lib.Run

namespace GrallocGbm

/-! ## The machine

  The operations on the table alone, with the answers that the calls of the library give. -/

/-- A call that uses the table, or a descriptor closed by somebody. -/
inductive TableOp where
  | init
  /-- `add_buffer` of a new entry. -/
  | addBuffer (fd : Int) (bo : Nat)
  /-- `delete_buffer`; of a record that is no entry, which the source leaves undefined, it does
      nothing. -/
  | deleteBuffer (buffer : AndroidBuffer)
  | bufferNew (desc : AllocatorDesc)
  | bufferImport (handle : NativeHandle)
  | bufferFree (handle : NativeHandle)
  | close (fd : Int)

/-- One call. -/
def tableStep (cfg : BuildConfig) (env : Env) (p : Proc) : TableOp → Proc
  | .init => (grallocGbmInit env p).2
  | .addBuffer fd bo =>
    let (a, p) := malloc p
    addBuffer ⟨a, fd, bo⟩ p
  | .deleteBuffer buffer => deleteBuffer buffer p
  | .bufferNew desc => (grallocGbmAndroidBufferNew cfg env desc p).2
  | .bufferImport handle => (grallocGbmAndroidBufferImport cfg env handle p).2
  | .bufferFree handle => (grallocGbmAndroidBufferFree handle p).2
  | .close fd => closeFd fd p

/-- What a call must do: leave at most one entry for each descriptor and, if it is a free that
    returns 0, none for the handle's. -/
structure TableOk (cfg : BuildConfig) (env : Env) (p : Proc) (op : TableOp) : Prop where
  keys : ((tableStep cfg env p op).table.map AndroidBuffer.fd).Nodup
  freed : ∀ handle, op = .bufferFree handle → (grallocGbmAndroidBufferFree handle p).1 = .ok () →
    findBufferK (grallocHandle handle).primeFd (tableStep cfg env p op).table = none

/-- The key under which a call will insert an entry, if everything it asks of the outside before
    that succeeds: the descriptor exported for a new object, or the handle's. -/
def insertedKey (cfg : BuildConfig) (env : Env) (p : Proc) : TableOp → Option Int
  | .addBuffer fd _ => some fd
  | .bufferNew desc =>
    let args := newArgs cfg desc
    let n := p.calls.length
    if isGrallocGbmReady p && env.alloc n &&
        (env.boCreate (n + 1) args.width args.height args.format args.flags).isSome &&
        env.alloc (n + 3) then
      some ((env.newFd (n + 2) p.fds).getD (-1))
    else none
  | .bufferImport handle =>
    let g := grallocHandle handle
    let args := importArgs cfg g
    let n := p.calls.length
    if isGrallocGbmReady p && env.alloc n && (env.boImport (n + 1) args.1 args.2).isSome then
      some g.primeFd
    else none
  | _ => none

/-- Nothing is inserted, or it is under a key that is not there. -/
def InsertsNew (cfg : BuildConfig) (env : Env) (p : Proc) (op : TableOp) : Prop :=
  ∀ fd, insertedKey cfg env p op = some fd → findBufferK fd p.table = none

/-! ## The invariant -/

/-- The table is a map, of entries at addresses that have been handed out, each once. -/
structure TableInv (p : Proc) : Prop where
  keys : (p.table.map AndroidBuffer.fd).Nodup
  addrs : (p.table.map AndroidBuffer.addr).Nodup
  addr_lt : ∀ e ∈ p.table, e.addr < p.next

/-- The empty table is a map. -/
theorem TableInv.start : TableInv Proc.start where
  keys := List.nodup_nil
  addrs := List.nodup_nil
  addr_lt := fun _ h => absurd h List.not_mem_nil

section

variable {cfg : BuildConfig} {env : Env} {p p' : Proc}

/-- A call that leaves the table alone. -/
theorem TableInv.of_same (h : TableInv p) (htable : p'.table = p.table) (hnext : p.next ≤ p'.next) :
    TableInv p' where
  keys := htable ▸ h.keys
  addrs := htable ▸ h.addrs
  addr_lt := by
    rw [htable]
    exact fun e he => lt_of_lt_of_le (h.addr_lt e he) hnext

/-- Without some entries it still is one. -/
theorem TableInv.of_removed (h : TableInv p) {a : Nat}
    (htable : p'.table = Keyed.remove AndroidBuffer.addr a p.table) (hnext : p.next ≤ p'.next) :
    TableInv p' where
  keys := by
    rw [htable]
    exact Keyed.map_remove_nodup h.keys
  addrs := by
    rw [htable]
    exact Keyed.map_remove_nodup h.addrs
  addr_lt := by
    rw [htable]
    exact fun e he => lt_of_lt_of_le (h.addr_lt e (Keyed.mem_remove.mp he).1) hnext

/-- Adding an entry at a fresh address keeps the table a map exactly if its key was not there. -/
theorem TableInv.of_added (h : TableInv p) {e : AndroidBuffer} (htable : p'.table = e :: p.table)
    (haddr : p.next ≤ e.addr) (hnext : e.addr < p'.next) :
    ((p'.table.map AndroidBuffer.fd).Nodup ↔ findBufferK e.fd p.table = none) ∧
      ((p'.table.map AndroidBuffer.fd).Nodup → TableInv p') := by
  have hkeys : (p'.table.map AndroidBuffer.fd).Nodup ↔ findBufferK e.fd p.table = none := by
    rw [htable, Keyed.nodup_keys_cons]
    exact and_iff_left h.keys
  refine ⟨hkeys, fun hnodup => ⟨hnodup, ?_, ?_⟩⟩
  · rw [htable, Keyed.nodup_keys_cons]
    refine ⟨Keyed.lookup_eq_none.mpr fun x hx => ?_, h.addrs⟩
    have := h.addr_lt x hx
    omega
  · intro x hx
    rw [htable] at hx
    rcases List.mem_cons.mp hx with rfl | hx
    · exact hnext
    · have := h.addr_lt x hx
      omega

end

/-! ## One call

  The condition that a call meets, and what the table is after it. -/

section

variable (cfg : BuildConfig) (env : Env) (p : Proc)

/-- Initialisation does not concern the table. -/
theorem grallocGbmInit_table :
    (grallocGbmInit env p).2.table = p.table ∧ p.next ≤ (grallocGbmInit env p).2.next := by
  unfold grallocGbmInit callocChecked openFd
  split
  · exact ⟨rfl, le_refl _⟩
  cases env.alloc p.calls.length with
  | false => exact ⟨rfl, Nat.le_succ _⟩
  | true =>
    simp only [if_true]
    cases env.newFd (ExtCall.alloc true :: p.calls).length p.fds with
    | none => exact ⟨rfl, Nat.le_succ _⟩
    | some fd =>
      dsimp only
      split <;> exact ⟨rfl, Nat.le_succ _⟩

/-- **What a call does to the table**: it adds an entry at a fresh address under the key it announces,
    or announces none and adds none. -/
theorem tableStep_cases (op : TableOp) :
    let p' := tableStep cfg env p op
    p.next ≤ p'.next ∧
      ((insertedKey cfg env p op = none ∧
          (p'.table = p.table ∨ ∃ a, p'.table = Keyed.remove AndroidBuffer.addr a p.table)) ∨
        ∃ e : AndroidBuffer, insertedKey cfg env p op = some e.fd ∧ p'.table = e :: p.table ∧
          p.next ≤ e.addr ∧ e.addr < p'.next) := by
  intro p'
  cases op with
  | init =>
    obtain ⟨htable, hnext⟩ := grallocGbmInit_table env p
    exact ⟨hnext, .inl ⟨rfl, .inl htable⟩⟩
  | addBuffer fd bo =>
    exact ⟨Nat.le_succ _, .inr ⟨⟨p.next, fd, bo⟩, rfl, rfl, le_refl _, Nat.lt_succ_self _⟩⟩
  | deleteBuffer buffer => exact ⟨le_refl _, .inl ⟨rfl, .inr ⟨buffer.addr, rfl⟩⟩⟩
  | close fd => exact ⟨le_refl _, .inl ⟨rfl, .inl rfl⟩⟩
  | bufferNew desc =>
    have hp' : p' = (grallocGbmAndroidBufferNew cfg env desc p).2 := rfl
    rcases grallocGbmAndroidBufferNew_cases cfg env desc p with
      ⟨rc, hready, hr⟩ | ⟨rc, hready, ha, hr⟩ | ⟨rc, hready, ha, hb, hr⟩ |
      ⟨layout, fd, hready, ha, hb, hfd, ⟨rc, ha', hr⟩ | ⟨logFd, ha', -, hr⟩⟩ <;>
      rw [hr] at hp'
    · exact ⟨by rw [hp'], .inl ⟨by simp [insertedKey, hready], .inl (by rw [hp'])⟩⟩
    · exact ⟨by rw [hp']; exact Nat.le_succ _,
        .inl ⟨by simp [insertedKey, ha], .inl (by rw [hp'])⟩⟩
    · exact ⟨by rw [hp']; exact Nat.le_succ _,
        .inl ⟨by simp [insertedKey, hb], .inl (by rw [hp'])⟩⟩
    · exact ⟨by rw [hp']; exact Nat.le_add_right _ _,
        .inl ⟨by simp [insertedKey, ha'], .inl (by rw [hp'])⟩⟩
    · refine ⟨by rw [hp']; exact Nat.le_add_right _ _,
        .inr ⟨⟨p.next + 5, fd.getD (-1), p.next + 1⟩, ?_, by rw [hp'], Nat.le_add_right _ _, ?_⟩⟩
      · simp [insertedKey, hready, ha, hb, ha', hfd]
      · rw [hp']
        exact Nat.lt_succ_self _
  | bufferImport handle =>
    have hp' : p' = (grallocGbmAndroidBufferImport cfg env handle p).2 := rfl
    rcases grallocGbmAndroidBufferImport_cases cfg env handle p with
      ⟨hready, hr⟩ | ⟨hready, ha, hr⟩ | ⟨hready, ha, hb, hr⟩ | ⟨layout, hready, ha, hb, hr⟩ <;>
      rw [hr] at hp'
    · exact ⟨by rw [hp'], .inl ⟨by simp [insertedKey, hready], .inl (by rw [hp'])⟩⟩
    · exact ⟨by rw [hp']; exact Nat.le_succ _,
        .inl ⟨by simp [insertedKey, ha], .inl (by rw [hp'])⟩⟩
    · exact ⟨by rw [hp']; exact Nat.le_succ _,
        .inl ⟨by simp [insertedKey, hb], .inl (by rw [hp'])⟩⟩
    · refine ⟨by rw [hp']; exact Nat.le_add_right _ _,
        .inr ⟨⟨p.next + 5, (grallocHandle handle).primeFd, p.next + 1⟩, ?_, by rw [hp'],
          Nat.le_add_right _ _, ?_⟩⟩
      · simp [insertedKey, hready, ha, hb]
      · rw [hp']
        exact Nat.lt_succ_self _
  | bufferFree handle =>
    have hp' : p' = (grallocGbmAndroidBufferFree handle p).2 := rfl
    rcases grallocGbmAndroidBufferFree_cases handle p with
      ⟨-, hr⟩ | ⟨-, -, hr⟩ | ⟨buffer, -, -, -, hr⟩ | ⟨buffer, b, -, -, -, hr⟩ <;> rw [hr] at hp'
    · exact ⟨by rw [hp'], .inl ⟨rfl, .inl (by rw [hp'])⟩⟩
    · exact ⟨by rw [hp'], .inl ⟨rfl, .inl (by rw [hp'])⟩⟩
    · exact ⟨by rw [hp'], .inl ⟨rfl, .inl (by rw [hp'])⟩⟩
    · obtain ⟨heap, hd⟩ := gbmBoDestroy_eq buffer.bo b p
      rw [hd] at hp'
      exact ⟨by rw [hp']; exact le_refl _, .inl ⟨rfl, .inr ⟨buffer.addr, by rw [hp']; rfl⟩⟩⟩

variable {cfg env p}

/-- In a map, a free that returns 0 leaves nothing under the key. -/
theorem TableInv.freed (h : TableInv p) (handle : NativeHandle)
    (hok : (grallocGbmAndroidBufferFree handle p).1 = .ok ()) :
    findBufferK (grallocHandle handle).primeFd (grallocGbmAndroidBufferFree handle p).2.table
      = none := by
  rcases grallocGbmAndroidBufferFree_cases handle p with
    ⟨-, hr⟩ | ⟨-, hnone, hr⟩ | ⟨buffer, -, -, -, hr⟩ | ⟨buffer, b, -, hfind, -, hr⟩
  · rw [hr] at hok
    cases hok
  · rw [hr]
    exact hnone
  · rw [hr] at hok
    cases hok
  · obtain ⟨heap, hd⟩ := gbmBoDestroy_eq buffer.bo b p
    rw [hr, hd]
    exact Keyed.lookup_remove_self h.keys hfind

/-- **The step lemma**: of a map, a call does what it must exactly if it inserts nothing under a key
    that is there; and then the table stays a map. -/
theorem TableInv.step_ok_iff (h : TableInv p) (op : TableOp) :
    (TableOk cfg env p op ↔ InsertsNew cfg env p op) ∧
      (TableOk cfg env p op → TableInv (tableStep cfg env p op)) := by
  obtain ⟨hnext, ⟨hkey, htable⟩ | ⟨e, hkey, htable, haddr, hlt⟩⟩ := tableStep_cases cfg env p op
  · have hinv : TableInv (tableStep cfg env p op) := by
      rcases htable with htable | ⟨a, htable⟩
      · exact h.of_same htable hnext
      · exact h.of_removed htable hnext
    refine ⟨iff_of_true ⟨hinv.keys, ?_⟩ ?_, fun _ => hinv⟩
    · rintro handle rfl hok
      exact h.freed handle hok
    · intro fd hfd
      rw [hkey] at hfd
      cases hfd
  · obtain ⟨hmap, hinv⟩ := h.of_added htable haddr hlt
    refine ⟨?_, fun hok => hinv hok.keys⟩
    have hnew : InsertsNew cfg env p op ↔ findBufferK e.fd p.table = none := by
      constructor
      · exact fun hnew => hnew e.fd hkey
      · intro hnone fd hfd
        rw [hkey] at hfd
        cases hfd
        exact hnone
    rw [hnew, ← hmap]
    constructor
    · exact fun hok => hok.keys
    · intro hkeys
      refine ⟨hkeys, ?_⟩
      rintro handle rfl
      cases hkey

end

/-- **Where the table is a map.**  In any sequence of calls, with any handles, entries and answers of
    the outside: no descriptor ever has two entries, and none has one after a free that returned 0,
    exactly if every entry was added under a key that was not there. -/
theorem tableRun_map_iff (cfg : BuildConfig) (env : Env) (ops : List TableOp) :
    Run.Along (tableStep cfg env) (TableOk cfg env) Proc.start ops ↔
      Run.Along (tableStep cfg env) (InsertsNew cfg env) Proc.start ops :=
  Run.along_iff TableInv (fun _ op h _ hok => (h.step_ok_iff op).2 hok)
    (fun _ op h _ => (h.step_ok_iff op).1) TableInv.start Run.along_true

/-- A handle is imported twice and freed, all with success, and its descriptor still has an entry. -/
theorem double_import_survives_free :
    let p := [.init, .bufferImport (rgbaHandle 5), .bufferImport (rgbaHandle 5)].foldl
      (tableStep .androidBp .plain) Proc.start
    p.table.map AndroidBuffer.fd = [5, 5] ∧
      (grallocGbmAndroidBufferFree (rgbaHandle 5) p).1 = .ok () ∧
      (findBufferK 5 (grallocGbmAndroidBufferFree (rgbaHandle 5) p).2.table).isSome = true ∧
      ¬ Run.Along (tableStep .androidBp .plain) (TableOk .androidBp .plain) Proc.start
        [.init, .bufferImport (rgbaHandle 5), .bufferImport (rgbaHandle 5)] := by
  refine ⟨by decide, by decide, by decide, ?_⟩
  rintro ⟨-, -, himport, -⟩
  have hkeys := himport.keys
  revert hkeys
  decide

end GrallocGbm
