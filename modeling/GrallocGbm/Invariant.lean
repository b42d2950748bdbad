/-
  The invariant of the processes the code runs in.

  `ProcInv` says that the buffer table is in order: its keys are open descriptors, no key, address
  or object occurs twice, every object in it is alive and has user data, and if the table is not
  empty the driver is ready.

  None of this is checked anywhere in the source.  The table is keyed by an integer that the kernel
  gave to the clone of a handle, and the code relies on the kernel not to give it twice.  So the
  crux is the clause that a key is *open*: the descriptors of a clone are fresh, hence none of them
  is a key, and nothing the mapper does closes a descriptor that is one.  An import closes
  descriptors only when it was refused, and then those of its own clone.

  The rest are bookkeeping of the same kind.  Addresses are handed out by a counter (`next`), and
  each clause about addresses says that what is in use lies below it.

  One lemma for each kind of step keeps the invariant: a step within a frame (`of_frame`, and
  `of_same` for those that touch no object), an entry added (`of_added`) with an import as its
  instance (`of_imported`), an entry released with its object (`of_freed`), and descriptors closed
  (`of_closed`).  That every run of the mapper is made of such steps is proved in `Session`.
-/
import GrallocGbm.Effects

namespace GrallocGbm

/-- What holds of a process in every reachable state. -/
structure ProcInv (p : Proc) : Prop where
  next_pos : 0 < p.next
  bo_lt : ∀ bo, (p.bos bo).isSome = true → 0 < bo ∧ bo < p.next
  handle_lt : ∀ a ∈ p.handles, a < p.next
  addr_lt : ∀ e ∈ p.table, e.addr < p.next
  user_data : HasUserData p
  /-- Every key is an open descriptor. -/
  key_open : ∀ e ∈ p.table, e.fd ∈ p.fds
  /-- Every object in the table is alive. -/
  alive : ∀ e ∈ p.table, (p.bos e.bo).isSome = true
  keys : (p.table.map AndroidBuffer.fd).Nodup
  addrs : (p.table.map AndroidBuffer.addr).Nodup
  objects : (p.table.map AndroidBuffer.bo).Nodup
  /-- Objects are only imported once the driver is ready, and it stays ready. -/
  ready : p.table ≠ [] → isGrallocGbmReady p = true

/-- A process that has just started has nothing that could be out of order. -/
theorem ProcInv.start : ProcInv Proc.start where
  next_pos := Nat.one_pos
  bo_lt := by intro bo h; cases h
  handle_lt := by intro a h; cases h
  addr_lt := by intro e h; cases h
  user_data := by intro bo b h; cases h
  key_open := by intro e h; cases h
  alive := by intro e h; cases h
  keys := List.nodup_nil
  addrs := List.nodup_nil
  objects := List.nodup_nil
  ready := by intro h; exact absurd rfl h

section Steps

variable {p p' : Proc}

/-- The object of an entry is alive, has user data, and is not NULL. -/
theorem ProcInv.exists_object (h : ProcInv p) {e : AndroidBuffer} (he : e ∈ p.table) :
    e.bo ≠ 0 ∧ ∃ b d, p.bos e.bo = some b ∧ b.data = some d := by
  obtain ⟨b, hb⟩ := Option.isSome_iff_exists.mp (h.alive e he)
  obtain ⟨d, hd⟩ := h.user_data e.bo b hb
  have := (h.bo_lt e.bo (h.alive e he)).1
  exact ⟨by omega, b, d, hb, hd⟩

/-- A step within a frame keeps the table and which objects are alive, and so the order. -/
theorem ProcInv.of_frame (h : ProcInv p) {fd : Int} (hf : Frame fd p p') : ProcInv p' where
  next_pos := lt_of_lt_of_le h.next_pos hf.next_le
  bo_lt := by
    intro bo hbo
    rw [hf.live] at hbo
    exact ⟨(h.bo_lt bo hbo).1, lt_of_lt_of_le (h.bo_lt bo hbo).2 hf.next_le⟩
  handle_lt := by
    rw [hf.handles]
    exact fun a ha => lt_of_lt_of_le (h.handle_lt a ha) hf.next_le
  addr_lt := by
    rw [hf.table]
    exact fun e he => lt_of_lt_of_le (h.addr_lt e he) hf.next_le
  user_data := hf.user_data h.user_data
  key_open := by
    rw [hf.table]
    exact fun e he => hf.fds_sub (h.key_open e he)
  alive := by
    rw [hf.table]
    intro e he
    rw [hf.live]
    exact h.alive e he
  keys := hf.table ▸ h.keys
  addrs := hf.table ▸ h.addrs
  objects := hf.table ▸ h.objects
  ready := by
    rw [hf.table]
    exact fun hne => hf.ready (h.ready hne)

/-- A step that does not touch the objects at all. -/
theorem ProcInv.of_same (h : ProcInv p) (htable : p'.table = p.table) (hbos : p'.bos = p.bos)
    (hhandles : p'.handles = p.handles) (hnext : p.next ≤ p'.next) (hfds : p.fds ⊆ p'.fds)
    (hready : isGrallocGbmReady p = true → isGrallocGbmReady p' = true) : ProcInv p' :=
  h.of_frame (.of_same htable hbos hhandles hnext hfds hready : Frame 0 p p')

/-- Adding an entry for a descriptor that was not open, with addresses not yet handed out. -/
theorem ProcInv.of_added (h : ProcInv p) {e : AndroidBuffer} {b : Bo} {d : GbmBoData}
    {fds : Finset Int} {handles : Finset Nat} {heap : Finset Nat} {n : Nat} {cs : List ExtCall}
    (hb : b.data = some d) (hkey : e.fd ∉ p.fds) (hopen : e.fd ∈ fds) (hfds : p.fds ⊆ fds)
    (hbo : p.next ≤ e.bo ∧ e.bo < n) (haddr : p.next ≤ e.addr ∧ e.addr < n)
    (hhandles : ∀ a ∈ handles, a ∈ p.handles ∨ a < n) (hready : isGrallocGbmReady p = true)
    (hp' : p' = { p with
      table := e :: p.table
      bos := Function.update p.bos e.bo (some b)
      fds := fds
      handles := handles
      heap := heap
      next := n
      calls := cs }) : ProcInv p' := by
  subst hp'
  have hpos := h.next_pos
  have hlt : ∀ x ∈ p.table, x.bo < p.next := fun x hx => (h.bo_lt x.bo (h.alive x hx)).2
  constructor
  case next_pos =>
    show 0 < n
    omega
  case bo_lt =>
    intro bo hsome
    simp only [Function.update_apply] at hsome
    split at hsome
    · show 0 < bo ∧ bo < n
      omega
    · have := h.bo_lt bo hsome
      exact ⟨this.1, by show bo < n; omega⟩
  case handle_lt =>
    intro a ha
    show a < n
    rcases hhandles a ha with ha | ha
    · have := h.handle_lt a ha
      omega
    · exact ha
  case addr_lt =>
    intro x hx
    show x.addr < n
    rcases List.mem_cons.mp hx with rfl | hx
    · exact haddr.2
    · have := h.addr_lt x hx
      omega
  case user_data =>
    intro bo b' hb'
    simp only [Function.update_apply] at hb'
    split at hb'
    · cases hb'
      exact ⟨d, hb⟩
    · exact h.user_data bo b' hb'
  case key_open =>
    intro x hx
    rcases List.mem_cons.mp hx with rfl | hx
    · exact hopen
    · exact hfds (h.key_open x hx)
  case alive =>
    intro x hx
    simp only [Function.update_apply]
    split
    · rfl
    · rename_i hne
      rcases List.mem_cons.mp hx with rfl | hx
      · exact absurd rfl hne
      · exact h.alive x hx
  case keys =>
    refine List.nodup_cons.mpr ⟨fun hmem => ?_, h.keys⟩
    obtain ⟨x, hx, heq⟩ := List.mem_map.mp hmem
    exact hkey (heq ▸ h.key_open x hx)
  case addrs =>
    refine List.nodup_cons.mpr ⟨fun hmem => ?_, h.addrs⟩
    obtain ⟨x, hx, heq⟩ := List.mem_map.mp hmem
    have := h.addr_lt x hx
    omega
  case objects =>
    refine List.nodup_cons.mpr ⟨fun hmem => ?_, h.objects⟩
    obtain ⟨x, hx, heq⟩ := List.mem_map.mp hmem
    have := hlt x hx
    omega
  case ready => exact fun _ => hready

/-- An import into a process in order keeps it in order: the clone's first descriptor was not open,
    and the clone's addresses have not been handed out. -/
theorem ProcInv.of_imported (h : ProcInv p) {cfg : BuildConfig} {orig c : NativeHandle}
    {backend : MapperBackendType} (hc : CloneOf orig p c) (h0 : 0 < orig.numFds)
    (hready : backend = .mapperGrallocGbm → isGrallocGbmReady p = true)
    (hi : Imported cfg p c backend p') : ProcInv p' := by
  have hhandles : ∀ n, p.next < n → ∀ a ∈ insert p.next p.handles, a ∈ p.handles ∨ a < n := by
    intro n hn a ha
    rcases Finset.mem_insert.mp ha with rfl | ha
    · exact .inr hn
    · exact .inl ha
  cases hi with
  | dmabuf t cs =>
    constructor
    case next_pos => exact Nat.lt_add_right 2 h.next_pos
    case bo_lt => exact fun bo hbo => ⟨(h.bo_lt bo hbo).1, Nat.lt_add_right 2 (h.bo_lt bo hbo).2⟩
    case handle_lt =>
      intro a ha
      rcases hhandles (p.next + 2) (by omega) a ha with ha | ha
      · exact Nat.lt_add_right 2 (h.handle_lt a ha)
      · exact ha
    case addr_lt => exact fun e he => Nat.lt_add_right 2 (h.addr_lt e he)
    case user_data => exact h.user_data
    case key_open => exact fun e he => Finset.mem_union_left _ (h.key_open e he)
    case alive => exact h.alive
    case keys => exact h.keys
    case addrs => exact h.addrs
    case objects => exact h.objects
    case ready => exact h.ready
  | gbm layout heap cs =>
    have hmem : c.data 0 ∈ c.fds := data_zero_mem_fds (by rw [hc.numFds]; exact h0)
    exact h.of_added (e := ⟨p.next + 6, c.data 0, p.next + 2⟩)
      (b := importedBo cfg (grallocHandle c) layout (p.next + 3)) (n := p.next + 7) rfl
      (hc.fresh _ hmem).2 (Finset.mem_union_right _ (List.mem_toFinset.mpr hmem))
      Finset.subset_union_left ⟨by simp, by simp⟩ ⟨by simp, by simp⟩ (hhandles _ (by omega))
      (hready rfl) rfl

/-- Releasing an entry with its object. -/
theorem ProcInv.of_freed (h : ProcInv p) {e : AndroidBuffer} {heap : Finset Nat}
    {cs : List ExtCall} (he : e ∈ p.table)
    (hp' : p' = { p with
      table := Keyed.remove AndroidBuffer.addr e.addr p.table
      bos := Function.update p.bos e.bo none
      heap := heap
      calls := cs }) : ProcInv p' := by
  subst hp'
  have hsub : ∀ x ∈ Keyed.remove AndroidBuffer.addr e.addr p.table, x ∈ p.table :=
    fun x hx => (Keyed.mem_remove.mp hx).1
  constructor
  case next_pos => exact h.next_pos
  case bo_lt =>
    intro bo hbo
    simp only [Function.update_apply] at hbo
    split at hbo
    · cases hbo
    · exact h.bo_lt bo hbo
  case handle_lt => exact h.handle_lt
  case addr_lt => exact fun x hx => h.addr_lt x (hsub x hx)
  case user_data =>
    intro bo b hb
    simp only [Function.update_apply] at hb
    split at hb
    · cases hb
    · exact h.user_data bo b hb
  case key_open => exact fun x hx => h.key_open x (hsub x hx)
  case alive =>
    intro x hx
    obtain ⟨hxt, hxe⟩ := Keyed.mem_remove.mp hx
    have hne : x.bo ≠ e.bo := fun heq => hxe (by rw [Keyed.eq_of_key_eq h.objects hxt he heq])
    simp only [Function.update_apply, if_neg hne]
    exact h.alive x hxt
  case keys => exact Keyed.map_remove_nodup h.keys
  case addrs => exact Keyed.map_remove_nodup h.addrs
  case objects => exact Keyed.map_remove_nodup h.objects
  case ready => exact fun _ => h.ready (List.ne_nil_of_mem he)

/-- Closing descriptors that are no keys, and deleting handles. -/
theorem ProcInv.of_closed (h : ProcInv p) {fds : Finset Int} {handles : Finset Nat}
    (hfds : ∀ e ∈ p.table, e.fd ∈ fds) (hhandles : handles ⊆ p.handles)
    (hp' : p' = { p with fds := fds, handles := handles }) : ProcInv p' := by
  subst hp'
  exact ⟨h.next_pos, h.bo_lt, fun a ha => h.handle_lt a (hhandles ha), h.addr_lt, h.user_data, hfds,
    h.alive, h.keys, h.addrs, h.objects, h.ready⟩

end Steps

end GrallocGbm
