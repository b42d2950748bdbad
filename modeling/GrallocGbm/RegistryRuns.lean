/-
  What the registry promises over runs.

  From a step of the registry alone follows what can become of one buffer: it is freed, or it stays
  the same buffer and its lock makes one of the moves a `Hold` has (`RegistryStep.at_key`).  Two
  promises to a client that holds a lock are carried from there to every run of the mapper:

  * `mapperRun_mapped_exclusive` — a buffer mapped for the CPU stays mapped, at the same address,
    and is locked by nobody else, until it is unlocked or freed;
  * `mapperRun_section_restores` — a nested section of locks and unlocks leaves the lock as it was:
    its use, its count and the address of its mapping.

  Neither could be read off the source, where a lock and an unlock are two functions that look at
  different fields.  The first rests on a mapped `Hold` granting nothing; the second on
  `Hold.SameUse`, whose induction is over the calls in between, with any number of other clients'
  locks among them.

  The calls in between are any calls on any handles, of other buffers and of this one.  Only a free
  of the buffer ends what is said about it, and for the first promise an unlock.  A client that is
  told the descriptor of a buffer can unlock it without having locked it: nothing in the source
  tells one client's lock from another's, so what is promised is about the buffer, not about its
  holders.
-/
import GrallocGbm.RegistryRefinement

namespace GrallocGbm

/-! ## One buffer

  What a step of the registry can do to a buffer that it does not free. -/

/-- Does `h` name the buffer under `k`? -/
def Names (k : Int) (h : NativeHandle) : Prop :=
  routedTo (grallocHandle h) = .mapperGrallocGbm ∧ keyOf h = k

/-- A free or an unlock of the buffer under `k`. -/
def EndsLock (k : Int) (op : MapperOp) : Prop :=
  ∃ h, Names k h ∧ (op = .buffer (.freeBuffer (some h)) ∨ op = .buffer (.unlock (some h)))

instance (k : Int) (h : NativeHandle) : Decidable (Names k h) :=
  inferInstanceAs (Decidable (_ ∧ _))

/-- The type and the payload of a set of the buffer under `k`, if the call is one and was done. -/
def setOf (k : Int) : MapperOp → Answer → Option (StandardMetadataType × Payload)
  | .setStandardMetadata (some h) type m, .status (some .none) =>
    if Names k h then some (type, m) else none
  | _, _ => none

/-- The metadata after a set, if there was one. -/
def MetadataView.after (v : MetadataView) (set : Option (StandardMetadataType × Payload)) :
    MetadataView :=
  set.elim v fun x => v.set x.1 x.2

/-- The same buffer, its lock and its metadata apart. -/
structure SameObject (v v' : BufferView) : Prop where
  id : v'.id = v.id
  width : v'.width = v.width
  height : v'.height = v.height
  format : v'.format = v.format
  layout : v'.layout = v.layout

/-- Nothing has happened to the buffer. -/
theorem SameObject.refl (v : BufferView) : SameObject v v := ⟨rfl, rfl, rfl, rfl, rfl⟩

/-- The same buffer after two stretches. -/
theorem SameObject.trans {v v' v'' : BufferView} (h : SameObject v v') (h' : SameObject v' v'') :
    SameObject v v'' :=
  ⟨h'.id.trans h.id, h'.width.trans h.width, h'.height.trans h.height, h'.format.trans h.format,
    h'.layout.trans h.layout⟩

/-- A handle names the buffer under its own descriptor, if it goes to the GBM backend. -/
theorem Registry.named_eq_some {r : Registry} {h : NativeHandle} {v : BufferView}
    (hn : r.named (some h) = some v) : Names (keyOf h) h ∧ r (keyOf h) = some v := by
  by_cases hgbm : routedTo (grallocHandle h) = .mapperGrallocGbm
  · exact ⟨⟨hgbm, rfl⟩, (Registry.named_gbm hgbm).symm.trans hn⟩
  · rw [Registry.named_other hgbm] at hn
    cases hn

section

variable {cfg : BuildConfig} {r r' : Registry} {op : MapperOp} {answer : Answer} {k : Int}
  {v : BufferView}

/-- What becomes of the buffer under `k` in one step. -/
structure Continues (op : MapperOp) (answer : Answer) (k : Int) (v v' : BufferView) : Prop where
  object : SameObject v v'
  moves : Hold.Moves lockPolicy v.hold v'.hold
  mapped : ¬ EndsLock k op → ∀ usage a, v.hold = .mapped usage a → v'.hold = .mapped usage a
  metadata : v'.metadata = v.metadata.after (setOf k op answer)

/-- Nothing, if the call is not a set of this buffer that was done. -/
theorem Continues.refl (hset : setOf k op answer = none) (v : BufferView) :
    Continues op answer k v v :=
  ⟨.refl v, .stays _, fun _ _ _ h => h, by rw [hset]; rfl⟩

/-- A set of another buffer is none of this one. -/
theorem setOf_other {h : NativeHandle} {type : StandardMetadataType} {m : Payload}
    (hh : ¬ Names k h) (answer : Answer) :
    setOf k (.setStandardMetadata (some h) type m) answer = none := by
  unfold setOf
  split
  · rename_i heq
    cases heq
    exact if_neg hh
  · rfl

/-- A set that was refused is none. -/
theorem setOf_refused {h : Option NativeHandle} {type : StandardMetadataType} {m : Payload}
    {status : Option AIMapperError} (hs : status ≠ some .none) :
    setOf k (.setStandardMetadata h type m) (.status status) = none := by
  unfold setOf
  split
  · rename_i heq
    cases heq
    exact absurd rfl hs
  · rfl

/-- **What can become of a buffer**: it is freed, or it goes on. -/
theorem RegistryStep.at_key (hs : RegistryStep cfg r op answer r') (hv : r k = some v) :
    (∃ h, Names k h ∧ op = .buffer (.freeBuffer (some h)) ∧ r' k = none) ∨
      ∃ v', r' k = some v' ∧ Continues op answer k v v' := by
  have hstays : setOf k op answer = none → ∃ v', r k = some v' ∧ Continues op answer k v v' :=
    fun hset => ⟨v, hv, .refl hset v⟩
  -- a step that changes the buffer of `h`
  have hother : ∀ {h : NativeHandle} {x : Option BufferView}, k ≠ keyOf h → setOf k op answer = none →
      ∃ v', Function.update r (keyOf h) x k = some v' ∧ Continues op answer k v v' := by
    intro h x hne hset
    exact ⟨v, (Function.update_of_ne hne _ _).trans hv, .refl hset v⟩
  cases hs with
  | importRefused => exact .inr (hstays rfl)
  | importOther => exact .inr (hstays rfl)
  | importGbm h c id layout hgbm hnew =>
    refine .inr (hother (fun heq => ?_) rfl)
    rw [← heq, hv] at hnew
    cases hnew
  | freeNothing => exact .inr (hstays rfl)
  | free h w hn =>
    by_cases hk : k = keyOf h
    · refine .inl ⟨h, ⟨(Registry.named_eq_some hn).1.1, hk.symm⟩, rfl, ?_⟩
      rw [hk, Function.update_self]
    · exact .inr (hother hk rfl)
  | lockOther => exact .inr (hstays rfl)
  | lockNothing => exact .inr (hstays rfl)
  | lockRefused => exact .inr (hstays rfl)
  | lock h cpuUsage w addr held hn hpass hg =>
    by_cases hk : k = keyOf h
    · have hw := (Registry.named_eq_some hn).2
      rw [← hk, hv] at hw
      cases hw
      refine .inr ⟨{ v with hold := held }, by rw [hk, Function.update_self], ?_⟩
      refine ⟨⟨rfl, rfl, rfl, rfl, rfl⟩, .grants hg, fun _ usage a hmapped => ?_, rfl⟩
      rw [hmapped] at hg
      cases hg
    · exact .inr (hother hk rfl)
  | unlockOther => exact .inr (hstays rfl)
  | unlockNothing => exact .inr (hstays rfl)
  | unlock h w hn =>
    by_cases hk : k = keyOf h
    · obtain ⟨hnames, hw⟩ := Registry.named_eq_some hn
      rw [← hk, hv] at hw
      cases hw
      refine .inr ⟨{ v with hold := v.hold.release }, by rw [hk, Function.update_self], ?_⟩
      refine ⟨⟨rfl, rfl, rfl, rfl, rfl⟩, .releases _, fun hno => ?_, rfl⟩
      exact absurd ⟨h, ⟨hnames.1, hk.symm⟩, .inr rfl⟩ hno
    · exact .inr (hother hk rfl)
  | readNothing => exact .inr (hstays rfl)
  | read => exact .inr (hstays rfl)
  | setOther h type m status hgbm => exact .inr (hstays (setOf_other (fun hh => hgbm hh.1) _))
  | setRefused h type m status hs => exact .inr (hstays (setOf_refused hs))
  | set h type m w hn ha =>
    by_cases hk : k = keyOf h
    · obtain ⟨hnames, hw⟩ := Registry.named_eq_some hn
      rw [← hk, hv] at hw
      cases hw
      have hset : setOf k (.setStandardMetadata (some h) type m) (.status (some .none))
          = some (type, m) := if_pos ⟨hnames.1, hk.symm⟩
      refine .inr ⟨{ v with metadata := v.metadata.set type m }, by rw [hk, Function.update_self],
        ⟨rfl, rfl, rfl, rfl, rfl⟩, .stays _, fun _ _ _ h => h, ?_⟩
      rw [hset]
      rfl
    · exact .inr (hother hk (setOf_other (fun hh => hk hh.2.symm) _))

/-- A lock of a mapped buffer is refused. -/
theorem RegistryStep.lock_refused {h : NativeHandle} {cpuUsage : UInt64} {status : Option AIMapperError}
    {out : Option (Option Nat)}
    (hs : RegistryStep cfg r (.buffer (.lock (some h) cpuUsage)) (.locked status out) r')
    (hh : Names k h) (hv : r k = some v) {usage : UInt32} {a : Nat} (hm : v.hold = .mapped usage a) :
    status ≠ some .none := by
  cases hs with
  | lockOther _ _ _ _ hgbm => exact absurd hh.1 hgbm
  | lockNothing _ _ _ _ hs => exact hs
  | lockRefused _ _ _ _ _ hs => exact hs
  | lock _ _ w addr held hn hpass hg =>
    have hw := (Registry.named_eq_some hn).2
    rw [hh.2, hv] at hw
    cases hw
    rw [hm] at hg
    cases hg

end

/-! ## Runs -/

section

variable (cfg : BuildConfig) (env : Env)

/-- The mapper after further calls. -/
theorem mapperRun_append (ops rest : List MapperOp) :
    mapperRun cfg env (ops ++ rest) = rest.foldl (mapperStep cfg env) (mapperRun cfg env ops) :=
  List.foldl_append

/-- **CPU access is exclusive.**  Once a lock has mapped a buffer, then after any calls on any handles,
    as long as the buffer is neither unlocked nor freed, it is the same buffer, still mapped at the same
    address, and no lock of it is granted. -/
theorem mapperRun_mapped_exclusive (ops rest : List MapperOp) (k : Int) (v : BufferView)
    (usage : UInt32) (a : Nat) (hv : registryOf (mapperRun cfg env ops).proc k = some v)
    (hm : v.hold = .mapped usage a) (hrest : ∀ op ∈ rest, ¬ EndsLock k op) :
    let m := mapperRun cfg env (ops ++ rest)
    (∃ v', registryOf m.proc k = some v' ∧ SameObject v v' ∧ v'.hold = .mapped usage a) ∧
      ∀ h cpuUsage, Names k h → (m.lock env (some h) cpuUsage).1.1 ≠ some .none := by
  intro m
  have hrun : MapState m.proc ∧
      ∃ v', registryOf m.proc k = some v' ∧ SameObject v v' ∧ v'.hold = .mapped usage a := by
    rw [show m = _ from mapperRun_append cfg env ops rest]
    refine Run.foldl_inv (fun m : Mapper => MapState m.proc ∧
      ∃ v', registryOf m.proc k = some v' ∧ SameObject v v' ∧ v'.hold = .mapped usage a)
      (fun q op hq hop => ⟨mapperStep_mapState cfg env op hq.1, ?_⟩)
      ⟨mapperRun_mapState cfg env ops, v, hv, .refl v, hm⟩ (Run.along_const.mpr hrest)
    obtain ⟨hstate, w, hw, hobject, hmapped⟩ := hq
    rcases (hstate.registryStep cfg env op).at_key hw with
      ⟨h, hnames, rfl, -⟩ | ⟨w', hw', hgoes⟩
    · exact absurd ⟨h, hnames, .inl rfl⟩ hop
    · exact ⟨w', hw', hobject.trans hgoes.object, hgoes.mapped hop usage a hmapped⟩
  obtain ⟨hstate, v', hv', hobject, hmapped⟩ := hrun
  refine ⟨⟨v', hv', hobject, hmapped⟩, fun h cpuUsage hh => ?_⟩
  exact (hstate.registryStep cfg env (.buffer (.lock (some h) cpuUsage))).lock_refused
    hh hv' hmapped

/-- The call leaves a buffer under `k` that is held at least `n` times. -/
def HeldAfter (k : Int) (n : Nat) (m : Mapper) (op : MapperOp) : Prop :=
  ∃ v, registryOf (mapperStep cfg env m op).proc k = some v ∧ n ≤ v.hold.holders

/-- **Nested sections restore the lock.**  Any calls on any handles that do not free the buffer nor
    ever leave it held less often than at their start, and in the end leave it held as often, leave its
    lock as it was: its use, its count and the address of its mapping. -/
theorem mapperRun_section_restores (ops rest : List MapperOp) (k : Int) (v v' : BufferView)
    (hv : registryOf (mapperRun cfg env ops).proc k = some v)
    (hrest : Run.Along (mapperStep cfg env) (HeldAfter cfg env k v.hold.holders)
      (mapperRun cfg env ops) rest)
    (hv' : registryOf (mapperRun cfg env (ops ++ rest)).proc k = some v')
    (hend : v'.hold.holders = v.hold.holders) : v'.hold = v.hold := by
  have hrun : MapState (mapperRun cfg env (ops ++ rest)).proc ∧
      ∃ w, registryOf (mapperRun cfg env (ops ++ rest)).proc k = some w ∧ v.hold.SameUse w.hold := by
    rw [mapperRun_append]
    refine Run.foldl_inv (fun m : Mapper => MapState m.proc ∧
      ∃ w, registryOf m.proc k = some w ∧ v.hold.SameUse w.hold)
      (fun q op hq hop => ⟨mapperStep_mapState cfg env op hq.1, ?_⟩)
      ⟨mapperRun_mapState cfg env ops, v, hv, .refl _⟩ hrest
    obtain ⟨hstate, w, hw, hsame⟩ := hq
    obtain ⟨w', hw', hle⟩ := hop
    refine ⟨w', hw', ?_⟩
    rcases (hstate.registryStep cfg env op).at_key hw with
      ⟨h, -, rfl, hnone⟩ | ⟨x, hx, hgoes⟩
    · rw [hnone] at hw'
      cases hw'
    · rw [hx] at hw'
      cases hw'
      exact hsame.moves hgoes.moves hle
  obtain ⟨-, w, hw, hsame⟩ := hrun
  rw [hw] at hv'
  cases hv'
  exact hsame.eq hend

end

/-! ### A locked buffer -/

/-- A buffer is imported and locked for reading. -/
def lockedOps : List MapperOp :=
  [.buffer (.importBuffer (some (rgbaHandle 5))), .buffer (.lock (some firstClone) 0x3)]

/-- The buffer in the registry after them. -/
def lockedView : BufferView :=
  (registryOf (mapperRun .androidBp .plain lockedOps).proc (keyOf firstClone)).get (by decide)

/-- A metadata read and a second import do not end the lock. -/
theorem locked_read_exclusive :
    let m := mapperRun .androidBp .plain (lockedOps ++ [.getStandardMetadata (some firstClone) .width,
      .buffer (.importBuffer (some (rgbaHandle 5)))])
    (m.lock .plain (some firstClone) 0x3).1.1 ≠ some .none :=
  (mapperRun_mapped_exclusive .androidBp .plain lockedOps
    [.getStandardMetadata (some firstClone) .width, .buffer (.importBuffer (some (rgbaHandle 5)))]
    (keyOf firstClone) lockedView 0x3 32768 (Option.some_get _).symm (by decide)
    (by rintro op hop ⟨h, -, hends⟩
        rcases List.mem_pair.mp hop with rfl | rfl <;> simp at hends)).2
    firstClone 0x3 ⟨by decide, rfl⟩

/-- A buffer is imported and locked as a texture. -/
def heldOps : List MapperOp :=
  [.buffer (.importBuffer (some (rgbaHandle 5))), .buffer (.lock (some firstClone) 0x100)]

/-- The buffer in the registry after them: held once. -/
def heldView : BufferView :=
  (registryOf (mapperRun .androidBp .plain heldOps).proc (keyOf firstClone)).get (by decide)

/-- Two more locks of it, one inside the other, a read and a refused lock for the CPU. -/
def sectionOps : List MapperOp :=
  [.buffer (.lock (some firstClone) 0x100), .getStandardMetadata (some firstClone) .width,
    .buffer (.lock (some firstClone) 0x100), .buffer (.unlock (some firstClone)),
    .buffer (.lock (some firstClone) 0x3), .buffer (.unlock (some firstClone))]

/-- And after the section. -/
def sectionView : BufferView :=
  (registryOf (mapperRun .androidBp .plain (heldOps ++ sectionOps)).proc
    (keyOf firstClone)).get (by decide)

/-- The lock of the texture is what it was. -/
theorem section_restores_held : heldView.hold.holders = 1 ∧ sectionView.hold = heldView.hold :=
  ⟨by decide, mapperRun_section_restores .androidBp .plain heldOps sectionOps (keyOf firstClone)
    heldView sectionView (Option.some_get _).symm
    ⟨⟨_, (Option.some_get (by decide)).symm, by decide⟩,
      ⟨_, (Option.some_get (by decide)).symm, by decide⟩,
      ⟨_, (Option.some_get (by decide)).symm, by decide⟩,
      ⟨_, (Option.some_get (by decide)).symm, by decide⟩,
      ⟨_, (Option.some_get (by decide)).symm, by decide⟩,
      ⟨_, (Option.some_get (by decide)).symm, by decide⟩, trivial⟩
    (Option.some_get _).symm (by decide)⟩

end GrallocGbm
