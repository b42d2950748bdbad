/-
  What a read of metadata says, over the life of a buffer.

  From the import of a buffer to its free, a read of a type depends on three things only: the object
  that was imported, the handle the read is made with, and the last set of one type that was done
  since (`mapperRun_read_last_set`).  That type is not always the one that is read: the value of a
  read of `BLEND_MODE` is the dataspace.  Sets of other types, sets that failed, sets and locks of
  other buffers, reads and further imports are invisible.

  Everything here is proved of the registry, from `RegistryStep` and its consequence for one buffer
  (`RegistryStep.at_key`): neither the tables nor the user data appear.

  * `read_write_other`, `read_write_same` — one write to the metadata and one read of them, which
    are what `Run.foldl_last_write` asks of a store;
  * `setsAlong` — the sets of one buffer that were done in a run, in order;
  * `MapState.continues_run` — a buffer that is not freed stays the same, with these sets written to
    its metadata;
  * `MapState.importBuffer_fresh` — the buffer under the clone of an import.

  A read depends on its handle because the source takes part of the answer out of the handle and not
  out of the object: the Android format and the usage.
-/
import GrallocGbm.RegistryRuns

namespace GrallocGbm

/-! ## What one read sees -/

/-- The type whose sets a read of the type sees. -/
def StandardMetadataType.source : StandardMetadataType → StandardMetadataType
  | .blendMode => .dataspace
  | type => type

/-- The view with other metadata. -/
def BufferView.withMetadata (v : BufferView) (metadata : MetadataView) : BufferView :=
  { v with metadata := metadata }

/-- The metadata after one set. -/
def MetadataView.write (v : MetadataView) (x : StandardMetadataType × Payload) : MetadataView :=
  v.set x.1 x.2

section

variable (g : GrallocHandle) (type : StandardMetadataType) (v : BufferView)

/-- The values of a read are the values of the query. -/
theorem BufferView.read_congr {v' : BufferView} (hlayout : v'.layout = v.layout)
    (h : ∀ stride, gbmMetadataValue (v'.info g stride) type = gbmMetadataValue (v.info g stride) type) :
    v'.read g type = v.read g type := by
  unfold read
  rw [hlayout]
  split
  · exact congrArg _ (funext fun stride => by rw [h])
  · rfl

/-- A read does not see the sets of another type. -/
theorem read_write_other (metadata : MetadataView) (x : StandardMetadataType × Payload)
    (hx : x.1 ≠ type.source) :
    (v.withMetadata (metadata.write x)).read g type = (v.withMetadata metadata).read g type := by
  obtain ⟨other, m⟩ := x
  refine BufferView.read_congr g type _ rfl fun stride => ?_
  cases type <;> cases other <;> first | rfl | exact absurd rfl hx

/-- After a set of its source it sees nothing of what was there before. -/
theorem read_write_same (metadata metadata' : MetadataView) (x : StandardMetadataType × Payload)
    (hx : x.1 = type.source) :
    (v.withMetadata (metadata.write x)).read g type
      = (v.withMetadata (metadata'.write x)).read g type := by
  obtain ⟨other, m⟩ := x
  obtain rfl : other = type.source := hx
  refine BufferView.read_congr g type _ rfl fun stride => ?_
  cases type <;> rfl

/-- The lock of a buffer is not in a read of it. -/
theorem SameObject.read {v v' : BufferView} (h : SameObject v v') :
    v'.read g type = (v.withMetadata v'.metadata).read g type := by
  refine BufferView.read_congr g type _ h.layout fun stride => ?_
  have hinfo : v'.info g stride = (v.withMetadata v'.metadata).info g stride := by
    simp [BufferView.info, BufferView.withMetadata, h.id, h.width, h.height, h.format, h.layout]
  rw [hinfo]

end

/-! ## Runs -/

/-- A free of the buffer under `k`. -/
def Frees (k : Int) (op : MapperOp) : Prop :=
  ∃ h, Names k h ∧ op = .buffer (.freeBuffer (some h))

section

variable (cfg : BuildConfig) (env : Env)

/-- The sets of the buffer under `k` that were done in a run, in order. -/
def setsAlong (k : Int) : Mapper → List MapperOp → List (StandardMetadataType × Payload)
  | _, [] => []
  | m, op :: ops =>
    (setOf k op (answerOf cfg env m op)).toList ++ setsAlong k (mapperStep cfg env m op) ops

variable {k : Int} {m : Mapper} {v : BufferView}

/-- A buffer that is not freed stays the same, with the sets that were done in its metadata. -/
theorem MapState.continues_run (hm : MapState m.proc) (hv : registryOf m.proc k = some v)
    {rest : List MapperOp} (hrest : ∀ op ∈ rest, ¬ Frees k op) :
    ∃ v', registryOf (rest.foldl (mapperStep cfg env) m).proc k = some v' ∧ SameObject v v' ∧
      v'.metadata = (setsAlong cfg env k m rest).foldl MetadataView.write v.metadata := by
  induction rest generalizing m v with
  | nil => exact ⟨v, hv, .refl v, rfl⟩
  | cons op rest ih =>
    rcases (hm.registryStep cfg env op).at_key hv with ⟨h, hnames, rfl, -⟩ | ⟨w, hw, hgoes⟩
    · exact absurd ⟨h, hnames, rfl⟩ (hrest _ List.mem_cons_self)
    · obtain ⟨v', hv', hobject, hmetadata⟩ := ih (mapperStep_mapState cfg env op hm) hw
        fun op hop => hrest op (List.mem_cons_of_mem _ hop)
      refine ⟨v', hv', hgoes.object.trans hobject, ?_⟩
      rw [hmetadata, setsAlong, List.foldl_append, hgoes.metadata]
      cases setOf k op (answerOf cfg env m op) <;> rfl

/-- The buffer under the clone of a GBM import. -/
theorem MapState.importBuffer_fresh (hm : MapState m.proc) {h c : NativeHandle}
    (hgbm : routedTo (grallocHandle h) = .mapperGrallocGbm)
    (himport : (m.importBuffer cfg env (some h)).1 = (.none, some c)) :
    ∃ id layout, registryOf (mapperStep cfg env m (.buffer (.importBuffer (some h)))).proc (keyOf c)
      = some (freshView cfg (grallocHandle c) id layout) := by
  have hstep := hm.registryStep cfg env (.buffer (.importBuffer (some h)))
  have hanswer : answerOf cfg env m (.buffer (.importBuffer (some h))) = .imported .none (some c) := by
    simp only [answerOf, himport]
  rw [hanswer] at hstep
  generalize registryOf (mapperStep cfg env m _).proc = r' at hstep ⊢
  cases hstep with
  | importOther _ _ hother => exact absurd hgbm hother
  | importGbm _ _ id layout => exact ⟨id, layout, Function.update_self ..⟩

/-- The mapper after an import and further calls. -/
theorem mapperRun_import (ops rest : List MapperOp) (h : NativeHandle) :
    mapperRun cfg env (ops ++ .buffer (.importBuffer (some h)) :: rest)
      = rest.foldl (mapperStep cfg env)
        (mapperStep cfg env (mapperRun cfg env ops) (.buffer (.importBuffer (some h)))) := by
  rw [mapperRun_append, List.foldl_cons]

/-- **A read tells the last set.**  Once the GBM backend has imported a buffer, then after any further
    calls on any handles, as long as none frees it, a read of any type through any handle of it gives
    what the imported object gives with the last set of the type's source that was done since, or
    without one if there was none. -/
theorem mapperRun_read_last_set (ops : List MapperOp) (h c : NativeHandle)
    (hgbm : routedTo (grallocHandle h) = .mapperGrallocGbm)
    (himport : ((mapperRun cfg env ops).importBuffer cfg env (some h)).1 = (.none, some c)) :
    ∃ id layout, ∀ rest, (∀ op ∈ rest, ¬ Frees (keyOf c) op) →
      let fresh := freshView cfg (grallocHandle c) id layout
      let m := mapperRun cfg env (ops ++ .buffer (.importBuffer (some h)) :: rest)
      let sets := setsAlong cfg env (keyOf c)
        (mapperStep cfg env (mapperRun cfg env ops) (.buffer (.importBuffer (some h)))) rest
      ∀ h' type, Names (keyOf c) h' → (m.getStandardMetadata env (some h') type).1.2
        = ((sets.filter fun x => x.1 = type.source).getLast?).elim
            (fresh.read (grallocHandle h') type)
            fun x => (fresh.withMetadata (fresh.metadata.write x)).read (grallocHandle h') type := by
  have hm := mapperRun_mapState cfg env ops
  obtain ⟨id, layout, hfresh⟩ := hm.importBuffer_fresh cfg env hgbm himport
  refine ⟨id, layout, fun rest hrest => ?_⟩
  intro fresh m sets h' type hh
  have hafter := mapperStep_mapState cfg env (.buffer (.importBuffer (some h))) hm
  obtain ⟨v', hv', hobject, hmetadata⟩ := hafter.continues_run cfg env hfresh hrest
  have hstate : MapState m.proc := mapperRun_mapState cfg env _
  rw [← mapperRun_import] at hv'
  -- the read is one of the registry
  have hread : (m.getStandardMetadata env (some h') type).1.2 = v'.read (grallocHandle h') type := by
    have hstep := hstate.registryStep cfg env (.getStandardMetadata (some h') type)
    have hnamed : (registryOf m.proc).named (some h') = some v' := by
      rw [Registry.named_gbm hh.1, hh.2]
      exact hv'
    simp only [answerOf] at hstep
    generalize (m.getStandardMetadata env (some h') type).1.2 = value at hstep ⊢
    generalize registryOf (mapperStep cfg env m _).proc = r' at hstep
    cases hstep with
    | readNothing _ _ _ hn =>
      rw [hnamed] at hn
      cases hn
    | read _ _ w hn =>
      rw [hnamed] at hn
      cases hn
      rfl
  rw [hread, hobject.read, hmetadata]
  exact Run.foldl_last_write
    (fun metadata => (fresh.withMetadata metadata).read (grallocHandle h') type)
    (fun metadata x => read_write_other (grallocHandle h') type fresh metadata x)
    (fun metadata metadata' x => read_write_same (grallocHandle h') type fresh metadata metadata' x)
    sets fresh.metadata

end

/-! ### Two sets -/

/-- The dataspace and the blend mode of a buffer are set. -/
def twoSets : List MapperOp :=
  [.setStandardMetadata (some firstClone) .dataspace (.ofInt32 5),
    .setStandardMetadata (some firstClone) .blendMode (.ofInt32 2)]

/-- The read of the blend mode tells the dataspace. -/
theorem two_sets_read :
    ∃ id layout, let fresh := freshView .androidBp (grallocHandle firstClone) id layout
      ((mapperRun .androidBp .plain (.buffer (.importBuffer (some (rgbaHandle 5))) :: twoSets))
        |>.getStandardMetadata .plain (some firstClone) .blendMode).1.2
        = (fresh.withMetadata (fresh.metadata.write (.dataspace, .ofInt32 5))).read
          (grallocHandle firstClone) .blendMode := by
  obtain ⟨id, layout, h⟩ := mapperRun_read_last_set .androidBp .plain [] (rgbaHandle 5) firstClone
    (by decide) rfl
  refine ⟨id, layout, h twoSets ?_ firstClone .blendMode ⟨by decide, rfl⟩⟩
  rintro op hop ⟨h, -, rfl⟩
  simp [twoSets] at hop

end GrallocGbm
