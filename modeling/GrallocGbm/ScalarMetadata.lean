/-
  The scalar metadata of a buffer: dataspace and blend mode.

  What is stored is right: in every state of a session the user data of each live handle holds the
  dataspace and the blend mode last set on it (`ScalarsOk`, `sessionRun_scalars`).  What is read is
  not: the getter answers both questions with the dataspace.

      if constexpr (metadataType == StandardMetadataType::BLEND_MODE) {
          return provide(static_cast<BlendMode>(info.metadata.dataspace));

  So the two reads agree with the two last sets exactly when these were the same value
  (`scalarMetadata_iff`).

  `lastSet` is the reader's side of it: the word of the last successful set of a type on a handle,
  and zero before the first.  Sets are identified by the address of the handle they were made on,
  since two handles may be equal in all their words but that.

  What a session stores is an instance of `FollowsSets` (`followsSets_scalars`); only the two fields
  of the record are compared, and the blocks of the HDR types are not looked at.
-/
import GrallocGbm.MetadataStore

namespace GrallocGbm

/-! ## The value last set -/

/-- The value of the last successful set of `type` on the handle at `a`, 0 if there was none. -/
def lastSet (a : Nat) (type : StandardMetadataType)
    (sets : List (Nat × StandardMetadataType × Payload)) : Int32 :=
  match sets.find? (fun x => decide (x.1 = a ∧ x.2.1 = type)) with
  | some x => (x.2.2.word 0).toInt32
  | none => 0

section

variable {a : Nat} {type : StandardMetadataType}
  {sets : List (Nat × StandardMetadataType × Payload)}

/-- The newest set is looked at first. -/
theorem lastSet_cons (x : Nat × StandardMetadataType × Payload) :
    lastSet a type (x :: sets)
      = if x.1 = a ∧ x.2.1 = type then (x.2.2.word 0).toInt32 else lastSet a type sets := by
  unfold lastSet
  by_cases h : x.1 = a ∧ x.2.1 = type
  · rw [List.find?_cons_of_pos (by simpa using h), if_pos h]
  · rw [List.find?_cons_of_neg (by simpa using h), if_neg h]

/-- Nothing was set on this handle. -/
theorem lastSet_of_forall_ne (h : ∀ x ∈ sets, x.1 ≠ a) : lastSet a type sets = 0 := by
  have hnone : sets.find? (fun x => decide (x.1 = a ∧ x.2.1 = type)) = none := by
    rw [List.find?_eq_none]
    intro x hx
    simp [h x hx]
  rw [lastSet, hnone]

end

/-! ## The two switches of a set -/

/-- Staging and storing put the value into the field of its type and leave the other alone. -/
theorem storeMetadata_scalars {type : StandardMetadataType} {metadata : Payload} {p : Proc}
    {staged : BufferMetadata} (h : (stageMetadata type metadata p).1 = some staged)
    (stored : BufferMetadata) :
    (storeMetadata type staged stored).dataspace
        = (if type = .dataspace then (metadata.word 0).toInt32 else stored.dataspace) ∧
      (storeMetadata type staged stored).blendMode
        = (if type = .blendMode then (metadata.word 0).toInt32 else stored.blendMode) := by
  cases type
  case dataspace => cases h; exact ⟨rfl, rfl⟩
  case blendMode => cases h; exact ⟨rfl, rfl⟩
  all_goals exact ⟨rfl, rfl⟩

/-! ## What is stored -/

/-- Every live handle's object holds the scalars last set on the handle. -/
def ScalarsOk (s : Session) : Prop :=
  ∀ h, s.Live h → ∃ d, storedOf s.proc h = some d ∧
    d.metadata.dataspace = lastSet h.addr .dataspace s.sets ∧
    d.metadata.blendMode = lastSet h.addr .blendMode s.sets

/-- The two fields follow the sets. -/
theorem followsSets_scalars : FollowsSets fun a sets stored =>
    stored.dataspace = lastSet a .dataspace sets ∧ stored.blendMode = lastSet a .blendMode sets where
  fresh := by
    intro a sets addr hnever
    rw [lastSet_of_forall_ne hnever, lastSet_of_forall_ne hnever]
    exact ⟨rfl, rfl⟩
  own := by
    rintro a sets type metadata p staged stored hst ⟨hd, hb⟩
    obtain ⟨h1, h2⟩ := storeMetadata_scalars hst stored
    rw [lastSet_cons, lastSet_cons, h1, h2, hd, hb]
    simp
  other := by
    intro a sets x stored hx h
    rw [lastSet_cons, lastSet_cons, if_neg (fun h => hx h.1), if_neg (fun h => hx h.1)]
    exact h

/-- **The store is right**: after any allowed calls, every live handle's object holds the scalars
    last set on the handle. -/
theorem sessionRun_scalars {cfg : BuildConfig} {env : Env} {ops : List MapperOp}
    (h : AllowedRun cfg env ops) : ScalarsOk (sessionRun cfg env ops) :=
  sessionRun_stored followsSets_scalars h

/-! ## What is read

  By the getter's dispatch, which has the same field for both types. -/

/-- Both scalar reads give the stored dataspace. -/
theorem scalarReads_eq (env : Env) {h : NativeHandle} {m : Mapper} (hp : ProcInv m.proc)
    (hgbm : routedTo (grallocHandle h) = .mapperGrallocGbm) {d : GbmBoData}
    (hd : storedOf m.proc h = some d) :
    (m.getStandardMetadata env (some h) .dataspace).1.2
        = (if pixelBytes h = 0 then none else some (.dataspace d.metadata.dataspace)) ∧
      (m.getStandardMetadata env (some h) .blendMode).1.2
        = (if pixelBytes h = 0 then none else some (.blendMode d.metadata.dataspace)) := by
  obtain ⟨info, hinfo, hv⟩ := metadataRead_eq env .dataspace rfl hp hgbm hd
  obtain ⟨info', hinfo', hv'⟩ := metadataRead_eq env .blendMode rfl hp hgbm hd
  rw [hv, hv', ← hinfo]
  refine ⟨rfl, ?_⟩
  rw [hinfo, ← hinfo']
  rfl

/-- **Where the scalars are a per-type store.**  After any allowed calls, reading the dataspace and
    the blend mode of a live handle gives the values last set on it for these types exactly if its
    format has a pixel size and the two values are the same. -/
theorem scalarMetadata_iff (cfg : BuildConfig) (env : Env) (ops : List MapperOp)
    (hops : AllowedRun cfg env ops) (h : NativeHandle) (hlive : (sessionRun cfg env ops).Live h) :
    let s := sessionRun cfg env ops
    let read := fun type => (s.mapper.getStandardMetadata env (some h) type).1.2
    (read .dataspace = some (.dataspace (lastSet h.addr .dataspace s.sets)) ∧
        read .blendMode = some (.blendMode (lastSet h.addr .blendMode s.sets))) ↔
      pixelBytes h ≠ 0 ∧ lastSet h.addr .blendMode s.sets = lastSet h.addr .dataspace s.sets := by
  intro s read
  have hs : SessionInv s := sessionRun_inv hops
  obtain ⟨d, hd, hspace, -⟩ := sessionRun_scalars hops h hlive
  obtain ⟨h1, h2⟩ := scalarReads_eq env hs.inv (hs.routed h hlive.1) hd
  rw [hspace] at h1 h2
  simp only [read]
  rw [h1, h2]
  by_cases h0 : pixelBytes h = 0
  · simp [h0]
  · rw [if_neg h0, if_neg h0]
    constructor
    · rintro ⟨-, heq⟩
      exact ⟨h0, (MetadataValue.blendMode.inj (Option.some.inj heq)).symm⟩
    · rintro ⟨-, heq⟩
      exact ⟨rfl, by rw [heq]⟩

/-- A buffer is imported, and its dataspace and blend mode are set. -/
def scalarOps (dataspace blendMode : Int32) : List MapperOp :=
  [.buffer (.importBuffer (some (rgbaHandle 5))),
    .setStandardMetadata (some firstClone) .dataspace (.ofInt32 dataspace),
    .setStandardMetadata (some firstClone) .blendMode (.ofInt32 blendMode)]

/-- The theorem at two sets of one number. -/
theorem scalarOps_iff :
    let s := sessionRun .androidBp .plain (scalarOps 3 3)
    let read := fun type => (s.mapper.getStandardMetadata .plain (some firstClone) type).1.2
    (read .dataspace = some (.dataspace (lastSet firstClone.addr .dataspace s.sets)) ∧
        read .blendMode = some (.blendMode (lastSet firstClone.addr .blendMode s.sets))) ↔
      pixelBytes firstClone ≠ 0 ∧
        lastSet firstClone.addr .blendMode s.sets = lastSet firstClone.addr .dataspace s.sets :=
  scalarMetadata_iff .androidBp .plain (scalarOps 3 3)
    ⟨⟨_, rfl, ⟨rfl, rfl, rfl, rfl⟩, rfl⟩, ⟨firstClone, List.mem_cons_self, rfl⟩,
      ⟨firstClone, List.mem_cons_self, rfl⟩, trivial⟩
    firstClone ⟨List.mem_cons_self, List.not_mem_nil⟩

/-- The blend mode was set to 2 and the dataspace to 5: both sets succeeded, and a read of the blend
    mode gives 5. -/
theorem blendMode_reads_dataspace :
    let s := sessionRun .androidBp .plain (scalarOps 5 2)
    AllowedRun .androidBp .plain (scalarOps 5 2) ∧ s.Live firstClone ∧
      s.sets.map (fun x => (x.1, x.2.1))
        = [(firstClone.addr, .blendMode), (firstClone.addr, .dataspace)] ∧
      lastSet firstClone.addr .blendMode s.sets = 2 ∧
      (s.mapper.getStandardMetadata .plain (some firstClone) .blendMode).1.2
        = some (.blendMode 5) :=
  ⟨⟨⟨_, rfl, ⟨rfl, rfl, rfl, rfl⟩, rfl⟩, ⟨firstClone, List.mem_cons_self, rfl⟩,
      ⟨firstClone, List.mem_cons_self, rfl⟩, trivial⟩,
    ⟨List.mem_cons_self, List.not_mem_nil⟩, by decide, by decide, by decide⟩

end GrallocGbm
