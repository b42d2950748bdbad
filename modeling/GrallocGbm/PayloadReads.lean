/-
  Which bytes of a client's payload does a set read, and is the length checked?

  `setStandardMetadata` reads the payload through a pointer to the structure of the type.  Here the
  staging and the call around it are written once more, every byte of the payload being read in a
  step of its own; `setStandardMetadata_value` says that this is the set of the model.

  The structures are read as the compiler lays them out, in words of four bytes from offset 0:

    DATASPACE, BLEND_MODE     one word
    SMPTE2086                 ten words: four points of two, and two luminances
    CTA861_3                  two words
    SMPTE2094_50              as many bytes as the length says, copied

  The length is looked at for one type only, and only to see that it is not too large.  So a payload
  that is too short for its type is read past its end, unless the call ends before it comes to the
  payload (`payloadRespected_iff`).

  The reads are collected by the monad of `Lib.Traced`: `Within P` says that all bytes read are in
  `P`, and its rules follow the program text.

  (Log messages read fields that are read before them; they are left out.)
-/
import GrallocGbm.Lib.Traced
import GrallocGbm.MetadataBlocks

namespace GrallocGbm

namespace PayloadReads

/-! ## The set, byte by byte

  The functions of the model, with every look at the payload as a step. -/

/-- The word `i` of the payload. -/
def word (m : Payload) (i : Nat) : Traced Nat UInt32 := do
  let b0 ← Traced.read m.byte (4 * i)
  let b1 ← Traced.read m.byte (4 * i + 1)
  let b2 ← Traced.read m.byte (4 * i + 2)
  let b3 ← Traced.read m.byte (4 * i + 3)
  pure (b0.toUInt32 ||| (b1.toUInt32 <<< 8) ||| (b2.toUInt32 <<< 16) ||| (b3.toUInt32 <<< 24))

/-- A `Smpte2086`, member by member. -/
def smpte2086 (m : Payload) : Traced Nat Smpte2086 := do
  let primaryRedX ← word m 0
  let primaryRedY ← word m 1
  let primaryGreenX ← word m 2
  let primaryGreenY ← word m 3
  let primaryBlueX ← word m 4
  let primaryBlueY ← word m 5
  let whitePointX ← word m 6
  let whitePointY ← word m 7
  let maxLuminance ← word m 8
  let minLuminance ← word m 9
  pure ⟨primaryRedX, primaryRedY, primaryGreenX, primaryGreenY, primaryBlueX, primaryBlueY,
    whitePointX, whitePointY, maxLuminance, minLuminance⟩

/-- A `Cta861_3`. -/
def cta8613 (m : Payload) : Traced Nat Cta8613 := do
  let maxContentLightLevel ← word m 0
  let maxFrameAverageLightLevel ← word m 1
  pure ⟨maxContentLightLevel, maxFrameAverageLightLevel⟩

/-- The switch of `GrallocGenericMapperV5::setStandardMetadata`. -/
def stageMetadata (type : StandardMetadataType) (m : Payload) (p : Proc) :
    Traced Nat (Option BufferMetadata × Proc) :=
  match type with
  | .bufferId | .name | .width | .height | .layerCount | .pixelFormatRequested
  | .pixelFormatFourcc | .pixelFormatModifier | .usage | .stride => pure (none, p)
  | .dataspace => do
    let dataspace ← word m 0
    pure (some { BufferMetadata.zero with dataspace := dataspace.toInt32 }, p)
  | .blendMode => do
    let blendMode ← word m 0
    pure (some { BufferMetadata.zero with blendMode := blendMode.toInt32 }, p)
  | .smpte2086 => do
    let (a, p) := callocBlock p
    let val ← smpte2086 m
    pure (some { BufferMetadata.zero with smpte2086 := some ⟨a, val⟩ }, p)
  | .cta8613 => do
    let (a, p) := callocBlock p
    let val ← cta8613 m
    pure (some { BufferMetadata.zero with cta8613 := some ⟨a, val⟩ }, p)
  | .smpte209450 =>
    if m.metadataSize > grallocGenericSmpte209450MaxSize then pure (none, p)
    else do
      let (a, p) := callocBlock p
      let bytes ← Traced.readAll m.byte (List.range m.metadataSize)
      pure (some { BufferMetadata.zero with
        smpte209450 := some ⟨a, bytes⟩
        smpte209450Size := Int32.ofNat m.metadataSize }, p)
  | _ => pure (some BufferMetadata.zero, p)

/-- The rest of the call, once the backend is ready. -/
def setWithBackend (env : Env) (buffer : NativeHandle) (type : StandardMetadataType)
    (metadata : Payload) (backend : MapperBackendType) (p : Proc) :
    Traced Nat (Option AIMapperError × Proc) :=
  match callocChecked env p with
  | (none, p) => pure (some .noResources, p)
  | (some a, p) => do
    let staging ← stageMetadata type metadata { p with heap := insert a p.heap }
    pure (match staging with
      | (none, p) => (some .badValue, p)
      | (some data, p) =>
        match backend with
        | .mapperGrallocGbm =>
          match MapperBackendGrallocGbm.setStandardMetadata buffer type data p with
          | (.ok rc, p) => (some (statusOf rc), p)
          | (_, p) => (none, p)
        | .mapperGrallocDmabuf => (some .none, p))

/-- `GrallocGenericMapperV5::setStandardMetadata`. -/
def setStandardMetadata (env : Env) (buffer : Option NativeHandle) (type : StandardMetadataType)
    (metadata : Payload) (m : Mapper) : Traced Nat (Option AIMapperError × Mapper) :=
  match buffer with
  | none => pure (some .badBuffer, m)
  | some buffer =>
    match (m.selectBackend buffer).checkBackend env with
    | (none, m) => pure (some .noResources, m)
    | (some backend, m) => do
      let r ← setWithBackend env buffer type metadata backend m.proc
      pure (r.1, { m with proc := r.2 })

/-! ## It computes what the model does -/

section

variable {env : Env} (type : StandardMetadataType) (payload : Payload)

/-- The staging first. -/
theorem stageMetadata_value (p : Proc) :
    (stageMetadata type payload p).value = GrallocGbm.stageMetadata type payload p := by
  cases type with
  | smpte209450 =>
    unfold stageMetadata GrallocGbm.stageMetadata
    exact Traced.value_ite (payload.metadataSize > grallocGenericSmpte209450MaxSize) _ _
  | _ => rfl

/-- **The traced set is the set.** -/
theorem setStandardMetadata_value (buffer : Option NativeHandle) (m : Mapper) :
    (setStandardMetadata env buffer type payload m).value
      = m.setStandardMetadata env buffer type payload := by
  cases buffer with
  | none => rfl
  | some h =>
    unfold setStandardMetadata Mapper.setStandardMetadata Mapper.withBackend
    dsimp only
    cases (m.selectBackend h).checkBackend env with
    | mk backend m =>
      cases backend with
      | none => rfl
      | some backend =>
        simp only [Traced.value_bind, Traced.value_pure, setWithBackend]
        cases callocChecked env m.proc with
        | mk a p =>
          cases a with
          | none => rfl
          | some a =>
            dsimp only
            rw [← stageMetadata_value]
            rfl

end

/-! ## What it reads -/

/-- The size of the structure that a payload of the type is read as.  (The type of SMPTE 2094-50 is
    read as the bytes it has, and the others not at all.) -/
def payloadSize : StandardMetadataType → Nat
  | .dataspace | .blendMode => 4
  | .smpte2086 => 40
  | .cta8613 => 8
  | _ => 0

section

variable {type : StandardMetadataType} {payload : Payload} {P : Nat → Prop}

/-- A word is four bytes. -/
theorem within_word {m : Payload} {i : Nat} :
    (word m i).Within P ↔ P (4 * i) ∧ P (4 * i + 1) ∧ P (4 * i + 2) ∧ P (4 * i + 3) := by
  simp [word]

/-- The staging reads the whole structure, or the bytes there are. -/
theorem stageMetadata_within (p : Proc) :
    (stageMetadata type payload p).Within (· < payload.metadataSize) ↔
      payloadSize type ≤ payload.metadataSize := by
  cases type with
  | smpte209450 =>
    refine iff_of_true ?_ (Nat.zero_le _)
    unfold stageMetadata
    dsimp only
    split
    · exact Traced.within_pure _
    · simp
  | dataspace | blendMode | smpte2086 | cta8613 =>
    simp only [stageMetadata, smpte2086, cta8613, Traced.within_bind, within_word, Traced.within_pure,
      and_true, payloadSize]
    omega
  | _ => exact iff_of_true (Traced.within_pure _) (Nat.zero_le _)

/-- The call reads the payload if it gets as far as its temporary record. -/
theorem setStandardMetadata_within (env : Env) (h : NativeHandle) (m : Mapper) :
    (setStandardMetadata env (some h) type payload m).Within (· < payload.metadataSize) ↔
      (TakesRecord env h m.proc → payloadSize type ≤ payload.metadataSize) := by
  have hcheck : (m.selectBackend h).checkBackend env
      = (if ((routedTo (grallocHandle h)).ensureReady env m.proc).1 then
          some (routedTo (grallocHandle h)) else none,
        ⟨readied env h m.proc, some (routedTo (grallocHandle h))⟩) := rfl
  unfold setStandardMetadata TakesRecord
  dsimp only
  rw [hcheck]
  cases hok : ((routedTo (grallocHandle h)).ensureReady env m.proc).1 with
  | false => exact iff_of_true (Traced.within_pure _) fun ht => absurd ht.1 Bool.false_ne_true
  | true =>
    simp only [if_true, Traced.within_bind, Traced.within_pure, and_true, setWithBackend]
    unfold callocChecked
    cases ha : env.alloc (readied env h m.proc).calls.length with
    | false => exact iff_of_true (Traced.within_pure _) fun ht => absurd ht.2 Bool.false_ne_true
    | true =>
      simp only [if_true, Traced.within_bind, Traced.within_pure, and_true, stageMetadata_within,
        true_implies]

end

end PayloadReads

/-! ## Payloads that are too short -/

open PayloadReads

/-- The set reads none but the bytes of the payload, and a payload too short for its type is refused
    with an error, and changes no metadata. -/
def PayloadRespected (env : Env) (m : Mapper) (buffer : Option NativeHandle)
    (type : StandardMetadataType) (payload : Payload) : Prop :=
  (PayloadReads.setStandardMetadata env buffer type payload m).Within (· < payload.metadataSize) ∧
  (payload.metadataSize < payloadSize type →
    (∃ e, (m.setStandardMetadata env buffer type payload).1 = some e ∧ e ≠ .none) ∧
    ∀ bo, metadataOf bo (m.setStandardMetadata env buffer type payload).2.proc
      = metadataOf bo m.proc)

/-- A set that does not get its record leaves the metadata alone. -/
theorem setStandardMetadata_refused {env : Env} {h : NativeHandle} {m : Mapper}
    (hno : ¬ TakesRecord env h m.proc) (type : StandardMetadataType) (payload : Payload) :
    (m.setStandardMetadata env (some h) type payload).1 = some .noResources ∧
    ∀ bo, metadataOf bo (m.setStandardMetadata env (some h) type payload).2.proc
      = metadataOf bo m.proc := by
  have hkept := readied_metadata env h m.proc
  rcases Mapper.setStandardMetadata_cases env h type payload (m := m) with
    ⟨-, hrc, hr | hr⟩ | ⟨ht, -⟩ | ⟨ht, -⟩
  · rw [hr]
    exact ⟨hrc, hkept.metadata⟩
  · rw [hr]
    exact ⟨hrc, hkept.metadata⟩
  · exact absurd ht hno
  · exact absurd ht hno

/-- **When the payload is respected.**  In any state of the mapper, a set respects a payload that is
    not too short for its type; one that is too short it respects only if it ends before it gets to
    the payload. -/
theorem payloadRespected_iff (env : Env) (m : Mapper) (buffer : Option NativeHandle)
    (type : StandardMetadataType) (payload : Payload) :
    PayloadRespected env m buffer type payload ↔
      payloadSize type ≤ payload.metadataSize ∨
        ∀ h, buffer = some h → ¬ TakesRecord env h m.proc := by
  cases buffer with
  | none =>
    refine iff_of_true ⟨Traced.within_pure _, fun _ => ⟨⟨_, rfl, by decide⟩, fun _ => rfl⟩⟩ (.inr ?_)
    intro h hnone
    cases hnone
  | some h =>
    have hwithin : (PayloadReads.setStandardMetadata env (some h) type payload m).Within
          (· < payload.metadataSize) ↔
        (TakesRecord env h m.proc → payloadSize type ≤ payload.metadataSize) :=
      setStandardMetadata_within env h m
    constructor
    · rintro ⟨hreads, -⟩
      by_cases hsize : payloadSize type ≤ payload.metadataSize
      · exact .inl hsize
      · refine .inr fun h' heq ht => hsize ?_
        cases heq
        exact hwithin.mp hreads ht
    · rintro (hsize | hno)
      · exact ⟨hwithin.mpr fun _ => hsize, fun hshort => absurd hsize (not_le.mpr hshort)⟩
      · obtain ⟨hrc, hkept⟩ := setStandardMetadata_refused (hno h rfl) type payload
        exact ⟨hwithin.mpr fun ht => absurd ht (hno h rfl), fun _ => ⟨⟨_, hrc, by decide⟩, hkept⟩⟩

/-- A single byte for a dataspace, in memory that goes on with the same byte. -/
def shortPayload : Payload := ⟨fun _ => 1, 1⟩

/-- It is read as four, the set succeeds, and stores what it has found there. -/
theorem short_not_respected :
    let m := mapperRun .androidBp .plain liveOps
    let r := m.setStandardMetadata .plain (some liveHandle) .dataspace shortPayload
    (PayloadReads.setStandardMetadata .plain (some liveHandle) .dataspace shortPayload m).reads
      = [0, 1, 2, 3] ∧
    r.1 = some .none ∧
    (metadataOf 4 m.proc).map BufferMetadata.dataspace = some 0 ∧
    (metadataOf 4 r.2.proc).map BufferMetadata.dataspace = some 0x01010101 ∧
    ¬ PayloadRespected .plain m (some liveHandle) .dataspace shortPayload := by
  refine ⟨by decide, by decide, by decide, by decide, ?_⟩
  rintro ⟨hreads, -⟩
  exact absurd (hreads 3 (by decide)) (by decide)

end GrallocGbm
