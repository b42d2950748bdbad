/-
  The HDR metadata of a buffer: SMPTE2086, CTA861_3 and SMPTE2094_50.

  All three are stored right: in every state of a session the record of each live handle holds what
  was last set on it (`sessionRun_hdr`).  The getter rebuilds an optional for each.  That of
  SMPTE2094_50 is made from the stored bytes; those of the other two are declared empty, have their
  fields assigned through `->`, and are handed out as empty as they were:

      std::optional<Smpte2086> smpte2086;
      smpte2086->primaryRed = XyColor(...);
      ...
      return provide(smpte2086);

  So the round trip works exactly on the handles on which neither of the two was ever set, and
  whose format has a pixel size if SMPTE2094_50 was set: without one the query divides by zero, and
  no read of the buffer's metadata returns (`hdrRoundTrip_iff`).

  1. **What is stored** — `HdrStored`, a relation between the sets of a session and the record of
     one object.  That it is kept by every call is `FollowsSets`, which `MetadataStore` turns into a
     statement about sessions.

  2. **What is read** — `hdrReads_empty` and `smpte209450Read_eq`, of any record.

  3. **What is refused** — a payload of SMPTE2094_50 that is too long, with nothing stored
     (`setStandardMetadata_oversized`).

  The three parts are put together in `hdrRoundTrip_iff`, for all sequences of allowed calls.
-/
import GrallocGbm.MetadataStore

namespace GrallocGbm

/-! ## The payload last set -/

/-- The payload of the last successful set of `type` on the handle at `a`. -/
def lastPayload (a : Nat) (type : StandardMetadataType)
    (sets : List (Nat × StandardMetadataType × Payload)) : Option Payload :=
  (sets.find? (fun x => decide (x.1 = a ∧ x.2.1 = type))).map fun x => x.2.2

section

variable {a : Nat} {type : StandardMetadataType}
  {sets : List (Nat × StandardMetadataType × Payload)}

/-- The newest set is looked at first. -/
theorem lastPayload_cons (x : Nat × StandardMetadataType × Payload) :
    lastPayload a type (x :: sets)
      = if x.1 = a ∧ x.2.1 = type then some x.2.2 else lastPayload a type sets := by
  unfold lastPayload
  by_cases h : x.1 = a ∧ x.2.1 = type
  · rw [List.find?_cons_of_pos (by simpa using h), if_pos h]
    rfl
  · rw [List.find?_cons_of_neg (by simpa using h), if_neg h]

/-- Sets on other handles do not count. -/
theorem lastPayload_of_forall_ne (h : ∀ x ∈ sets, x.1 ≠ a) : lastPayload a type sets = none := by
  rw [lastPayload, Option.map_eq_none_iff, List.find?_eq_none]
  intro x hx
  simp [h x hx]

end

/-! ## Payloads as values

  A payload is bytes; its value is what the structure of the type reads in them. -/

/-- The payload of a `Smpte2086`. -/
def Payload.smpte2086 (m : Payload) : Smpte2086 where
  primaryRedX := m.word 0
  primaryRedY := m.word 1
  primaryGreenX := m.word 2
  primaryGreenY := m.word 3
  primaryBlueX := m.word 4
  primaryBlueY := m.word 5
  whitePointX := m.word 6
  whitePointY := m.word 7
  maxLuminance := m.word 8
  minLuminance := m.word 9

/-- The payload of a `Cta861_3`. -/
def Payload.cta8613 (m : Payload) : Cta8613 where
  maxContentLightLevel := m.word 0
  maxFrameAverageLightLevel := m.word 1

/-- The bytes of the client's payload. -/
def Payload.bytes (m : Payload) : List UInt8 := (List.range m.metadataSize).map m.byte

/-- There are as many as `metadataSize` says. -/
theorem Payload.length_bytes (m : Payload) : m.bytes.length = m.metadataSize := by
  simp [Payload.bytes]

/-! ## What is stored -/

/-- The HDR fields of a record are those last set on the handle at `a`. -/
structure HdrStored (a : Nat) (sets : List (Nat × StandardMetadataType × Payload))
    (stored : BufferMetadata) : Prop where
  smpte2086 : ∀ m, lastPayload a .smpte2086 sets = some m →
    ∃ addr, stored.smpte2086 = some ⟨addr, m.smpte2086⟩
  cta8613 : ∀ m, lastPayload a .cta8613 sets = some m →
    ∃ addr, stored.cta8613 = some ⟨addr, m.cta8613⟩
  smpte209450 : ∀ m, lastPayload a .smpte209450 sets = some m →
    m.metadataSize ≤ grallocGenericSmpte209450MaxSize ∧
      stored.smpte209450Size = Int32.ofNat m.metadataSize ∧
      ∃ addr, stored.smpte209450 = some ⟨addr, m.bytes⟩

/-- A payload that is staged is not too long. -/
theorem stageMetadata_smpte209450 {m : Payload} {p : Proc} {staged : BufferMetadata}
    (h : (stageMetadata .smpte209450 m p).1 = some staged) :
    m.metadataSize ≤ grallocGenericSmpte209450MaxSize ∧
      staged.smpte209450Size = Int32.ofNat m.metadataSize ∧
      ∃ addr, staged.smpte209450 = some ⟨addr, m.bytes⟩ := by
  unfold stageMetadata at h
  by_cases hlen : m.metadataSize > grallocGenericSmpte209450MaxSize
  · simp [hlen] at h
  · rw [if_neg hlen] at h
    cases h
    exact ⟨by omega, rfl, _, rfl⟩

/-- The HDR fields follow the sets. -/
theorem followsSets_hdr : FollowsSets HdrStored where
  fresh := by
    intro a sets addr hnever
    constructor <;> intro m hm <;> rw [lastPayload_of_forall_ne hnever] at hm <;> cases hm
  own := by
    intro a sets type metadata p staged stored hst hr
    constructor
    case smpte2086 =>
      intro m hm
      rw [lastPayload_cons] at hm
      by_cases ht : type = .smpte2086
      · subst ht
        rw [if_pos ⟨rfl, rfl⟩] at hm
        cases hm
        cases hst
        exact ⟨_, rfl⟩
      · rw [if_neg (fun h => ht h.2)] at hm
        have hkeep : (storeMetadata type staged stored).smpte2086 = stored.smpte2086 := by
          cases type <;> first | rfl | exact absurd rfl ht
        rw [hkeep]
        exact hr.smpte2086 m hm
    case cta8613 =>
      intro m hm
      rw [lastPayload_cons] at hm
      by_cases ht : type = .cta8613
      · subst ht
        rw [if_pos ⟨rfl, rfl⟩] at hm
        cases hm
        cases hst
        exact ⟨_, rfl⟩
      · rw [if_neg (fun h => ht h.2)] at hm
        have hkeep : (storeMetadata type staged stored).cta8613 = stored.cta8613 := by
          cases type <;> first | rfl | exact absurd rfl ht
        rw [hkeep]
        exact hr.cta8613 m hm
    case smpte209450 =>
      intro m hm
      rw [lastPayload_cons] at hm
      by_cases ht : type = .smpte209450
      · subst ht
        rw [if_pos ⟨rfl, rfl⟩] at hm
        cases hm
        obtain ⟨hlen, hsize, hblock⟩ := stageMetadata_smpte209450 hst
        exact ⟨hlen, hsize, hblock⟩
      · rw [if_neg (fun h => ht h.2)] at hm
        have hkeep : (storeMetadata type staged stored).smpte209450 = stored.smpte209450 ∧
            (storeMetadata type staged stored).smpte209450Size = stored.smpte209450Size := by
          cases type <;> first | exact ⟨rfl, rfl⟩ | exact absurd rfl ht
        rw [hkeep.1, hkeep.2]
        exact hr.smpte209450 m hm
  other := by
    intro a sets x stored hx hr
    have hsame : ∀ type, lastPayload a type (x :: sets) = lastPayload a type sets := by
      intro type
      rw [lastPayload_cons, if_neg (fun h => hx h.1)]
    constructor
    case smpte2086 =>
      rw [hsame]
      exact hr.smpte2086
    case cta8613 =>
      rw [hsame]
      exact hr.cta8613
    case smpte209450 =>
      rw [hsame]
      exact hr.smpte209450

/-- **The store is right**: after any allowed calls, every live handle's object holds the HDR
    metadata last set on the handle. -/
theorem sessionRun_hdr {cfg : BuildConfig} {env : Env} {ops : List MapperOp}
    (h : AllowedRun cfg env ops) : StoredOk HdrStored (sessionRun cfg env ops) :=
  sessionRun_stored followsSets_hdr h

/-! ## What is read, and what is refused -/

section

variable {env : Env} {h : NativeHandle} {m : Mapper}

/-- A read of SMPTE2086 or CTA861_3 never gives a present optional. -/
theorem hdrReads_empty (env : Env) (hp : ProcInv m.proc)
    (hgbm : routedTo (grallocHandle h) = .mapperGrallocGbm) {d : GbmBoData}
    (hd : storedOf m.proc h = some d) :
    (∀ v, (m.getStandardMetadata env (some h) .smpte2086).1.2 ≠ some (.smpte2086 (some v))) ∧
      ∀ v, (m.getStandardMetadata env (some h) .cta8613).1.2 ≠ some (.cta8613 (some v)) := by
  constructor
  · intro v
    obtain ⟨info, -, hv⟩ := metadataRead_eq env .smpte2086 rfl hp hgbm hd
    rw [hv]
    unfold gbmMetadataValue
    cases info.metadata.smpte2086 <;> split <;> simp [Provided.encoded]
  · intro v
    obtain ⟨info, -, hv⟩ := metadataRead_eq env .cta8613 rfl hp hgbm hd
    rw [hv]
    unfold gbmMetadataValue
    cases info.metadata.cta8613 <;> split <;> simp [Provided.encoded]

/-- A read of SMPTE2094_50 gives the bytes that are stored, if there are any. -/
theorem smpte209450Read_eq (hp : ProcInv m.proc)
    (hgbm : routedTo (grallocHandle h) = .mapperGrallocGbm) {d : GbmBoData}
    (hd : storedOf m.proc h = some d) {w : Payload} {addr : Nat}
    (hlen : w.metadataSize ≤ grallocGenericSmpte209450MaxSize)
    (hsize : d.metadata.smpte209450Size = Int32.ofNat w.metadataSize)
    (hblock : d.metadata.smpte209450 = some ⟨addr, w.bytes⟩) :
    (m.getStandardMetadata env (some h) .smpte209450).1.2
      = if pixelBytes h = 0 then none
        else some (.smpte209450 (if w.metadataSize = 0 then none else some w.bytes)) := by
  obtain ⟨info, hinfo, hv⟩ := metadataRead_eq env .smpte209450 rfl hp hgbm hd
  have hmax : grallocGenericSmpte209450MaxSize = 10240 := rfl
  have hint : (Int32.ofNat w.metadataSize).toInt = w.metadataSize :=
    Int32.toInt_ofNat_of_lt (by omega)
  have hpos : 0 < Int32.ofNat w.metadataSize ↔ w.metadataSize ≠ 0 := by
    rw [Int32.lt_iff_toInt_lt, hint, Int32.toInt_zero]
    omega
  rw [hv]
  split
  · rfl
  · simp only [gbmMetadataValue, hinfo, hsize, hblock, hint, Int.toNat_natCast, hpos]
    by_cases h0 : w.metadataSize = 0
    · simp [h0, Provided.encoded]
    · rw [if_pos h0, if_neg h0, ← w.length_bytes, List.take_length]
      rfl

/-- A payload of SMPTE2094_50 that is too long is refused, and nothing is stored. -/
theorem setStandardMetadata_oversized (hgbm : routedTo (grallocHandle h) = .mapperGrallocGbm)
    (hready : isGrallocGbmReady m.proc = true) {w : Payload}
    (hlen : grallocGenericSmpte209450MaxSize < w.metadataSize) :
    let r := m.setStandardMetadata env (some h) .smpte209450 w
    (∃ e, e ≠ .none ∧ r.1 = some e) ∧ storedOf r.2.proc h = storedOf m.proc h := by
  intro r
  have hready' : readied env h m.proc = m.proc := (readied_of_ready env hgbm hready).2
  have hnone : stageMetadata .smpte209450 w (withRecord (readied env h m.proc))
      = (none, withRecord (readied env h m.proc)) := if_pos hlen
  rcases Mapper.setStandardMetadata_cases env h .smpte209450 w (m := m) with
    ⟨-, hr, hr' | hr'⟩ | ⟨-, -, hr, hr'⟩ | ⟨-, staged, hst, -⟩
  · exact ⟨⟨_, by decide, hr⟩, by rw [hr', hready']⟩
  · exact ⟨⟨_, by decide, hr⟩, by rw [hr', hready']; rfl⟩
  · exact ⟨⟨_, by decide, hr⟩, by rw [hr', hnone, hready']; rfl⟩
  · rw [hnone] at hst
    cases hst

end

/-! ## The round trip -/

/-- What a client expects of the HDR metadata of its handle `h`. -/
structure HdrRoundTrip (env : Env) (s : Session) (h : NativeHandle) : Prop where
  smpte2086 : ∀ w, lastPayload h.addr .smpte2086 s.sets = some w →
    (s.mapper.getStandardMetadata env (some h) .smpte2086).1.2
      = some (.smpte2086 (some w.smpte2086))
  cta8613 : ∀ w, lastPayload h.addr .cta8613 s.sets = some w →
    (s.mapper.getStandardMetadata env (some h) .cta8613).1.2 = some (.cta8613 (some w.cta8613))
  smpte209450 : ∀ w, lastPayload h.addr .smpte209450 s.sets = some w →
    (s.mapper.getStandardMetadata env (some h) .smpte209450).1.2
      = some (.smpte209450 (if w.metadataSize = 0 then none else some w.bytes))
  oversized : ∀ w : Payload, 10240 < w.metadataSize →
    let r := s.mapper.setStandardMetadata env (some h) .smpte209450 w
    (∃ e, e ≠ .none ∧ r.1 = some e) ∧ storedOf r.2.proc h = storedOf s.proc h

/-- **Where the round trip works.**  After any allowed calls, the HDR metadata of a live handle is
    what was last set on it exactly if neither SMPTE2086 nor CTA861_3 was set on it, and its format
    has a pixel size or SMPTE2094_50 was not set either. -/
theorem hdrRoundTrip_iff (cfg : BuildConfig) (env : Env) (ops : List MapperOp)
    (hops : AllowedRun cfg env ops) (h : NativeHandle) (hlive : (sessionRun cfg env ops).Live h) :
    let s := sessionRun cfg env ops
    HdrRoundTrip env s h ↔
      lastPayload h.addr .smpte2086 s.sets = none ∧ lastPayload h.addr .cta8613 s.sets = none ∧
        (pixelBytes h ≠ 0 ∨ lastPayload h.addr .smpte209450 s.sets = none) := by
  intro s
  have hs : SessionInv s := sessionRun_inv hops
  have hgbm := hs.routed h hlive.1
  obtain ⟨d, hd, hstored⟩ := sessionRun_hdr hops h hlive
  obtain ⟨hno2086, hnocta⟩ := hdrReads_empty env hs.inv hgbm hd
  have hread : ∀ w, lastPayload h.addr .smpte209450 s.sets = some w →
      (s.mapper.getStandardMetadata env (some h) .smpte209450).1.2
        = if pixelBytes h = 0 then none
          else some (.smpte209450 (if w.metadataSize = 0 then none else some w.bytes)) := by
    intro w hw
    obtain ⟨hlen, hsize, addr, hblock⟩ := hstored.smpte209450 w hw
    exact smpte209450Read_eq hs.inv hgbm hd hlen hsize hblock
  constructor
  · intro hrt
    refine ⟨?_, ?_, ?_⟩
    · rw [Option.eq_none_iff_forall_ne_some]
      exact fun w hw => hno2086 _ (hrt.smpte2086 w hw)
    · rw [Option.eq_none_iff_forall_ne_some]
      exact fun w hw => hnocta _ (hrt.cta8613 w hw)
    · by_cases h0 : pixelBytes h = 0
      · right
        rw [Option.eq_none_iff_forall_ne_some]
        intro w hw
        have h1 := hrt.smpte209450 w hw
        rw [hread w hw, if_pos h0] at h1
        cases h1
      · exact .inl h0
  · rintro ⟨h2086, hcta, h209450⟩
    constructor
    case smpte2086 =>
      intro w hw
      rw [h2086] at hw
      cases hw
    case cta8613 =>
      intro w hw
      rw [hcta] at hw
      cases hw
    case smpte209450 =>
      intro w hw
      rcases h209450 with h0 | hnone
      · rw [hread w hw, if_neg h0]
      · rw [hnone] at hw
        cases hw
    case oversized =>
      exact fun w hlen => setStandardMetadata_oversized hgbm
        (hs.ready (List.ne_nil_of_mem hlive.1)) hlen

/-- A payload with the bytes 1, 2, 3, .. -/
def countingPayload (n : Nat) : Payload := ⟨fun i => UInt8.ofNat (i + 1), n⟩

/-- A buffer is imported, and its metadata of one type is set. -/
def hdrOps (type : StandardMetadataType) (w : Payload) : List MapperOp :=
  [.buffer (.importBuffer (some (rgbaHandle 5))), .setStandardMetadata (some firstClone) type w]

/-- They are allowed calls. -/
theorem hdrOps_allowed (type : StandardMetadataType) (w : Payload) :
    AllowedRun .androidBp .plain (hdrOps type w) :=
  ⟨⟨_, rfl, ⟨rfl, rfl, rfl, rfl⟩, rfl⟩, ⟨firstClone, List.mem_cons_self, rfl⟩, trivial⟩

/-- Three bytes of SMPTE2094_50, and neither of the other two types. -/
theorem hdrOps_iff :
    let s := sessionRun .androidBp .plain (hdrOps .smpte209450 (countingPayload 3))
    HdrRoundTrip .plain s firstClone ↔
      lastPayload firstClone.addr .smpte2086 s.sets = none ∧
        lastPayload firstClone.addr .cta8613 s.sets = none ∧
        (pixelBytes firstClone ≠ 0 ∨ lastPayload firstClone.addr .smpte209450 s.sets = none) :=
  hdrRoundTrip_iff .androidBp .plain (hdrOps .smpte209450 (countingPayload 3))
    (hdrOps_allowed _ _) firstClone ⟨List.mem_cons_self, List.not_mem_nil⟩

/-- SMPTE2086 was set with success, and is read as an empty optional. -/
theorem smpte2086_reads_empty :
    let s := sessionRun .androidBp .plain (hdrOps .smpte2086 (countingPayload 40))
    AllowedRun .androidBp .plain (hdrOps .smpte2086 (countingPayload 40)) ∧ s.Live firstClone ∧
      (lastPayload firstClone.addr .smpte2086 s.sets).isSome = true ∧
      (s.mapper.getStandardMetadata .plain (some firstClone) .smpte2086).1.2
        = some (.smpte2086 none) :=
  ⟨hdrOps_allowed _ _, ⟨List.mem_cons_self, List.not_mem_nil⟩, by decide, by decide⟩

end GrallocGbm
