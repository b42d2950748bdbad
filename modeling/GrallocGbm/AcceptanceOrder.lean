/-
  Asking for less.

  A client that is refused a buffer may try again with fewer uses.  Is what asks for less accepted
  whenever what asks for more is?  The flags collected grow with the uses, the checks of the flags
  are against bits that are set, and a device that has the object with more flags is supposed to
  have it with fewer.  Still the answer depends on how the library is built: with
  `GRALLOC_GBM_NO_CURSOR_RENDERING` a cursor that also renders loses the cursor flag, and a cursor
  that does not keeps it.  So with that option, which `Android.bp` sets, a device without cursors
  accepts the cursor that renders and refuses the plain one (`lessAccepted_iff`).

  The order is that of the bits (`Within`): whatever has a bit in the smaller set has one in the
  larger.  It is preserved by collecting flags, since a rule that applies to fewer uses applies to
  more (`collectFlags_within`), and by the checks, in the other direction
  (`FlagsAccepted.of_within`). Dropping a flag is what is not monotone.

  A device whose answers are themselves not monotone could refuse less for reasons of its own; so
  the devices are those that are (`Downward`).  And the smaller usage is not zero: no usage at all
  is refused on its own account.
-/
import GrallocGbm.Acceptance

namespace GrallocGbm

/-- Whatever has a bit in `u` has one in `v`. -/
def Within (u v : UInt32) : Prop := ∀ bit, u &&& bit ≠ 0 → v &&& bit ≠ 0

/-- A subset has no other bits. -/
theorem Within.of_and_eq {u v : UInt32} (h : u &&& v = u) : Within u v := by
  intro bit hu hv
  apply hu
  rw [← h, UInt32.and_assoc, hv]
  exact UInt32.and_zero

/-! ## The flags

  More usage bits, more flags; only the cursor flag can be lost on the way, when a build drops
  it. -/

section

variable {cfg : BuildConfig} {usage usage' flags flags' gbmFormat : UInt32}

/-- **More uses, more flags.** -/
theorem collectFlags_within (h : Within usage' usage) :
    Within (collectFlags cfg usage') (collectFlags cfg usage) := by
  intro bit hbit
  obtain ⟨rule, hrule, happlies, hflag⟩ := (collectFlags_and_ne_zero cfg usage' bit).mp hbit
  exact (collectFlags_and_ne_zero cfg usage bit).mpr ⟨rule, hrule, h rule.1 happlies, hflag⟩

/-- No cursor flag is dropped. -/
def KeepsCursor (cfg : BuildConfig) : Prop :=
  cfg.noCursorRendering = false ∨ cfg.androidApiLevel < 35

/-- In such a build the flags are those collected. -/
theorem KeepsCursor.calculateGbmFlags (h : KeepsCursor cfg) (usage gbmFormat : UInt32) :
    grallocGbmCalculateGbmFlags cfg usage gbmFormat = collectFlags cfg usage := by
  have hno : ¬ (collectFlags cfg usage &&& gbmBoUseCursor ≠ 0 ∧
      collectFlags cfg usage &&& gbmBoUseRendering ≠ 0 ∧ cfg.noCursorRendering) := by
    rintro ⟨hcursor, -, hdrops⟩
    have hasks := (collectFlags_cursor cfg usage).mp hcursor
    rcases h with hkeeps | hold
    · rw [hkeeps] at hdrops
      cases hdrops
    · exact absurd hasks.1 (by omega)
  unfold grallocGbmCalculateGbmFlags
  dsimp only
  rw [if_neg hno, ite_self]

/-- A dumb buffer that is refused is refused with more flags. -/
theorem dumbFormatRefused_within (h : Within flags' flags)
    (hrefused : dumbFormatRefused flags' gbmFormat = true) : dumbFormatRefused flags gbmFormat = true := by
  simp only [dumbFormatRefused, Bool.or_eq_true, Bool.and_eq_true, bne_iff_ne] at hrefused ⊢
  exact hrefused.imp (fun hc => ⟨h _ hc.1, hc.2⟩) fun hs => ⟨h _ hs.1, hs.2⟩

/-- The checks pass with fewer flags. -/
theorem FlagsAccepted.of_within (h : Within flags' flags) (haccepted : FlagsAccepted cfg flags gbmFormat) :
    FlagsAccepted cfg flags' gbmFormat := by
  refine ⟨fun hdumb => haccepted.1 ?_, fun hcursor => haccepted.2 ?_⟩
  · exact ⟨h _ hdumb.1, dumbFormatRefused_within h hdumb.2⟩
  · exact ⟨h _ hcursor.1, h _ hcursor.2.1, hcursor.2.2⟩

end

/-! ## Acceptance

  `LessAccepted` asks of a build that whatever is accepted for some usage is accepted for less
  of it, on every device that supports less when it supports more.  A build that drops the cursor
  flag fails on a device without cursors: the texture makes the flag disappear, and the plain
  cursor keeps it. -/

/-- What the device has with some flags it has with fewer. -/
def Downward (isFormatSupported : UInt32 → UInt32 → Bool) : Prop :=
  ∀ gbmFormat flags flags', Within flags' flags → isFormatSupported gbmFormat flags = true →
    isFormatSupported gbmFormat flags' = true

/-- What is accepted for some uses is accepted for any of them. -/
def LessAccepted (cfg : BuildConfig) : Prop :=
  ∀ isFormatSupported, Downward isFormatSupported → ∀ ready desc usage', usage' ≠ 0 →
    usage' &&& desc.usage = usage' →
    grallocGbmIsAllocatorDescSupported cfg isFormatSupported ready desc = true →
    grallocGbmIsAllocatorDescSupported cfg isFormatSupported ready { desc with usage := usage' } = true

/-- Cutting a usage to 32 bits keeps intersections. -/
theorem usageBits_and (u v : Int64) : usageBits (u &&& v) = usageBits u &&& usageBits v := by
  simp [usageBits]

/-- A device without cursors. -/
def noCursors (_ flags : UInt32) : Bool := flags &&& gbmBoUseCursor == 0

/-- Its answers are monotone. -/
theorem noCursors_downward : Downward noCursors := by
  intro gbmFormat flags flags' h hsupported
  simp only [noCursors, beq_iff_eq] at hsupported ⊢
  by_contra hcursor
  exact h _ hcursor hsupported

/-- A cursor that is a texture as well. -/
def textureCursor : AllocatorDesc := ⟨64, 64, 1, 1, 0x8100, 0⟩

/-- A build that drops the cursor flag drops it for the texture, and not for the plain cursor. -/
theorem textureCursor_only {cfg : BuildConfig} (hdrops : ¬ KeepsCursor cfg) :
    grallocGbmIsAllocatorDescSupported cfg noCursors true textureCursor = true ∧
      grallocGbmIsAllocatorDescSupported cfg noCursors true { textureCursor with usage := 0x8000 }
        = false := by
  simp only [KeepsCursor, not_or, Bool.not_eq_false, Nat.not_lt] at hdrops
  obtain ⟨hcursor, hapi⟩ := hdrops
  have hboth : descFlags cfg textureCursor = gbmBoUseRendering := by
    unfold descFlags grallocGbmCalculateGbmFlags collectFlags usageRules
    cases cfg.useSwRender <;> simp only [hapi, hcursor, if_true] <;> decide
  have halone : descFlags cfg { textureCursor with usage := 0x8000 } = gbmBoUseCursor := by
    unfold descFlags grallocGbmCalculateGbmFlags collectFlags usageRules
    cases cfg.useSwRender <;> simp only [hapi, hcursor, if_true] <;> decide
  constructor
  · refine accepted_iff.mpr ⟨rfl, by decide, by decide, ?_, ?_⟩
    · rw [hboth]
      exact ⟨fun hw => absurd hw.1 (by decide), fun hc => absurd hc.1 (by decide)⟩
    · rw [hboth]
      decide
  · by_contra haccepted
    have hsupported := (accepted_iff.mp (eq_true_of_ne_false haccepted)).2.2.2.2
    rw [halone] at hsupported
    exact absurd hsupported (by decide)

/-- **When asking for less is safe**: exactly if the library is built so that it never drops the cursor
    flag.  If it does drop it, a device without cursors gets the texture and not the plain cursor. -/
theorem lessAccepted_iff (cfg : BuildConfig) :
    (LessAccepted cfg ↔ KeepsCursor cfg) ∧
      (¬ KeepsCursor cfg →
        grallocGbmIsAllocatorDescSupported cfg noCursors true textureCursor = true ∧
          grallocGbmIsAllocatorDescSupported cfg noCursors true { textureCursor with usage := 0x8000 }
            = false) := by
  refine ⟨⟨fun h => ?_, fun hkeeps isFormatSupported hdown ready desc usage' hne hsub haccepted => ?_⟩,
    textureCursor_only⟩
  · by_contra hdrops
    obtain ⟨hboth, halone⟩ := textureCursor_only hdrops
    have hless := h noCursors noCursors_downward true textureCursor 0x8000 (by decide) (by decide) hboth
    rw [halone] at hless
    cases hless
  · obtain ⟨hready, hsize, -, hflags, hsupported⟩ := accepted_iff.mp haccepted
    have hbits : Within (usageBits usage') (usageBits desc.usage) :=
      .of_and_eq (by rw [← usageBits_and, hsub])
    have hwithin : Within (descFlags cfg { desc with usage := usage' }) (descFlags cfg desc) := by
      rw [descFlags, descFlags, hkeeps.calculateGbmFlags, hkeeps.calculateGbmFlags]
      exact collectFlags_within hbits
    exact accepted_iff.mpr ⟨hready, hsize, hne, hflags.of_within hwithin,
      hdown _ _ _ hwithin hsupported⟩

end GrallocGbm
