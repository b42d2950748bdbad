/-
  Native handles and the gralloc view of them (`include/drm/android/gralloc_handle.h`).

  A `native_handle_t` is a header and an array of `int` words, the file descriptors first.
  `gralloc_handle()` is a cast: it reads the fields of `struct gralloc_handle_t` out of fixed word
  positions, whatever the header says about their number.  So a handle is modelled as the words
  from its start on, the memory behind the block included, and the view as a function of them.

  The positions come from the layout of the struct (the header takes three words, `modifier` is
  aligned to eight bytes): `prime_fd` is word 0, `stride` word 7, `data_owner` word 8, `modifier`
  words 9 and 10, the `data`/`reserved` union words 11 and 12.  `data_owner` and the union are
  neither set nor read by the code and are left out of the view.

  Two ways to look at the same words make two ways to be wrong about them.  A handle that comes from
  elsewhere may be shorter than the view, and then the fields are read out of what lies behind it;
  `HandleReads` is about that.  And a handle of this library may have been written by a build with
  other types: the setters below store `uint32_t` values into `int` words, and
  `grallocHandle_written` is the round trip, that a field which was set is the field that is read.

  `GrallocShaped` is the shape that `gralloc_handle_create` gives a handle: one descriptor and
  twelve more words.  Nothing in the repository ever compares a handle with it, nor looks at `magic`
  and `version`.

  The handles of the examples, `rgbaHandle` and `blobHandle`, are of that shape.  The first goes to
  the GBM backend, the second, being a BLOB of height 1, to the DMA-BUF one.
-/
import GrallocGbm.Flags
import Mathlib.Algebra.Group.Nat.Defs
import Mathlib.Logic.Function.Basic

namespace GrallocGbm

/-- `native_handle_t`, with the address that identifies it among the allocated handles. -/
structure NativeHandle where
  addr : Nat
  numFds : Int
  numInts : Int
  /-- `data[i]`; from word `numFds + numInts` on, whatever memory lies behind the block. -/
  data : Nat → Int

/-- The file descriptors of a handle. -/
def NativeHandle.fds (h : NativeHandle) : List Int := (List.range h.numFds.toNat).map h.data

/-- `struct gralloc_handle_t`. -/
structure GrallocHandle where
  primeFd : Int
  magic : UInt32
  version : UInt32
  width : UInt32
  height : UInt32
  format : UInt32
  usage : UInt32
  stride : UInt32
  modifier : UInt64
  deriving DecidableEq, Repr

/-- The header of a gralloc handle: what `gralloc_handle_create` writes there, and the counts it
    asks `native_handle_create` for. -/
def grallocHandleVersion : UInt32 := 4
def grallocHandleMagic : UInt32 := 0x60585350
def grallocHandleNumFds : Int := 1
def grallocHandleNumInts : Int := 12

/-! ## Reading and writing the fields

  A field is one word of the handle, or two.  A word read past the end of the handle is whatever
  the memory has there. -/

/-- A word read as `uint32_t`. -/
def NativeHandle.word (h : NativeHandle) (i : Nat) : UInt32 := UInt32.ofInt (h.data i)

/-- `data[i] = v`. -/
def NativeHandle.setWord (h : NativeHandle) (i : Nat) (v : Int) : NativeHandle :=
  { h with data := Function.update h.data i v }

/-- `gralloc_handle`: the cast, as the fields it makes readable. -/
def grallocHandle (h : NativeHandle) : GrallocHandle where
  primeFd := h.data 0
  magic := h.word 1
  version := h.word 2
  width := h.word 3
  height := h.word 4
  format := h.word 5
  usage := h.word 6
  stride := h.word 7
  modifier := UInt64.ofNat ((h.word 9).toNat + (h.word 10).toNat * 2 ^ 32)

/-- The assignments to single fields that follow the creation of a handle. -/
def NativeHandle.setPrimeFd (h : NativeHandle) (fd : Int) : NativeHandle := h.setWord 0 fd
def NativeHandle.setStride (h : NativeHandle) (s : UInt32) : NativeHandle := h.setWord 7 s.toNat
def NativeHandle.setModifier (h : NativeHandle) (m : UInt64) : NativeHandle :=
  (h.setWord 9 (m.toNat % 2 ^ 32 : Nat)).setWord 10 (m.toNat / 2 ^ 32 : Nat)

/-- The assignments of `gralloc_handle_create` to a fresh handle. -/
def NativeHandle.describe (h : NativeHandle) (width height halFormat usage : UInt32) :
    NativeHandle :=
  ((((((h.setWord 1 grallocHandleMagic.toNat).setWord 2 grallocHandleVersion.toNat).setWord 3
    width.toNat).setWord 4 height.toNat).setWord 5 halFormat.toNat).setWord 6 usage.toNat).setPrimeFd
      (-1)

/-- An unsigned word survives the way through the `int` it is stored in. -/
theorem word_ofNat (x : UInt32) : UInt32.ofInt (x.toNat : Int) = x := by
  apply UInt32.toNat_inj.mp
  have hlt := x.toNat_lt
  rw [UInt32.ofInt, UInt32.toNat_ofNat']
  have hmod : ((x.toNat : Int) % 2 ^ 32).toNat = x.toNat := by omega
  rw [hmod, Nat.mod_eq_of_lt (by omega)]

/-- What is written through the setters is what the view reads. -/
theorem grallocHandle_written (h : NativeHandle) (width height halFormat usage stride : UInt32)
    (fd : Int) (m : UInt64) :
    grallocHandle ((((h.describe width height halFormat usage).setStride stride).setPrimeFd
        fd).setModifier m)
      = ⟨fd, grallocHandleMagic, grallocHandleVersion, width, height, halFormat, usage, stride, m⟩ := by
  have hlt := m.toNat_lt
  have hlo : (UInt32.ofInt ((m.toNat % 2 ^ 32 : Nat) : Int)).toNat = m.toNat % 2 ^ 32 := by
    rw [UInt32.ofInt, UInt32.toNat_ofNat']
    omega
  have hhi : (UInt32.ofInt ((m.toNat / 2 ^ 32 : Nat) : Int)).toNat = m.toNat / 2 ^ 32 := by
    rw [UInt32.ofInt, UInt32.toNat_ofNat']
    omega
  have hm : m.toNat % 2 ^ 32 + m.toNat / 2 ^ 32 * 2 ^ 32 = m.toNat := by omega
  simp only [grallocHandle, NativeHandle.setModifier, NativeHandle.setPrimeFd,
    NativeHandle.setStride, NativeHandle.describe, NativeHandle.setWord, NativeHandle.word,
    Function.update_apply, Nat.reduceEqDiff, if_true, if_false, word_ofNat, hlo, hhi, hm,
    UInt64.ofNat_toNat, reduceCtorEq]

/-- The shape `gralloc_handle_create` gives a handle. -/
def GrallocShaped (h : NativeHandle) : Prop :=
  h.numFds = grallocHandleNumFds ∧ h.numInts = grallocHandleNumInts ∧
    (grallocHandle h).magic = grallocHandleMagic ∧ (grallocHandle h).version = grallocHandleVersion

/-- The handle of a 64x64 RGBA_8888 buffer for CPU access, with descriptor `fd`. -/
def rgbaHandle (fd : Int) : NativeHandle :=
  (((⟨0, 1, 12, fun _ => 0⟩ : NativeHandle).describe 64 64 halPixelFormatRgba8888 0x33).setStride
    256).setPrimeFd fd

/-- The handle of a BLOB of 4096 bytes for CPU access, with descriptor `fd`. -/
def blobHandle (fd : Int) : NativeHandle :=
  (((⟨0, 1, 12, fun _ => 0⟩ : NativeHandle).describe 4096 1 halPixelFormatBlob 0x33).setStride
    512).setPrimeFd fd

end GrallocGbm
