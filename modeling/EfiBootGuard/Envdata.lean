import EfiBootGuard.Libc
import Mathlib.Data.String.Basic

/-!
The environment record and the library around it. bg_setenv.c handles `BG_ENVDATA` as raw
memory (`memset`, `memcpy`, `fread`, `fwrite`, `crc32`) and names only its `revision` and
`crc32` fields; everything else goes through env_api. Neither envdata.h nor env_api is among
the sources, so both are modelled from the spec, and every result holds for any layout and
any library that keeps the promises stated here.

`Consts` gathers the constants bg_setenv.c takes from envdata.h, ebgenv.h and
env_config_file.h; `sampleConsts`, `sampleLayout` and `EnvApi.inert` are values for running the
model on concrete inputs, and no result depends on them. A record is its bytes, read and written
as little-endian `uint32_t` fields; its trailing `crc32` is zlib's table-free CRC-32 of the bytes
before it. `bgenv_set` writes the field or user variable its key names and nothing else, so the
revision only under the key "revision"; the global state setter is a side channel that leaves
the record's revision alone. An `Effect` is the library call `journal_process_action` makes, or
its report of an invalid ustate.
-/

namespace EfiBootGuard

structure Consts where
  ENV_STRING_LENGTH : Nat
  ENV_NUM_CONFIG_PARTS : Nat
  FAT_ENV_FILENAME : List Char
  USERVAR_TYPE_DEFAULT : UInt64
  USERVAR_TYPE_DELETED : UInt64
  USERVAR_TYPE_STRING_ASCII : UInt64

theorem u32_lt_add_one_iff (r : UInt32) : r < r + 1 ↔ r ≠ 4294967295 := by
  have hlt : r < r + 1 ↔ r.toNat < (r + 1).toNat := Iff.rfl
  have hne : r ≠ 4294967295 ↔ r.toNat ≠ 4294967295 := not_congr UInt32.ext_iff
  have := r.toNat_lt
  rw [hlt, hne, UInt32.toNat_add]
  simp only [UInt32.toNat_ofNat, UInt32.size, Nat.reduceMod]
  omega

theorem u32_add_one_ne (r : UInt32) : r + 1 ≠ r := by
  intro h
  have := congrArg UInt32.toNat h
  have := r.toNat_lt
  rw [UInt32.toNat_add] at *
  simp only [UInt32.toNat_ofNat, UInt32.size, Nat.reduceMod] at *
  omega

def sampleConsts : Consts := ⟨255, 2, "BGENV.DAT".toList, 0, 0, 0⟩

def le32 (v : UInt32) : List UInt8 :=
  [v.toUInt8, (v / 256).toUInt8, (v / 65536).toUInt8, (v / 16777216).toUInt8]

def readLe32 (b : List UInt8) : UInt32 :=
  (b.getD 0 0).toUInt32 + 256 * (b.getD 1 0).toUInt32 + 65536 * (b.getD 2 0).toUInt32 +
    16777216 * (b.getD 3 0).toUInt32

def getU32 (b : List UInt8) (off : Nat) : UInt32 := readLe32 (b.drop off)

def setU32 (b : List UInt8) (off : Nat) (v : UInt32) : List UInt8 :=
  b.take off ++ le32 v ++ b.drop (off + 4)

@[simp] theorem le32_length (v : UInt32) : (le32 v).length = 4 := rfl

theorem readLe32_le32 (v : UInt32) (rest : List UInt8) : readLe32 (le32 v ++ rest) = v := by
  apply UInt32.ext
  have hv := v.toNat_lt
  simp only [readLe32, le32, List.cons_append, List.getD_cons_zero, List.getD_cons_succ,
    UInt32.toNat_add, UInt32.toNat_mul, UInt8.toUInt32_toNat, UInt32.toUInt8_toNat,
    UInt32.toNat_div, UInt32.toNat_ofNat, UInt32.size, Nat.reduceMod, Nat.reducePow]
  omega

theorem readLe32_append {a : List UInt8} (ha : 4 ≤ a.length) (b : List UInt8) :
    readLe32 (a ++ b) = readLe32 a := by
  simp only [readLe32, List.getD_eq_getElem?_getD, List.getElem?_append_left (by omega : 0 < a.length),
    List.getElem?_append_left (by omega : 1 < a.length),
    List.getElem?_append_left (by omega : 2 < a.length),
    List.getElem?_append_left (by omega : 3 < a.length)]

theorem setU32_length {b : List UInt8} {off : Nat} (h : off + 4 ≤ b.length) (v : UInt32) :
    (setU32 b off v).length = b.length := by
  simp [setU32]; omega

theorem getU32_setU32_self {b : List UInt8} {off : Nat} (h : off + 4 ≤ b.length) (v : UInt32) :
    getU32 (setU32 b off v) off = v := by
  rw [getU32, setU32, List.append_assoc, List.drop_left' (by simp; omega), readLe32_le32]

theorem getU32_setU32_of_le {b : List UInt8} {off off' : Nat} (h : off + 4 ≤ b.length)
    (hle : off + 4 ≤ off') (v : UInt32) : getU32 (setU32 b off v) off' = getU32 b off' := by
  have hl : (b.take off ++ le32 v).length = off + 4 := by simp; omega
  rw [getU32, setU32, List.drop_append_eq_append_drop, List.drop_eq_nil_of_le (by omega),
    List.nil_append, hl, List.drop_drop, getU32]
  congr 2; omega

theorem take_setU32 {b : List UInt8} {off n : Nat} (h : off ≤ b.length) (hn : n ≤ off)
    (v : UInt32) : (setU32 b off v).take n = b.take n := by
  rw [setU32, List.append_assoc, List.take_append_of_le_length (by simp; omega), List.take_take,
    Nat.min_eq_left hn]

theorem getU32_setU32_of_ge {b : List UInt8} {off off' : Nat} (h : off ≤ b.length)
    (hge : off' + 4 ≤ off) (v : UInt32) : getU32 (setU32 b off v) off' = getU32 b off' := by
  have key : ∀ c : List UInt8, off ≤ c.length → getU32 c off' = readLe32 ((c.take off).drop off') := by
    intro c hc
    rw [getU32, ← List.take_append_drop off c, List.drop_append_of_le_length (by simp; omega),
      readLe32_append (by simp; omega), List.take_append_drop]
  rw [key _ (by simp [setU32]; omega), key b h, take_setU32 h le_rfl]

theorem getElem?_setU32 {b : List UInt8} {off i : Nat} (h : off + 4 ≤ b.length)
    (hi : i < off ∨ off + 4 ≤ i) (v : UInt32) : (setU32 b off v)[i]? = b[i]? := by
  have hl : (b.take off ++ le32 v).length = off + 4 := by simp; omega
  rcases hi with hi | hi
  · rw [setU32, List.append_assoc, List.getElem?_append_left (by simp; omega),
      List.getElem?_take_of_lt hi]
  · rw [setU32, List.getElem?_append_right (by omega), hl, List.getElem?_drop]
    congr 1; omega

/-- Modelled from the spec: the layout of `BG_ENVDATA` that bg_setenv.c relies on. -/
structure Layout where
  size : Nat
  revisionOff : Nat
  revision_before_crc32 : revisionOff + 4 ≤ size - 4

def sampleLayout : Layout := ⟨8, 0, by decide⟩

@[ext]
structure BgEnvdata (L : Layout) where
  bytes : List UInt8
  length_eq : bytes.length = L.size
deriving DecidableEq

namespace BgEnvdata

variable {L : Layout}

def zero (L : Layout) : BgEnvdata L := ⟨List.replicate L.size 0, List.length_replicate _ _⟩

def revision (d : BgEnvdata L) : UInt32 := getU32 d.bytes L.revisionOff

def crc32 (d : BgEnvdata L) : UInt32 := getU32 d.bytes (L.size - 4)

theorem revision_fits (d : BgEnvdata L) : L.revisionOff + 4 ≤ d.bytes.length := by
  have := L.revision_before_crc32; rw [d.length_eq]; omega

theorem crc32_fits (d : BgEnvdata L) : L.size - 4 + 4 ≤ d.bytes.length := by
  have := L.revision_before_crc32; rw [d.length_eq]; omega

def setRevision (d : BgEnvdata L) (v : UInt32) : BgEnvdata L :=
  ⟨setU32 d.bytes L.revisionOff v, by rw [setU32_length d.revision_fits, d.length_eq]⟩

def setCrc32 (d : BgEnvdata L) (v : UInt32) : BgEnvdata L :=
  ⟨setU32 d.bytes (L.size - 4) v, by rw [setU32_length d.crc32_fits, d.length_eq]⟩

@[simp] theorem revision_setRevision (d : BgEnvdata L) (v : UInt32) :
    (d.setRevision v).revision = v := getU32_setU32_self d.revision_fits v

@[simp] theorem crc32_setCrc32 (d : BgEnvdata L) (v : UInt32) : (d.setCrc32 v).crc32 = v :=
  getU32_setU32_self d.crc32_fits v

theorem getElem?_setRevision (d : BgEnvdata L) (v : UInt32) {i : Nat}
    (hi : i < L.revisionOff ∨ L.revisionOff + 4 ≤ i) : (d.setRevision v).bytes[i]? = d.bytes[i]? :=
  getElem?_setU32 d.revision_fits hi v

theorem getElem?_setCrc32 (d : BgEnvdata L) (v : UInt32) {i : Nat} (hi : i < L.size - 4) :
    (d.setCrc32 v).bytes[i]? = d.bytes[i]? :=
  getElem?_setU32 d.crc32_fits (.inl hi) v

@[simp] theorem revision_setCrc32 (d : BgEnvdata L) (v : UInt32) :
    (d.setCrc32 v).revision = d.revision :=
  getU32_setU32_of_ge (by have := d.crc32_fits; omega) L.revision_before_crc32 v

end BgEnvdata

def crc32Bit (c : UInt32) : UInt32 := if c &&& 1 = 1 then (c >>> 1) ^^^ 0xEDB88320 else c >>> 1

def crc32 (crc : UInt32) (buf : List UInt8) : UInt32 :=
  ~~~(buf.foldl (fun c b => crc32Bit^[8] (c ^^^ b.toUInt32)) (~~~crc))

variable {L : Layout}

def crcBody (d : BgEnvdata L) : List UInt8 := d.bytes.take (L.size - 4)

def CrcValid (d : BgEnvdata L) : Prop := d.crc32 = crc32 0 (crcBody d)

instance (d : BgEnvdata L) : Decidable (CrcValid d) := inferInstanceAs (Decidable (_ = _))

def freshCrc (d : BgEnvdata L) : BgEnvdata L := d.setCrc32 (crc32 0 (crcBody d))

@[simp] theorem crcBody_setCrc32 (d : BgEnvdata L) (v : UInt32) :
    crcBody (d.setCrc32 v) = crcBody d :=
  take_setU32 (by have := d.crc32_fits; omega) le_rfl v

theorem freshCrc_valid (d : BgEnvdata L) : CrcValid (freshCrc d) := by
  simp [CrcValid, freshCrc]

@[simp] theorem freshCrc_revision (d : BgEnvdata L) : (freshCrc d).revision = d.revision := by
  simp [freshCrc]

inductive Effect
  | bgenvSet (key : List Char) (type : UInt64) (data : List Char) (datalen : Nat)
  | setGlobalState (ustate : UInt16)
  | invalidUstate (data : List Char)
deriving DecidableEq, Repr

/-- Modelled from the spec: the env_api calls `journal_process_action` makes. -/
structure EnvApi (L : Layout) where
  bgenv_set : BgEnvdata L → List Char → UInt64 → List Char → Nat → BgEnvdata L
  ebg_env_setglobalstate : BgEnvdata L → UInt16 → BgEnvdata L
  bgenv_set_revision : ∀ d key type data datalen, key ≠ "revision".toList →
    (bgenv_set d key type data datalen).revision = d.revision
  setglobalstate_revision : ∀ d ustate, (ebg_env_setglobalstate d ustate).revision = d.revision

def EnvApi.inert (L : Layout) : EnvApi L :=
  ⟨fun d _ _ _ _ => d, fun d _ => d, fun _ _ _ _ _ _ => rfl, fun _ _ => rfl⟩

def EnvApi.apply (api : EnvApi L) (d : BgEnvdata L) : Effect → BgEnvdata L
  | .bgenvSet key type data datalen => api.bgenv_set d key type data datalen
  | .setGlobalState ustate => api.ebg_env_setglobalstate d ustate
  | .invalidUstate _ => d

end EfiBootGuard
