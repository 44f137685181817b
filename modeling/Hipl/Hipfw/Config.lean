import Hipl.EspProt.Common

/-!
# The firewall's ESP protection configuration

esp_prot_config.c reads esp_prot.conf into globals: the token transform, the hash length, the
number of parallel hash chains, the ring buffer of the cumulative modes, and the verification
window. `espProtTokenConfig` and `espProtVerifierConfig` are the two functions that do it and
check what they read; they run with the build's libconfig, so a missing config file means the
defaults. A setting absent from the file takes its default (`lookupOr`).

`espProtTokenConfig_eq_zero_iff` says exactly which settings are accepted: the token transform
must be one of the five the switch knows, and the hash length and hash structure length must
be positive. Nothing else is checked. In particular the number of parallel hash chains of the
PARALLEL and PARA_CUMUL modes and the ring buffer size of the cumulative modes are taken from
the file as they are (`espProtTokenConfig_parallel_hchains`), unlike the sender's counts, which
`esp_prot_sender_config` checks for positivity.
-/

set_option autoImplicit false
set_option relaxedAutoImplicit false

namespace Hipl.Hipfw

open Hipl.EspProt

/-- A parsed configuration file: the integer setting at a path, when the file has one. -/
abbrev ConfigT := String → Option Int

/-- Path of the token transform setting. -/
def pathTokenTransform : String := "token_config.token_transform"
/-- Path of the hash length setting. -/
def pathHashLength : String := "token_config.hash_length"
/-- Path of the hash structure length setting. -/
def pathHashStructureLength : String := "token_config.hash_structure_length"
/-- Path of the parallel hash chain count. -/
def pathNumParallelHchains : String := "token_config.token_modes.num_parallel_hchains"
/-- Path of the ring buffer size. -/
def pathRingBufferSize : String := "token_config.token_modes.ring_buffer_size"
/-- Path of the number of linear elements. -/
def pathNumLinearElements : String := "token_config.token_modes.num_linear_elements"
/-- Path of the number of random elements. -/
def pathNumRandomElements : String := "token_config.token_modes.num_random_elements"
/-- Path of the verification window. -/
def pathWindowSize : String := "verifier.window_size"

/-- `wrap_config_lookup_int` followed by the caller's default: the setting if the file has it. -/
def lookupOr (cfg : ConfigT) (name : String) (default : Int) : Int :=
  (cfg name).getD default

/-- The globals the token configuration sets. -/
structure EspProtTokenSettings where
  tokenTransform : Int
  hashLengthG : Int
  hashStructureLength : Int
  numParallelHchains : Int
  ringBufferSize : Int
  numLinearElements : Int
  numRandomElements : Int
  deriving DecidableEq, Repr

/-- The mode-dependent part of the settings: chain count, ring buffer size, linear and random
elements. -/
def tokenModes (g : EspProtTokenSettings) (hchains ring linear random : Int) :
    EspProtTokenSettings :=
  { g with numParallelHchains := hchains, ringBufferSize := ring,
           numLinearElements := linear, numRandomElements := random }

/-- The sanity checks at the end of `esp_prot_token_config`. -/
def tokenSanity (g : EspProtTokenSettings) : Int × EspProtTokenSettings :=
  if g.hashLengthG ≤ 0 then (-1, g)
  else if g.hashStructureLength ≤ 0 then (-1, g)
  else (0, g)

/-- `esp_prot_token_config`: the return value and the globals afterwards. -/
def espProtTokenConfig (cfg : Option ConfigT) (g : EspProtTokenSettings) :
    Int × EspProtTokenSettings :=
  match cfg with
  | none =>
    tokenSanity { tokenTransform := (espProtTfmPlain.toNat : Int), hashLengthG := 20,
                  hashStructureLength := 16, numParallelHchains := 1, ringBufferSize := 0,
                  numLinearElements := 0, numRandomElements := 0 }
  | some c =>
    let g := { g with
      tokenTransform := lookupOr c pathTokenTransform (espProtTfmUnused.toNat : Int),
      hashLengthG := lookupOr c pathHashLength 20,
      hashStructureLength := lookupOr c pathHashStructureLength 16 }
    if g.tokenTransform = (espProtTfmPlain.toNat : Int) then
      tokenSanity (tokenModes g 1 0 0 0)
    else if g.tokenTransform = (espProtTfmParallel.toNat : Int) then
      tokenSanity (tokenModes g (lookupOr c pathNumParallelHchains 2) 0 0 0)
    else if g.tokenTransform = (espProtTfmCumulative.toNat : Int) then
      tokenSanity (tokenModes g 1 (lookupOr c pathRingBufferSize 64)
        (lookupOr c pathNumLinearElements 1) (lookupOr c pathNumRandomElements 0))
    else if g.tokenTransform = (espProtTfmParaCumul.toNat : Int) then
      tokenSanity (tokenModes g (lookupOr c pathNumParallelHchains 1)
        (lookupOr c pathRingBufferSize 64) (lookupOr c pathNumLinearElements 1)
        (lookupOr c pathNumRandomElements 0))
    else if g.tokenTransform = (espProtTfmTree.toNat : Int) then
      tokenSanity (tokenModes g 1 0 0 0)
    else (-1, g)

/-- `esp_prot_verifier_config`: the return value and the window size afterwards. -/
def espProtVerifierConfig (cfg : Option ConfigT) : Int × Int :=
  let w := match cfg with
    | none => 64
    | some c => lookupOr c pathWindowSize 64
  if w ≤ 0 then (-1, w) else (0, w)

/-! ### What the checks accept -/

theorem tokenSanity_snd (g : EspProtTokenSettings) : (tokenSanity g).2 = g := by
  unfold tokenSanity; split_ifs <;> rfl

theorem tokenSanity_fst_eq_zero_iff (g : EspProtTokenSettings) :
    (tokenSanity g).1 = 0 ↔ 0 < g.hashLengthG ∧ 0 < g.hashStructureLength := by
  unfold tokenSanity; split_ifs <;> simp <;> omega

/-- The token configuration is accepted exactly when the transform is one of the five the
switch knows and both lengths are positive; the transform and the lengths are then the ones
the file gives, or their defaults. -/
theorem espProtTokenConfig_eq_zero_iff (c : ConfigT) (g : EspProtTokenSettings) :
    (espProtTokenConfig (some c) g).1 = 0 ↔
      lookupOr c pathTokenTransform 0 ∈ [1, 2, 3, 4, 5] ∧
        0 < lookupOr c pathHashLength 20 ∧ 0 < lookupOr c pathHashStructureLength 16 := by
  simp only [espProtTokenConfig, espProtTfmPlain, espProtTfmParallel, espProtTfmCumulative,
    espProtTfmParaCumul, espProtTfmTree, espProtTfmUnused]
  split_ifs with h1 h2 h3 h4 h5 <;>
    simp_all [tokenSanity_fst_eq_zero_iff, tokenModes]

/-- In the PARALLEL mode the chain count is whatever the file says, checked against nothing:
any count at all, zero and negative ones included, ends in an accepted configuration. -/
theorem espProtTokenConfig_parallel_hchains (c : ConfigT) (g : EspProtTokenSettings)
    (htfm : lookupOr c pathTokenTransform 0 = 2) (hlen : 0 < lookupOr c pathHashLength 20)
    (hslen : 0 < lookupOr c pathHashStructureLength 16) :
    espProtTokenConfig (some c) g =
      (0, { tokenTransform := 2, hashLengthG := lookupOr c pathHashLength 20,
            hashStructureLength := lookupOr c pathHashStructureLength 16,
            numParallelHchains := lookupOr c pathNumParallelHchains 2, ringBufferSize := 0,
            numLinearElements := 0, numRandomElements := 0 }) := by
  simp [espProtTokenConfig, espProtTfmPlain, espProtTfmParallel, espProtTfmUnused, htfm,
    tokenSanity, tokenModes, Int.not_le.mpr hlen, Int.not_le.mpr hslen]

end Hipl.Hipfw
