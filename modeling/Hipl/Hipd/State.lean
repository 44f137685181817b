import Hipl.EspProt.Common

/-!
# The daemon's ESP protection state

What hipd keeps for the ESP protection extension: the globals of esp_prot_hipd_msg.c that the
firewall sets through `esp_prot_set_preferred_transforms` (the preferred transforms and the
number of parallel hash chains), the ESP protection part of a host association (state.h), and
the anchor database the local anchors are taken from.

The anchor database lives in esp_prot_anchordb.c, which is not among the sources. `AnchorDb`
keeps, per transform, the anchors still to hand out, their length and the number of elements
per hash structure, and carries as a field that every stored anchor has the database's anchor
length. `AnchorDb.getAnchor` hands out the next anchor and removes it.
-/

set_option autoImplicit false
set_option relaxedAutoImplicit false

namespace Hipl.Hipd

open Hipl.Wire Hipl.EspProt

/-- The globals of esp_prot_hipd_msg.c: whether userspace IPsec is on, the preferred transforms
(an array of `MAX_NUM_TRANSFORMS` entries, of which the first `esp_prot_num_transforms` count)
and the number of parallel hash chains. -/
structure HipdGlobals where
  hipUseUserspaceIpsec : Bool
  espProtNumTransforms : Int
  espProtTransforms : List UInt8
  espProtNumParallelHchains : Int
  deriving DecidableEq, Repr

/-- The ESP protection part of a host association (`struct hip_hadb_state`), with the SPI, the
KEYMAT index and the HIP version the anchor update response reads. The anchor arrays are
`MAX_NUM_PARALLEL_HCHAINS` rows of `MAX_HASH_LENGTH` bytes; `esp_root` holds the roots of the
local link trees, of which `esp_root_length` bytes are sent. -/
structure HipHadbState where
  espProtTransform : UInt8
  espProtParam : Bool
  espLocalAnchors : List Bytes
  espLocalUpdateAnchors : List Bytes
  espPeerAnchors : List Bytes
  espPeerUpdateAnchors : List Bytes
  espLocalActiveLength : Nat
  espLocalUpdateLength : Nat
  espPeerActiveLength : Nat
  espPeerUpdateLength : Nat
  espRootLength : UInt8
  espRoot : List Bytes
  hashItemLength : Nat
  currentKeymatIndex : UInt16
  spiInboundCurrent : UInt32
  hipVersion : UInt8
  deriving DecidableEq, Repr

/-- Modelled from the spec: the anchor database of esp_prot_anchordb.c, which is not among the
sources. Per transform, the anchors still to hand out in order, the anchor length and the
number of elements per hash structure; every stored anchor has the anchor length. -/
structure AnchorDb where
  anchors : UInt8 → List Bytes
  anchorLength : UInt8 → Nat
  hashItemLength : UInt8 → Nat
  anchors_length : ∀ t, ∀ a ∈ anchors t, a.length = anchorLength t

/-- Modelled from the spec: `anchor_db_get_num_anchors`. -/
def AnchorDb.getNumAnchors (db : AnchorDb) (t : UInt8) : Nat :=
  (db.anchors t).length

theorem AnchorDb.anchors_length_update (db : AnchorDb) (t : UInt8) (rest : List Bytes)
    (h : ∀ a ∈ rest, a ∈ db.anchors t) :
    ∀ t', ∀ a ∈ Function.update db.anchors t rest t', a.length = db.anchorLength t' := by
  intro t' a ha
  by_cases ht : t' = t
  · subst ht
    rw [Function.update_same] at ha
    exact db.anchors_length t' a (h a ha)
  · rw [Function.update_noteq ht] at ha
    exact db.anchors_length t' a ha

/-- Modelled from the spec: `anchor_db_get_anchor`, the next anchor of the transform, removed
from the database, or NULL when none is left. -/
def AnchorDb.getAnchor (db : AnchorDb) (t : UInt8) : Option Bytes × AnchorDb :=
  match h : db.anchors t with
  | [] => (none, db)
  | a :: rest =>
    (some a, { db with
      anchors := Function.update db.anchors t rest
      anchors_length := db.anchors_length_update t rest
        (fun _ hb ↦ h ▸ List.mem_cons_of_mem a hb) })

end Hipl.Hipd
