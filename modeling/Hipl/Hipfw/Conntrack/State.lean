import Hipl.Wire.Params
import Hipl.EspProt.Common

/-!
# The firewall's connection state for ESP protection

The state hipfw keeps per HIP connection (hipfw_defines.h): a connection has an original and a
reply `Tuple`, each with the list of `EspTuple`s of its direction, and an `EspTuple` carries the
hash chain state of one ESP flow: the active anchor of each parallel chain, the first active
anchor it was set up with (the key anchor updates are matched by), the next anchor announced by
an update, the roots of the HHL link trees, the cache of anchor updates that wait for their
acknowledgement, and the ring buffer of cumulative authentication.

All arrays keep their declared bounds from `EspProtLimits`; an `EspTuple` fresh from `calloc` is
`EspTuple.empty`. The firewall globals the tracking reads are `FwGlobals`, and
`esp_prot_conntrack_resolve_transform` with the field read that always follows it is
`resolveHashLength`: it dereferences NULL for UNUSED and indexes the transform table with the
received byte, unchecked.

The functions that take a `const struct tuple *` and reach the other direction through
`tuple->connection` take the connection and a direction here.
-/

set_option autoImplicit false
set_option relaxedAutoImplicit false

namespace Hipl.Hipfw

open Hipl.Wire Hipl.EspProt

/-- A cached hash of an earlier packet (`struct esp_cumulative_item`). -/
structure EspCumulativeItem where
  seq : Nat
  packetHash : Bytes
  deriving DecidableEq, Repr

/-- A cached anchor update (`struct esp_anchor_item`). Pointer arrays hold `none` for NULL. -/
structure EspAnchorItem where
  seq : Nat
  transform : UInt8
  hashItemLength : Nat
  activeAnchors : List (Option Bytes)
  nextAnchors : List (Option Bytes)
  rootLength : Nat
  roots : List (Option Bytes)
  deriving DecidableEq, Repr

/-- The ESP state of one direction of a connection (`struct esp_tuple`), the members of the ESP
protection extension together with the SPI and sequence number they are looked up by. -/
structure EspTuple where
  spi : Nat
  seqNo : Nat
  espProtTfm : UInt8
  hashItemLength : Nat
  hashTreeDepth : Nat
  numHchains : Int
  activeAnchors : List Bytes
  firstActiveAnchors : List Bytes
  nextAnchors : List Bytes
  activeRootLength : Nat
  activeRoots : List (Option Bytes)
  nextRootLength : List Nat
  nextRoots : List (Option Bytes)
  anchorCache : List EspAnchorItem
  hashBuffer : List EspCumulativeItem
  deriving DecidableEq, Repr

/-- An `EspTuple` as `calloc` returns it. -/
def EspTuple.empty (lim : EspProtLimits) : EspTuple where
  spi := 0
  seqNo := 0
  espProtTfm := 0
  hashItemLength := 0
  hashTreeDepth := 0
  numHchains := 0
  activeAnchors := List.replicate lim.maxNumParallelHchains (zeroSlot lim)
  firstActiveAnchors := List.replicate lim.maxNumParallelHchains (zeroSlot lim)
  nextAnchors := List.replicate lim.maxNumParallelHchains (zeroSlot lim)
  activeRootLength := 0
  activeRoots := List.replicate lim.maxNumParallelHchains none
  nextRootLength := List.replicate lim.maxNumParallelHchains 0
  nextRoots := List.replicate lim.maxNumParallelHchains none
  anchorCache := []
  hashBuffer := List.replicate lim.maxRingBufferSize ⟨0, []⟩

/-- The state of one direction of a connection (`struct tuple`), as far as ESP protection
reads it. -/
structure Tuple where
  espTuples : List EspTuple
  lupdateSeq : Nat
  deriving DecidableEq, Repr

/-- The two directions of a connection. -/
inductive Direction
  | original
  | reply
  deriving DecidableEq, Repr

/-- The other direction. -/
def Direction.other : Direction → Direction
  | .original => .reply
  | .reply => .original

/-- A tracked HIP connection (`struct connection`), as far as ESP protection reads it. -/
structure Connection where
  original : Tuple
  reply : Tuple
  numEspProtTfms : Int
  espProtTfms : List UInt8
  deriving DecidableEq, Repr

/-- The tuple of a direction. -/
def Connection.tuple (conn : Connection) : Direction → Tuple
  | .original => conn.original
  | .reply => conn.reply

/-- Replacing the tuple of a direction. -/
def Connection.setTuple (conn : Connection) : Direction → Tuple → Connection
  | .original, t => { conn with original := t }
  | .reply, t => { conn with reply := t }

/-- One entry of the transform table `esp_prot_conntrack_tfms`; the hash function itself is a
parameter of the functions that hash. -/
structure EspProtConntrackTfm where
  hashLength : Nat
  isUsed : Bool
  deriving DecidableEq, Repr

/-- The firewall globals the ESP protection tracking reads. -/
structure FwGlobals where
  hipEspProtection : Bool
  numParallelHchains : Int
  windowSize : Int
  ringBufferSize : Int
  numLinearElements : Int
  numRandomElements : Int
  conntrackTfms : List EspProtConntrackTfm
  deriving DecidableEq, Repr

/-- `esp_prot_conntrack_resolve_transform(t)->hash_length`: NULL for UNUSED, and otherwise the
table entry of the received transform byte, looked up without a bound. -/
def resolveHashLength (fw : FwGlobals) (transform : UInt8) : Except Fault Nat :=
  if transform > espProtTfmUnused then
    (·.hashLength) <$> arrayGet fw.conntrackTfms transform.toNat
  else .error .nullDeref

@[simp] theorem Connection.tuple_setTuple_self (conn : Connection) (d : Direction) (t : Tuple) :
    (conn.setTuple d t).tuple d = t := by
  cases d <;> rfl

theorem Connection.tuple_setTuple_other (conn : Connection) (d : Direction) (t : Tuple) :
    (conn.setTuple d t).tuple d.other = conn.tuple d.other := by
  cases d <;> rfl

@[simp] theorem Connection.setTuple_tuple (conn : Connection) (d : Direction) :
    conn.setTuple d (conn.tuple d) = conn := by
  cases d <;> rfl

@[simp] theorem Direction.other_other (d : Direction) : d.other.other = d := by
  cases d <;> rfl

theorem Direction.other_ne (d : Direction) : d.other ≠ d := by
  cases d <;> decide

end Hipl.Hipfw
