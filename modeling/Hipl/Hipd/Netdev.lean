import Mathlib
import Hipl.Hipd.Association

/-!
# The cache of local addresses

netdev.c keeps the addresses of the local host in a hash table, `addresses`, and their number in
`address_count`. The table is keyed by `netdev_hash` and `netdev_match`, both over the whole
`struct sockaddr_storage` an entry stores: its address and also the port, flow information and
scope id of a `struct sockaddr_in6`. `hip_exists_address_in_list` looks an address up by
interface index, family and address. `hip_add_address_to_list` adds an address that is not found
and passes `filter_address`, in IPv6 form; `delete_address_from_list` removes every entry of an
address, on any interface; `hip_delete_all_addresses` empties the table; `update_address_list`
adds an absent address or deletes a present one; and `hip_netdev_event` applies the address
messages of a netlink batch.

Over every run of these operations the table keeps one entry per stored socket address and
`address_count` never falls below the number of entries (`runAddressOps_wellFormed`). It can
exceed it: the look-up compares the interface index and the table does not, so an address added
again on another interface with the same stored bytes takes the place of its entry through
`list_add` while the count still goes up by one (`hipAddAddressToList_replaces`).

`hip_netdev_event` declares `tb[]` and the socket address `ss_addr` once for the whole batch, and
leaves `ss_addr` uninitialised: each address message writes the family and copies its address
attribute to the address's offset, and the port, the scope id and, for an IPv6 address, the flow
information are whatever the stack or an earlier message of the batch left there. An IPv6 entry
stores them, so one IPv6 address can be cached twice on two interfaces when an IPv4 address of
the batch came between them (`hipNetdevEvent_addressTwice`). The handler stops at the first add
of a present address or delete of an absent one, returning 0 (`netdevEventLoop_redundant`), and
returns a value of its own, without a fault, on every batch with no `XFRM_MSG_ACQUIRE` message
whose address attributes fit `ss_addr` (`hipNetdevEvent_ok`).

Scope. A netlink message comes parsed into its type, interface index, family and attributes. At
an `XFRM_MSG_ACQUIRE` message the handler returns what `netdev_handle_acquire` returns; that
function looks the HITs up in the association database and triggers a base exchange through code
outside the sources, so the model ends the batch there and names the message. netdev.c's own part
of it reads the cache and writes none of it. The allocation of an entry is taken to succeed.
-/

set_option autoImplicit false
set_option relaxedAutoImplicit false

namespace Hipl.Hipd

open Hipl.Wire

/-! ### Socket addresses -/

/-- `AF_INET`. -/
def afInet : Nat := 2
/-- `AF_INET6`. -/
def afInet6 : Nat := 10

/-- A socket address as the functions of the cache read it: its family; the address
`hip_cast_sa_addr` points to, a big-endian number of 4 bytes for `AF_INET` and of 16 for
`AF_INET6`; and the bytes at the port, the flow information and the scope id of a
`struct sockaddr_in6` (bytes 2 to 3, 4 to 7 and 24 to 27), which `hip_add_address_to_list` copies
with an IPv6 address. No function here reads the last three of an IPv4 address. -/
structure SockAddr where
  family : Nat
  addr : Nat
  port : Nat
  flowinfo : Nat
  scopeId : Nat
  deriving DecidableEq, Repr

/-- `IPV4_TO_IPV6_MAP`: `::ffff:a.b.c.d`. -/
def ipv4ToIpv6Map (addr : Nat) : Nat :=
  0xffff * 2 ^ 32 + addr

/-- The IPv6 form of an IPv4 address is mapped, and its last four bytes are the address. -/
theorem ipv4ToIpv6Map_mapped {addr : Nat} (h : addr < 2 ^ 32) :
    in6IsAddrV4Mapped (ipv4ToIpv6Map addr) = true ∧ ipv4ToIpv6Map addr % 2 ^ 32 = addr := by
  unfold in6IsAddrV4Mapped ipv4ToIpv6Map
  exact ⟨decide_eq_true (show (0xffff * 2 ^ 32 + addr) / 2 ^ 32 = 0xffff by omega), by omega⟩

/-- Modelled from the spec: `hip_cast_sa_addr(sa)` (misc.c, not among the sources) points at the
address of an IPv4 or IPv6 socket address and is NULL for another family; here, the four bytes
it points to read as a `struct in_addr`, the first four of an IPv6 address. -/
def hipCastSaAddrIn (sa : SockAddr) : Option Nat :=
  if sa.family = afInet then some sa.addr
  else if sa.family = afInet6 then some (sa.addr / 2 ^ 96)
  else none

/-! ### The address filter -/

/-- `IN6_IS_ADDR_UNSPECIFIED`. -/
def in6IsAddrUnspecified (addr : Nat) : Bool := addr = 0
/-- `IN6_IS_ADDR_LOOPBACK`. -/
def in6IsAddrLoopback (addr : Nat) : Bool := addr = 1
/-- `IN6_IS_ADDR_LINKLOCAL`: `fe80::/10`. -/
def in6IsAddrLinklocal (addr : Nat) : Bool := addr / 2 ^ 118 = 0x3fa
/-- `IN6_IS_ADDR_V4COMPAT`: `::a.b.c.d`, the last word above 1. -/
def in6IsAddrV4Compat (addr : Nat) : Bool := addr / 2 ^ 32 = 0 ∧ 1 < addr

/-- Modelled from the spec: `ipv6_addr_is_hit` (not among the sources), an address under the
ORCHID prefix `2001:10::/28` of HITs (§3). -/
def ipv6AddrIsHit (addr : Nat) : Bool := addr / 2 ^ 100 = 0x2001001

/-- `IN_MULTICAST` of a 32-bit value: `224.0.0.0/4`. -/
def inMulticast (x : Nat) : Bool := x % 2 ^ 32 / 2 ^ 28 = 0xe

/-- `ntohs(a_in)` of an IPv4 address held in network order, on a little-endian host: the
conversion to 16 bits keeps the first two bytes of the address, which `ntohs` turns into the
number they begin. -/
def ntohsOfInAddr (addr : Nat) : Nat := addr / 2 ^ 16

/-- Modelled from the spec: `IS_LSI32` (not among the sources), an address of the LSI range
`1.0.0.0/8` (§3). -/
def isLsi32 (addr : Nat) : Bool := addr / 2 ^ 24 = 1

/-- Modelled from the spec: `IS_IPV4_LOOPBACK` (not among the sources), the loopback network
`127.0.0.0/8`. -/
def isIpv4Loopback (addr : Nat) : Bool := addr / 2 ^ 24 = 127

/-- Modelled from the spec: `IS_LSI(sa)` (not among the sources), an LSI for an IPv4 socket
address and a HIT for another. -/
def isLsi (sa : SockAddr) : Bool :=
  if sa.family = afInet then isLsi32 sa.addr else ipv6AddrIsHit sa.addr

/-- `filter_address(addr)`: whether the address may be one of the host's (`FA_ADD`), under the
family `suppress_af_family` suppresses. -/
def filterAddress (suppressAfFamily : Nat) (sa : SockAddr) : Bool :=
  if sa.family = afInet6 then
    !(suppressAfFamily == afInet || in6IsAddrUnspecified sa.addr || in6IsAddrLoopback sa.addr ||
      in6IsAddrMulticast sa.addr || in6IsAddrLinklocal sa.addr || in6IsAddrV4Mapped sa.addr ||
      in6IsAddrV4Compat sa.addr || ipv6AddrIsHit sa.addr)
  else if sa.family = afInet then
    !(suppressAfFamily == afInet6 || sa.addr == 0 || sa.addr == inaddrBroadcast ||
      inMulticast (ntohsOfInAddr sa.addr) || isLsi32 sa.addr || isIpv4Loopback sa.addr || isLsi sa)
  else false

/-! ### The table -/

/-- An entry of the address cache (`struct netdev_address`): the socket address it stores, IPv6
in every entry and zero past the 28 bytes of a `struct sockaddr_in6`, as its address, port, flow
information and scope id; the interface index; and the flags. -/
structure NetdevAddress where
  addr : Nat
  port : Nat
  flowinfo : Nat
  scopeId : Nat
  ifIndex : Int
  flags : Int
  deriving DecidableEq, Repr

/-- What `netdev_hash` hashes and `netdev_match` compares of an entry, its whole
`struct sockaddr_storage`: the four fields that can tell two entries apart, since the family is
`AF_INET6` and the other bytes are zero in each. -/
def NetdevAddress.key (n : NetdevAddress) : Nat × Nat × Nat × Nat :=
  (n.addr, n.port, n.flowinfo, n.scopeId)

/-- The state netdev.c keeps of the local addresses: the table `addresses`, `address_count`, and
`address_change_time_counter`, which an address event sets. -/
structure NetdevState where
  addresses : List NetdevAddress
  addressCount : Int
  addressChangeTimeCounter : Int
  deriving DecidableEq, Repr

/-- Whether an entry makes `hip_exists_address_in_list(addr, ifindex)` return nonzero. An entry
holding a mapped IPv4 address is compared on its last four bytes with the four bytes at
`hip_cast_sa_addr(addr)`, and is the error -1 when that is NULL; another entry matches an IPv6
address only. Both need the interface index, or `ifindex` -1. -/
def existsEntry (addr : SockAddr) (ifindex : Int) (n : NetdevAddress) : Bool :=
  let ifMatch := n.ifIndex == ifindex || ifindex == -1
  if in6IsAddrV4Mapped n.addr then
    match hipCastSaAddrIn addr with
    | none => true
    | some a => ifMatch && n.addr % 2 ^ 32 == a
  else ifMatch && addr.family == afInet6 && n.addr == addr.addr

/-- `hip_exists_address_in_list(addr, ifindex)`, as its callers read it: nonzero. The code
returns 1 for a match and -1 for the error, at the first entry of the table that gives one,
so whether it is nonzero does not depend on the order of the table. -/
def hipExistsAddressInList (addresses : List NetdevAddress) (addr : SockAddr) (ifindex : Int) :
    Bool :=
  addresses.any (existsEntry addr ifindex)

/-- Modelled from the spec: `list_add(n, addresses)` (list.h, not among the sources), OpenSSL's
`lh_insert` into the table of `netdev_hash` and `netdev_match`: the entry takes the place of the
one with the same stored socket address, and is added when there is none. -/
def listAdd (addresses : List NetdevAddress) (n : NetdevAddress) : List NetdevAddress :=
  if addresses.any (·.key = n.key) then addresses.map fun e ↦ if e.key = n.key then n else e
  else addresses ++ [n]

/-- The IPv6 form an entry stores: an IPv4 address mapped, an IPv6 address as it is. -/
def storedAddr (sa : SockAddr) : Nat :=
  if sa.family = afInet then ipv4ToIpv6Map sa.addr else sa.addr

/-- The entry `hip_add_address_to_list(addr, ifindex, flags)` allocates: for an IPv4 address a
zeroed `struct sockaddr_in6` holding its mapped form, and for another the
`hip_sockaddr_len(addr)` bytes of `addr`, those of a `struct sockaddr_in6`. -/
def storedEntry (addr : SockAddr) (ifindex flags : Int) : NetdevAddress :=
  if addr.family = afInet then ⟨ipv4ToIpv6Map addr.addr, 0, 0, 0, ifindex, flags⟩
  else ⟨addr.addr, addr.port, addr.flowinfo, addr.scopeId, ifindex, flags⟩

@[simp] theorem storedEntry_inet (a port flowinfo scopeId : Nat) (ifindex flags : Int) :
    storedEntry ⟨afInet, a, port, flowinfo, scopeId⟩ ifindex flags =
      ⟨ipv4ToIpv6Map a, 0, 0, 0, ifindex, flags⟩ := if_pos rfl

@[simp] theorem storedEntry_inet6 (a port flowinfo scopeId : Nat) (ifindex flags : Int) :
    storedEntry ⟨afInet6, a, port, flowinfo, scopeId⟩ ifindex flags =
      ⟨a, port, flowinfo, scopeId, ifindex, flags⟩ := if_neg (show afInet6 ≠ afInet by decide)

/-- `hip_add_address_to_list(addr, ifindex, flags)`. -/
def hipAddAddressToList (suppressAfFamily : Nat) (addr : SockAddr) (ifindex flags : Int)
    (st : NetdevState) : NetdevState :=
  if hipExistsAddressInList st.addresses addr ifindex then st
  else if !filterAddress suppressAfFamily addr then st
  else
    { st with
      addresses := listAdd st.addresses (storedEntry addr ifindex flags)
      addressCount := st.addressCount + 1 }

/-- The loop of `list_for_each_safe` with `list_del`: every entry the test picks is removed,
and `address_count` goes down by one for each. -/
def deleteWhere (p : NetdevAddress → Bool) (st : NetdevState) : NetdevState :=
  { st with
    addresses := st.addresses.filter fun n ↦ !p n
    addressCount := st.addressCount - st.addresses.countP p }

/-- `delete_address_from_list(addr, ifindex)`: with no address, every entry of the interface;
with an address, every entry of its IPv6 form on any interface, compared on the address alone.
For a family other than IPv4 and IPv6, the IPv6 form `addr_sin6` is never written and the first
comparison reads it. -/
def deleteAddressFromList (addr : Option SockAddr) (ifindex : Int) (st : NetdevState) :
    Except Fault NetdevState :=
  match addr with
  | none => pure (deleteWhere (·.ifIndex == ifindex) st)
  | some sa =>
    if sa.family = afInet ∨ sa.family = afInet6 then
      pure (deleteWhere (·.addr == storedAddr sa) st)
    else if st.addresses = [] then pure st
    else throw .uninitRead

/-- `hip_delete_all_addresses()`: every entry deleted and counted off when `address_count` is
not zero; `hip_ht_uninit` then frees the table, which is left empty. -/
def hipDeleteAllAddresses (st : NetdevState) : NetdevState :=
  { st with
    addresses := []
    addressCount := if st.addressCount ≠ 0 then st.addressCount - st.addresses.length
      else st.addressCount }

/-- `update_address_list(addr, is_add, interface_index)`. -/
def updateAddressList (suppressAfFamily : Nat) (addr : SockAddr) (isAdd : Bool) (ifindex : Int)
    (st : NetdevState) : Except Fault NetdevState :=
  let exists_ := hipExistsAddressInList st.addresses addr ifindex
  if (isAdd && exists_) || (!isAdd && !exists_) then pure st
  else if isAdd then pure (hipAddAddressToList suppressAfFamily addr ifindex 0 st)
  else deleteAddressFromList (some addr) ifindex st

/-! ### Netlink batches -/

/-- `RTM_NEWADDR`. -/
def rtmNewaddr : Nat := 20
/-- `RTM_DELADDR`. -/
def rtmDeladdr : Nat := 21
/-- `XFRMGRP_ACQUIRE`. -/
def xfrmgrpAcquire : Nat := 1
/-- `XFRMGRP_EXPIRE`. -/
def xfrmgrpExpire : Nat := 2
/-- `XFRM_MSG_GETSA`. -/
def xfrmMsgGetsa : Nat := 18
/-- `XFRM_MSG_ALLOCSPI`. -/
def xfrmMsgAllocspi : Nat := 22
/-- `XFRM_MSG_ACQUIRE`. -/
def xfrmMsgAcquire : Nat := 23
/-- `XFRM_MSG_EXPIRE`. -/
def xfrmMsgExpire : Nat := 24
/-- `XFRM_MSG_UPDPOLICY`. -/
def xfrmMsgUpdpolicy : Nat := 25
/-- `XFRM_MSG_UPDSA`. -/
def xfrmMsgUpdsa : Nat := 26
/-- `XFRM_MSG_POLEXPIRE`. -/
def xfrmMsgPolexpire : Nat := 27
/-- `IFA_ADDRESS`. -/
def ifaAddress : Nat := 1
/-- `IFA_LOCAL`. -/
def ifaLocal : Nat := 2

/-- A route attribute (`struct rtattr`): its type and its payload. -/
structure RtAttr where
  rtaType : Nat
  payload : Bytes
  deriving DecidableEq, Repr

/-- A netlink message: its type, the interface index (`ifi_index` and `ifa_index` are the same
four bytes), the address family and the attributes. -/
structure NlMsg where
  nlmsgType : Nat
  ifIndex : Int
  family : Nat
  attrs : List RtAttr
  deriving DecidableEq, Repr

/-- The two entries of `tb[]` the handler reads, `tb[IFA_ADDRESS]` and `tb[IFA_LOCAL]`, as the
payload of the attribute each points to. -/
structure IfaTable where
  address : Option Bytes
  ifaLocal : Option Bytes
  deriving DecidableEq, Repr

/-- What `hip_netdev_event` reads besides the cache: `suppress_af_family`, the interface white
list, `hip_wait_addr_changes_to_stabilize` and `HIP_ADDRESS_CHANGE_WAIT_INTERVAL`. -/
structure NetdevEnv where
  suppressAfFamily : Nat
  whiteList : List Int
  waitAddrChangesToStabilize : Bool
  addressChangeWaitInterval : Int

/-- `sizeof(struct sockaddr_storage)`. -/
def sizeofSockaddrStorage : Nat := 128

/-- A `struct sockaddr_storage`, as its bytes. -/
structure SockaddrStorage where
  bytes : Bytes
  length_bytes : bytes.length = sizeofSockaddrStorage

/-- The offset of the address `hip_cast_sa_addr` points to: `sin_addr` of a `struct sockaddr_in`
and `sin6_addr` of a `struct sockaddr_in6`. -/
def hipCastSaAddrOffset (family : Nat) : Nat :=
  if family = afInet then 4 else 8

/-- The `len` bytes at `off` of a socket address, read as a big-endian number; of the fields read
so, only whether two are equal matters. -/
def storageNat (ss : Bytes) (off len : Nat) : Nat :=
  beNat ((ss.drop off).take len)

/-- The socket address `addr` points to in `hip_netdev_event` once `addr->sa_family` is
`family`: the 4 or 16 bytes at `hip_cast_sa_addr(addr)`, and the bytes at the port, flow
information and scope id of a `struct sockaddr_in6`. -/
def sockAddrOf (ss : Bytes) (family : Nat) : SockAddr :=
  ⟨family, storageNat ss (hipCastSaAddrOffset family) (if family = afInet then 4 else 16),
    storageNat ss 2 2, storageNat ss 4 4, storageNat ss 24 4⟩

/-- The attribute loop: each attribute of type at most `IFA_MAX` is entered in `tb[]` over what
an earlier attribute, of this message or of an earlier one, left there. -/
def parseRtattr (tb : IfaTable) (attrs : List RtAttr) : IfaTable :=
  attrs.foldl (fun tb rta ↦
    if rta.rtaType = ifaAddress then { tb with address := some rta.payload }
    else if rta.rtaType = ifaLocal then { tb with ifaLocal := some rta.payload } else tb) tb

/-- The fix for IPv6: each of `tb[IFA_LOCAL]` and `tb[IFA_ADDRESS]` falls back on the other. -/
def fixIfaTable (tb : IfaTable) : IfaTable :=
  let tb := { tb with ifaLocal := tb.ifaLocal <|> tb.address }
  { tb with address := tb.address <|> tb.ifaLocal }

/-- What `hip_netdev_event` returns: a value of its own, or, at an `XFRM_MSG_ACQUIRE` message,
what `netdev_handle_acquire` returns for that message. -/
inductive NetdevReturn
  | ret (r : Int)
  | acquire (msg : NlMsg)
  deriving DecidableEq, Repr

/-- The return of `hip_netdev_event` at an XFRM message, `none` for a message it goes past. -/
def netdevXfrmReturn (msg : NlMsg) : Option NetdevReturn :=
  if msg.nlmsgType = xfrmgrpExpire then some (.ret 0)
  else if msg.nlmsgType = xfrmMsgAcquire then some (.acquire msg)
  else if msg.nlmsgType ∈ [xfrmgrpAcquire, xfrmMsgGetsa, xfrmMsgAllocspi, xfrmMsgExpire,
      xfrmMsgUpdpolicy, xfrmMsgUpdsa, xfrmMsgPolexpire] then some (.ret (-1))
  else none

/-- `address_change_time_counter` after an address change: the wait interval when address
changes are left to settle, and 1 otherwise. -/
def addressChangeTime (env : NetdevEnv) : Int :=
  if env.waitAddrChangesToStabilize then env.addressChangeWaitInterval else 1

/-- What one message of a batch does: the loop goes on with the cache, `tb[]` and the bytes of
`ss_addr`, or the handler returns. -/
inductive NetdevStep
  | next (st : NetdevState) (tb : IfaTable) (ss : Bytes)
  | stop (ret : NetdevReturn) (st : NetdevState)

/-- The `RTM_NEWADDR` and `RTM_DELADDR` case: skip an interface off the white list or a family
other than IPv4 and IPv6, parse the attributes, skip a message with no address, copy the
address into `ss_addr`, stop at a redundant add or delete, and apply the others. -/
def netdevAddressEvent (env : NetdevEnv) (msg : NlMsg) (st : NetdevState) (tb : IfaTable)
    (ss : Bytes) : Except Fault NetdevStep :=
  if env.whiteList ≠ [] ∧ msg.ifIndex ∉ env.whiteList then pure (.next st tb ss)
  else if msg.family ≠ afInet ∧ msg.family ≠ afInet6 then pure (.next st tb ss)
  else
    let isAdd := msg.nlmsgType == rtmNewaddr
    let tb := fixIfaTable (parseRtattr tb msg.attrs)
    match tb.ifaLocal with
    | none => pure (.next st tb ss)
    | some a => do
      let ss ← bufWrite ss (hipCastSaAddrOffset msg.family) a
      let addr := sockAddrOf ss msg.family
      let exists_ := hipExistsAddressInList st.addresses addr msg.ifIndex
      if (exists_ && isAdd) || (!exists_ && !isAdd) then pure (.stop (.ret 0) st)
      else
        let st ← updateAddressList env.suppressAfFamily addr isAdd msg.ifIndex st
        pure (.next { st with addressChangeTimeCounter := addressChangeTime env } tb ss)

/-- One turn of the loop of `hip_netdev_event`. -/
def netdevEventStep (env : NetdevEnv) (msg : NlMsg) (st : NetdevState) (tb : IfaTable)
    (ss : Bytes) : Except Fault NetdevStep :=
  if msg.nlmsgType = rtmNewaddr ∨ msg.nlmsgType = rtmDeladdr then
    netdevAddressEvent env msg st tb ss
  else match netdevXfrmReturn msg with
    | some r => pure (.stop r st)
    | none => pure (.next st tb ss)

/-- The loop of `hip_netdev_event` over the messages of a batch, with the return and the cache
it leaves. -/
def netdevEventLoop (env : NetdevEnv) : List NlMsg → NetdevState → IfaTable → Bytes →
    Except Fault (NetdevReturn × NetdevState)
  | [], st, _, _ => pure (.ret 0, st)
  | msg :: msgs, st, tb, ss => do
    match ← netdevEventStep env msg st tb ss with
    | .next st tb ss => netdevEventLoop env msgs st tb ss
    | .stop r st => pure (r, st)

/-- `hip_netdev_event(msg, len, arg)`, with `tb[]` empty at the start and `ss_addr` holding the
bytes `ss`, which the code never initialises. -/
def hipNetdevEvent (env : NetdevEnv) (msgs : List NlMsg) (st : NetdevState)
    (ss : SockaddrStorage) : Except Fault (NetdevReturn × NetdevState) :=
  netdevEventLoop env msgs st ⟨none, none⟩ ss.bytes

/-- The calls that change the cache: the three of netdev.c, `update_address_list`, and a netlink
batch handed to `hip_netdev_event`, with the bytes its `ss_addr` holds at the start. -/
inductive AddressOp
  | add (addr : SockAddr) (ifindex flags : Int)
  | delete (addr : Option SockAddr) (ifindex : Int)
  | update (addr : SockAddr) (isAdd : Bool) (ifindex : Int)
  | event (msgs : List NlMsg) (ss : SockaddrStorage)
  | deleteAll

/-- The cache after one call. -/
def AddressOp.apply (env : NetdevEnv) : AddressOp → NetdevState → Except Fault NetdevState
  | .add addr ifindex flags, st =>
    pure (hipAddAddressToList env.suppressAfFamily addr ifindex flags st)
  | .delete addr ifindex, st => deleteAddressFromList addr ifindex st
  | .update addr isAdd ifindex, st => updateAddressList env.suppressAfFamily addr isAdd ifindex st
  | .event msgs ss, st => Prod.snd <$> hipNetdevEvent env msgs st ss
  | .deleteAll, st => pure (hipDeleteAllAddresses st)

/-- The cache after a run of calls, stopping at a fault. -/
def runAddressOps (env : NetdevEnv) : List AddressOp → NetdevState → Except Fault NetdevState
  | [], st => pure st
  | op :: ops, st => do runAddressOps env ops (← op.apply env st)

/-- The cache at start-up: an empty table and `address_count` 0. -/
def netdevInit : NetdevState := ⟨[], 0, 0⟩

/-! ### The table's invariant -/

/-- The table holds one entry per stored socket address, and `address_count` is at least the
number of entries. -/
structure NetdevState.WellFormed (st : NetdevState) : Prop where
  nodup : (st.addresses.map NetdevAddress.key).Nodup
  length_le_count : (st.addresses.length : Int) ≤ st.addressCount

theorem netdevInit_wellFormed : netdevInit.WellFormed :=
  ⟨List.nodup_nil, by decide⟩

theorem map_key_listAdd (addresses : List NetdevAddress) (n : NetdevAddress) :
    (listAdd addresses n).map NetdevAddress.key =
      if addresses.any (·.key = n.key) then addresses.map NetdevAddress.key
      else addresses.map NetdevAddress.key ++ [n.key] := by
  unfold listAdd
  split
  · rw [List.map_map]
    exact List.map_congr_left fun e _ ↦ by by_cases h : e.key = n.key <;> simp [h]
  · simp

/-- `list_add` adds an entry exactly when no entry has its stored socket address; otherwise the
table keeps its size. -/
theorem length_listAdd (addresses : List NetdevAddress) (n : NetdevAddress) :
    (listAdd addresses n).length =
      if addresses.any (·.key = n.key) then addresses.length else addresses.length + 1 := by
  unfold listAdd
  split <;> simp

theorem nodup_listAdd {addresses : List NetdevAddress} (n : NetdevAddress)
    (h : (addresses.map NetdevAddress.key).Nodup) :
    ((listAdd addresses n).map NetdevAddress.key).Nodup := by
  rw [map_key_listAdd]
  split
  · exact h
  · rename_i hnew
    refine List.nodup_append.2 ⟨h, List.nodup_singleton _, List.disjoint_singleton.2 ?_⟩
    simpa using hnew

theorem hipAddAddressToList_wellFormed (suppressAfFamily : Nat) (addr : SockAddr)
    (ifindex flags : Int) {st : NetdevState} (h : st.WellFormed) :
    (hipAddAddressToList suppressAfFamily addr ifindex flags st).WellFormed := by
  unfold hipAddAddressToList
  split
  · exact h
  split
  · exact h
  refine ⟨nodup_listAdd _ h.nodup, ?_⟩
  have hle := h.length_le_count
  simp only [length_listAdd]
  split <;> omega

theorem length_filter_not_add_countP (l : List NetdevAddress) (p : NetdevAddress → Bool) :
    (l.filter fun n ↦ !p n).length + l.countP p = l.length := by
  induction l with
  | nil => rfl
  | cons a l ih => cases h : p a <;> simp [List.filter_cons, h] <;> omega

theorem deleteWhere_wellFormed (p : NetdevAddress → Bool) {st : NetdevState}
    (h : st.WellFormed) : (deleteWhere p st).WellFormed := by
  refine ⟨h.nodup.sublist ((List.filter_sublist _).map _), ?_⟩
  have hle := h.length_le_count
  have hsplit := length_filter_not_add_countP st.addresses p
  simp only [deleteWhere]
  omega

theorem deleteAddressFromList_wellFormed {addr : Option SockAddr} {ifindex : Int}
    {st st' : NetdevState} (h : st.WellFormed) (hrun : deleteAddressFromList addr ifindex st = .ok st') :
    st'.WellFormed := by
  unfold deleteAddressFromList at hrun
  split at hrun
  · cases hrun
    exact deleteWhere_wellFormed _ h
  · split at hrun
    · cases hrun
      exact deleteWhere_wellFormed _ h
    · split at hrun
      · cases hrun
        exact h
      · cases hrun

theorem hipDeleteAllAddresses_wellFormed {st : NetdevState} (h : st.WellFormed) :
    (hipDeleteAllAddresses st).WellFormed := by
  refine ⟨List.nodup_nil, ?_⟩
  have hle := h.length_le_count
  simp only [hipDeleteAllAddresses, List.length_nil]
  split <;> omega

theorem updateAddressList_wellFormed {suppressAfFamily : Nat} {addr : SockAddr} {isAdd : Bool}
    {ifindex : Int} {st st' : NetdevState} (h : st.WellFormed)
    (hrun : updateAddressList suppressAfFamily addr isAdd ifindex st = .ok st') : st'.WellFormed := by
  unfold updateAddressList at hrun
  dsimp only at hrun
  split at hrun
  · cases hrun
    exact h
  split at hrun
  · cases hrun
    exact hipAddAddressToList_wellFormed _ _ _ _ h
  · exact deleteAddressFromList_wellFormed h hrun

/-- The cache a turn of the loop leaves, whether it goes on or returns. -/
def NetdevStep.state : NetdevStep → NetdevState
  | .next st _ _ => st
  | .stop _ st => st

theorem netdevAddressEvent_wellFormed {env : NetdevEnv} {msg : NlMsg} {st : NetdevState}
    {tb : IfaTable} {ss : Bytes} {s : NetdevStep} (h : st.WellFormed)
    (hrun : netdevAddressEvent env msg st tb ss = .ok s) : s.state.WellFormed := by
  unfold netdevAddressEvent at hrun
  dsimp only at hrun
  split at hrun
  · cases hrun
    exact h
  split at hrun
  · cases hrun
    exact h
  split at hrun
  · cases hrun
    exact h
  obtain ⟨ss', -, hrun⟩ := bind_eq_ok.1 hrun
  split at hrun
  · cases hrun
    exact h
  obtain ⟨st', hst', hs⟩ := bind_eq_ok.1 hrun
  cases hs
  have hwf := updateAddressList_wellFormed h hst'
  exact ⟨hwf.nodup, hwf.length_le_count⟩

theorem netdevEventStep_wellFormed {env : NetdevEnv} {msg : NlMsg} {st : NetdevState}
    {tb : IfaTable} {ss : Bytes} {s : NetdevStep} (h : st.WellFormed)
    (hrun : netdevEventStep env msg st tb ss = .ok s) : s.state.WellFormed := by
  unfold netdevEventStep at hrun
  split at hrun
  · exact netdevAddressEvent_wellFormed h hrun
  split at hrun <;> cases hrun <;> exact h

theorem netdevEventLoop_wellFormed {env : NetdevEnv} (msgs : List NlMsg) {st st' : NetdevState}
    {tb : IfaTable} {ss : Bytes} {r : NetdevReturn} (h : st.WellFormed)
    (hrun : netdevEventLoop env msgs st tb ss = .ok (r, st')) : st'.WellFormed := by
  induction msgs generalizing st tb ss with
  | nil =>
    cases hrun
    exact h
  | cons msg msgs ih =>
    obtain ⟨s, hs, hrest⟩ := bind_eq_ok.1 hrun
    have hwf := netdevEventStep_wellFormed h hs
    cases s with
    | next st'' tb'' ss'' => exact ih hwf hrest
    | stop r' st'' =>
      cases hrest
      exact hwf

theorem AddressOp.apply_wellFormed {env : NetdevEnv} (op : AddressOp) {st st' : NetdevState}
    (h : st.WellFormed) (hrun : op.apply env st = .ok st') : st'.WellFormed := by
  cases op with
  | add addr ifindex flags =>
    cases hrun
    exact hipAddAddressToList_wellFormed _ _ _ _ h
  | delete addr ifindex => exact deleteAddressFromList_wellFormed h hrun
  | update addr isAdd ifindex => exact updateAddressList_wellFormed h hrun
  | event msgs ss =>
    obtain ⟨⟨r, st''⟩, hev, hs⟩ := map_eq_ok.1 hrun
    cases hs
    exact netdevEventLoop_wellFormed msgs h hev
  | deleteAll =>
    cases hrun
    exact hipDeleteAllAddresses_wellFormed h

/-- Over every run of calls, the table keeps one entry per stored socket address and
`address_count` is at least the number of entries. -/
theorem runAddressOps_wellFormed {env : NetdevEnv} (ops : List AddressOp) {st st' : NetdevState}
    (h : st.WellFormed) (hrun : runAddressOps env ops st = .ok st') : st'.WellFormed := by
  induction ops generalizing st with
  | nil =>
    cases hrun
    exact h
  | cons op ops ih =>
    obtain ⟨st'', hop, hrest⟩ := bind_eq_ok.1 hrun
    exact ih (op.apply_wellFormed h hop) hrest

set_option maxRecDepth 4000 in
/-- An address added, a batch adding another one on the same interface from a zeroed `ss_addr`,
and the first one deleted again: the cache ends well formed with the second address alone. -/
theorem runAddressOps_addEventDelete :
    runAddressOps ⟨0, [], false, 0⟩
        [.add ⟨afInet, 0x0a000001, 0, 0, 0⟩ 1 0,
          .event [⟨rtmNewaddr, 1, afInet, [⟨ifaLocal, [10, 0, 0, 2]⟩]⟩]
            ⟨List.replicate sizeofSockaddrStorage 0, List.length_replicate _ _⟩,
          .delete (some ⟨afInet, 0x0a000001, 0, 0, 0⟩) 1] netdevInit =
      .ok ⟨[⟨ipv4ToIpv6Map 0x0a000002, 0, 0, 0, 1, 0⟩], 1, 1⟩ ∧
    NetdevState.WellFormed ⟨[⟨ipv4ToIpv6Map 0x0a000002, 0, 0, 0, 1, 0⟩], 1, 1⟩ :=
  have hrun : runAddressOps ⟨0, [], false, 0⟩
      [.add ⟨afInet, 0x0a000001, 0, 0, 0⟩ 1 0,
        .event [⟨rtmNewaddr, 1, afInet, [⟨ifaLocal, [10, 0, 0, 2]⟩]⟩]
          ⟨List.replicate sizeofSockaddrStorage 0, List.length_replicate _ _⟩,
        .delete (some ⟨afInet, 0x0a000001, 0, 0, 0⟩) 1] netdevInit =
      .ok ⟨[⟨ipv4ToIpv6Map 0x0a000002, 0, 0, 0, 1, 0⟩], 1, 1⟩ := rfl
  ⟨hrun, runAddressOps_wellFormed _ netdevInit_wellFormed hrun⟩

/-! ### Where the count and the table part -/

/-- An add of an address the look-up does not find and the filter passes. -/
theorem hipAddAddressToList_of_new {suppressAfFamily : Nat} {addr : SockAddr} {ifindex flags : Int}
    {st : NetdevState} (hnew : hipExistsAddressInList st.addresses addr ifindex = false)
    (hpass : filterAddress suppressAfFamily addr = true) :
    hipAddAddressToList suppressAfFamily addr ifindex flags st =
      { st with
        addresses := listAdd st.addresses (storedEntry addr ifindex flags)
        addressCount := st.addressCount + 1 } := by
  rw [hipAddAddressToList, if_neg (by simp [hnew]), if_neg (by simp [hpass])]

@[simp] theorem storedEntry_addr (addr : SockAddr) (ifindex flags : Int) :
    (storedEntry addr ifindex flags).addr = storedAddr addr := by
  unfold storedEntry storedAddr
  split <;> rfl

/-- An address the filter passes that is not IPv4 is an IPv6 address that is not mapped. -/
theorem filterAddress_unmapped {suppressAfFamily : Nat} {sa : SockAddr}
    (hpass : filterAddress suppressAfFamily sa = true) (hinet : sa.family ≠ afInet) :
    sa.family = afInet6 ∧ in6IsAddrV4Mapped sa.addr = false := by
  unfold filterAddress at hpass
  split at hpass
  · rename_i hinet6
    simp only [Bool.not_eq_true', Bool.or_eq_false_iff] at hpass
    exact ⟨hinet6, hpass.1.1.2⟩
  · simp [hinet] at hpass

/-- An entry holding the IPv6 form of an address that passes the filter, which the look-up of
the address on `ifindex` passes over, is on another interface, and `ifindex` is not -1. -/
theorem ifIndex_ne_of_storedAddr {suppressAfFamily : Nat} {addr : SockAddr} {ifindex : Int}
    {e : NetdevAddress} (hv4 : addr.family = afInet → addr.addr < 2 ^ 32)
    (hmiss : ¬existsEntry addr ifindex e = true)
    (hpass : filterAddress suppressAfFamily addr = true) (hsame : e.addr = storedAddr addr) :
    e.ifIndex ≠ ifindex ∧ ifindex ≠ -1 := by
  by_cases hinet : addr.family = afInet
  · have hstored : e.addr = ipv4ToIpv6Map addr.addr := hsame.trans (if_pos hinet)
    obtain ⟨hmapped, hlow⟩ := ipv4ToIpv6Map_mapped (hv4 hinet)
    rw [← hstored] at hmapped hlow
    simpa only [existsEntry, hmapped, if_true, hipCastSaAddrIn, hinet, hlow, beq_self_eq_true,
      Bool.and_true, Bool.or_eq_true, beq_iff_eq, not_or] using hmiss
  · have hstored : e.addr = addr.addr := hsame.trans (if_neg hinet)
    obtain ⟨hinet6, hunmapped⟩ := filterAddress_unmapped hpass hinet
    simpa only [existsEntry, hunmapped, hinet6, hstored, Bool.false_eq_true, if_false,
      beq_self_eq_true, Bool.and_true, Bool.or_eq_true, beq_iff_eq, not_or] using hmiss

/-- An add that passes the look-up and the filter but finds an entry of the same stored socket
address in the table: that entry is on another interface, `ifindex` is not -1, and the add
takes its place, so the table keeps its length while `address_count` goes up by one. -/
theorem hipAddAddressToList_replaces {suppressAfFamily : Nat} {addr : SockAddr}
    {ifindex flags : Int} {st : NetdevState} {e : NetdevAddress}
    (hv4 : addr.family = afInet → addr.addr < 2 ^ 32)
    (hnew : hipExistsAddressInList st.addresses addr ifindex = false)
    (hpass : filterAddress suppressAfFamily addr = true) (he : e ∈ st.addresses)
    (hsame : e.key = (storedEntry addr ifindex flags).key) :
    e.ifIndex ≠ ifindex ∧ ifindex ≠ -1 ∧
      (hipAddAddressToList suppressAfFamily addr ifindex flags st).addresses.length =
        st.addresses.length ∧
      (hipAddAddressToList suppressAfFamily addr ifindex flags st).addressCount =
        st.addressCount + 1 := by
  have hsameAddr : e.addr = storedAddr addr :=
    (congrArg Prod.fst hsame).trans (storedEntry_addr addr ifindex flags)
  have hadd := @hipAddAddressToList_of_new suppressAfFamily addr ifindex flags st hnew hpass
  obtain ⟨hif, hne⟩ := ifIndex_ne_of_storedAddr hv4 (List.any_eq_false.1 hnew e he) hpass hsameAddr
  refine ⟨hif, hne, ?_, by rw [hadd]⟩
  rw [hadd, length_listAdd, if_pos (List.any_eq_true.2 ⟨e, he, decide_eq_true hsame⟩)]

/-- `10.0.0.1` added on interface 2 while the table holds it on interface 1. -/
theorem hipAddAddressToList_secondInterface :
    (⟨ipv4ToIpv6Map 0x0a000001, 0, 0, 0, 1, 0⟩ : NetdevAddress).ifIndex ≠ 2 ∧ (2 : Int) ≠ -1 ∧
      (hipAddAddressToList 0 ⟨afInet, 0x0a000001, 0, 0, 0⟩ 2 0
          ⟨[⟨ipv4ToIpv6Map 0x0a000001, 0, 0, 0, 1, 0⟩], 1, 0⟩).addresses.length = 1 ∧
      (hipAddAddressToList 0 ⟨afInet, 0x0a000001, 0, 0, 0⟩ 2 0
          ⟨[⟨ipv4ToIpv6Map 0x0a000001, 0, 0, 0, 1, 0⟩], 1, 0⟩).addressCount = 1 + 1 :=
  @hipAddAddressToList_replaces 0 ⟨afInet, 0x0a000001, 0, 0, 0⟩ 2 0
    ⟨[⟨ipv4ToIpv6Map 0x0a000001, 0, 0, 0, 1, 0⟩], 1, 0⟩ ⟨ipv4ToIpv6Map 0x0a000001, 0, 0, 0, 1, 0⟩
    (fun _ ↦ by decide) (by decide) (by decide) (List.mem_singleton.2 rfl) rfl

/-- An IPv4 address added on interface 1 and then on interface 2, from start-up, through two
socket addresses that may differ in every byte but the family and the address: the second add
passes the look-up, takes the place of the first entry, and leaves `address_count` at 2 with one
entry in the table, whenever the filter lets the address through, as it does `10.0.0.1`. -/
theorem ipv4SecondInterface_countsTwice (suppressAfFamily addr : Nat)
    (port₁ flowinfo₁ scopeId₁ port₂ flowinfo₂ scopeId₂ : Nat) :
    filterAddress 0 ⟨afInet, 0x0a000001, 0, 0, 0⟩ = true ∧
      hipAddAddressToList suppressAfFamily ⟨afInet, addr, port₂, flowinfo₂, scopeId₂⟩ 2 0
          (hipAddAddressToList suppressAfFamily ⟨afInet, addr, port₁, flowinfo₁, scopeId₁⟩ 1 0
            netdevInit) =
        if filterAddress suppressAfFamily ⟨afInet, addr, port₁, flowinfo₁, scopeId₁⟩ then
          ⟨[⟨ipv4ToIpv6Map addr, 0, 0, 0, 2, 0⟩], 2, 0⟩
        else netdevInit := by
  refine ⟨by decide, ?_⟩
  have hf₂ : filterAddress suppressAfFamily ⟨afInet, addr, port₂, flowinfo₂, scopeId₂⟩ =
      filterAddress suppressAfFamily ⟨afInet, addr, port₁, flowinfo₁, scopeId₁⟩ := rfl
  cases hf : filterAddress suppressAfFamily ⟨afInet, addr, port₁, flowinfo₁, scopeId₁⟩ <;>
    simp [hipAddAddressToList, hipExistsAddressInList, existsEntry, hipCastSaAddrIn, hf, hf₂,
      listAdd, storedEntry, NetdevAddress.key, netdevInit]

/-! ### Reading back `ss_addr` -/

@[simp] theorem sockAddrOf_inet (ss : Bytes) :
    sockAddrOf ss afInet =
      ⟨afInet, storageNat ss 4 4, storageNat ss 2 2, storageNat ss 4 4, storageNat ss 24 4⟩ := rfl

@[simp] theorem sockAddrOf_inet6 (ss : Bytes) :
    sockAddrOf ss afInet6 =
      ⟨afInet6, storageNat ss 8 16, storageNat ss 2 2, storageNat ss 4 4, storageNat ss 24 4⟩ := rfl

/-- What a copy into `ss_addr` wrote is read back at its offset. -/
theorem storageNat_bufWrite {ss ss' a : Bytes} {off : Nat} (h : bufWrite ss off a = .ok ss') :
    storageNat ss' off a.length = beNat a := by
  obtain ⟨hfit, rfl⟩ := bufWrite_eq_ok h
  have hpre : (ss.take off).length = off := by simp only [List.length_take]; omega
  rw [storageNat, List.append_assoc, List.drop_left' hpre, List.take_left' rfl]

/-- A copy into `ss_addr` leaves the bytes before and after it. -/
theorem storageNat_bufWrite_of_disjoint {ss ss' a : Bytes} {off off' len : Nat}
    (h : bufWrite ss off a = .ok ss') (hd : off' + len ≤ off ∨ off + a.length ≤ off') :
    storageNat ss' off' len = storageNat ss off' len := by
  obtain ⟨hfit, rfl⟩ := bufWrite_eq_ok h
  unfold storageNat
  congr 1
  rcases hd with hd | hd
  · -- before the copy: the bytes up to `off` are the old ones
    have hX : off' ≤ (ss.take off).length := by simp only [List.length_take]; omega
    rw [List.append_assoc, List.drop_append_of_le_length hX,
      List.take_append_of_le_length (by simp only [List.length_drop, List.length_take]; omega),
      List.drop_take, List.take_take, Nat.min_eq_left (by omega)]
  · -- after the copy: the bytes from `off + a.length` on are the old ones
    have hL : (ss.take off ++ a).length = off + a.length := by
      simp only [List.length_append, List.length_take]; omega
    rw [List.drop_append_eq_append_drop, List.drop_eq_nil_of_le (by omega), List.nil_append, hL,
      List.drop_drop, Nat.add_sub_cancel' hd]

/-- A copy of an IPv6 address into `ss_addr`: the address reads back, and the port, the flow
information and the scope id are left as they were. -/
theorem storageNat_bufWrite_inet6 {ss ss' a : Bytes} (h : bufWrite ss 8 a = .ok ss')
    (ha : a.length = 16) :
    storageNat ss' 8 16 = beNat a ∧ storageNat ss' 2 2 = storageNat ss 2 2 ∧
      storageNat ss' 4 4 = storageNat ss 4 4 ∧ storageNat ss' 24 4 = storageNat ss 24 4 :=
  ⟨ha ▸ storageNat_bufWrite h, storageNat_bufWrite_of_disjoint h (.inl (by omega)),
    storageNat_bufWrite_of_disjoint h (.inl (by omega)),
    storageNat_bufWrite_of_disjoint h (.inr (by omega))⟩

/-- A copy of an IPv4 address into `ss_addr`: the address reads back, where an IPv6 address has
its flow information, and the port and the scope id are left as they were. -/
theorem storageNat_bufWrite_inet {ss ss' a : Bytes} (h : bufWrite ss 4 a = .ok ss')
    (ha : a.length = 4) :
    storageNat ss' 4 4 = beNat a ∧ storageNat ss' 2 2 = storageNat ss 2 2 ∧
      storageNat ss' 24 4 = storageNat ss 24 4 := by
  have hread := storageNat_bufWrite h
  rw [ha] at hread
  exact ⟨hread, storageNat_bufWrite_of_disjoint h (.inl (by omega)),
    storageNat_bufWrite_of_disjoint h (.inr (by omega))⟩

/-! ### Netlink batches never fault -/

/-- The address attributes of a message fit `ss_addr` at the address offset of either family. -/
def NlMsg.AttrsFit (msg : NlMsg) : Prop :=
  ∀ rta ∈ msg.attrs, rta.rtaType = ifaAddress ∨ rta.rtaType = ifaLocal →
    rta.payload.length + 8 ≤ sizeofSockaddrStorage

/-- Both entries of `tb[]` fit `ss_addr` at the address offset of either family. -/
def IfaTable.Fits (tb : IfaTable) : Prop :=
  (∀ a, tb.address = some a → a.length + 8 ≤ sizeofSockaddrStorage) ∧
    ∀ a, tb.ifaLocal = some a → a.length + 8 ≤ sizeofSockaddrStorage

theorem parseRtattr_fits {tb : IfaTable} {attrs : List RtAttr} (htb : tb.Fits)
    (h : ∀ rta ∈ attrs, rta.rtaType = ifaAddress ∨ rta.rtaType = ifaLocal →
      rta.payload.length + 8 ≤ sizeofSockaddrStorage) : (parseRtattr tb attrs).Fits := by
  induction attrs generalizing tb with
  | nil => exact htb
  | cons rta attrs ih =>
    apply ih _ fun r hr ↦ h r (List.mem_cons_of_mem _ hr)
    have hfit := h rta (List.mem_cons_self _ _)
    dsimp only
    split_ifs with ha hl
    · exact ⟨fun a h' ↦ by cases h'; exact hfit (.inl ha), htb.2⟩
    · exact ⟨htb.1, fun a h' ↦ by cases h'; exact hfit (.inr hl)⟩
    · exact htb

theorem fixIfaTable_fits {tb : IfaTable} (h : tb.Fits) : (fixIfaTable tb).Fits := by
  rcases tb with ⟨_ | a, _ | l⟩ <;> simp_all [fixIfaTable, IfaTable.Fits]

/-- The turns that may go on to the next message: a return of the handler's own, or a turn that
leaves `tb[]` fitting and `ss_addr` its size. -/
def NetdevStep.Returns : NetdevStep → Prop
  | .next _ tb ss => tb.Fits ∧ ss.length = sizeofSockaddrStorage
  | .stop r _ => ∃ v, r = .ret v

theorem updateAddressList_ok {suppressAfFamily : Nat} {addr : SockAddr} {isAdd : Bool}
    {ifindex : Int} {st : NetdevState} (hfam : addr.family = afInet ∨ addr.family = afInet6) :
    ∃ st', updateAddressList suppressAfFamily addr isAdd ifindex st = .ok st' := by
  unfold updateAddressList deleteAddressFromList
  dsimp only
  split
  · exact ⟨_, rfl⟩
  split
  · exact ⟨_, rfl⟩
  · simp [hfam]

theorem netdevAddressEvent_ok (env : NetdevEnv) (msg : NlMsg) (st : NetdevState) {tb : IfaTable}
    {ss : Bytes} (htb : tb.Fits) (hss : ss.length = sizeofSockaddrStorage) (hmsg : msg.AttrsFit) :
    ∃ s, netdevAddressEvent env msg st tb ss = .ok s ∧ s.Returns := by
  have htb' := fixIfaTable_fits (parseRtattr_fits htb hmsg)
  unfold netdevAddressEvent
  split
  · exact ⟨_, rfl, htb, hss⟩
  split
  · exact ⟨_, rfl, htb, hss⟩
  rename_i hfam
  have hfam' : msg.family = afInet ∨ msg.family = afInet6 := by
    simpa only [ne_eq, not_and_or, not_not] using hfam
  dsimp only
  split
  · exact ⟨_, rfl, htb', hss⟩
  rename_i a ha
  have hoff : hipCastSaAddrOffset msg.family ≤ 8 := by unfold hipCastSaAddrOffset; split <;> omega
  obtain ⟨ss', hw, hlen⟩ := bufWrite_ok (show hipCastSaAddrOffset msg.family + a.length ≤ ss.length
    by have := htb'.2 a ha; omega)
  rw [hw, ok_bind]
  split
  · exact ⟨_, rfl, 0, rfl⟩
  obtain ⟨st', hst'⟩ := @updateAddressList_ok env.suppressAfFamily (sockAddrOf ss' msg.family)
    (msg.nlmsgType == rtmNewaddr) msg.ifIndex st hfam'
  rw [hst']
  exact ⟨_, rfl, htb', hlen.trans hss⟩

theorem netdevXfrmReturn_ret {msg : NlMsg} {r : NetdevReturn}
    (hacq : msg.nlmsgType ≠ xfrmMsgAcquire) (h : netdevXfrmReturn msg = some r) :
    ∃ v, r = .ret v := by
  unfold netdevXfrmReturn at h
  split_ifs at h <;> cases h <;> exact ⟨_, rfl⟩

theorem netdevEventStep_ok (env : NetdevEnv) (msg : NlMsg) (st : NetdevState) {tb : IfaTable}
    {ss : Bytes} (htb : tb.Fits) (hss : ss.length = sizeofSockaddrStorage) (hmsg : msg.AttrsFit)
    (hacq : msg.nlmsgType ≠ xfrmMsgAcquire) :
    ∃ s, netdevEventStep env msg st tb ss = .ok s ∧ s.Returns := by
  unfold netdevEventStep
  split
  · exact netdevAddressEvent_ok env msg st htb hss hmsg
  split
  · exact ⟨_, rfl, netdevXfrmReturn_ret hacq ‹_›⟩
  · exact ⟨_, rfl, htb, hss⟩

/-- `hip_netdev_event` returns a value of its own on every batch with no `XFRM_MSG_ACQUIRE`
message whose address attributes fit `ss_addr`, whatever `ss_addr` holds at the start: every copy
stays inside `ss_addr`, and every address it compares or deletes has a family it knows. -/
theorem hipNetdevEvent_ok (env : NetdevEnv) (msgs : List NlMsg) (st : NetdevState)
    (ss : SockaddrStorage) (hacq : ∀ msg ∈ msgs, msg.nlmsgType ≠ xfrmMsgAcquire)
    (hfit : ∀ msg ∈ msgs, msg.AttrsFit) :
    ∃ r st', hipNetdevEvent env msgs st ss = .ok (.ret r, st') := by
  have htb : IfaTable.Fits ⟨none, none⟩ := ⟨fun _ h ↦ (nomatch h), fun _ h ↦ (nomatch h)⟩
  obtain ⟨bytes, hss⟩ := ss
  unfold hipNetdevEvent
  generalize (⟨none, none⟩ : IfaTable) = tb at htb
  induction msgs generalizing st tb bytes with
  | nil => exact ⟨0, st, rfl⟩
  | cons msg msgs ih =>
    obtain ⟨s, hs, hok⟩ := netdevEventStep_ok env msg st htb hss (hfit msg (.head _))
      (hacq msg (.head _))
    simp only [netdevEventLoop, hs, ok_bind]
    cases s with
    | next st' tb' ss' =>
      exact ih st' (fun m hm ↦ hacq m (.tail _ hm)) (fun m hm ↦ hfit m (.tail _ hm)) ss' hok.2 tb'
        hok.1
    | stop r st' =>
      obtain ⟨v, rfl⟩ := hok
      exact ⟨v, st', rfl⟩

/-- A batch of one `IPv4` address message from a zeroed `ss_addr`. -/
theorem hipNetdevEvent_oneAdd :
    (∀ msg ∈ [(⟨rtmNewaddr, 1, afInet, [⟨ifaLocal, [10, 0, 0, 2]⟩]⟩ : NlMsg)],
      msg.nlmsgType ≠ xfrmMsgAcquire) ∧
    (∀ msg ∈ [(⟨rtmNewaddr, 1, afInet, [⟨ifaLocal, [10, 0, 0, 2]⟩]⟩ : NlMsg)], msg.AttrsFit) ∧
    ∃ r st', hipNetdevEvent ⟨0, [], false, 0⟩ [⟨rtmNewaddr, 1, afInet, [⟨ifaLocal, [10, 0, 0, 2]⟩]⟩]
      netdevInit ⟨List.replicate sizeofSockaddrStorage 0, List.length_replicate _ _⟩ =
        .ok (.ret r, st') :=
  have hacq : ∀ msg ∈ [(⟨rtmNewaddr, 1, afInet, [⟨ifaLocal, [10, 0, 0, 2]⟩]⟩ : NlMsg)],
      msg.nlmsgType ≠ xfrmMsgAcquire := by simp [rtmNewaddr, xfrmMsgAcquire]
  have hfit : ∀ msg ∈ [(⟨rtmNewaddr, 1, afInet, [⟨ifaLocal, [10, 0, 0, 2]⟩]⟩ : NlMsg)],
      msg.AttrsFit := by
    simp [NlMsg.AttrsFit, sizeofSockaddrStorage]
  ⟨hacq, hfit, hipNetdevEvent_ok _ _ _ _ hacq hfit⟩

/-! ### Redundant messages end the batch -/

/-- An address message that adds a present address or deletes an absent one ends the batch:
the handler returns 0 with the cache as it was, and the messages after it are not read. -/
theorem netdevEventLoop_redundant {env : NetdevEnv} {msg : NlMsg} {st : NetdevState}
    {tb : IfaTable} {ss ss' a : Bytes} (rest : List NlMsg)
    (htype : msg.nlmsgType = rtmNewaddr ∨ msg.nlmsgType = rtmDeladdr)
    (hwhite : env.whiteList = [] ∨ msg.ifIndex ∈ env.whiteList)
    (hfam : msg.family = afInet ∨ msg.family = afInet6)
    (hlocal : (fixIfaTable (parseRtattr tb msg.attrs)).ifaLocal = some a)
    (hwrite : bufWrite ss (hipCastSaAddrOffset msg.family) a = .ok ss')
    (hredundant : hipExistsAddressInList st.addresses (sockAddrOf ss' msg.family) msg.ifIndex =
      (msg.nlmsgType == rtmNewaddr)) :
    netdevEventLoop env (msg :: rest) st tb ss = .ok (.ret 0, st) := by
  have hlisted : ¬(env.whiteList ≠ [] ∧ msg.ifIndex ∉ env.whiteList) :=
    fun ⟨hne, hmem⟩ ↦ hwhite.elim hne hmem
  have hfamily : ¬(msg.family ≠ afInet ∧ msg.family ≠ afInet6) := fun ⟨h₁, h₂⟩ ↦ hfam.elim h₁ h₂
  have hstep : netdevEventStep env msg st tb ss = .ok (.stop (.ret 0) st) := by
    unfold netdevEventStep netdevAddressEvent
    rw [if_pos htype, if_neg hlisted, if_neg hfamily]
    dsimp only
    rw [hlocal]
    dsimp only
    rw [hwrite, ok_bind, hredundant]
    cases msg.nlmsgType == rtmNewaddr <;> rfl
  simp only [netdevEventLoop, hstep, ok_bind]
  rfl

/-- The look-up reads only the family and the address of the query. -/
theorem hipExistsAddressInList_eq_of_addr {addresses : List NetdevAddress} {sa sa' : SockAddr}
    {ifindex : Int} (hfam : sa.family = sa'.family) (haddr : sa.addr = sa'.addr) :
    hipExistsAddressInList addresses sa ifindex = hipExistsAddressInList addresses sa' ifindex := by
  obtain ⟨f, a, _, _, _⟩ := sa
  obtain ⟨f', a', _, _, _⟩ := sa'
  cases hfam
  cases haddr
  rfl

/-- From a cache holding `10.0.0.1` on interface 1, a batch that adds `10.0.0.1` and then
`10.0.0.2` on interface 1 leaves the cache as it was, whatever `ss_addr` holds at the start, while
`update_address_list` applied to the two messages in order adds `10.0.0.2`. -/
theorem redundantAdd_dropsLaterAdd (waitAddrChangesToStabilize : Bool)
    (addressChangeWaitInterval : Int) (ss : SockaddrStorage) :
    hipNetdevEvent ⟨0, [], waitAddrChangesToStabilize, addressChangeWaitInterval⟩
        [⟨rtmNewaddr, 1, afInet, [⟨ifaLocal, [10, 0, 0, 1]⟩]⟩,
          ⟨rtmNewaddr, 1, afInet, [⟨ifaLocal, [10, 0, 0, 2]⟩]⟩]
        ⟨[⟨ipv4ToIpv6Map 0x0a000001, 0, 0, 0, 1, 0⟩], 1, 0⟩ ss =
      .ok (.ret 0, ⟨[⟨ipv4ToIpv6Map 0x0a000001, 0, 0, 0, 1, 0⟩], 1, 0⟩) ∧
    (updateAddressList 0 ⟨afInet, 0x0a000001, 0, 0, 0⟩ true 1
        ⟨[⟨ipv4ToIpv6Map 0x0a000001, 0, 0, 0, 1, 0⟩], 1, 0⟩ >>=
        updateAddressList 0 ⟨afInet, 0x0a000002, 0, 0, 0⟩ true 1) =
      .ok ⟨[⟨ipv4ToIpv6Map 0x0a000001, 0, 0, 0, 1, 0⟩,
        ⟨ipv4ToIpv6Map 0x0a000002, 0, 0, 0, 1, 0⟩], 2, 0⟩ := by
  obtain ⟨ss', hw, -⟩ := bufWrite_ok (show 4 + [(10 : UInt8), 0, 0, 1].length ≤ ss.bytes.length by
    rw [ss.length_bytes]; decide)
  have haddr : storageNat ss' 4 4 = 0x0a000001 := storageNat_bufWrite hw
  refine ⟨netdevEventLoop_redundant _ (.inl rfl) (.inl rfl) (.inl rfl) rfl hw ?_, rfl⟩
  exact (@hipExistsAddressInList_eq_of_addr _ (sockAddrOf ss' afInet) ⟨afInet, 0x0a000001, 0, 0, 0⟩
    1 rfl haddr).trans (by decide)

/-- An address message that adds an address the look-up does not find goes on with the cache
`update_address_list` leaves, `tb[]` and the copy in `ss_addr`. -/
theorem netdevEventLoop_add {env : NetdevEnv} {msg : NlMsg} {st : NetdevState}
    {tb : IfaTable} {ss ss' a : Bytes} (rest : List NlMsg) (htype : msg.nlmsgType = rtmNewaddr)
    (hwhite : env.whiteList = []) (hfam : msg.family = afInet ∨ msg.family = afInet6)
    (hlocal : (fixIfaTable (parseRtattr tb msg.attrs)).ifaLocal = some a)
    (hwrite : bufWrite ss (hipCastSaAddrOffset msg.family) a = .ok ss')
    (hnew : hipExistsAddressInList st.addresses (sockAddrOf ss' msg.family) msg.ifIndex = false) :
    netdevEventLoop env (msg :: rest) st tb ss =
      netdevEventLoop env rest
        { hipAddAddressToList env.suppressAfFamily (sockAddrOf ss' msg.family) msg.ifIndex 0 st with
          addressChangeTimeCounter := addressChangeTime env }
        (fixIfaTable (parseRtattr tb msg.attrs)) ss' := by
  have hlisted : ¬(env.whiteList ≠ [] ∧ msg.ifIndex ∉ env.whiteList) := fun ⟨hne, _⟩ ↦ hne hwhite
  have hfamily : ¬(msg.family ≠ afInet ∧ msg.family ≠ afInet6) := fun ⟨h₁, h₂⟩ ↦ hfam.elim h₁ h₂
  have hstep : netdevEventStep env msg st tb ss = .ok (.next
      { hipAddAddressToList env.suppressAfFamily (sockAddrOf ss' msg.family) msg.ifIndex 0 st with
        addressChangeTimeCounter := addressChangeTime env }
      (fixIfaTable (parseRtattr tb msg.attrs)) ss') := by
    have hupd : updateAddressList env.suppressAfFamily (sockAddrOf ss' msg.family) true msg.ifIndex
        st = .ok (hipAddAddressToList env.suppressAfFamily (sockAddrOf ss' msg.family) msg.ifIndex 0
          st) := by
      unfold updateAddressList
      rw [hnew]
      rfl
    unfold netdevEventStep netdevAddressEvent
    rw [if_pos (.inl htype), if_neg hlisted, if_neg hfamily]
    dsimp only
    rw [hlocal]
    dsimp only
    rw [hwrite, ok_bind, hnew, htype, beq_self_eq_true, hupd]
    rfl
  simp only [netdevEventLoop, hstep, ok_bind]

/-- The filter reads only the family and the address. -/
theorem filterAddress_eq_of_addr {suppressAfFamily : Nat} {sa sa' : SockAddr}
    (hfam : sa.family = sa'.family) (haddr : sa.addr = sa'.addr) :
    filterAddress suppressAfFamily sa = filterAddress suppressAfFamily sa' := by
  obtain ⟨f, a, _, _, _⟩ := sa
  obtain ⟨f', a', _, _, _⟩ := sa'
  cases hfam
  cases haddr
  rfl

/-! ### Bytes of `ss_addr` the handler never writes -/

section StaleFlowinfo

variable {env : NetdevEnv} {a6 a4 : Bytes} {i₁ i₂ : Int} {p f s : Nat}

/-- The IPv6 entry of the batch below, on `i₁`, and the IPv4 address are told apart by the
table, the one mapped and the other not. -/
theorem ne_ipv4ToIpv6Map_of_filter
    (hpass6 : filterAddress env.suppressAfFamily ⟨afInet6, beNat a6, 0, 0, 0⟩ = true)
    (h4 : a4.length = 4) :
    in6IsAddrV4Mapped (beNat a6) = false ∧ in6IsAddrV4Mapped (ipv4ToIpv6Map (beNat a4)) = true ∧
      beNat a6 ≠ ipv4ToIpv6Map (beNat a4) := by
  have hA := (filterAddress_unmapped hpass6 (show afInet6 ≠ afInet by decide)).2
  have hB : in6IsAddrV4Mapped (ipv4ToIpv6Map (beNat a4)) = true :=
    (ipv4ToIpv6Map_mapped (by simpa [h4] using beNat_lt a4)).1
  exact ⟨hA, hB, fun h ↦ by rw [h, hB] at hA; cases hA⟩

/-- Whatever `ss_addr` holds at the start, a batch that adds an IPv6 address on `i₁`, an IPv4
address on `i₁` and the IPv6 address again on another interface `i₂` stores the first IPv6
entry with the port, flow information and scope id the stack left in `ss_addr`, and the second
with the IPv4 address the batch copied over the flow information. Unless the stack held that
address there, the table ends with the IPv6 address twice. -/
theorem hipNetdevEvent_addressTwice (ss : SockaddrStorage) (hwhite : env.whiteList = [])
    (h6 : a6.length = 16) (h4 : a4.length = 4)
    (hpass6 : filterAddress env.suppressAfFamily ⟨afInet6, beNat a6, 0, 0, 0⟩ = true)
    (hpass4 : filterAddress env.suppressAfFamily ⟨afInet, beNat a4, 0, 0, 0⟩ = true)
    (hif : i₁ ≠ i₂) (hif₂ : i₂ ≠ -1) :
    hipNetdevEvent env
        [⟨rtmNewaddr, i₁, afInet6, [⟨ifaLocal, a6⟩]⟩, ⟨rtmNewaddr, i₁, afInet, [⟨ifaLocal, a4⟩]⟩,
          ⟨rtmNewaddr, i₂, afInet6, [⟨ifaLocal, a6⟩]⟩] netdevInit ss =
      .ok (.ret 0,
        ⟨if storageNat ss.bytes 4 4 = beNat a4 then
            [⟨beNat a6, storageNat ss.bytes 2 2, beNat a4, storageNat ss.bytes 24 4, i₂, 0⟩,
              ⟨ipv4ToIpv6Map (beNat a4), 0, 0, 0, i₁, 0⟩]
          else
            [⟨beNat a6, storageNat ss.bytes 2 2, storageNat ss.bytes 4 4, storageNat ss.bytes 24 4,
                i₁, 0⟩,
              ⟨ipv4ToIpv6Map (beNat a4), 0, 0, 0, i₁, 0⟩,
              ⟨beNat a6, storageNat ss.bytes 2 2, beNat a4, storageNat ss.bytes 24 4, i₂, 0⟩],
          3, addressChangeTime env⟩) := by
  obtain ⟨hA, hB, hne⟩ := ne_ipv4ToIpv6Map_of_filter hpass6 h4
  obtain ⟨bytes, hlen⟩ := ss
  obtain ⟨ss₁, hw₁, hl₁⟩ := bufWrite_ok (show 8 + a6.length ≤ bytes.length by
    rw [hlen, h6]; decide)
  obtain ⟨ss₂, hw₂, hl₂⟩ := bufWrite_ok (show 4 + a4.length ≤ ss₁.length by
    rw [hl₁, hlen, h4]; decide)
  obtain ⟨ss₃, hw₃, -⟩ := bufWrite_ok (show 8 + a6.length ≤ ss₂.length by
    rw [hl₂, hl₁, hlen, h6]; decide)
  -- what each message reads: its own copy, and the bytes earlier copies or the stack left
  obtain ⟨hA₁, hp₁, hf₁, hs₁⟩ := storageNat_bufWrite_inet6 hw₁ h6
  obtain ⟨hB₂, hp₂, hs₂⟩ := storageNat_bufWrite_inet hw₂ h4
  obtain ⟨hA₃, hp₃, hf₃, hs₃⟩ := storageNat_bufWrite_inet6 hw₃ h6
  have hv₁ : sockAddrOf ss₁ afInet6 = ⟨afInet6, beNat a6, storageNat bytes 2 2,
      storageNat bytes 4 4, storageNat bytes 24 4⟩ := by
    rw [sockAddrOf_inet6, hA₁, hp₁, hf₁, hs₁]
  have hv₂ : sockAddrOf ss₂ afInet =
      ⟨afInet, beNat a4, storageNat bytes 2 2, beNat a4, storageNat bytes 24 4⟩ := by
    rw [sockAddrOf_inet, hB₂, hp₂, hp₁, hs₂, hs₁]
  have hv₃ : sockAddrOf ss₃ afInet6 =
      ⟨afInet6, beNat a6, storageNat bytes 2 2, beNat a4, storageNat bytes 24 4⟩ := by
    rw [sockAddrOf_inet6, hA₃, hp₃, hp₂, hp₁, hf₃, hB₂, hs₃, hs₂, hs₁]
  unfold hipNetdevEvent
  dsimp only
  generalize storageNat bytes 2 2 = p₀ at hv₁ hv₂ hv₃ ⊢
  generalize storageNat bytes 4 4 = f₀ at hv₁ ⊢
  generalize storageNat bytes 24 4 = s₀ at hv₁ hv₂ hv₃ ⊢
  have hinet6 : afInet6 ≠ afInet := by decide
  -- the look-ups of the second and the third message miss
  have hnew₂ : hipExistsAddressInList [⟨beNat a6, p₀, f₀, s₀, i₁, 0⟩]
      ⟨afInet, beNat a4, p₀, beNat a4, s₀⟩ i₁ = false := by
    simp [hipExistsAddressInList, existsEntry, hA, show (afInet == afInet6) = false from rfl]
  have hnew₃ : hipExistsAddressInList
      [⟨beNat a6, p₀, f₀, s₀, i₁, 0⟩, ⟨ipv4ToIpv6Map (beNat a4), 0, 0, 0, i₁, 0⟩]
      ⟨afInet6, beNat a6, p₀, beNat a4, s₀⟩ i₂ = false := by
    simp [hipExistsAddressInList, existsEntry, hA, hB, hipCastSaAddrIn, hinet6,
      beq_false_of_ne hif, beq_false_of_ne hif₂]
  -- the three adds
  have hadd₁ : hipAddAddressToList env.suppressAfFamily (sockAddrOf ss₁ afInet6) i₁ 0 netdevInit =
      ⟨[⟨beNat a6, p₀, f₀, s₀, i₁, 0⟩], 1, 0⟩ := by
    rw [hv₁, hipAddAddressToList_of_new, storedEntry_inet6]
    · rfl
    · rfl
    · exact (@filterAddress_eq_of_addr _ _ ⟨afInet6, beNat a6, 0, 0, 0⟩ rfl rfl).trans hpass6
  have hadd₂ : hipAddAddressToList env.suppressAfFamily (sockAddrOf ss₂ afInet) i₁ 0
      ⟨[⟨beNat a6, p₀, f₀, s₀, i₁, 0⟩], 1, addressChangeTime env⟩ =
      ⟨[⟨beNat a6, p₀, f₀, s₀, i₁, 0⟩, ⟨ipv4ToIpv6Map (beNat a4), 0, 0, 0, i₁, 0⟩], 2,
        addressChangeTime env⟩ := by
    rw [hv₂, hipAddAddressToList_of_new, storedEntry_inet]
    · simp [listAdd, NetdevAddress.key, hne]
    · exact hnew₂
    · exact (@filterAddress_eq_of_addr _ _ ⟨afInet, beNat a4, 0, 0, 0⟩ rfl rfl).trans hpass4
  have hadd₃ : hipAddAddressToList env.suppressAfFamily (sockAddrOf ss₃ afInet6) i₂ 0
      ⟨[⟨beNat a6, p₀, f₀, s₀, i₁, 0⟩, ⟨ipv4ToIpv6Map (beNat a4), 0, 0, 0, i₁, 0⟩], 2,
        addressChangeTime env⟩ =
      ⟨if f₀ = beNat a4 then
          [⟨beNat a6, p₀, beNat a4, s₀, i₂, 0⟩, ⟨ipv4ToIpv6Map (beNat a4), 0, 0, 0, i₁, 0⟩]
        else
          [⟨beNat a6, p₀, f₀, s₀, i₁, 0⟩, ⟨ipv4ToIpv6Map (beNat a4), 0, 0, 0, i₁, 0⟩,
            ⟨beNat a6, p₀, beNat a4, s₀, i₂, 0⟩], 3, addressChangeTime env⟩ := by
    rw [hv₃, hipAddAddressToList_of_new, storedEntry_inet6]
    · by_cases hf : f₀ = beNat a4 <;> simp [listAdd, NetdevAddress.key, hne, Ne.symm hne, hf]
    · exact hnew₃
    · exact (@filterAddress_eq_of_addr _ _ ⟨afInet6, beNat a6, 0, 0, 0⟩ rfl rfl).trans hpass6
  -- the loop, message by message
  refine (netdevEventLoop_add _ (by rfl) hwhite (.inr (by rfl)) (by rfl) hw₁ (by rfl)).trans ?_
  dsimp only
  rw [hadd₁]
  refine (netdevEventLoop_add _ (by rfl) hwhite (.inl (by rfl)) (by rfl) hw₂
    (by simpa only [hv₂] using hnew₂)).trans ?_
  dsimp only
  rw [hadd₂]
  refine (netdevEventLoop_add _ (by rfl) hwhite (.inr (by rfl)) (by rfl) hw₃
    (by simpa only [hv₃] using hnew₃)).trans ?_
  dsimp only
  rw [hadd₃]
  rfl

end StaleFlowinfo

/-- `2001:db8::1` on interfaces 1 and 2 around `10.0.0.1`, from a zeroed `ss_addr`. -/
theorem hipNetdevEvent_docAddressTwice :
    hipNetdevEvent ⟨0, [], false, 0⟩
        [⟨rtmNewaddr, 1, afInet6, [⟨ifaLocal, [0x20, 0x01, 0x0d, 0xb8, 0, 0, 0, 0, 0, 0, 0, 0, 0, 0,
            0, 1]⟩]⟩,
          ⟨rtmNewaddr, 1, afInet, [⟨ifaLocal, [10, 0, 0, 1]⟩]⟩,
          ⟨rtmNewaddr, 2, afInet6, [⟨ifaLocal, [0x20, 0x01, 0x0d, 0xb8, 0, 0, 0, 0, 0, 0, 0, 0, 0,
            0, 0, 1]⟩]⟩] netdevInit
        ⟨List.replicate sizeofSockaddrStorage 0, List.length_replicate _ _⟩ =
      .ok (.ret 0,
        ⟨if storageNat (List.replicate sizeofSockaddrStorage 0) 4 4 = beNat [10, 0, 0, 1] then
            [⟨beNat [0x20, 0x01, 0x0d, 0xb8, 0, 0, 0, 0, 0, 0, 0, 0, 0, 0, 0, 1],
                storageNat (List.replicate sizeofSockaddrStorage 0) 2 2, beNat [10, 0, 0, 1],
                storageNat (List.replicate sizeofSockaddrStorage 0) 24 4, 2, 0⟩,
              ⟨ipv4ToIpv6Map (beNat [10, 0, 0, 1]), 0, 0, 0, 1, 0⟩]
          else
            [⟨beNat [0x20, 0x01, 0x0d, 0xb8, 0, 0, 0, 0, 0, 0, 0, 0, 0, 0, 0, 1],
                storageNat (List.replicate sizeofSockaddrStorage 0) 2 2,
                storageNat (List.replicate sizeofSockaddrStorage 0) 4 4,
                storageNat (List.replicate sizeofSockaddrStorage 0) 24 4, 1, 0⟩,
              ⟨ipv4ToIpv6Map (beNat [10, 0, 0, 1]), 0, 0, 0, 1, 0⟩,
              ⟨beNat [0x20, 0x01, 0x0d, 0xb8, 0, 0, 0, 0, 0, 0, 0, 0, 0, 0, 0, 1],
                storageNat (List.replicate sizeofSockaddrStorage 0) 2 2, beNat [10, 0, 0, 1],
                storageNat (List.replicate sizeofSockaddrStorage 0) 24 4, 2, 0⟩],
          3, addressChangeTime ⟨0, [], false, 0⟩⟩) :=
  hipNetdevEvent_addressTwice ⟨List.replicate sizeofSockaddrStorage 0, List.length_replicate _ _⟩
    rfl rfl rfl (by decide) (by decide) (by decide) (by decide)


end Hipl.Hipd
