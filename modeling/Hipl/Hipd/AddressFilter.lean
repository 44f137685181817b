import Hipl.Hipd.Netdev

/-!
# What the address filter and the address look-up decide

`filter_address` decides which addresses may be the local host's, and
`hip_exists_address_in_list` whether the cache already holds an address on an interface. Both
are meant as predicates over the address, and this module says for which addresses they are.

The IPv4 multicast test of the filter is `IN_MULTICAST(ntohs(a_in))`: `ntohs` keeps 16 bits of
the address, and no 16-bit value lies in `224.0.0.0/4`, so the test never fires
(`inMulticast_ntohsOfInAddr`) and every IPv4 multicast address passes the filter unless IPv4 is
suppressed (`ipv4Multicast_passesFilter`).

The look-up is exact for an IPv4 query, which it compares with the last four bytes of each
mapped entry (`hipExistsAddressInList_inet`). For an IPv6 query it reads the first four bytes of
the IPv6 address as the IPv4 address to compare with a mapped entry: a mapped entry whose IPv4
address is the IPv6 address's first four bytes hides that IPv6 address from the cache, and the
mapped IPv6 form of a cached IPv4 address is not found (`v4MappedEntry_shadowsIpv6`).
-/

set_option autoImplicit false
set_option relaxedAutoImplicit false

namespace Hipl.Hipd

open Hipl.Wire

/-! ### The address filter -/

/-- The 16 bits `ntohs` keeps of an IPv4 address never lie in `224.0.0.0/4`. -/
theorem inMulticast_ntohsOfInAddr {addr : Nat} (h : addr < 2 ^ 32) :
    inMulticast (ntohsOfInAddr addr) = false := by
  simp only [inMulticast, ntohsOfInAddr, decide_eq_false_iff_not]
  omega

/-- The filter on an IPv4 address: suppressed IPv4, `INADDR_ANY`, the broadcast address, an LSI
and a loopback address are ignored; the multicast test drops out. -/
theorem filterAddress_inet (suppressAfFamily : Nat) {addr port flowinfo scopeId : Nat}
    (h : addr < 2 ^ 32) :
    filterAddress suppressAfFamily ⟨afInet, addr, port, flowinfo, scopeId⟩ =
      !(suppressAfFamily == afInet6 || addr == 0 || addr == inaddrBroadcast || isLsi32 addr ||
        isIpv4Loopback addr) := by
  simp only [filterAddress, isLsi, inMulticast_ntohsOfInAddr h, Bool.or_false, Bool.or_self,
    if_true, show afInet ≠ afInet6 by decide, if_false]
  cases isLsi32 addr <;> simp

/-- Every IPv4 multicast address passes the filter unless IPv4 addresses are suppressed. -/
theorem ipv4Multicast_passesFilter (suppressAfFamily : Nat) {addr port flowinfo scopeId : Nat}
    (hsup : suppressAfFamily ≠ afInet6) (h : addr < 2 ^ 32) (hm : inMulticast addr = true) :
    filterAddress suppressAfFamily ⟨afInet, addr, port, flowinfo, scopeId⟩ = true := by
  rw [filterAddress_inet suppressAfFamily h]
  simp only [inMulticast, decide_eq_true_eq] at hm
  simp only [isLsi32, isIpv4Loopback, inaddrBroadcast, Bool.not_eq_true', Bool.or_eq_false_iff,
    beq_eq_false_iff_ne, ne_eq, decide_eq_false_iff_not]
  omega

/-- `224.0.0.1`, all hosts, passes the filter. -/
theorem ipv4Multicast_passesFilter_allHosts :
    (0 : Nat) ≠ afInet6 ∧ 0xe0000001 < 2 ^ 32 ∧ inMulticast 0xe0000001 = true ∧
      filterAddress 0 ⟨afInet, 0xe0000001, 0, 0, 0⟩ = true :=
  ⟨by decide, by decide, by decide,
    ipv4Multicast_passesFilter 0 (by decide) (by decide) (by decide)⟩

/-! ### The address look-up -/

/-- What the look-up is meant to decide: whether an entry on the interface, or on any when
`ifindex` is -1, holds the address in the IPv6 form the cache stores. -/
def addressInCache (addresses : List NetdevAddress) (addr : SockAddr) (ifindex : Int) : Bool :=
  addresses.any fun n ↦ (n.ifIndex == ifindex || ifindex == -1) && n.addr == storedAddr addr

/-- An entry answers an IPv4 query exactly when it holds the query's mapped form. -/
theorem existsEntry_inet (ifindex : Int) (n : NetdevAddress) {addr port flowinfo scopeId : Nat}
    (h : addr < 2 ^ 32) :
    existsEntry ⟨afInet, addr, port, flowinfo, scopeId⟩ ifindex n =
      ((n.ifIndex == ifindex || ifindex == -1) && n.addr == ipv4ToIpv6Map addr) := by
  unfold existsEntry
  cases hm : in6IsAddrV4Mapped n.addr
  · have hne : (n.addr == ipv4ToIpv6Map addr) = false :=
      beq_eq_false_iff_ne.mpr fun he ↦ by rw [he, (ipv4ToIpv6Map_mapped h).1] at hm; cases hm
    simp [hne, show afInet ≠ afInet6 by decide]
  · simp only [in6IsAddrV4Mapped, decide_eq_true_eq] at hm
    have hm' : n.addr / 2 ^ 32 = 0xffff := hm
    have hiff : (n.addr % 2 ^ 32 == addr) = (n.addr == ipv4ToIpv6Map addr) := by
      unfold ipv4ToIpv6Map
      rw [Bool.eq_iff_iff, beq_iff_eq, beq_iff_eq]
      omega
    simp only [hipCastSaAddrIn, if_true, Bool.true_and, hiff]

/-- For an IPv4 query the look-up decides what it is meant to. -/
theorem hipExistsAddressInList_inet (addresses : List NetdevAddress) (ifindex : Int)
    {addr port flowinfo scopeId : Nat} (h : addr < 2 ^ 32) :
    hipExistsAddressInList addresses ⟨afInet, addr, port, flowinfo, scopeId⟩ ifindex =
      addressInCache addresses ⟨afInet, addr, port, flowinfo, scopeId⟩ ifindex := by
  unfold hipExistsAddressInList addressInCache
  congr 1
  funext n
  rw [existsEntry_inet ifindex n h]
  rfl

/-- `10.0.0.1` asked on interface 2 of a table holding it on interface 1. -/
theorem hipExistsAddressInList_tenDotOne :
    (0x0a000001 : Nat) < 2 ^ 32 ∧
    hipExistsAddressInList [⟨ipv4ToIpv6Map 0x0a000001, 0, 0, 0, 1, 0⟩]
        ⟨afInet, 0x0a000001, 0, 0, 0⟩ 2 =
      addressInCache [⟨ipv4ToIpv6Map 0x0a000001, 0, 0, 0, 1, 0⟩] ⟨afInet, 0x0a000001, 0, 0, 0⟩ 2 :=
  ⟨by decide, hipExistsAddressInList_inet _ _ (by decide)⟩

/-- `::ffff:32.1.13.184` cached on interface 1 makes `2001:db8::1`, whose first four bytes are
`32.1.13.184`, found on interface 1, and an add of `2001:db8::1` there leaves the cache as it is;
`::ffff:1.2.3.4` cached on interface 1 is not found by its own IPv6 form. -/
theorem v4MappedEntry_shadowsIpv6 (suppressAfFamily : Nat) :
    hipExistsAddressInList [⟨ipv4ToIpv6Map 0x20010db8, 0, 0, 0, 1, 0⟩]
        ⟨afInet6, 0x20010db8000000000000000000000001, 0, 0, 0⟩ 1 = true ∧
      addressInCache [⟨ipv4ToIpv6Map 0x20010db8, 0, 0, 0, 1, 0⟩]
        ⟨afInet6, 0x20010db8000000000000000000000001, 0, 0, 0⟩ 1 = false ∧
      hipAddAddressToList suppressAfFamily
          ⟨afInet6, 0x20010db8000000000000000000000001, 0, 0, 0⟩ 1 0
          ⟨[⟨ipv4ToIpv6Map 0x20010db8, 0, 0, 0, 1, 0⟩], 1, 0⟩ =
        ⟨[⟨ipv4ToIpv6Map 0x20010db8, 0, 0, 0, 1, 0⟩], 1, 0⟩ ∧
      hipExistsAddressInList [⟨ipv4ToIpv6Map 0x01020304, 0, 0, 0, 1, 0⟩]
        ⟨afInet6, ipv4ToIpv6Map 0x01020304, 0, 0, 0⟩ 1 = false ∧
      addressInCache [⟨ipv4ToIpv6Map 0x01020304, 0, 0, 0, 1, 0⟩]
        ⟨afInet6, ipv4ToIpv6Map 0x01020304, 0, 0, 0⟩ 1 = true := by
  refine ⟨by decide, by decide, ?_, by decide, by decide⟩
  simp only [hipAddAddressToList]
  rw [if_pos (by decide)]

end Hipl.Hipd
