import Mathlib.Algebra.Ring.Nat
import Mathlib.Data.Bool.Basic

/-!
# `ipaddress`

What Python's `ipaddress` says of an address, once its text is a number: the networks it is in
(`is_global`, `is_private` and the like), and the IPv4 address inside an IPv6 address that is a
form of the transition from one to the other. The tables are those of Python 3.13, which earlier
versions have from 3.11.10 and 3.12.4 on.
-/

namespace IpAddresses

/-- `ip_network`: the first `length` bits are those of the address. -/
structure Network (w : Nat) where
  address : BitVec w
  length : Nat

namespace Network

variable {w : Nat}

/-- `address in network`. -/
def contains (n : Network w) (a : BitVec w) : Bool :=
  a >>> (w - n.length) == n.address >>> (w - n.length)

/-- Inside a network, being in a larger one does not depend on the address. -/
theorem contains_congr {m n : Network w} (hlength : m.length ≤ n.length) (hwidth : n.length ≤ w)
    {a : BitVec w} (h : n.contains a = true) : m.contains a = m.contains n.address := by
  have hsplit : w - m.length = (w - n.length) + (n.length - m.length) := by omega
  have hsame : a >>> (w - n.length) = n.address >>> (w - n.length) := by
    simpa [contains] using h
  unfold contains
  rw [hsplit, BitVec.shiftRight_add, BitVec.shiftRight_add n.address, hsame]

theorem not_contains {m n : Network w} (hlength : n.length ≤ m.length) (hwidth : m.length ≤ w)
    (hapart : n.contains m.address = false) {a : BitVec w} (h : n.contains a = true) :
    m.contains a = false := by
  cases hm : m.contains a with
  | false => rfl
  | true =>
    rw [contains_congr hlength hwidth hm, hapart] at h
    cases h

end Network

/-! ## IPv4 -/

abbrev IPv4Address := BitVec 32

def ipv4 (a b c d : Nat) : IPv4Address :=
  BitVec.ofNat 32 (a * 0x1000000 + b * 0x10000 + c * 0x100 + d)

namespace IPv4Address

variable (a : IPv4Address)

def privateNetworks : List (Network 32) :=
  [⟨ipv4 0 0 0 0, 8⟩, ⟨ipv4 10 0 0 0, 8⟩, ⟨ipv4 127 0 0 0, 8⟩, ⟨ipv4 169 254 0 0, 16⟩,
    ⟨ipv4 172 16 0 0, 12⟩, ⟨ipv4 192 0 0 0, 24⟩, ⟨ipv4 192 0 0 170, 31⟩, ⟨ipv4 192 0 2 0, 24⟩,
    ⟨ipv4 192 168 0 0, 16⟩, ⟨ipv4 198 18 0 0, 15⟩, ⟨ipv4 198 51 100 0, 24⟩,
    ⟨ipv4 203 0 113 0, 24⟩, ⟨ipv4 240 0 0 0, 4⟩, ⟨ipv4 255 255 255 255, 32⟩]

def privateNetworksExceptions : List (Network 32) :=
  [⟨ipv4 192 0 0 9, 32⟩, ⟨ipv4 192 0 0 10, 32⟩]

def isPrivate : Bool :=
  privateNetworks.any (·.contains a) && privateNetworksExceptions.all (!·.contains a)

def isGlobal : Bool := !(Network.mk (ipv4 100 64 0 0) 10).contains a && !isPrivate a

def isLoopback : Bool := (Network.mk (ipv4 127 0 0 0) 8).contains a

def isLinkLocal : Bool := (Network.mk (ipv4 169 254 0 0) 16).contains a

def isMulticast : Bool := (Network.mk (ipv4 224 0 0 0) 4).contains a

def isReserved : Bool := (Network.mk (ipv4 240 0 0 0) 4).contains a

def isUnspecified : Bool := a == 0

/-- An address of the public Internet. -/
def isPublic : Bool :=
  isGlobal a && !isPrivate a && !isLoopback a && !isLinkLocal a && !isMulticast a && !isReserved a
    && !isUnspecified a

end IPv4Address

/-! ## IPv6 -/

abbrev IPv6Address := BitVec 128

/-- The address that begins with some groups of 16 bits, and then has zeros. -/
def ipv6 (groups : List Nat) : IPv6Address :=
  BitVec.ofNat 128
    (groups.foldl (fun n group => n * 0x10000 + group) 0 * 0x10000 ^ (8 - groups.length))

namespace IPv6Address

variable (a : IPv6Address)

def privateNetworks : List (Network 128) :=
  [⟨ipv6 [0, 0, 0, 0, 0, 0, 0, 1], 128⟩, ⟨ipv6 [], 128⟩, ⟨ipv6 [0, 0, 0, 0, 0, 0xffff], 96⟩,
    ⟨ipv6 [0x64, 0xff9b, 1], 48⟩, ⟨ipv6 [0x100], 64⟩, ⟨ipv6 [0x2001], 23⟩,
    ⟨ipv6 [0x2001, 0xdb8], 32⟩, ⟨ipv6 [0x2002], 16⟩, ⟨ipv6 [0xfc00], 7⟩, ⟨ipv6 [0xfe80], 10⟩]

def privateNetworksExceptions : List (Network 128) :=
  [⟨ipv6 [0x2001, 1, 0, 0, 0, 0, 0, 1], 128⟩, ⟨ipv6 [0x2001, 1, 0, 0, 0, 0, 0, 2], 128⟩,
    ⟨ipv6 [0x2001, 3], 32⟩, ⟨ipv6 [0x2001, 4, 0x112], 48⟩, ⟨ipv6 [0x2001, 0x20], 28⟩,
    ⟨ipv6 [0x2001, 0x30], 28⟩]

def reservedNetworks : List (Network 128) :=
  [⟨ipv6 [], 8⟩, ⟨ipv6 [0x100], 8⟩, ⟨ipv6 [0x200], 7⟩, ⟨ipv6 [0x400], 6⟩, ⟨ipv6 [0x800], 5⟩,
    ⟨ipv6 [0x1000], 4⟩, ⟨ipv6 [0x4000], 3⟩, ⟨ipv6 [0x6000], 3⟩, ⟨ipv6 [0x8000], 3⟩,
    ⟨ipv6 [0xa000], 3⟩, ⟨ipv6 [0xc000], 3⟩, ⟨ipv6 [0xe000], 4⟩, ⟨ipv6 [0xf000], 5⟩,
    ⟨ipv6 [0xf800], 6⟩, ⟨ipv6 [0xfe00], 9⟩]

/-- The last 32 bits. -/
def low : IPv4Address := a.truncate 32

def mappedNetwork : Network 128 := ⟨ipv6 [0, 0, 0, 0, 0, 0xffff], 96⟩

def ipv4Mapped : Option IPv4Address := if mappedNetwork.contains a then some (low a) else none

/-- `is_private` of an address that is not an IPv4-mapped one. -/
def isPrivate : Bool :=
  privateNetworks.any (·.contains a) && privateNetworksExceptions.all (!·.contains a)

/-- `is_global` of an address that is not an IPv4-mapped one. -/
def isGlobal : Bool := !isPrivate a

def isLoopback : Bool := a == 1

def isLinkLocal : Bool := (Network.mk (ipv6 [0xfe80]) 10).contains a

def isMulticast : Bool := (Network.mk (ipv6 [0xff00]) 8).contains a

def isReserved : Bool := reservedNetworks.any (·.contains a)

def isUnspecified : Bool := a == 0

def isPublic : Bool :=
  isGlobal a && !isPrivate a && !isLoopback a && !isLinkLocal a && !isMulticast a && !isReserved a
    && !isUnspecified a

/-! ### Forms of the transition -/

/-- `::a.b.c.d`. -/
def compatibleNetwork : Network 128 := ⟨ipv6 [], 96⟩

/-- `::ffff:0:a.b.c.d`. -/
def translatedNetwork : Network 128 := ⟨ipv6 [0, 0, 0, 0, 0xffff], 96⟩

/-- `2002:aabb:ccdd::`. -/
def sixToFourNetwork : Network 128 := ⟨ipv6 [0x2002], 16⟩

/-- Teredo. -/
def teredoNetwork : Network 128 := ⟨ipv6 [0x2001], 32⟩

/-- NAT64: the well-known network, and the one for local use. -/
def nat64Network : Network 128 := ⟨ipv6 [0x64, 0xff9b], 96⟩

def nat64LocalNetwork : Network 128 := ⟨ipv6 [0x64, 0xff9b, 1], 48⟩

/--
The IPv4 addresses inside an address that a network reserved for the transition has: the server and
the client of Teredo, and for the local NAT64 both places that its address can have.
-/
def embedded : List IPv4Address :=
  if mappedNetwork.contains a || compatibleNetwork.contains a || translatedNetwork.contains a
      || nat64Network.contains a then [low a]
  else if sixToFourNetwork.contains a then [low (a >>> 80)]
  else if teredoNetwork.contains a then [low (a >>> 64), low (~~~a)]
  else if nat64LocalNetwork.contains a then
    [low a, (a >>> 64).truncate 16 ++ (a >>> 40).truncate 16]
  else []

/-- The IPv4 address in the interface identifier of ISATAP, which an address of any network can
have. -/
def isatap : Option IPv4Address :=
  let identifier : BitVec 32 := (a >>> 32).truncate 32
  if identifier = 0x00005efe ∨ identifier = 0x02005efe then some (low a) else none

theorem not_isPublic_of_reserved {n m : Network 128} (hm : m ∈ reservedNetworks)
    (hlength : m.length ≤ n.length) (hwidth : n.length ≤ 128)
    (hinside : m.contains n.address = true) (h : n.contains a = true) : isPublic a = false := by
  have hreserved : isReserved a = true :=
    List.any_eq_true.mpr ⟨m, hm, (Network.contains_congr hlength hwidth h).trans hinside⟩
  simp [isPublic, hreserved]

theorem not_isPublic_of_private {n m : Network 128} (hm : m ∈ privateNetworks)
    (hlength : m.length ≤ n.length) (hwidth : n.length ≤ 128)
    (hinside : m.contains n.address = true)
    (hexceptions : ∀ e ∈ privateNetworksExceptions,
      (n.length ≤ e.length ∧ e.length ≤ 128 ∧ n.contains e.address = false) ∨
        (e.length ≤ n.length ∧ e.contains n.address = false))
    (h : n.contains a = true) : isPublic a = false := by
  have hany : privateNetworks.any (·.contains a) = true :=
    List.any_eq_true.mpr ⟨m, hm, (Network.contains_congr hlength hwidth h).trans hinside⟩
  have hall : privateNetworksExceptions.all (!·.contains a) = true := by
    refine List.all_eq_true.mpr fun e he => ?_
    obtain ⟨hlonger, hbound, hapart⟩ | ⟨hshorter, hapart⟩ := hexceptions e he
    · simp [Network.not_contains hlonger hbound hapart h]
    · simp [Network.contains_congr hshorter hwidth h, hapart]
  simp [isPublic, isPrivate, hany, hall]

theorem embedded_eq_nil (hmapped : mappedNetwork.contains a = false) (h : isPublic a = true) :
    embedded a = [] := by
  have hnot : ∀ n : Network 128, (n.contains a = true → isPublic a = false) →
      n.contains a = false := by
    intro n hn
    cases hc : n.contains a with
    | false => rfl
    | true =>
      rw [hn hc] at h
      cases h
  have hzero : (⟨ipv6 [], 8⟩ : Network 128) ∈ reservedNetworks := List.mem_cons_self
  have hcompatible := hnot compatibleNetwork
    (not_isPublic_of_reserved a hzero (by decide) (by decide) (by decide))
  have htranslated := hnot translatedNetwork
    (not_isPublic_of_reserved a hzero (by decide) (by decide) (by decide))
  have hnat64 := hnot nat64Network
    (not_isPublic_of_reserved a hzero (by decide) (by decide) (by decide))
  have hlocal := hnot nat64LocalNetwork
    (not_isPublic_of_reserved a hzero (by decide) (by decide) (by decide))
  have hsixToFour := hnot sixToFourNetwork
    (not_isPublic_of_private a (m := ⟨ipv6 [0x2002], 16⟩) (by simp [privateNetworks]) (by decide)
      (by decide) (by decide) (by decide))
  have hteredo := hnot teredoNetwork
    (not_isPublic_of_private a (m := ⟨ipv6 [0x2001], 23⟩) (by simp [privateNetworks]) (by decide)
      (by decide) (by decide) (by decide))
  simp [embedded, hmapped, hcompatible, htranslated, hnat64, hlocal, hsixToFour, hteredo]

end IPv6Address

/-! ## Addresses of either kind -/

inductive Address where
  | v4 (a : IPv4Address)
  | v6 (a : IPv6Address)
  deriving DecidableEq

namespace Address

def isIPv6 : Address → Bool
  | .v4 _ => false
  | .v6 _ => true

/-- The address that is classified in the place of an IPv4-mapped one is the one inside it. -/
def unmapped : Address → Address
  | .v4 a => .v4 a
  | .v6 a => ((IPv6Address.ipv4Mapped a).map .v4).getD (.v6 a)

def isPublic : Address → Bool
  | .v4 a => IPv4Address.isPublic a
  | .v6 a => IPv6Address.isPublic a

/-- The IPv4 addresses inside an address. -/
def embedded : Address → List IPv4Address
  | .v4 _ => []
  | .v6 a => IPv6Address.embedded a

/-- A public IPv6 address has no IPv4 address inside that is not public. -/
theorem isPublic_embedded {a : Address} (h : a.unmapped.isPublic = true) :
    ∀ e ∈ a.embedded, IPv4Address.isPublic e = true := by
  cases a with
  | v4 a => exact fun e he => absurd he List.not_mem_nil
  | v6 a =>
    intro e he
    cases hmapped : IPv6Address.mappedNetwork.contains a with
    | true =>
      simp only [embedded, IPv6Address.embedded, hmapped, Bool.true_or, if_true,
        List.mem_singleton] at he
      simp only [unmapped, IPv6Address.ipv4Mapped, hmapped, if_true, Option.map_some,
        Option.getD_some, isPublic] at h
      rwa [he]
    | false =>
      simp only [unmapped, IPv6Address.ipv4Mapped, hmapped, Bool.false_eq_true, if_false,
        Option.map_none, Option.getD_none, isPublic] at h
      simp only [embedded, IPv6Address.embedded_eq_nil a hmapped h] at he
      exact absurd he List.not_mem_nil

end Address

end IpAddresses
