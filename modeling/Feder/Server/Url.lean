import Mathlib.Tactic.Common

/-!
# Outbound addresses

`url.rs` and `config.rs`: the networks that are not public and the check of one address.  An IPv4
address is a 32-bit word, an IPv6 address a 128-bit word.
-/

namespace Feder

inductive OutboundAddressPolicy where
  | PublicOnly
  | AllowPrivateAddress
deriving DecidableEq

inductive IpAddr where
  | V4 (address : BitVec 32)
  | V6 (address : BitVec 128)
deriving DecidableEq

/-- a network: the first `length` bits of its addresses are those of `address` -/
inductive IpNet where
  | V4 (address : BitVec 32) (length : Nat)
  | V6 (address : BitVec 128) (length : Nat)
deriving DecidableEq

def IpNet.contains : IpNet → IpAddr → Bool
  | .V4 network length, .V4 address => address >>> (32 - length) == network >>> (32 - length)
  | .V6 network length, .V6 address => address >>> (128 - length) == network >>> (128 - length)
  | _, _ => false

/-- the IPv4 address `a.b.c.d` -/
def ipv4 (a b c d : BitVec 8) : BitVec 32 := a ++ b ++ c ++ d

/-- the IPv6 address with the given groups -/
def ipv6 (a b c d e f g h : BitVec 16) : BitVec 128 := a ++ b ++ c ++ d ++ e ++ f ++ g ++ h

/-- `NON_PUBLIC_NETWORK_CIDRS`, read as networks -/
def nonPublicNetworks : List IpNet :=
  [.V4 (ipv4 0 0 0 0) 8, .V4 (ipv4 10 0 0 0) 8, .V4 (ipv4 100 64 0 0) 10,
    .V4 (ipv4 127 0 0 0) 8, .V4 (ipv4 169 254 0 0) 16, .V4 (ipv4 172 16 0 0) 12,
    .V4 (ipv4 192 0 0 0) 24, .V4 (ipv4 192 0 2 0) 24, .V4 (ipv4 192 88 99 0) 24,
    .V4 (ipv4 192 168 0 0) 16, .V4 (ipv4 198 18 0 0) 15, .V4 (ipv4 198 51 100 0) 24,
    .V4 (ipv4 203 0 113 0) 24, .V4 (ipv4 224 0 0 0) 4, .V4 (ipv4 240 0 0 0) 4,
    .V6 (ipv6 0 0 0 0 0 0 0 0) 128, .V6 (ipv6 0 0 0 0 0 0 0 1) 128,
    .V6 (ipv6 0x64 0xff9b 0 0 0 0 0 0) 96, .V6 (ipv6 0x64 0xff9b 1 0 0 0 0 0) 48,
    .V6 (ipv6 0x100 0 0 0 0 0 0 0) 64, .V6 (ipv6 0x100 0 0 1 0 0 0 0) 64,
    .V6 (ipv6 0x2001 0 0 0 0 0 0 0) 23, .V6 (ipv6 0x2001 0xdb8 0 0 0 0 0 0) 32,
    .V6 (ipv6 0x2002 0 0 0 0 0 0 0) 16, .V6 (ipv6 0x3fff 0 0 0 0 0 0 0) 20,
    .V6 (ipv6 0x5f00 0 0 0 0 0 0 0) 16, .V6 (ipv6 0xfc00 0 0 0 0 0 0 0) 7,
    .V6 (ipv6 0xfec0 0 0 0 0 0 0 0) 10, .V6 (ipv6 0xfe80 0 0 0 0 0 0 0) 10,
    .V6 (ipv6 0xff00 0 0 0 0 0 0 0) 8]

/-- the address behind `::ffff:a.b.c.d` -/
def toIpv4Mapped (address : BitVec 128) : Option (BitVec 32) :=
  if address >>> 32 = 0xffff#128 then some (address.truncate 32) else none

def validateNetworks (address : IpAddr) : Except IpAddr Unit :=
  if nonPublicNetworks.any (fun network => network.contains address) then .error address
  else .ok ()

def validatePublicAddress : IpAddr → Except IpAddr Unit
  | .V6 address =>
    -- a mapped address is judged as the IPv4 address, which is not unwrapped again
    match toIpv4Mapped address with
    | some mapped => validateNetworks (.V4 mapped)
    | none => validateNetworks (.V6 address)
  | .V4 address => validateNetworks (.V4 address)

inductive Host where
  | Domain (name : String)
  | Ipv4 (address : BitVec 32)
  | Ipv6 (address : BitVec 128)
deriving DecidableEq

def validateLiteralHost (host : Option Host) (policy : OutboundAddressPolicy) :
    Except IpAddr Unit :=
  if policy = .AllowPrivateAddress then .ok ()
  else
    match host with
    | some (.Ipv4 address) => validatePublicAddress (.V4 address)
    | some (.Ipv6 address) => validatePublicAddress (.V6 address)
    | some (.Domain _) | none => .ok ()

end Feder
