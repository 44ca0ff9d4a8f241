import Mathlib.Algebra.Order.Ring.Int
import Mathlib.Data.List.Basic

/-!
# Connections, proxies and their options

The value types that the user fills in and every other part of the library reads:
network configuration, connection options, endpoints, proxies and connections, with the
predicates that decide how an endpoint may be reached.

Strings and stored socket addresses are byte lists. The layout of a `sockaddr` is the
Linux one: a little-endian family, then for IPv4 and IPv6 the port in network order.
Reading past a short stored address sees the zeros of the `sockaddr_storage` it is
copied into. `getnameinfo` belongs to the C library and is a parameter.
-/

namespace LibBtcNet

/-- A byte string, for `std::string`, `std::vector<unsigned char>` and raw memory. -/
abbrev Bytes := List UInt8

/-- `typedef int64_t ConnID`. -/
abbrev ConnID := ℤ

/-- Conversion to `size_t` or `uint64_t`. -/
def sizeT (value : ℤ) : ℕ := (value % 2 ^ 64).toNat

/-- `static_cast<int>` of a `size_t`. -/
def sizeToInt (size : ℕ) : ℤ := Int.bmod size (2 ^ 32)

/-- A nonnegative value below the modulus converts to itself. -/
theorem sizeT_of_nonneg {value : ℤ} (hpos : 0 ≤ value) (hlt : value < 2 ^ 64) :
    sizeT value = value.toNat := by
  rw [sizeT, Int.emod_eq_of_lt hpos hlt]

/-- A size below half the range of `int` keeps its value. -/
theorem sizeToInt_of_lt {size : ℕ} (h : size < 2 ^ 31) : sizeToInt size = size := by
  apply Int.bmod_eq_of_le <;> omega

/-- `CNetworkConfig`. -/
structure CNetworkConfig where
  headerMsgSizeOffset : Int32
  headerMsgSizeSize : Int32
  headerSize : Int32
  messageMaxSize : UInt32
  messageStart : Bytes
  chunkSize : Int32
deriving DecidableEq, Repr

/-- The number of bytes that hold the message start and the length field. The sum of the two
`int` fields is exact: an overflow of `int` is undefined. -/
def CNetworkConfig.sizeNeeded (config : CNetworkConfig) : ℤ :=
  config.headerMsgSizeOffset.toInt + config.headerMsgSizeSize.toInt

/-- `CConnectionOptions::Resolve`. -/
inductive Resolve where
  | noResolve
  | resolveOnly
  | resolveConnect
deriving DecidableEq, Repr

namespace Family

/-- `CConnectionOptions::IPV4`. -/
def ipv4 : ℕ := 1 <<< 1

/-- `CConnectionOptions::IPV6`. -/
def ipv6 : ℕ := 1 <<< 2

/-- `CConnectionOptions::UNIX`. -/
def unix : ℕ := 1 <<< 3

/-- `CConnectionOptions::ONION_PROXY`. -/
def onionProxy : ℕ := 1 <<< 4

/-- `CConnectionOptions::IP`. -/
def ip : ℕ := ipv4 ||| ipv6

/-- `(family & wanted) == wanted`. -/
def allows (family wanted : ℕ) : Bool := family &&& wanted == wanted

end Family

/-- `CConnectionOptions`; the family is its bit mask. -/
structure CConnectionOptions where
  fPersistent : Bool
  doResolve : Resolve
  nRetries : ℤ
  nConnTimeout : ℤ
  nRecvTimeout : ℤ
  nSendTimeout : ℤ
  nInitialTimeout : ℤ
  nMaxSendBuffer : ℤ
  nRetryInterval : ℤ
  nFamily : ℕ
deriving DecidableEq, Repr

/-- The default constructor; `NONE` is the bit `1 << 0`. -/
def CConnectionOptions.default : CConnectionOptions where
  fPersistent := false
  doResolve := .noResolve
  nRetries := 0
  nConnTimeout := 5
  nRecvTimeout := 60 * 20
  nSendTimeout := 60 * 20
  nInitialTimeout := 60
  nMaxSendBuffer := 5000000
  nRetryInterval := 1
  nFamily := 1

/-- `CConnectionBase`: an endpoint, by name or by stored socket address. -/
structure CConnectionBase where
  host : Bytes
  port : UInt16
  isDns : Bool
  isOnion : Bool
  isSet : Bool
  addr : Bytes
deriving DecidableEq, Repr

/-- The default constructor. -/
def CConnectionBase.unset : CConnectionBase := ⟨[], 0, false, false, false, []⟩

/-- The constructor from a `sockaddr` and its length. -/
def CConnectionBase.ofSockAddr (addr : Bytes) : CConnectionBase := ⟨[], 0, false, false, true, addr⟩

/-- `CProxyAuth`. -/
structure CProxyAuth where
  username : Bytes
  password : Bytes
  isSet : Bool
deriving DecidableEq, Repr

/-- `CProxy::Type`. -/
inductive ProxyType where
  | socks5
  | socks5ForceDomainType
deriving DecidableEq, Repr

/-- `CProxy`. -/
structure CProxy extends CConnectionBase where
  auth : CProxyAuth
  type : ProxyType
deriving DecidableEq, Repr

/-- The default constructor. -/
def CProxy.unset : CProxy := { CConnectionBase.unset with auth := ⟨[], [], false⟩, type := .socks5 }

/-- The constructor from socket address, type and authentication. -/
def CProxy.ofSockAddr (addr : Bytes) (proxytype : ProxyType) (authIn : CProxyAuth) : CProxy :=
  { CConnectionBase.ofSockAddr addr with auth := authIn, type := proxytype }

/-- `CConnection`: what the user asks to be connected, resolved or bound. -/
structure CConnection extends CConnectionBase where
  proxy : CProxy
  opts : CConnectionOptions
  netConfig : CNetworkConfig
deriving DecidableEq, Repr

/-- The constructor from options, network configuration, proxy and socket address. -/
def CConnection.ofSockAddr (opts : CConnectionOptions) (netConfig : CNetworkConfig) (proxy : CProxy)
    (addr : Bytes) : CConnection :=
  { CConnectionBase.ofSockAddr addr with proxy, opts, netConfig }

/-- `AF_UNIX`. -/
def afUnix : ℕ := 1

/-- `AF_INET`. -/
def afInet : ℕ := 2

/-- `AF_INET6`. -/
def afInet6 : ℕ := 10

/-- `sizeof(sockaddr_storage)`. -/
def sockaddrStorageSize : ℕ := 128

/-- `sizeof(sockaddr_in)`. -/
def sockaddrInSize : ℕ := 16

/-- `sizeof(sockaddr_in6)`. -/
def sockaddrIn6Size : ℕ := 28

/-- Byte `i` of a zero-initialised `sockaddr_storage` holding `addr`. -/
def storageByte (addr : Bytes) (i : ℕ) : UInt8 := addr.getD i 0

/-- `count` bytes at `offset` of a zero-initialised `sockaddr_storage` holding `addr`. -/
def storageBytes (addr : Bytes) (offset count : ℕ) : Bytes :=
  (List.range count).map fun i => storageByte addr (offset + i)

/-- The bytes read have the requested length, however short the stored address is. -/
@[simp] theorem storageBytes_length (addr : Bytes) (offset count : ℕ) :
    (storageBytes addr offset count).length = count := by
  simp [storageBytes]

/-- `ss_family`. -/
def saFamily (addr : Bytes) : ℕ := (storageByte addr 0).toNat + 256 * (storageByte addr 1).toNat

/-- The numeric name functions of the C library: the host and service strings, if any. -/
structure NameInfo where
  host : Bytes → Option Bytes
  service : Bytes → Option Bytes

/-- A C library without numeric names, which a named endpoint does not need. -/
def noNames : NameInfo := ⟨fun _ => none, fun _ => none⟩

/-- `std::atoi` on the bytes of a string. -/
def atoi (text : Bytes) : ℤ :=
  let digits (s : Bytes) : ℤ :=
    (s.takeWhile fun c => 48 ≤ c && c ≤ 57).foldl (fun acc c => acc * 10 + (c.toNat - 48 : ℤ)) 0
  match text.dropWhile fun c => c == 32 || (9 ≤ c && c ≤ 13) with
  | 45 :: rest => -digits rest
  | 43 :: rest => digits rest
  | rest => digits rest

namespace CConnectionBase

/-- `GetSockAddr` into a buffer of `addrlen` bytes. -/
def getSockAddr (c : CConnectionBase) (addrlen : ℕ) : Option Bytes :=
  if c.addr ≠ [] ∧ c.addr.length ≤ addrlen then some c.addr else none

/-- `GetHost`. -/
def getHost (names : NameInfo) (c : CConnectionBase) : Bytes :=
  if c.isDns || c.isOnion then c.host
  else if c.addr ≠ [] then (names.host c.addr).getD []
  else []

/-- `GetPort`. -/
def getPort (names : NameInfo) (c : CConnectionBase) : UInt16 :=
  if c.isDns || c.isOnion then c.port
  else if c.addr ≠ [] then
    match names.service c.addr with
    | some service => UInt16.ofInt (atoi service)
    | none => 0
  else 0

end CConnectionBase

namespace CConnection

/-- `CanConnectDirect(sockaddr*, Family)`. -/
def canConnectDirectAddr (sock : Bytes) (family : ℕ) : Bool :=
  (saFamily sock == afUnix && Family.allows family Family.unix) ||
  (saFamily sock == afInet && Family.allows family Family.ipv4) ||
  (saFamily sock == afInet6 && Family.allows family Family.ipv6)

/-- `CanConnectDirect()`. -/
def canConnectDirect (c : CConnection) : Bool :=
  if !c.isSet then false
  else if c.isDns then false
  else if c.isOnion then false
  else
    match c.getSockAddr sockaddrStorageSize with
    | none => false
    | some sock => canConnectDirectAddr sock c.opts.nFamily

/-- `CanConnectProxy()`. -/
def canConnectProxy (c : CConnection) : Bool :=
  if !c.isSet then false
  else if !c.proxy.isSet then false
  else if c.isDns then c.opts.doResolve == .resolveConnect
  else if c.isOnion then Family.allows c.opts.nFamily Family.onionProxy
  else
    match c.getSockAddr sockaddrStorageSize with
    | none => false
    | some sock => canConnectDirectAddr sock c.opts.nFamily

/-- `CanResolve()`. -/
def canResolve (c : CConnection) : Bool :=
  if !c.isSet then false
  else if !c.isDns then false
  else if c.opts.doResolve == .noResolve then false
  else Family.allows c.opts.nFamily Family.ipv4 || Family.allows c.opts.nFamily Family.ipv6

end CConnection

/-- The main network configuration of the test program. -/
def mainnetConfig : CNetworkConfig where
  headerMsgSizeOffset := 16
  headerMsgSizeSize := 4
  headerSize := 24
  messageMaxSize := 1000024
  messageStart := [0xf9, 0xbe, 0xb4, 0xd9]
  chunkSize := 0

/-- A connection of the test program's network, to no particular endpoint. -/
def mainnetConnection : CConnection :=
  CConnection.ofSockAddr .default mainnetConfig .unset []

/-- A proxy on the local host, to which no credentials are given. -/
def localProxy (proxytype : ProxyType) : CProxy :=
  .ofSockAddr ([2, 0, 0x23, 0x5a, 127, 0, 0, 1] ++ List.replicate 8 0) proxytype ⟨[], [], false⟩

/-- A connection of that network to a peer on the local host, with or without another attempt after a loss. -/
def localPeer (fPersistent : Bool) : CConnection :=
  CConnection.ofSockAddr { CConnectionOptions.default with fPersistent, nFamily := Family.ip } mainnetConfig .unset
    ([2, 0, 0x20, 0x8d, 127, 0, 0, 1] ++ List.replicate 8 0)

end LibBtcNet
