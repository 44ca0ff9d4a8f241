import LibBtcNet.BareProxy
import LibBtcNet.Base32

/-!
# Endpoints from host names

The constructor of `CConnectionBase` from a string: a numeric address is stored as a socket
address, and anything else is split at its only colon and marked as an onion host or left
to DNS. `evutil_parse_sockaddr_port` belongs to libevent and is a parameter.
-/

namespace LibBtcNet

/-- `evutil_parse_sockaddr_port`: the socket address that a C string is the numeric form of. -/
abbrev ParseSockAddr := Bytes → Option Bytes

/-- `':'`. -/
def colonChar : UInt8 := 58

/-- What a C function sees of `c_str()`. -/
def cstr (text : Bytes) : Bytes := text.takeWhile (· != 0)

/-- `find_last_of(':')`. -/
def lastColon : Bytes → Option ℕ
  | [] => none
  | c :: text =>
    match lastColon text with
    | some i => some (i + 1)
    | none => if c = colonChar then some 0 else none

/-- `std::stoul`, absent where it throws. A minus sign negates in `unsigned long`. -/
def stoul (text : Bytes) : Option ℕ :=
  let text := text.dropWhile fun c => c == 32 || (9 ≤ c && c ≤ 13)
  let (negative, text) :=
    match text with
    | 45 :: rest => (true, rest)
    | 43 :: rest => (false, rest)
    | rest => (false, rest)
  let digits := text.takeWhile fun c => 48 ≤ c && c ≤ 57
  let value := digits.foldl (fun acc c => acc * 10 + (c.toNat - 48)) 0
  if digits = [] ∨ 2 ^ 64 ≤ value then none
  else some (if negative then (2 ^ 64 - value) % 2 ^ 64 else value)

/-- The port that a suffix stands for; an empty one leaves the given port. -/
def portSuffix (portstr : Bytes) (portIn : UInt16) : UInt16 :=
  if portstr = [] then portIn
  else
    match stoul portstr with
    | some longport => if longport ≤ 65535 then UInt16.ofNat longport else 0
    | none => 0

/-- The host and port of a string that is no numeric address: a colon that is the only one separates
them. From the first place, the search before it finds the colon again. -/
def splitPort (host : Bytes) (portIn : UInt16) : Bytes × UInt16 :=
  match lastColon host with
  | none => (host, portIn)
  | some colon =>
    let fMultiColon := colon = 0 ∨ (lastColon (host.take colon)).isSome
    if colon = 0 ∨ ¬fMultiColon then (host.take colon, portSuffix (host.drop (colon + 1)) portIn)
    else (host, portIn)

/-- `".onion"`. -/
def onionSuffix : Bytes := [46, 111, 110, 105, 111, 110]

/-- Whether the constructor marks a host as an onion. -/
def isOnionHost (host : Bytes) : Bool :=
  decide (6 < host.length) && host.drop (host.length - 6) == onionSuffix &&
    !(decodeBase32 (host.take (host.length - 6))).2

/-- A numeric address without a port takes the given one. -/
def withPort (addr : Bytes) (portIn : UInt16) : Bytes :=
  if (saFamily addr = afInet ∨ saFamily addr = afInet6) ∧ storageBytes addr 2 2 = [0, 0] then
    addr.take 2 ++ portBytes portIn ++ addr.drop 4
  else addr

/-- The constructor from a host and a port. -/
def CConnectionBase.ofHost (parse : ParseSockAddr) (hostIn : Bytes) (portIn : UInt16) : CConnectionBase :=
  if hostIn = [] then .unset
  else
    match parse (cstr hostIn) with
    | some saddr => ⟨[], 0, false, false, true, withPort saddr portIn⟩
    | none =>
      let (host, port) := splitPort hostIn portIn
      ⟨host, port, !isOnionHost host, isOnionHost host, true, []⟩

/-- The constructor of a proxy from host, port, type and authentication. -/
def CProxy.ofHost (parse : ParseSockAddr) (hostIn : Bytes) (portIn : UInt16) (proxytype : ProxyType)
    (authIn : CProxyAuth) : CProxy :=
  { CConnectionBase.ofHost parse hostIn portIn with auth := authIn, type := proxytype }

/-- The constructor from options, network configuration, proxy, host and port. -/
def CConnection.ofHost (parse : ParseSockAddr) (opts : CConnectionOptions) (netConfig : CNetworkConfig)
    (proxy : CProxy) (hostIn : Bytes) (portIn : UInt16) : CConnection :=
  { CConnectionBase.ofHost parse hostIn portIn with proxy, opts, netConfig }

/-- An endpoint made by one of the constructors; its fields are private. -/
inductive CConnectionBase.Constructed (parse : ParseSockAddr) : CConnectionBase → Prop
  | unset : Constructed parse .unset
  | ofSockAddr (addr : Bytes) : Constructed parse (.ofSockAddr addr)
  | ofHost (hostIn : Bytes) (portIn : UInt16) : Constructed parse (.ofHost parse hostIn portIn)

/-- No endpoint is both an onion and left to DNS. -/
theorem CConnectionBase.Constructed.not_isOnion {parse : ParseSockAddr} {c : CConnectionBase}
    (hconstructed : c.Constructed parse) (hdns : c.isDns = true) : c.isOnion = false := by
  cases hconstructed with
  | unset => rfl
  | ofSockAddr addr => rfl
  | ofHost hostIn portIn =>
    unfold CConnectionBase.ofHost at hdns ⊢
    split at hdns
    · contradiction
    · split at hdns
      · contradiction
      · next hempty _ hparse =>
        rw [if_neg hempty]
        simp only [Bool.not_eq_true'] at hdns ⊢
        exact hdns

/-- The options of a request that is resolved and connected. -/
def resolveConnectOptions : CConnectionOptions :=
  { CConnectionOptions.default with doResolve := .resolveConnect, nFamily := Family.ip }

/-- The host `seed`, with such options and no proxy. -/
def seedRequest : CConnection :=
  .ofHost (fun _ => none) resolveConnectOptions mainnetConfig .unset [115, 101, 101, 100] 8333

/-- The same name, only to be resolved. -/
def seedLookup : CConnection := { seedRequest with opts := { resolveConnectOptions with doResolve := .resolveOnly } }

/-- The request through the proxy `tor`, which is given by its name. -/
def namedProxyRequest : CConnection :=
  { seedRequest with proxy := .ofHost (fun _ => none) [116, 111, 114] 9050 .socks5 ⟨[], [], false⟩ }

/-- The request through a proxy on the local host, which is given by its address. -/
def localProxyRequest : CConnection := { seedRequest with proxy := localProxy .socks5 }

end LibBtcNet
