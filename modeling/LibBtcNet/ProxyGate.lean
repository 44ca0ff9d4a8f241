import LibBtcNet.ClientMessages
import LibBtcNet.HostNames

/-!
# What the proxy gate admits

`CanConnectProxy` is asked before a proxied connection connects, and `writeproto` is left to
express what it admits. An onion host is admitted, but only a proxy of the forced domain type
is sent its name; the path of a Unix socket has no place in a request; and a stored address
shorter than its family makes an assertion fail.
-/

namespace LibBtcNet

/-- The request of a connection can be expressed: it goes by a name, or has a whole IPv4 or IPv6 address. -/
def CConnection.Expressible (conn : CConnection) : Prop :=
  conn.isDns = true ∨ conn.proxy.type = .socks5ForceDomainType ∨
    ∃ sock, conn.getSockAddr sockaddrStorageSize = some sock ∧
      (saFamily sock = afInet6 ∧ sockaddrIn6Size ≤ sock.length ∨
        saFamily sock = afInet ∧ sockaddrInSize ≤ sock.length)

/-- A request that is written is written whole. -/
theorem exists_writeprotoTo_iff (names : NameInfo) (bev : BufferEvent) (conn : CConnection) :
    (∃ bev' effects, writeprotoTo names bev conn = some (true, bev', effects)) ↔
      ∃ request, writeproto names conn = .written request := by
  unfold writeprotoTo
  cases writeproto names conn <;> simp

/-- With a host that fits its length byte, `writeproto` writes a request exactly for the connections whose
request can be expressed, whether the gate admits them or not. -/
theorem writeproto_writes_iff (names : NameInfo) (bev : BufferEvent) {conn : CConnection}
    (hhost : (conn.getHost names).length ≤ 255) :
    (∃ bev' effects, writeprotoTo names bev conn = some (true, bev', effects)) ↔ conn.Expressible := by
  rw [exists_writeprotoTo_iff]
  by_cases hdomain : conn.isDns = true ∨ conn.proxy.type = .socks5ForceDomainType
  · have hform : (conn.isDns || conn.proxy.type == .socks5ForceDomainType) = true := by simpa using hdomain
    have hexpressible : conn.Expressible := hdomain.imp_right Or.inl
    rw [writeproto, if_pos hform, if_neg (Nat.not_lt.mpr hhost)]
    exact iff_of_true ⟨_, rfl⟩ hexpressible
  · have hexpressible : conn.Expressible ↔ ∃ sock, conn.getSockAddr sockaddrStorageSize = some sock ∧
        (saFamily sock = afInet6 ∧ sockaddrIn6Size ≤ sock.length ∨
          saFamily sock = afInet ∧ sockaddrInSize ≤ sock.length) := by
      rw [not_or] at hdomain
      simp [CConnection.Expressible, hdomain]
    rw [writeproto_of_addr hdomain, hexpressible]
    cases conn.getSockAddr sockaddrStorageSize with
    | none => simp
    | some sock =>
      simp only [Option.some.injEq, exists_eq_left']
      have hfamilies : afInet6 ≠ afInet := by decide
      split
      · next hfamily =>
        simp only [hfamily, hfamilies, true_and, false_and, or_false]
        split
        · next hshort => simpa using hshort
        · next hlong => simpa using hlong
      · next hfamily =>
        simp only [hfamily, false_and, false_or]
        split
        · next hinet =>
          simp only [hinet, true_and]
          split
          · next hshort => simpa using hshort
          · next hlong => simpa using hlong
        · next hother => simp [hother]

/-- `"aaaaaaaaaaaaaaaa.onion"`. -/
def onionHost : Bytes := List.replicate 16 97 ++ onionSuffix

/-- A connection through a proxy by the name of its host, which libevent does not parse. -/
def onionConnection (type : ProxyType) : CConnection :=
  { CConnectionBase.ofHost (fun _ => none) onionHost 8333 with
    proxy := localProxy type
    opts := { CConnectionOptions.default with nFamily := Family.onionProxy }
    netConfig := mainnetConfig }

/-- An onion host is sent to a proxy of the forced domain type. -/
theorem writeproto_writes_onion : ∃ bev' effects,
    writeprotoTo noNames .socketNew (onionConnection .socks5ForceDomainType) = some (true, bev', effects) :=
  (writeproto_writes_iff noNames .socketNew (by decide +kernel)).mpr (Or.inr (Or.inl rfl))

/-- The gate admits it for the other type too, which refuses it. -/
theorem writeproto_refuses_onion : (onionConnection .socks5).canConnectProxy = true ∧
    ((onionConnection .socks5).getHost noNames).length ≤ 255 ∧
    writeprotoTo noNames .socketNew (onionConnection .socks5) = some (false, .socketNew, []) := by
  decide +kernel

end LibBtcNet
