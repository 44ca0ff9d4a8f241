import LibBtcNet.HostNames
import LibBtcNet.Support.Readers

/-!
# What the client says to the proxy

The two messages that carry data, read back as a proxy reads them: the request of RFC 1928
and the credentials of RFC 1929. RESOLVE is the command that Tor adds. A message that
cannot be expressed leaves the bufferevent alone.
-/

namespace LibBtcNet

open Readers

/-- The commands of a request. -/
inductive SocksCommand where
  | connect
  | bind
  | udpAssociate
  | resolve
deriving DecidableEq, Repr

/-- The addresses of a request. -/
inductive SocksAddress where
  | ipv4 (addr : Bytes)
  | domain (name : Bytes)
  | ipv6 (addr : Bytes)
deriving DecidableEq, Repr

/-- A request. -/
structure SocksRequest where
  command : SocksCommand
  addr : SocksAddress
  port : UInt16
deriving DecidableEq, Repr

/-- The command that a byte stands for. -/
def SocksCommand.ofByte (b : UInt8) : Option SocksCommand :=
  if b = 0x01 then some .connect
  else if b = 0x02 then some .bind
  else if b = 0x03 then some .udpAssociate
  else if b = 0xf0 then some .resolve
  else none

/-- The command of a request. -/
def readCommand : Reader UInt8 SocksCommand := do
  match SocksCommand.ofByte (← item) with
  | some command => pure command
  | none => failure

/-- The address behind its type. -/
def readAddress (atyp : UInt8) : Reader UInt8 SocksAddress :=
  if atyp = 0x01 then .ipv4 <$> exactly 4
  else if atyp = 0x03 then .domain <$> counted UInt8.toNat
  else if atyp = 0x04 then .ipv6 <$> exactly 16
  else failure

/-- A port in network order. -/
def readPort : Reader UInt8 UInt16 := do
  let high ← item
  let low ← item
  pure (UInt16.ofNat (256 * high.toNat + low.toNat))

/-- A request of RFC 1928. -/
def readRequest : Reader UInt8 SocksRequest := do
  expect 0x05
  let command ← readCommand
  expect 0x00
  let atyp ← item
  let addr ← readAddress atyp
  let port ← readPort
  pure ⟨command, addr, port⟩

/-- The credentials of RFC 1929. -/
def readCredentials : Reader UInt8 (Bytes × Bytes) := do
  expect 0x01
  let username ← counted UInt8.toNat
  let password ← counted UInt8.toNat
  pure (username, password)

/-- `writeproto`: its answer, the bufferevent it leaves, and what it wrote. -/
def writeprotoTo (names : NameInfo) (bev : BufferEvent) (conn : CConnection) :
    Option (Bool × BufferEvent × List ProxyEffect) :=
  match writeproto names conn with
  | .written request => some (true, (bev.setReadWatermark 8 0).write request.length, [.write request])
  | .refused => some (false, bev, [])
  | .aborted => none

/-- `write_auth`: its answer, the bufferevent it leaves, and what it wrote. -/
def writeAuthTo (bev : BufferEvent) (auth : CProxyAuth) : Bool × BufferEvent × List ProxyEffect :=
  match writeAuth auth with
  | some request => (true, (bev.setReadWatermark 2 0).write request.length, [.write request])
  | none => (false, bev, [])

/-- A port in a stored socket address. -/
def storedPort (addr : Bytes) : UInt16 :=
  UInt16.ofNat (256 * (storageByte addr 2).toNat + (storageByte addr 3).toNat)

/-- What a connection wants of its proxy. -/
def CConnection.wants (names : NameInfo) (conn : CConnection) : SocksRequest :=
  let command := if conn.isDns ∧ conn.opts.doResolve = .resolveOnly then .resolve else .connect
  if conn.isDns ∨ conn.proxy.type = .socks5ForceDomainType then
    ⟨command, .domain (conn.getHost names), conn.getPort names⟩
  else if saFamily conn.addr = afInet6 then ⟨command, .ipv6 ((conn.addr.drop 8).take 16), storedPort conn.addr⟩
  else ⟨command, .ipv4 ((conn.addr.drop 4).take 4), storedPort conn.addr⟩

/-- Two bytes in network order. -/
theorem reads_port (high low : UInt8) :
    Reads readPort [high, low] (UInt16.ofNat (256 * high.toNat + low.toNat)) :=
  (reads_item high).bind ((reads_item low).bind (reads_pure _))

/-- A port is read back. -/
theorem reads_portBytes (port : UInt16) : Reads readPort (portBytes port) port := by
  have hport : UInt16.ofNat (256 * (port >>> 8).toUInt8.toNat + port.toUInt8.toNat) = port := by
    apply UInt16.toNat_inj.mp
    have hlt := port.toNat_lt
    simp [Nat.shiftRight_eq_div_pow]
    omega
  have hreads := reads_port (port >>> 8).toUInt8 port.toUInt8
  rwa [hport] at hreads

/-- A length that fits a byte is read back. -/
theorem toNat_ofNat_length {text : Bytes} (h : ¬255 < text.length) :
    text.length = (UInt8.ofNat text.length).toNat := by
  rw [UInt8.toNat_ofNat', Nat.mod_eq_of_lt (by omega)]

/-- A command is read back. -/
theorem reads_command {b : UInt8} {command : SocksCommand} (hcommand : SocksCommand.ofByte b = some command) :
    Reads readCommand [b] command := by
  have hknown : Reads (match SocksCommand.ofByte b with
      | some command => pure command
      | none => failure : Reader UInt8 SocksCommand) [] command := by
    rw [hcommand]
    exact reads_pure command
  exact (reads_item b).bind hknown

/-- The command that a connection wants of its proxy. -/
theorem ofByte_requestHead (conn : CConnection) :
    SocksCommand.ofByte (if conn.isDns && conn.opts.doResolve == .resolveOnly then 0xf0 else 0x01) =
      some (if conn.isDns ∧ conn.opts.doResolve = .resolveOnly then .resolve else .connect) := by
  by_cases hresolve : conn.isDns ∧ conn.opts.doResolve = .resolveOnly
  · rw [if_pos (by simpa using hresolve), if_pos hresolve]
    rfl
  · rw [if_neg (by simpa using hresolve), if_neg hresolve]
    rfl

/-- An address and a port behind the head of a request. -/
theorem reads_request (conn : CConnection) {atyp : UInt8} {address portPart : Bytes} {addr : SocksAddress}
    {port : UInt16} (haddr : Reads (readAddress atyp) address addr) (hport : Reads readPort portPart port) :
    Reads readRequest (requestHead conn ++ atyp :: (address ++ portPart))
      ⟨if conn.isDns ∧ conn.opts.doResolve = .resolveOnly then .resolve else .connect, addr, port⟩ := by
  have hreads : Reads readRequest
      ([0x05] ++ ([if conn.isDns && conn.opts.doResolve == .resolveOnly then 0xf0 else 0x01] ++
        ([0x00] ++ ([atyp] ++ (address ++ (portPart ++ []))))))
      ⟨if conn.isDns ∧ conn.opts.doResolve = .resolveOnly then .resolve else .connect, addr, port⟩ :=
    (reads_expect 0x05).bind ((reads_command (ofByte_requestHead conn)).bind ((reads_expect 0x00).bind
      ((reads_item atyp).bind (haddr.bind (hport.bind (reads_pure _))))))
  rw [List.append_nil] at hreads
  exact hreads

/-- The bytes of a stored address that is long enough. -/
theorem storageBytes_eq {addr : Bytes} {offset count : ℕ} (hlen : offset + count ≤ addr.length) :
    storageBytes addr offset count = (addr.drop offset).take count := by
  apply List.ext_getElem
  · simp; omega
  · intro i hi hi'
    have hlt : offset + i < addr.length := by
      rw [storageBytes_length] at hi
      omega
    simp [storageBytes, storageByte, hlt]

/-- The stored address that is read is the one that is kept. -/
theorem CConnectionBase.getSockAddr_eq {c : CConnectionBase} {addrlen : ℕ} {sock : Bytes}
    (hsock : c.getSockAddr addrlen = some sock) : sock = c.addr := by
  unfold getSockAddr at hsock
  split at hsock
  · exact (Option.some.inj hsock).symm
  · contradiction

/-- The request by a stored address. -/
theorem writeproto_of_addr {names : NameInfo} {conn : CConnection}
    (hdomain : ¬(conn.isDns = true ∨ conn.proxy.type = .socks5ForceDomainType)) :
    writeproto names conn =
      match conn.getSockAddr sockaddrStorageSize with
      | none => .refused
      | some sock =>
        if saFamily sock = afInet6 then
          if sock.length < sockaddrIn6Size then .aborted
          else .written (requestHead conn ++ 0x04 :: (storageBytes sock 8 16 ++ storageBytes sock 2 2))
        else if saFamily sock = afInet then
          if sock.length < sockaddrInSize then .aborted
          else .written (requestHead conn ++ 0x01 :: (storageBytes sock 4 4 ++ storageBytes sock 2 2))
        else .refused := by
  have hother : ¬(conn.isDns || conn.proxy.type == .socks5ForceDomainType) = true := by simpa using hdomain
  rw [writeproto, if_neg hother]
  cases conn.getSockAddr sockaddrStorageSize with
  | none => rfl
  | some sock => simp

/-- A request that is written is read back as what the connection wants. -/
theorem writeproto_reads {names : NameInfo} {conn : CConnection} {request : Bytes}
    (hrequest : writeproto names conn = .written request) : Reads readRequest request (conn.wants names) := by
  by_cases hdomain : conn.isDns = true ∨ conn.proxy.type = .socks5ForceDomainType
  · have hform : (conn.isDns || conn.proxy.type == .socks5ForceDomainType) = true := by simpa using hdomain
    rw [writeproto, if_pos hform] at hrequest
    simp only at hrequest
    split at hrequest
    · contradiction
    · next hhost =>
      obtain rfl := ProtoResult.written.inj hrequest
      have haddr : Reads (readAddress 0x03) (UInt8.ofNat (conn.getHost names).length :: conn.getHost names)
          (.domain (conn.getHost names)) := (reads_counted (toNat_ofNat_length hhost)).map _
      have hreads := reads_request conn haddr (reads_portBytes (conn.getPort names))
      rw [CConnection.wants, if_pos hdomain]
      simpa using hreads
  · rw [writeproto_of_addr hdomain] at hrequest
    rw [CConnection.wants, if_neg hdomain]
    split at hrequest
    · contradiction
    · next sock hsock =>
      obtain rfl := CConnectionBase.getSockAddr_eq hsock
      split at hrequest
      · next hfamily =>
        rw [if_pos hfamily]
        split at hrequest
        · contradiction
        · next hlen =>
          obtain rfl := ProtoResult.written.inj hrequest
          have haddr : Reads (readAddress 0x04) (storageBytes conn.addr 8 16) (.ipv6 (storageBytes conn.addr 8 16)) :=
            (reads_exactly (storageBytes_length _ _ _)).map _
          have hreads := reads_request conn haddr (reads_port (storageByte conn.addr 2) (storageByte conn.addr 3))
          rwa [storageBytes_eq (by rw [sockaddrIn6Size] at hlen; omega)] at hreads ⊢
      · next hfamily =>
        rw [if_neg hfamily]
        split at hrequest
        · split at hrequest
          · contradiction
          · next hlen =>
            obtain rfl := ProtoResult.written.inj hrequest
            have haddr : Reads (readAddress 0x01) (storageBytes conn.addr 4 4) (.ipv4 (storageBytes conn.addr 4 4)) :=
              (reads_exactly (storageBytes_length _ _ _)).map _
            have hreads := reads_request conn haddr (reads_port (storageByte conn.addr 2) (storageByte conn.addr 3))
            rwa [storageBytes_eq (by rw [sockaddrInSize] at hlen; omega)] at hreads ⊢
        · contradiction

/-- Credentials that are written are read back. -/
theorem writeAuth_reads {auth : CProxyAuth} {request : Bytes} (hrequest : writeAuth auth = some request) :
    Reads readCredentials request (auth.username, auth.password) := by
  unfold writeAuth at hrequest
  split at hrequest
  · contradiction
  · next hlen =>
    rw [not_or] at hlen
    obtain rfl := Option.some.inj hrequest
    have hreads : Reads readCredentials
        ([0x01] ++ ((UInt8.ofNat auth.username.length :: auth.username) ++
          ((UInt8.ofNat auth.password.length :: auth.password) ++ []))) (auth.username, auth.password) :=
      (reads_expect 0x01).bind ((reads_counted (toNat_ofNat_length hlen.1)).bind
        ((reads_counted (toNat_ofNat_length hlen.2)).bind (reads_pure _)))
    simpa using hreads

/-- What `writeproto` and `write_auth` write is read back with nothing left over, as what the connection wants and
as the credentials, and where they refuse they write nothing and leave the bufferevent as it is. -/
theorem clientMessages_read_back (names : NameInfo) (conn : CConnection) (auth : CProxyAuth) (bev : BufferEvent) :
    (∀ bev' effects, writeprotoTo names bev conn = some (true, bev', effects) →
      ∃ request, effects = [.write request] ∧ readRequest request = some (conn.wants names, [])) ∧
    (∀ bev' effects, writeAuthTo bev auth = (true, bev', effects) →
      ∃ request, effects = [.write request] ∧ readCredentials request = some ((auth.username, auth.password), [])) ∧
    (auth.username.length ≤ 255 ∧ auth.password.length ≤ 255 → (writeAuthTo bev auth).1 = true) ∧
    (∀ bev' effects, writeprotoTo names bev conn = some (false, bev',
      effects) ∨ writeAuthTo bev auth = (false, bev', effects) →
      effects = [] ∧ bev' = bev) := by
  refine ⟨fun bev' effects hresult => ?_, fun bev' effects hresult => ?_, fun hfits => ?_,
    fun bev' effects hresult => ?_⟩
  · unfold writeprotoTo at hresult
    split at hresult
    · next request hrequest =>
      obtain ⟨-, -, rfl⟩ : true = true ∧ _ = bev' ∧ [ProxyEffect.write request] = effects := by simpa using hresult
      exact ⟨request, rfl, (writeproto_reads hrequest).whole⟩
    · simp at hresult
    · contradiction
  · unfold writeAuthTo at hresult
    split at hresult
    · next request hrequest =>
      obtain ⟨-, -, rfl⟩ : true = true ∧ _ = bev' ∧ [ProxyEffect.write request] = effects := by simpa using hresult
      exact ⟨request, rfl, (writeAuth_reads hrequest).whole⟩
    · simp at hresult
  · have hwritten : ¬(255 < auth.username.length ∨ 255 < auth.password.length) := by omega
    rw [writeAuthTo, writeAuth, if_neg hwritten]
  · rcases hresult with hresult | hresult
    · unfold writeprotoTo at hresult
      split at hresult
      · simp at hresult
      · simpa [eq_comm, and_comm] using hresult
      · contradiction
    · unfold writeAuthTo at hresult
      split at hresult
      · simp at hresult
      · simpa [eq_comm, and_comm] using hresult

/-- The request for a host and credentials of a byte each are written, and read back. -/
theorem clientMessages_read_back_seed :
    (∃ bev request, writeprotoTo noNames .socketNew localProxyRequest = some (true, bev, [.write request]) ∧
      readRequest request = some (⟨.connect, .domain [115, 101, 101, 100], 8333⟩, [])) ∧
    ∃ bev request, writeAuthTo .socketNew ⟨[0x75], [0x70], true⟩ = (true, bev, [.write request]) ∧
      readCredentials request = some (([0x75], [0x70]), []) := by
  obtain ⟨hrequests, hcredentials, -⟩ :=
    clientMessages_read_back noNames localProxyRequest ⟨[0x75], [0x70], true⟩ .socketNew
  constructor
  · obtain ⟨bev, effects, hwritten⟩ : ∃ bev effects,
        writeprotoTo noNames .socketNew localProxyRequest = some (true, bev, effects) := ⟨_, _, rfl⟩
    obtain ⟨request, rfl, hread⟩ := hrequests bev effects hwritten
    exact ⟨bev, request, hwritten, hread⟩
  · obtain ⟨bev, effects, hwritten⟩ : ∃ bev effects,
        writeAuthTo .socketNew ⟨[0x75], [0x70], true⟩ = (true, bev, effects) := ⟨_, _, rfl⟩
    obtain ⟨request, rfl, hread⟩ := hcredentials bev effects hwritten
    exact ⟨bev, request, hwritten, hread⟩

end LibBtcNet
