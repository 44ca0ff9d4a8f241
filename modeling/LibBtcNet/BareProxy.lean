import LibBtcNet.BufferEvent

/-!
# The SOCKS5 handshake

`CBareProxy` sends the method request, and from then on a chain of read callbacks
installed one after another on its bufferevent decides on what the proxy replies. Each
function returns the object it leaves and what it wrote or reported, in order. Plain
`char` is signed, as on x86. A result is absent when an assertion fails.

Everything is in terms of the concatenated input, which is all these callbacks look at.
-/

namespace LibBtcNet

/-- `CBareProxy`. -/
structure CBareProxy where
  conn : CConnection
  bev : Option BufferEvent
deriving DecidableEq, Repr

/-- What the handshake writes to the proxy and reports to the connection. -/
inductive ProxyEffect where
  | write (data : Bytes)
  | proxyFailure
  | proxySuccess (bev : BufferEvent) (resolved : CConnection)
deriving DecidableEq, Repr

/-- The outcome of `writeproto`: the request written, a refusal, or a failed assertion. -/
inductive ProtoResult where
  | written (request : Bytes)
  | refused
  | aborted
deriving DecidableEq, Repr

/-- The two bytes of a port in network order. -/
def portBytes (port : UInt16) : Bytes := [(port >>> 8).toUInt8, port.toUInt8]

/-- The first bytes of the request: version, command and a reserved byte. -/
def requestHead (conn : CConnection) : Bytes :=
  let resolve := conn.isDns && conn.opts.doResolve == .resolveOnly
  [0x05, if resolve then 0xf0 else 0x01, 0x00]

/-- `writeproto`, without the watermark it sets. The stored address of the endpoint is copied to
a zeroed `sockaddr_storage`, and the size is that of the copy, or of the whole on failure. -/
def writeproto (names : NameInfo) (conn : CConnection) : ProtoResult :=
  if conn.isDns || conn.proxy.type == .socks5ForceDomainType then
    let host := conn.getHost names
    let port := conn.getPort names
    if 255 < host.length then .refused
    else .written (requestHead conn ++ [0x03, UInt8.ofNat host.length] ++ host ++ portBytes port)
  else
    let (sock, socksize) :=
      match conn.getSockAddr sockaddrStorageSize with
      | some addr => (addr, addr.length)
      | none => ([], sockaddrStorageSize)
    if saFamily sock = afInet6 then
      if socksize < sockaddrIn6Size then .aborted
      else .written (requestHead conn ++ [0x04] ++ storageBytes sock 8 16 ++ storageBytes sock 2 2)
    else if saFamily sock = afInet then
      if socksize < sockaddrInSize then .aborted
      else .written (requestHead conn ++ [0x01] ++ storageBytes sock 4 4 ++ storageBytes sock 2 2)
    else .refused

/-- `write_auth`, without the watermark it sets; absent when it refuses. -/
def writeAuth (auth : CProxyAuth) : Option Bytes :=
  if 255 < auth.username.length ∨ 255 < auth.password.length then none
  else
    some ([0x01, UInt8.ofNat auth.username.length] ++ auth.username ++
      [UInt8.ofNat auth.password.length] ++ auth.password)

/-- The methods that `InitProxy` offers. -/
def initRequest (auth : CProxyAuth) : Bytes :=
  if auth.isSet then [0x05, 0x02, 0x02, 0x00] else [0x05, 0x01, 0x00]

/-- A stored IPv4 address. -/
def sockaddrIn (port : UInt16) (addr : Bytes) : Bytes :=
  [UInt8.ofNat afInet, 0] ++ portBytes port ++ addr ++ List.replicate 8 0

/-- A stored IPv6 address. -/
def sockaddrIn6 (port : UInt16) (addr : Bytes) : Bytes :=
  [UInt8.ofNat afInet6, 0] ++ portBytes port ++ List.replicate 4 0 ++ addr ++ List.replicate 4 0

/-- A plain `char` converted to `size_t`. -/
def charToSizeT (c : UInt8) : ℕ := sizeT c.toInt8.toInt

/-- What the switch of `read_final` takes from the address type: the size of the address, and the
socket address to build from its bytes unless it is a domain. -/
def replyAddress (port : UInt16) (atyp length : UInt8) : Option (ℕ × Option (Bytes → Bytes)) :=
  match atyp with
  | 0x01 => some (4, some (sockaddrIn port))
  | 0x04 => some (16, some (sockaddrIn6 port))
  | 0x03 => some (charToSizeT length, none)
  | _ => none

/-- The length that `read_final` wants before it accepts, computed in `size_t`. -/
def needSize (address : ℕ × Option (Bytes → Bytes)) : ℕ :=
  if address.2.isSome then sizeT (6 + address.1) else sizeT (6 + 1 + address.1)

namespace CBareProxy

/-- `InitProxy`. -/
def initProxy (bev : BufferEvent) (proxy : CBareProxy) : Option (CBareProxy × List ProxyEffect) :=
  if proxy.bev.isSome || !proxy.conn.proxy.isSet then none
  else
    let opts := proxy.conn.opts
    let request := initRequest proxy.conn.proxy.auth
    let bev := (bev.setcb (some .receiveInit) none (some .proxyEventCb)).setReadWatermark 2 0
    let bev := ((bev.setTimeouts opts.nRecvTimeout opts.nSendTimeout).write request.length).setReadingWriting true
    some ({ proxy with bev := some bev }, [.write request])

/-- `ProxyFailure`. -/
def proxyFailure (proxy : CBareProxy) : CBareProxy × List ProxyEffect :=
  ({ proxy with bev := none }, [.proxyFailure])

/-- The end of `receive_init` and of `check_auth_response`: wait for the final reply and write the
request. -/
def sendRequest (names : NameInfo) (proxy : CBareProxy) (bev : BufferEvent) :
    Option (CBareProxy × List ProxyEffect) :=
  let bev := bev.setcb (some .readFinal) none (some .proxyEventCb)
  match writeproto names proxy.conn with
  | .written request =>
    let bev := (bev.setReadWatermark 8 0).write request.length
    some ({ proxy with bev := some bev }, [.write request])
  | .refused => some proxy.proxyFailure
  | .aborted => none

/-- `receive_init`. -/
def receiveInit (names : NameInfo) (proxy : CBareProxy) (bev : BufferEvent) :
    Option (CBareProxy × List ProxyEffect) :=
  let pchRet1 := bev.input.copyout 2
  let bev := { bev with input := bev.input.drain 2 }
  if pchRet1.length ≠ 2 then some proxy.proxyFailure
  else if pchRet1.getD 0 0 ≠ 0x05 then some proxy.proxyFailure
  else if pchRet1.getD 1 0 = 0x02 then
    let bev := bev.setcb (some .checkAuthResponse) none (some .proxyEventCb)
    match writeAuth proxy.conn.proxy.auth with
    | some request =>
      let bev := (bev.setReadWatermark 2 0).write request.length
      some ({ proxy with bev := some bev }, [.write request])
    | none => some proxy.proxyFailure
  else proxy.sendRequest names bev

/-- `check_auth_response`. -/
def checkAuthResponse (names : NameInfo) (proxy : CBareProxy) (bev : BufferEvent) :
    Option (CBareProxy × List ProxyEffect) :=
  let pchRetA := bev.input.copyout 2
  let bev := { bev with input := bev.input.drain 2 }
  if pchRetA.length ≠ 2 then some proxy.proxyFailure
  else if pchRetA.getD 0 0 ≠ 0x01 ∧ pchRetA.getD 1 0 ≠ 0x00 then some proxy.proxyFailure
  else proxy.sendRequest names bev

/-- The connection that `read_final` hands over: an address that was to be resolved becomes the
endpoint. -/
def repliedConnection (conn : CConnection) (sockaddr : Option Bytes) : CConnection :=
  match sockaddr with
  | some addr =>
    if conn.isDns ∧ conn.opts.doResolve = .resolveOnly then
      .ofSockAddr conn.opts conn.netConfig conn.proxy addr
    else conn
  | none => conn

/-- `read_final`. -/
def readFinal (names : NameInfo) (proxy : CBareProxy) (bev : BufferEvent) :
    Option (CBareProxy × List ProxyEffect) :=
  let len := bev.input.getLength
  let pchRet2 := bev.input.copyout 5
  if len < 8 then none
  else if pchRet2.getD 0 0 ≠ 0x05 ∨ pchRet2.getD 1 0 ≠ 0x00 then some proxy.proxyFailure
  else
    match replyAddress (proxy.conn.getPort names) (pchRet2.getD 3 0) (pchRet2.getD 4 0) with
    | none => some proxy.proxyFailure
    | some (addrsize, sockaddr) =>
      if len < needSize (addrsize, sockaddr) then
        some ({ proxy with bev := some (bev.setReadWatermark (needSize (addrsize, sockaddr)) 0) }, [])
      else
        match sockaddr with
        | some toSockAddr =>
          let writeip := (bev.input.drain 4).copyout addrsize
          let port := ((bev.input.drain 4).drain addrsize).copyout 2
          let bev := { bev with input := ((bev.input.drain 4).drain addrsize).drain 2 }
          if writeip.length ≠ addrsize ∨ port.length ≠ 2 then none
          else
            some ({ proxy with bev := none },
              [.proxySuccess bev (repliedConnection proxy.conn (some (toSockAddr writeip)))])
        | none =>
          let bev := { bev with input := bev.input.drain (sizeT (5 + addrsize + 2)) }
          some ({ proxy with bev := none }, [.proxySuccess bev (repliedConnection proxy.conn none)])

/-- `event_cb`. -/
def eventCb (proxy : CBareProxy) (events : BevEvents) : CBareProxy × List ProxyEffect :=
  if events.error || events.eof || events.timeout || events.connected then proxy.proxyFailure
  else (proxy, [])

/-- Run the installed read callback. -/
def runReadcb (names : NameInfo) (proxy : CBareProxy) (bev : BufferEvent) :
    Option (CBareProxy × List ProxyEffect) :=
  match bev.readcb with
  | some .receiveInit => proxy.receiveInit names bev
  | some .checkAuthResponse => proxy.checkAuthResponse names bev
  | some .readFinal => proxy.readFinal names bev
  | _ => some (proxy, [])

section Installed

variable {names : NameInfo} {proxy : CBareProxy} {bev : BufferEvent}

/-- The callback that reads the method reply. -/
theorem runReadcb_receiveInit (hreadcb : bev.readcb = some .receiveInit) :
    proxy.runReadcb names bev = proxy.receiveInit names bev := by
  rw [runReadcb, hreadcb]

/-- The callback that reads the reply to the credentials. -/
theorem runReadcb_checkAuthResponse (hreadcb : bev.readcb = some .checkAuthResponse) :
    proxy.runReadcb names bev = proxy.checkAuthResponse names bev := by
  rw [runReadcb, hreadcb]

/-- The callback that reads the final reply. -/
theorem runReadcb_readFinal (hreadcb : bev.readcb = some .readFinal) :
    proxy.runReadcb names bev = proxy.readFinal names bev := by
  rw [runReadcb, hreadcb]

end Installed

end CBareProxy

/-- A handshake under way: the object, what it wrote and reported, and the bytes it was sent
before it handed its bufferevent over. -/
structure ProxyRun where
  proxy : CBareProxy
  log : List ProxyEffect
  received : Bytes
deriving DecidableEq, Repr

/-- What happens to a handshake: bytes arrive, the read callback is dispatched, or an event is
reported. -/
inductive ProxyStep where
  | arrive (chunks : List Bytes)
  | readCallback
  | event (what : BevEvents)
deriving DecidableEq, Repr

namespace ProxyRun

/-- The handshake that `InitProxy` begins. -/
def begin (conn : CConnection) (bev : BufferEvent) : Option ProxyRun :=
  (CBareProxy.initProxy bev ⟨conn, none⟩).map fun result => ⟨result.1, result.2, []⟩

/-- The read callback is due: the buffered length has reached the low watermark. -/
def due (run : ProxyRun) : Bool :=
  match run.proxy.bev with
  | some bev => bev.readcb.isSome && decide (bev.readLow ≤ bev.input.getLength)
  | none => false

/-- The handshake when the callback of its bufferevent is dispatched, which is not pending then. -/
def dispatched (run : ProxyRun) (bev : BufferEvent) : ProxyRun :=
  { run with proxy := { run.proxy with bev := some { bev with readPending := false } } }

/-- The result of a callback takes effect. -/
def perform (run : ProxyRun) (result : CBareProxy × List ProxyEffect) : ProxyRun :=
  { run with proxy := result.1, log := run.log ++ result.2 }

/-- One step. Bytes arrive while reading is enabled, and a callback that is not due does not run; one that does is
no longer pending. -/
def step (names : NameInfo) (run : ProxyRun) (s : ProxyStep) : Option ProxyRun :=
  match run.proxy.bev, s with
  | none, _ => some run
  | some bev, .arrive chunks =>
    if bev.readEnabled && !bev.readSuspended then
      some { run with
        proxy := { run.proxy with bev := some (bev.arrive chunks) }
        received := run.received ++ chunks.flatten }
    else some run
  | some bev, .readCallback =>
    if run.due then ((run.dispatched bev).proxy.runReadcb names { bev with readPending := false }).map run.perform
    else some run
  | some _, .event what => some (run.perform (run.proxy.eventCb what))

/-- One read, and the callbacks it makes due: there are at most three. -/
def deliver (names : NameInfo) (run : ProxyRun) (chunks : List Bytes) : Option ProxyRun :=
  [.arrive chunks, .readCallback, .readCallback, .readCallback].foldlM (step names) run

end ProxyRun

end LibBtcNet
