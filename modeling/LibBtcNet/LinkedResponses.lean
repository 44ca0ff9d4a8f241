import LibBtcNet.ConnectionKinds
import LibBtcNet.Support.LinkedLists

/-!
# Responses as linked lists

`CDNSResponse` holds the address of a list of `evutil_addrinfo` that the resolver has allocated, and
releases it; its iterators hold the address of one of them. The methods of `CDNSConnection` and
`CResolveOnly` that touch a response, on the memory that holds it: each does what the model without
memory says, exchanges its list for the one that it keeps, and uses nothing that is not allocated.
-/

namespace LibBtcNet

open LinkedLists

/-- What ends a run: an assertion that fails, or memory that is used and not allocated. -/
inductive Fault where
  | assertion
  | memory
deriving DecidableEq, Repr

/-- Code that uses the memory of the responses. -/
abbrev MemoryMethod (α : Type) := StateT (Heap Bytes) (Except Fault) α

namespace OnHeap

/-- What `dns_callback` is told: an error, or the list that the resolver has allocated. -/
inductive DnsResult where
  | failure
  | addresses (head : Ptr × Bytes) (rest : List (Ptr × Bytes))
deriving DecidableEq, Repr

/-- When `evdns_getaddrinfo` answers: before it returns, or later. -/
inductive Lookup where
  | atOnce (result : DnsResult)
  | later
deriving DecidableEq, Repr

/-- The result without the memory it is in. -/
def DnsResult.forget : DnsResult → LibBtcNet.DnsResult
  | .failure => .failure
  | .addresses head rest => .addresses head.2 (rest.map Prod.snd)

/-- The answer without the memory it is in. -/
def Lookup.forget : Lookup → LibBtcNet.Lookup
  | .atOnce result => .atOnce result.forget
  | .later => .later

/-- The cells that the resolver allocates for a result. -/
def DnsResult.cells : DnsResult → List (Ptr × Bytes)
  | .failure => []
  | .addresses head rest => head :: rest

/-- The cells that the resolver allocates for an answer that comes at once. -/
def Lookup.cells : Lookup → List (Ptr × Bytes)
  | .atOnce result => result.cells
  | .later => []

/-- An assertion. -/
def check (condition : Bool) : MemoryMethod Unit := fun m =>
  if condition then .ok ((), m) else .error .assertion

/-- A value that an assertion says is there. -/
def given {α : Type} (value : Option α) : MemoryMethod α := fun m =>
  match value with
  | none => .error .assertion
  | some value => .ok (value, m)

/-- An `evutil_addrinfo` is read. -/
def load (p : Ptr) : MemoryMethod (Cell Bytes) := fun m =>
  match m[p]? with
  | none => .error .memory
  | some cell => .ok (cell, m)

/-- The resolver allocates a list. -/
def receive (cells : List (Ptr × Bytes)) : MemoryMethod Unit := fun m => .ok ((), allocate m cells)

/-- `evutil_freeaddrinfo`. -/
def freeaddrinfo (ai : Option Ptr) : MemoryMethod Unit := fun m =>
  match release m.size m ai with
  | none => .error .memory
  | some m' => .ok ((), m')

section Apply

variable {α β : Type} (m : Heap Bytes)

/-- One step after another. -/
@[simp] theorem bind_apply (method : MemoryMethod α) (next : α → MemoryMethod β) :
    (method >>= next) m = (method m).bind fun r => next r.1 r.2 := rfl

/-- What a step returns is changed. -/
@[simp] theorem map_apply (change : α → β) (method : MemoryMethod α) :
    (change <$> method) m = (method m).bind fun r => .ok (change r.1, r.2) := rfl

/-- No step. -/
@[simp] theorem pure_apply (value : α) : (pure value : MemoryMethod α) m = .ok (value, m) := rfl

/-- A step that returns is followed by the next. -/
@[simp] theorem ok_bind (value : α) (next : α → Except Fault β) : Except.bind (.ok value) next = next value := rfl

/-- A fault ends the run. -/
@[simp] theorem error_bind (fault : Fault) (next : α → Except Fault β) :
    Except.bind (.error fault) next = .error fault := rfl

/-- An assertion that holds. -/
@[simp] theorem check_true : check true m = .ok ((), m) := rfl

/-- An assertion that fails. -/
@[simp] theorem check_false : check false m = .error .assertion := rfl

/-- A value that is there. -/
@[simp] theorem given_some (value : α) : given (some value) m = .ok (value, m) := rfl

/-- One that is not. -/
@[simp] theorem given_none : given (none : Option α) m = .error .assertion := rfl

/-- What is allocated is read. -/
theorem load_of_found {p : Ptr} {cell : Cell Bytes} (hcell : m[p]? = some cell) : load p m = .ok (cell, m) := by
  rw [load, hcell]

end Apply

/-- `CDNSResponse::iterator`. -/
structure Iterator where
  ai : Option Ptr
deriving DecidableEq, Repr

namespace Iterator

/-- `operator==`. -/
def eq (it rhs : Iterator) : Bool := it.ai == rhs.ai

/-- `operator!=`. -/
def ne (it rhs : Iterator) : Bool := !it.eq rhs

/-- `operator->`, for the address of what it points at. -/
def addr (it : Iterator) : MemoryMethod Bytes := do
  let p ← given it.ai
  return (← load p).value

/-- `operator++`. -/
def advance (it : Iterator) : MemoryMethod Iterator := do
  let p ← given it.ai
  return ⟨(← load p).next⟩

end Iterator

/-- `CDNSResponse`. -/
structure CDNSResponse where
  ai : Option Ptr
deriving DecidableEq, Repr

namespace CDNSResponse

/-- `begin`. -/
def begin (r : CDNSResponse) : Iterator := ⟨r.ai⟩

/-- `end`. -/
def endIterator (_ : CDNSResponse) : Iterator := ⟨none⟩

/-- The end is found. -/
@[simp] theorem eq_endIterator_none (r : CDNSResponse) : Iterator.eq ⟨none⟩ r.endIterator = true := rfl

/-- It is not found at a cell. -/
@[simp] theorem eq_endIterator_some (r : CDNSResponse) (p : Ptr) : Iterator.eq ⟨some p⟩ r.endIterator = false := by
  simp [Iterator.eq, endIterator]

/-- `empty`. -/
def empty (r : CDNSResponse) : Bool := r.ai.isNone

/-- A response without a list is empty. -/
@[simp] theorem empty_none : empty ⟨none⟩ = true := rfl

/-- One with a list is not. -/
@[simp] theorem empty_some (p : Ptr) : empty ⟨some p⟩ = false := rfl

/-- `clear`, which is also what the destructor does. -/
def clear (r : CDNSResponse) : MemoryMethod CDNSResponse := do
  let _ ← if r.ai.isSome then freeaddrinfo r.ai else pure ()
  return ⟨none⟩

/-- Nothing is released without a list. -/
@[simp] theorem clear_none (m : Heap Bytes) : clear ⟨none⟩ m = .ok (⟨none⟩, m) := rfl

/-- `operator=`: the response, and the one that was moved from. -/
def assign (r rhs : CDNSResponse) : MemoryMethod (CDNSResponse × CDNSResponse) := do
  let _ ← r.clear
  return (⟨rhs.ai⟩, ⟨none⟩)

/-- The loop from `begin` to `end`. -/
def loop (r : CDNSResponse) : MemoryMethod (List Bytes) := fun m =>
  match walk m m.size r.begin.ai with
  | none => .error .memory
  | some cells => .ok (cells.map Prod.snd, m)

end CDNSResponse

/-- `dns_callback`, for the class that implements `OnResolveFailure` and `OnResolveSuccess`: the response is a
temporary, and its destructor runs last. -/
def dnsCallback {α : Type} (onResolveFailure : MemoryMethod α)
    (onResolveSuccess : CDNSResponse → MemoryMethod (α × CDNSResponse)) : DnsResult → MemoryMethod α
  | .failure => onResolveFailure
  | .addresses head rest => do
    receive (head :: rest)
    let (r, response) ← onResolveSuccess ⟨some head.1⟩
    let _ ← response.clear
    return r

/-- `CDNSConnection`. -/
structure CDNSConnection where
  retries : ℤ
  resolved : CDNSResponse
  iter : Iterator
  request : Bool
  bareBev : Option BufferEvent
deriving DecidableEq, Repr

namespace CDNSConnection

/-- The constructor. -/
def new (conn : CConnection) : CDNSConnection := ⟨conn.opts.nRetries, ⟨none⟩, ⟨none⟩, false, none⟩

/-- `OnResolveFailure`. -/
def onResolveFailure (conn : CConnection) (c : CDNSConnection) : MemoryMethod (ConnResult CDNSConnection) := do
  check c.resolved.empty
  check (c.iter.eq c.resolved.endIterator)
  let (retries, retry) := takeRetry c.retries
  return ⟨{ c with retries, request := false }, [], .connectionFailure .resolve conn retry⟩

/-- `OnConnectFailure`. -/
def onConnectFailure (conn : CConnection) (c : CDNSConnection) : MemoryMethod (ConnResult CDNSConnection) := do
  check !c.request
  check (c.iter.ne c.resolved.endIterator)
  check !c.resolved.empty
  let addr ← c.iter.addr
  let iter ← c.iter.advance
  let resolved ← if iter.eq c.resolved.endIterator then c.resolved.clear else pure c.resolved
  let retry := iter.ne resolved.endIterator || decide (c.retries ≠ 0)
  return ⟨{ c with resolved, iter }, [],
    .connectionFailure .connect (LibBtcNet.CDNSConnection.resolvedConnection conn addr) retry⟩

/-- `ConnectResolved`. -/
def connectResolved (conn : CConnection) (c : CDNSConnection) : MemoryMethod (ConnResult CDNSConnection) := do
  check (c.iter.ne c.resolved.endIterator)
  check !c.resolved.empty
  let addr ← c.iter.addr
  if CConnection.canConnectDirectAddr addr conn.opts.nFamily then
    let bev ← given (bareConnect c.bareBev addr conn.opts.nConnTimeout)
    return ⟨{ c with bareBev := some bev }, [.socketConnect addr], .waiting⟩
  else c.onConnectFailure conn

/-- `OnResolveSuccess`, with what it leaves of the response. -/
def onResolveSuccess (conn : CConnection) (c : CDNSConnection) (response : CDNSResponse) :
    MemoryMethod (ConnResult CDNSConnection × CDNSResponse) := do
  check c.resolved.empty
  check (c.iter.eq c.resolved.endIterator)
  let (resolved, response) ← c.resolved.assign response
  let r ← { c with request := false, resolved, iter := resolved.begin }.connectResolved conn
  return (r, response)

/-- What `dns_callback` calls. -/
def onResolved (conn : CConnection) (result : DnsResult) (c : CDNSConnection) :
    MemoryMethod (ConnResult CDNSConnection) :=
  OnHeap.dnsCallback (c.onResolveFailure conn) (c.onResolveSuccess conn) result

/-- `DoResolve`. -/
def doResolve (names : NameInfo) (conn : CConnection) (lookup : Lookup) (c : CDNSConnection) :
    MemoryMethod (ConnResult CDNSConnection) := do
  check !c.request
  check c.resolved.empty
  check (c.iter.eq c.resolved.endIterator)
  match setResolveFamily conn.opts.nFamily with
  | some family =>
    if conn.canResolve then
      let query := NetAction.getaddrinfo (conn.getHost names) (conn.getPort names) family
      match lookup with
      | .later => return ⟨{ c with request := true }, [query], .waiting⟩
      | .atOnce result =>
        let r ← c.onResolved conn result
        return { r with net := query :: r.net }
    else c.onResolveFailure conn
  | none => c.onResolveFailure conn

/-- `Connect`. -/
def connect (names : NameInfo) (conn : CConnection) (lookup : Lookup) (c : CDNSConnection) :
    MemoryMethod (ConnResult CDNSConnection) := do
  check !c.request
  if c.iter.eq c.resolved.endIterator then c.doResolve names conn lookup
  else c.connectResolved conn

/-- `OnConnectSuccess`. -/
def onConnectSuccess (conn : CConnection) (bev : BufferEvent) (c : CDNSConnection) :
    MemoryMethod (ConnResult CDNSConnection) := do
  check !c.resolved.empty
  check (c.iter.ne c.resolved.endIterator)
  check !c.request
  let addr ← c.iter.addr
  let resolved ← c.resolved.clear
  return ⟨{ c with resolved, iter := resolved.endIterator, retries := conn.opts.nRetries }, [],
    .outgoingConnected bev (LibBtcNet.CDNSConnection.resolvedConnection conn addr)⟩

/-- `conn_event`, which comes only while a bufferevent connects. -/
def connEvent (conn : CConnection) (event : BevEvents) (c : CDNSConnection) :
    MemoryMethod (ConnResult CDNSConnection) :=
  match c.bareBev with
  | none => return ConnResult.unchanged c
  | some bev =>
    if event.connected then { c with bareBev := none }.onConnectSuccess conn bev
    else { c with bareBev := none }.onConnectFailure conn

/-- `dns_callback`, which comes only while a request is outstanding. -/
def dnsCallback (conn : CConnection) (result : DnsResult) (c : CDNSConnection) :
    MemoryMethod (ConnResult CDNSConnection) :=
  if c.request then c.onResolved conn result else return ConnResult.unchanged c

/-- `Cancel`. -/
def cancel (c : CDNSConnection) : MemoryMethod (ConnResult CDNSConnection) := do
  let resolved ← c.resolved.clear
  return ⟨{ c with request := false, resolved, iter := resolved.endIterator }, [], .waiting⟩

end CDNSConnection

namespace CResolveOnly

/-- `OnResolveSuccess`, which leaves the response alone. -/
def onResolveSuccess (c : CResolveOnly) (response : CDNSResponse) :
    MemoryMethod (MethodResult CResolveOnly ResolveReport × CDNSResponse) := do
  let addrs ← response.loop
  let connections := addrs.map (CConnection.ofSockAddr c.conn.opts c.conn.netConfig .unset)
  return (⟨{ c with retries := c.conn.opts.nRetries, request := false }, [], .resolveComplete connections⟩, response)

/-- What `dns_callback` calls. -/
def onResolved (result : DnsResult) (c : CResolveOnly) : MemoryMethod (MethodResult CResolveOnly ResolveReport) :=
  OnHeap.dnsCallback (return c.onResolveFailure) (onResolveSuccess c) result

/-- `Resolve`. -/
def resolve (names : NameInfo) (lookup : Lookup) (c : CResolveOnly) :
    MemoryMethod (MethodResult CResolveOnly ResolveReport) := do
  check !c.request
  check c.conn.isDns
  match setResolveFamily c.conn.opts.nFamily with
  | some family =>
    if c.conn.canResolve then
      let query := NetAction.getaddrinfo (c.conn.getHost names) (c.conn.getPort names) family
      match lookup with
      | .later => return ⟨{ c with request := true }, [query], .waiting⟩
      | .atOnce result =>
        let r ← onResolved result c
        return { r with net := query :: r.net }
    else return c.onResolveFailure
  | none => return c.onResolveFailure

/-- `dns_callback`, which comes only while a request is outstanding. -/
def dnsCallback (result : DnsResult) (c : CResolveOnly) : MemoryMethod (MethodResult CResolveOnly ResolveReport) :=
  if c.request then onResolved result c else return ⟨c, [], .waiting⟩

end CResolveOnly

end OnHeap

end LibBtcNet
