import LibBtcNet.BareProxy

/-!
# The states of a handshake

At every moment the state of a handshake is determined by the bytes received so far: it
waits for the method reply, the reply to the credentials or the final reply with the
unread bytes buffered, or it has failed or succeeded for a reason that those bytes give.
One step keeps this description, whatever arrives and whenever the callback runs.
-/

namespace LibBtcNet

/-- What a handshake reported. -/
def outcomes (log : List ProxyEffect) : List ProxyEffect :=
  log.filter fun
    | .write _ => false
    | _ => true

/-- Outcomes are reported one after another. -/
theorem outcomes_append (before after : List ProxyEffect) :
    outcomes (before ++ after) = outcomes before ++ outcomes after := List.filter_append ..

/-- Writing reports nothing. -/
@[simp] theorem outcomes_map_write (writes : List Bytes) : outcomes (writes.map .write) = [] := by
  simp [outcomes]

/-- Both credentials fit their length byte. -/
def AuthEncodable (auth : CProxyAuth) : Prop := auth.username.length ≤ 255 ∧ auth.password.length ≤ 255

/-- The replies to the greeting that the handshake goes on from. -/
inductive GreetingAccepted (auth : CProxyAuth) : Bytes → Prop where
  | method (m : UInt8) (h : m ≠ 0x02) : GreetingAccepted auth [0x05, m]
  | credentials (version status : UInt8) (hauth : AuthEncodable auth)
      (h : version = 0x01 ∨ status = 0x00) : GreetingAccepted auth [0x05, 0x02, version, status]

/-- What is written before the request. -/
def greetingWrites (auth : CProxyAuth) (head : Bytes) : List Bytes :=
  initRequest auth :: if head.length = 4 then (writeAuth auth).toList else []

/-- The length `read_final` wants for a reply, unless it rejects the reply. -/
def finalNeed (reply : Bytes) : Option ℕ :=
  if reply.getD 0 0 ≠ 0x05 ∨ reply.getD 1 0 ≠ 0x00 then none
  else (replyAddress 0 (reply.getD 3 0) (reply.getD 4 0)).map needSize

/-- The bytes that make a handshake fail, with what was written by then. -/
inductive Rejected (names : NameInfo) (conn : CConnection) : Bytes → List Bytes → Prop where
  | version {received : Bytes} (hlen : 2 ≤ received.length) (h : received.getD 0 0 ≠ 0x05) :
      Rejected names conn received [initRequest conn.proxy.auth]
  | credentials {input : Bytes} (h : writeAuth conn.proxy.auth = none) :
      Rejected names conn (0x05 :: 0x02 :: input) [initRequest conn.proxy.auth]
  | authReply {version status : UInt8} {input request : Bytes}
      (hauth : writeAuth conn.proxy.auth = some request) (hversion : version ≠ 0x01)
      (hstatus : status ≠ 0x00) :
      Rejected names conn (0x05 :: 0x02 :: version :: status :: input)
        [initRequest conn.proxy.auth, request]
  | request {head input : Bytes} (hhead : GreetingAccepted conn.proxy.auth head)
      (h : writeproto names conn = .refused) :
      Rejected names conn (head ++ input) (greetingWrites conn.proxy.auth head)
  | reply {head input request : Bytes} (hhead : GreetingAccepted conn.proxy.auth head)
      (hrequest : writeproto names conn = .written request) (hlen : 8 ≤ input.length)
      (h : finalNeed input = none) :
      Rejected names conn (head ++ input) (greetingWrites conn.proxy.auth head ++ [request])

/-- A bufferevent whose read callback waits for `low` bytes of input. -/
structure Awaiting (bev : BufferEvent) (cb : ReadCb) (low : ℕ) (input : Bytes) : Prop where
  readcb : bev.readcb = some cb
  low : bev.readLow = low
  high : bev.readHigh = 0
  enabled : bev.readEnabled = true
  input : bev.input.flatten = input

/-- The states of a handshake against the bytes received; it may also have failed because it was
disturbed by an event. -/
inductive Handshake (names : NameInfo) (conn : CConnection) (disturbed : Prop) : ProxyRun → Prop where
  | methodReply {bev : BufferEvent} {received : Bytes} (h : Awaiting bev .receiveInit 2 received) :
      Handshake names conn disturbed
        ⟨⟨conn, some bev⟩, [.write (initRequest conn.proxy.auth)], received⟩
  | authReply {bev : BufferEvent} {input request : Bytes}
      (hauth : writeAuth conn.proxy.auth = some request) (h : Awaiting bev .checkAuthResponse 2 input) :
      Handshake names conn disturbed
        ⟨⟨conn, some bev⟩, [.write (initRequest conn.proxy.auth), .write request], 0x05 :: 0x02 :: input⟩
  | finalReply {bev : BufferEvent} {head input request : Bytes} {low : ℕ}
      (hhead : GreetingAccepted conn.proxy.auth head) (hrequest : writeproto names conn = .written request)
      (hlow : low = 8 ∨ 8 ≤ input.length ∧ finalNeed input = some low)
      (h : Awaiting bev .readFinal low input) :
      Handshake names conn disturbed
        ⟨⟨conn, some bev⟩, (greetingWrites conn.proxy.auth head ++ [request]).map .write, head ++ input⟩
  | failed {received : Bytes} {writes : List Bytes} (h : Rejected names conn received writes ∨ disturbed) :
      Handshake names conn disturbed ⟨⟨conn, none⟩, writes.map .write ++ [.proxyFailure], received⟩
  | succeeded {head input request : Bytes} {need : ℕ} {handed : BufferEvent} {resolved : CConnection}
      (hhead : GreetingAccepted conn.proxy.auth head) (hrequest : writeproto names conn = .written request)
      (hlen : 8 ≤ input.length) (hneed : finalNeed input = some need) (hfull : need ≤ input.length)
      (hhanded : handed.input.flatten = input.drop need) (hpending : handed.readPending = false) :
      Handshake names conn disturbed
        ⟨⟨conn, none⟩, (greetingWrites conn.proxy.auth head ++ [request]).map .write ++
          [.proxySuccess handed resolved], head ++ input⟩

/-- The request cannot be built because an assertion fails, and the replies received make the
handshake build it. -/
def RequestAborts (names : NameInfo) (conn : CConnection) (received : Bytes) : Prop :=
  writeproto names conn = .aborted ∧ ∃ head, GreetingAccepted conn.proxy.auth head ∧ head <+: received

/-- How many of the three callbacks are still to decide. -/
def ProxyRun.stagesLeft (run : ProxyRun) : ℕ :=
  match run.proxy.bev.bind (·.readcb) with
  | some .receiveInit => 3
  | some .checkAuthResponse => 2
  | some .readFinal => 1
  | _ => 0

/-- A credentials message is written exactly when both credentials fit. -/
theorem writeAuth_isSome_iff (auth : CProxyAuth) : (writeAuth auth).isSome ↔ AuthEncodable auth := by
  rw [writeAuth, AuthEncodable]
  split_ifs with h
  · simp only [Option.isSome_none, Bool.false_eq_true, false_iff, not_and_or, Nat.not_le]
    exact h
  · simpa [not_or] using h

/-- An accepted greeting is determined by the bytes it begins. -/
theorem GreetingAccepted.unique {auth : CProxyAuth} {head head' input input' : Bytes}
    (hhead : GreetingAccepted auth head) (hhead' : GreetingAccepted auth head')
    (heq : head ++ input = head' ++ input') : head = head' ∧ input = input' := by
  cases hhead with
  | method m hm =>
    cases hhead' with
    | method m' hm' => simpa [and_assoc] using heq
    | credentials version status hauth h => exact absurd (List.cons.inj (List.cons.inj heq).2).1 hm
  | credentials version status hauth h =>
    cases hhead' with
    | method m' hm' => exact absurd (List.cons.inj (List.cons.inj heq).2).1.symm hm'
    | credentials version' status' hauth' h' => simpa [and_assoc] using heq

/-- Behind an accepted greeting, a rejection is about the request or the final reply. -/
theorem Rejected.of_accepted {names : NameInfo} {conn : CConnection} {head input : Bytes}
    {writes : List Bytes} (h : Rejected names conn (head ++ input) writes)
    (hhead : GreetingAccepted conn.proxy.auth head) :
    writeproto names conn = .refused ∨
      (∃ request, writeproto names conn = .written request) ∧ 8 ≤ input.length ∧
        finalNeed input = none := by
  generalize hreceived : head ++ input = received at h
  cases h with
  | version hlen hversion =>
    rw [← hreceived] at hversion
    cases hhead <;> simp at hversion
  | credentials hauth =>
    cases hhead with
    | method m hm => exact absurd (List.cons.inj (List.cons.inj hreceived).2).1 hm
    | credentials version status hauth' _ =>
      have := (writeAuth_isSome_iff _).mpr hauth'
      simp [hauth] at this
  | authReply _ hversion hstatus =>
    cases hhead with
    | method m hm => exact absurd (List.cons.inj (List.cons.inj hreceived).2).1 hm
    | credentials version status _ haccepted =>
      simp only [List.cons_append, List.nil_append, List.cons.injEq, true_and] at hreceived
      obtain ⟨rfl, rfl, -⟩ := hreceived
      exact (haccepted.elim hversion hstatus).elim
  | request _ hrefused => exact Or.inl hrefused
  | reply hhead' hrequest hlen hnone =>
    obtain ⟨-, rfl⟩ := hhead.unique hhead' hreceived
    exact Or.inr ⟨⟨_, hrequest⟩, hlen, hnone⟩

/-- The bytes that decide what a reply needs are its first five. -/
theorem finalNeed_append {reply : Bytes} (hlen : 8 ≤ reply.length) (later : Bytes) :
    finalNeed (reply ++ later) = finalNeed reply := by
  have hbyte (i : ℕ) (hi : i < 5) : (reply ++ later).getD i 0 = reply.getD i 0 := by
    rw [List.getD_eq_getElem?_getD, List.getElem?_append_left (by omega), ← List.getD_eq_getElem?_getD]
  rw [finalNeed, finalNeed, hbyte 0 (by omega), hbyte 1 (by omega), hbyte 3 (by omega), hbyte 4 (by omega)]

/-- What a reply needs does not depend on the port of the endpoint. -/
theorem replyAddress_needSize (port port' : UInt16) (atyp length : UInt8) :
    (replyAddress port atyp length).map needSize = (replyAddress port' atyp length).map needSize := by
  unfold replyAddress
  split <;> rfl

/-- A numeric address has at most 16 bytes. -/
theorem replyAddress_small {port : UInt16} {atyp length : UInt8} {addrsize : ℕ}
    {sockaddr : Option (Bytes → Bytes)} (h : replyAddress port atyp length = some (addrsize, sockaddr))
    (hnumeric : sockaddr.isSome = true) : addrsize ≤ 16 := by
  unfold replyAddress at h
  split at h <;> simp only [Option.some.injEq, Prod.mk.injEq, reduceCtorEq] at h <;>
    obtain ⟨rfl, rfl⟩ := h
  · omega
  · omega
  · contradiction

/-- A plain `char` above 127 is negative, and wraps. -/
theorem charToSizeT_eq (c : UInt8) :
    charToSizeT c = if c.toNat < 128 then c.toNat else 2 ^ 64 - 256 + c.toNat := by
  have hlt := c.toNat_lt
  rw [charToSizeT, sizeT]
  have htoInt : c.toInt8.toInt = if c.toNat < 128 then (c.toNat : ℤ) else c.toNat - 256 := by
    change c.toBitVec.toInt = _
    rw [BitVec.toInt_eq_toNat_cond, UInt8.toNat_toBitVec]
    split_ifs <;> omega
  rw [htoInt]
  split_ifs <;> omega

/-- The length that `read_final` wants for a reply with a domain of `length` bytes. -/
def domainNeed (length : ℕ) : ℕ :=
  if length < 128 then 7 + length else if length < 249 then 2 ^ 64 - 249 + length else length - 249

/-- What a reply with a domain needs: the length byte is taken as signed and added in `size_t`. -/
theorem needSize_domain (c : UInt8) : needSize (charToSizeT c, none) = domainNeed c.toNat := by
  have hlt := c.toNat_lt
  simp only [needSize, Option.isSome_none, Bool.false_eq_true, if_false, sizeT, charToSizeT_eq, domainNeed]
  split_ifs <;> omega

/-- Arriving bytes are appended to the input a callback waits for. -/
theorem Awaiting.arrive {bev : BufferEvent} {cb : ReadCb} {low : ℕ} {input : Bytes}
    (h : Awaiting bev cb low input) (chunks : List Bytes) :
    Awaiting (bev.arrive chunks) cb low (input ++ chunks.flatten) := by
  refine ⟨h.readcb, h.low, h.high, h.enabled, ?_⟩
  rw [← h.input]
  exact EvBuffer.flatten_add bev.input chunks

/-- A callback that is dispatched is no longer pending. -/
theorem Awaiting.dispatched {bev : BufferEvent} {cb : ReadCb} {low : ℕ} {input : Bytes}
    (h : Awaiting bev cb low input) : Awaiting { bev with readPending := false } cb low input :=
  ⟨h.readcb, h.low, h.high, h.enabled, h.input⟩

/-- A waiting callback is due when the input has reached its watermark. -/
theorem Awaiting.due_iff {bev : BufferEvent} {cb : ReadCb} {low : ℕ} {input : Bytes}
    (h : Awaiting bev cb low input) {run : ProxyRun} (hbev : run.proxy.bev = some bev) :
    run.due = true ↔ low ≤ input.length := by
  simp [ProxyRun.due, hbev, h.readcb, h.low, EvBuffer.getLength, h.input]

/-- When no callback is due, the input is below the watermark. -/
theorem Awaiting.lt_of_settled {bev : BufferEvent} {cb : ReadCb} {low : ℕ} {input : Bytes} {run : ProxyRun}
    (h : Awaiting bev cb low input) (hsettled : run.due = false) (hbev : run.proxy.bev = some bev) :
    input.length < low := by
  rw [← Nat.not_le, ← h.due_iff hbev, hsettled]
  exact Bool.false_ne_true

/-- Reading is not suspended while a callback waits. -/
theorem Awaiting.step_arrive {names : NameInfo} {run : ProxyRun} {bev : BufferEvent} {cb : ReadCb}
    {low : ℕ} {input : Bytes} (h : Awaiting bev cb low input) (hbev : run.proxy.bev = some bev)
    (chunks : List Bytes) :
    run.step names (.arrive chunks) = some { run with
      proxy := { run.proxy with bev := some (bev.arrive chunks) }
      received := run.received ++ chunks.flatten } := by
  simp [ProxyRun.step, hbev, h.enabled, BufferEvent.readSuspended, h.high]

/-- A due callback runs. -/
theorem step_readCallback {names : NameInfo} {run : ProxyRun} {bev : BufferEvent}
    (hbev : run.proxy.bev = some bev) (hdue : run.due = true) :
    run.step names .readCallback =
      ((run.dispatched bev).proxy.runReadcb names { bev with readPending := false }).map run.perform := by
  simp [ProxyRun.step, hbev, hdue]

/-- A callback that is not due does not run. -/
theorem step_readCallback_of_not_due {names : NameInfo} {run : ProxyRun} (hdue : run.due = false) :
    run.step names .readCallback = some run := by
  cases hbev : run.proxy.bev <;> simp [ProxyRun.step, hbev, hdue]

/-- Nothing happens to a handshake that has ended. -/
theorem step_of_ended {names : NameInfo} {run : ProxyRun} (hbev : run.proxy.bev = none) (s : ProxyStep) :
    run.step names s = some run := by
  simp [ProxyRun.step, hbev]

/-- The bytes of an end of the input that are read and drained. -/
theorem copyout_drain_two {input : EvBuffer} {b0 b1 : UInt8} {rest : Bytes}
    (h : input.flatten = b0 :: b1 :: rest) : input.copyout 2 = [b0, b1] ∧ (input.drain 2).flatten = rest := by
  rw [EvBuffer.copyout, EvBuffer.flatten_drain, h]
  exact ⟨rfl, rfl⟩

section Step

variable {names : NameInfo} {conn : CConnection} {disturbed : Prop}

/-- What a callback makes of a handshake: it keeps the description, and leaves fewer callbacks to
decide or none that is due. -/
def Advances (names : NameInfo) (conn : CConnection) (disturbed : Prop) (run next : ProxyRun) : Prop :=
  Handshake names conn disturbed next ∧ next.received = run.received ∧
    (next.due = false ∨ next.stagesLeft < run.stagesLeft)

/-- The result of a callback advances the handshake; it is absent only if the request aborts. -/
def Progresses (names : NameInfo) (conn : CConnection) (disturbed : Prop) (run : ProxyRun)
    (result : Option (CBareProxy × List ProxyEffect)) : Prop :=
  (∃ r, result = some r ∧ Advances names conn disturbed run (run.perform r)) ∨
    result = none ∧ RequestAborts names conn run.received

/-- The request is written, or refused, once the greeting is accepted. -/
theorem sendRequest_progresses {bev bev' : BufferEvent} {head input : Bytes} {cb : ReadCb}
    (hhead : GreetingAccepted conn.proxy.auth head) (hcb : bev.readcb = some cb)
    (hstage : cb = .receiveInit ∨ cb = .checkAuthResponse) (henabled : bev'.readEnabled = true)
    (hinput : bev'.input.flatten = input) :
    Progresses names conn disturbed
      ⟨⟨conn, some bev⟩, (greetingWrites conn.proxy.auth head).map .write, head ++ input⟩
      (CBareProxy.sendRequest names ⟨conn, some bev⟩ bev') := by
  rw [CBareProxy.sendRequest]
  cases hproto : writeproto names conn with
  | aborted => exact Or.inr ⟨rfl, hproto, head, hhead, List.prefix_append _ _⟩
  | refused => exact Or.inl ⟨_, rfl, .failed (Or.inl (.request hhead hproto)), rfl, Or.inl rfl⟩
  | written request =>
    have hwrites : (greetingWrites conn.proxy.auth head).map ProxyEffect.write ++ [.write request] =
        (greetingWrites conn.proxy.auth head ++ [request]).map .write := by simp
    refine Or.inl ⟨_, rfl, ?_, rfl, Or.inr ?_⟩
    · simp only [ProxyRun.perform, hwrites]
      exact .finalReply hhead hproto (Or.inl rfl) ⟨rfl, rfl, rfl, henabled, hinput⟩
    · change 1 < ProxyRun.stagesLeft _
      rcases hstage with rfl | rfl <;> simp [ProxyRun.stagesLeft, hcb]

/-- `receive_init` on a method reply. -/
theorem receiveInit_progresses {bev : BufferEvent} {received : Bytes}
    (h : Awaiting bev .receiveInit 2 received) (hlen : 2 ≤ received.length) :
    Progresses names conn disturbed ⟨⟨conn, some bev⟩, [.write (initRequest conn.proxy.auth)], received⟩
      (CBareProxy.receiveInit names ⟨conn, some bev⟩ bev) := by
  obtain ⟨version, m, input, rfl⟩ : ∃ version m input, received = version :: m :: input := by
    match received, hlen with
    | version :: m :: input, _ => exact ⟨version, m, input, rfl⟩
  obtain ⟨hread, hrest⟩ := copyout_drain_two h.input
  simp only [CBareProxy.receiveInit, hread, List.length_cons, List.length_nil, List.getD_cons_zero,
    List.getD_cons_succ]
  rw [if_neg (by omega)]
  by_cases hversion : version = 0x05
  · subst hversion
    rw [if_neg (by simp)]
    by_cases hm : m = 0x02
    · subst hm
      rw [if_pos rfl]
      cases hauth : writeAuth conn.proxy.auth with
      | none => exact Or.inl ⟨_, rfl, .failed (Or.inl (.credentials hauth)), rfl, Or.inl rfl⟩
      | some request =>
        refine Or.inl ⟨_, rfl, .authReply hauth ⟨rfl, rfl, rfl, h.enabled, hrest⟩, rfl, Or.inr ?_⟩
        simp [ProxyRun.stagesLeft, ProxyRun.perform, h.readcb, BufferEvent.write,
          BufferEvent.setReadWatermark, BufferEvent.setcb]
    · rw [if_neg hm]
      exact sendRequest_progresses (.method m hm) h.readcb (Or.inl rfl) h.enabled hrest
  · rw [if_pos hversion]
    exact Or.inl ⟨_, rfl, .failed (Or.inl (.version hlen hversion)), rfl, Or.inl rfl⟩

/-- `check_auth_response` on a reply to the credentials. -/
theorem checkAuthResponse_progresses {bev : BufferEvent} {input request : Bytes}
    (hauth : writeAuth conn.proxy.auth = some request) (h : Awaiting bev .checkAuthResponse 2 input)
    (hlen : 2 ≤ input.length) :
    Progresses names conn disturbed
      ⟨⟨conn, some bev⟩, [.write (initRequest conn.proxy.auth), .write request], 0x05 :: 0x02 :: input⟩
      (CBareProxy.checkAuthResponse names ⟨conn, some bev⟩ bev) := by
  obtain ⟨version, status, rest, rfl⟩ : ∃ version status rest, input = version :: status :: rest := by
    match input, hlen with
    | version :: status :: rest, _ => exact ⟨version, status, rest, rfl⟩
  obtain ⟨hread, hrest⟩ := copyout_drain_two h.input
  simp only [CBareProxy.checkAuthResponse, hread, List.length_cons, List.length_nil, List.getD_cons_zero,
    List.getD_cons_succ]
  rw [if_neg (by omega)]
  by_cases hreply : version ≠ 0x01 ∧ status ≠ 0x00
  · rw [if_pos hreply]
    exact Or.inl ⟨_, rfl, .failed (Or.inl (.authReply hauth hreply.1 hreply.2)), rfl, Or.inl rfl⟩
  · rw [if_neg hreply]
    have hencodable : AuthEncodable conn.proxy.auth := (writeAuth_isSome_iff _).mp (by simp [hauth])
    rw [not_and_or, not_not, not_not] at hreply
    have hwrites : [ProxyEffect.write (initRequest conn.proxy.auth), .write request] =
        (greetingWrites conn.proxy.auth [0x05, 0x02, version, status]).map .write := by
      simp [greetingWrites, hauth]
    rw [hwrites]
    exact sendRequest_progresses (.credentials version status hencodable hreply) h.readcb (Or.inr rfl)
      h.enabled hrest

/-- `read_final` on a final reply. -/
theorem readFinal_progresses {bev : BufferEvent} {head input request : Bytes} {low : ℕ}
    (hhead : GreetingAccepted conn.proxy.auth head) (hrequest : writeproto names conn = .written request)
    (h : Awaiting bev .readFinal low input) (hpending : bev.readPending = false) (hlen : 8 ≤ input.length) :
    Progresses names conn disturbed
      ⟨⟨conn, some bev⟩, (greetingWrites conn.proxy.auth head ++ [request]).map .write, head ++ input⟩
      (CBareProxy.readFinal names ⟨conn, some bev⟩ bev) := by
  have hlength : bev.input.getLength = input.length := by rw [EvBuffer.getLength, h.input]
  have hbyte (i : ℕ) (hi : i < 5) : (bev.input.copyout 5).getD i 0 = input.getD i 0 := by
    rw [EvBuffer.copyout, h.input, List.getD_eq_getElem?_getD, List.getElem?_take_of_lt hi,
      ← List.getD_eq_getElem?_getD]
  rw [CBareProxy.readFinal, hlength]
  simp only [hbyte 0 (by omega), hbyte 1 (by omega), hbyte 3 (by omega), hbyte 4 (by omega)]
  rw [if_neg (by omega)]
  by_cases hstart : input.getD 0 0 ≠ 0x05 ∨ input.getD 1 0 ≠ 0x00
  · rw [if_pos hstart]
    have hneed : finalNeed input = none := if_pos hstart
    exact Or.inl ⟨_, rfl, .failed (Or.inl (.reply hhead hrequest hlen hneed)), rfl, Or.inl rfl⟩
  · rw [if_neg hstart]
    have hneed : finalNeed input = (replyAddress (conn.getPort names) (input.getD 3 0)
        (input.getD 4 0)).map needSize := by
      rw [finalNeed, if_neg hstart]
      exact replyAddress_needSize _ _ _ _
    cases haddress : replyAddress (conn.getPort names) (input.getD 3 0) (input.getD 4 0) with
    | none =>
      rw [haddress] at hneed
      exact Or.inl ⟨_, rfl, .failed (Or.inl (.reply hhead hrequest hlen hneed)), rfl, Or.inl rfl⟩
    | some address =>
      obtain ⟨addrsize, sockaddr⟩ := address
      rw [haddress, Option.map_some] at hneed
      simp only
      by_cases hshort : input.length < needSize (addrsize, sockaddr)
      · rw [if_pos hshort]
        refine Or.inl ⟨_, rfl, ?_, rfl, Or.inl ?_⟩
        · simp only [ProxyRun.perform, List.append_nil]
          exact .finalReply hhead hrequest (Or.inr ⟨hlen, hneed⟩)
            ⟨h.readcb, rfl, rfl, h.enabled, h.input⟩
        · simp [ProxyRun.due, ProxyRun.perform, BufferEvent.setReadWatermark, hlength, hshort]
      · rw [if_neg hshort]
        cases sockaddr with
        | none =>
          refine Or.inl ⟨_, rfl, .succeeded hhead hrequest hlen hneed (Nat.le_of_not_lt hshort) ?_ hpending, rfl,
            Or.inl rfl⟩
          have hsum : (5 + addrsize + 2 : ℤ) = 6 + 1 + addrsize := by omega
          simp only [EvBuffer.flatten_drain, h.input, hsum, needSize, Option.isSome_none,
            Bool.false_eq_true, if_false]
        | some toSockAddr =>
          have hsmall := replyAddress_small haddress rfl
          have hsize : needSize (addrsize, some toSockAddr) = 4 + addrsize + 2 := by
            simp only [needSize, Option.isSome_some, if_true]
            rw [sizeT_of_nonneg] <;> omega
          rw [hsize] at hshort
          dsimp only
          rw [if_neg]
          · refine Or.inl ⟨_, rfl, .succeeded hhead hrequest hlen hneed (by rw [hsize]; omega) ?_ hpending, rfl,
              Or.inl rfl⟩
            simp only [EvBuffer.flatten_drain, h.input, List.drop_drop, hsize]
          · simp only [EvBuffer.copyout, EvBuffer.flatten_drain, h.input, List.length_take,
              List.length_drop]
            omega

/-- A due callback advances the handshake, or the request aborts. -/
theorem Handshake.readCallback {run : ProxyRun} (h : Handshake names conn disturbed run)
    (hdue : run.due = true) :
    (∃ next, run.step names .readCallback = some next ∧ Advances names conn disturbed run next) ∨
      run.step names .readCallback = none ∧ RequestAborts names conn run.received := by
  obtain ⟨bev, hbev, hprogresses⟩ : ∃ bev, run.proxy.bev = some bev ∧
      Progresses names conn disturbed (run.dispatched bev)
        ((run.dispatched bev).proxy.runReadcb names { bev with readPending := false }) := by
    cases h with
    | methodReply hawait =>
      refine ⟨_, rfl, ?_⟩
      rw [CBareProxy.runReadcb_receiveInit hawait.dispatched.readcb]
      exact receiveInit_progresses hawait.dispatched ((hawait.due_iff rfl).mp hdue)
    | authReply hauth hawait =>
      refine ⟨_, rfl, ?_⟩
      rw [CBareProxy.runReadcb_checkAuthResponse hawait.dispatched.readcb]
      exact checkAuthResponse_progresses hauth hawait.dispatched ((hawait.due_iff rfl).mp hdue)
    | finalReply hhead hrequest hlow hawait =>
      have hlen := (hawait.due_iff rfl).mp hdue
      refine ⟨_, rfl, ?_⟩
      rw [CBareProxy.runReadcb_readFinal hawait.dispatched.readcb]
      exact readFinal_progresses hhead hrequest hawait.dispatched rfl (by omega)
    | failed | succeeded => simp [ProxyRun.due] at hdue
  have hstages : (run.dispatched bev).stagesLeft = run.stagesLeft := by
    simp [ProxyRun.stagesLeft, ProxyRun.dispatched, hbev]
  rw [step_readCallback hbev hdue]
  rcases hprogresses with ⟨result, hresult, hnext⟩ | ⟨hnone, haborts⟩
  · rw [Advances, hstages] at hnext
    exact Or.inl ⟨_, by rw [hresult]; rfl, hnext⟩
  · exact Or.inr ⟨by rw [hnone]; rfl, haborts⟩

/-- Bytes that arrive while the handshake is on lengthen what was received. -/
theorem Handshake.arrive {run : ProxyRun} (h : Handshake names conn disturbed run) (chunks : List Bytes) :
    ∃ next, run.step names (.arrive chunks) = some next ∧ Handshake names conn disturbed next ∧
      next.received = if run.proxy.bev.isSome then run.received ++ chunks.flatten else run.received := by
  cases h with
  | methodReply hawait =>
    exact ⟨_, hawait.step_arrive rfl chunks, .methodReply (hawait.arrive chunks), rfl⟩
  | authReply hauth hawait =>
    exact ⟨_, hawait.step_arrive rfl chunks, .authReply hauth (hawait.arrive chunks), rfl⟩
  | finalReply hhead hrequest hlow hawait =>
    refine ⟨_, hawait.step_arrive rfl chunks, ?_, rfl⟩
    rw [List.append_assoc]
    refine .finalReply hhead hrequest ?_ (hawait.arrive chunks)
    rcases hlow with hlow | ⟨hlen, hneed⟩
    · exact Or.inl hlow
    · exact Or.inr ⟨by rw [List.length_append]; omega, by rw [finalNeed_append hlen, hneed]⟩
  | failed hreason => exact ⟨_, rfl, .failed hreason, rfl⟩
  | succeeded hhead hrequest hlen hneed hfull hhanded hpending =>
    exact ⟨_, rfl, .succeeded hhead hrequest hlen hneed hfull hhanded hpending, rfl⟩

/-- An event that is reported leaves the handshake as it is or makes it fail. -/
theorem Handshake.event {run : ProxyRun} (h : Handshake names conn True run) (what : BevEvents) :
    ∃ next, run.step names (.event what) = some next ∧ Handshake names conn True next ∧
      next.received = run.received := by
  -- While the handshake is on it only wrote.
  have hevent (bev : BufferEvent) (writes : List Bytes) (received : Bytes)
      (hrun : Handshake names conn True ⟨⟨conn, some bev⟩, writes.map .write, received⟩) :
      ∃ next, ProxyRun.step names ⟨⟨conn, some bev⟩, writes.map .write, received⟩ (.event what) = some next ∧
        Handshake names conn True next ∧ next.received = received := by
    refine ⟨_, rfl, ?_, rfl⟩
    rw [CBareProxy.eventCb]
    split
    · exact .failed (Or.inr trivial)
    · simpa [ProxyRun.perform] using hrun
  cases h with
  | methodReply hawait => exact hevent _ [initRequest conn.proxy.auth] _ (.methodReply hawait)
  | authReply hauth hawait => exact hevent _ [initRequest conn.proxy.auth, _] _ (.authReply hauth hawait)
  | finalReply hhead hrequest hlow hawait => exact hevent _ _ _ (.finalReply hhead hrequest hlow hawait)
  | failed hreason => exact ⟨_, rfl, .failed hreason, rfl⟩
  | succeeded hhead hrequest hlen hneed hfull hhanded hpending =>
    exact ⟨_, rfl, .succeeded hhead hrequest hlen hneed hfull hhanded hpending, rfl⟩

/-- `InitProxy` begins a handshake that waits for the method reply. -/
theorem begin_handshake (names : NameInfo) (disturbed : Prop) {bev : BufferEvent}
    (hset : conn.proxy.isSet = true) (hempty : bev.input.flatten = []) :
    ∃ start, ProxyRun.begin conn bev = some start ∧ Handshake names conn disturbed start ∧
      start.received = [] ∧ start.due = false ∧ start.proxy.bev.isSome = true := by
  refine ⟨_, by simp [ProxyRun.begin, CBareProxy.initProxy, hset]; rfl, ?_, rfl, ?_, rfl⟩
  · exact .methodReply ⟨rfl, rfl, rfl, rfl, hempty⟩
  · simp [ProxyRun.due, BufferEvent.setReadingWriting, BufferEvent.write, BufferEvent.setTimeouts,
      BufferEvent.setReadWatermark, BufferEvent.setcb, EvBuffer.getLength, hempty]

/-- Nothing that happens later changes a handshake that has ended. -/
theorem foldlM_of_ended {run : ProxyRun} (hbev : run.proxy.bev = none) (steps : List ProxyStep) :
    steps.foldlM (ProxyRun.step names) run = some run := by
  induction steps with
  | nil => rfl
  | cons s steps ih =>
    rw [List.foldlM_cons, step_of_ended hbev]
    exact ih

/-- The request is aborted on longer input too. -/
theorem RequestAborts.mono {received later : Bytes} (h : RequestAborts names conn received)
    (hlater : received <+: later) : RequestAborts names conn later := by
  obtain ⟨hproto, head, hhead, hle⟩ := h
  exact ⟨hproto, head, hhead, hle.trans hlater⟩

/-- With no stage left no callback is due. -/
theorem Handshake.not_due {run : ProxyRun} (h : Handshake names conn disturbed run)
    (hzero : run.stagesLeft = 0) : run.due = false := by
  cases h with
  | methodReply hawait | authReply _ hawait | finalReply _ _ _ hawait =>
    simp [ProxyRun.stagesLeft, hawait.readcb] at hzero
  | failed | succeeded => rfl

/-- After as many runs of the callback as there are stages left, none is due. -/
theorem Handshake.settle (n : ℕ) {run : ProxyRun} (h : Handshake names conn disturbed run)
    (hleft : run.due = false ∨ run.stagesLeft ≤ n) :
    (∃ next, (List.replicate n ProxyStep.readCallback).foldlM (ProxyRun.step names) run = some next ∧
      Handshake names conn disturbed next ∧ next.received = run.received ∧ next.due = false) ∨
    (List.replicate n ProxyStep.readCallback).foldlM (ProxyRun.step names) run = none ∧
      RequestAborts names conn run.received := by
  induction n generalizing run with
  | zero =>
    refine Or.inl ⟨run, rfl, h, rfl, ?_⟩
    rcases hleft with hdue | hleft
    · exact hdue
    · exact h.not_due (Nat.le_zero.mp hleft)
  | succ n ih =>
    rw [List.replicate_succ, List.foldlM_cons]
    cases hdue : run.due with
    | false =>
      rw [step_readCallback_of_not_due hdue]
      exact ih h (Or.inl hdue)
    | true =>
      have hstages : run.stagesLeft ≤ n + 1 := by
        rcases hleft with hnot | hleft
        · exact absurd (hdue.symm.trans hnot) (by simp)
        · exact hleft
      rcases h.readCallback hdue with ⟨next, hnext, hnext', hreceived, hless⟩ | ⟨hnone, haborts⟩
      · rw [hnext, ← hreceived]
        exact ih hnext' (hless.imp_right fun _ => by omega)
      · exact Or.inr ⟨by rw [hnone]; rfl, haborts⟩

/-- The bytes that a sequence of steps brings. -/
def arrivedBytes (steps : List ProxyStep) : Bytes :=
  steps.flatMap fun
    | .arrive chunks => chunks.flatten
    | _ => []

/-- Any sequence of steps on bytes that do not abort keeps the description. -/
theorem Handshake.steps (steps : List ProxyStep) {run : ProxyRun} (h : Handshake names conn True run)
    (haborts : ¬RequestAborts names conn (run.received ++ arrivedBytes steps)) :
    ∃ last, steps.foldlM (ProxyRun.step names) run = some last ∧ Handshake names conn True last ∧
      last.received <+: run.received ++ arrivedBytes steps := by
  induction steps generalizing run with
  | nil => exact ⟨run, rfl, h, List.prefix_append _ _⟩
  | cons s steps ih =>
    cases hbev : run.proxy.bev with
    | none => exact ⟨run, foldlM_of_ended hbev _, h, List.prefix_append _ _⟩
    | some bev =>
      -- One step accounts for the bytes that it brings.
      obtain ⟨next, hnext, hnext', hreceived⟩ : ∃ next, run.step names s = some next ∧
          Handshake names conn True next ∧
          next.received ++ arrivedBytes steps = run.received ++ arrivedBytes (s :: steps) := by
        cases s with
        | arrive chunks =>
          obtain ⟨next, hnext, hnext', hreceived⟩ := h.arrive chunks
          refine ⟨next, hnext, hnext', ?_⟩
          rw [hreceived, hbev, Option.isSome_some, if_pos rfl, List.append_assoc]
          rfl
        | event what =>
          obtain ⟨next, hnext, hnext', hreceived⟩ := h.event what
          exact ⟨next, hnext, hnext', by rw [hreceived]; rfl⟩
        | readCallback =>
          cases hdue : run.due with
          | false => exact ⟨run, step_readCallback_of_not_due hdue, h, rfl⟩
          | true =>
            have hnow : ¬RequestAborts names conn run.received :=
              fun hbad => haborts (hbad.mono (List.prefix_append _ _))
            rcases h.readCallback hdue with ⟨next, hnext, hnext', hreceived, -⟩ | ⟨-, hbad⟩
            · exact ⟨next, hnext, hnext', by rw [hreceived]; rfl⟩
            · exact absurd hbad hnow
      rw [← hreceived] at haborts ⊢
      obtain ⟨last, hlast, hlast', hle⟩ := ih hnext' haborts
      refine ⟨last, ?_, hlast', hle⟩
      rw [List.foldlM_cons, hnext]
      exact hlast

/-- One read with the callbacks it makes due settles again, or the request aborts. -/
theorem Handshake.deliver {run : ProxyRun} (h : Handshake names conn disturbed run) (chunks : List Bytes) :
    (∃ next, run.deliver names chunks = some next ∧ Handshake names conn disturbed next ∧
      next.due = false ∧
      next.received = if run.proxy.bev.isSome then run.received ++ chunks.flatten else run.received) ∨
    run.deliver names chunks = none ∧ RequestAborts names conn (run.received ++ chunks.flatten) := by
  obtain ⟨arrived, harrived, harrived', hreceived⟩ := h.arrive chunks
  have hstages : arrived.stagesLeft ≤ 3 := by
    rw [ProxyRun.stagesLeft]
    split <;> omega
  rw [ProxyRun.deliver, List.foldlM_cons, harrived, ← hreceived]
  rcases harrived'.settle 3 (Or.inr hstages) with ⟨last, hlast, hlast', hsame, hsettled⟩ | ⟨hnone, haborts⟩
  · exact Or.inl ⟨last, hlast, hlast', hsettled, hsame⟩
  · refine Or.inr ⟨hnone, haborts.mono ?_⟩
    rw [hreceived]
    split
    · exact List.prefix_rfl
    · exact List.prefix_append _ _

/-- Reads one after another keep a handshake settled and account for what arrived. -/
theorem Handshake.reads (reads : List (List Bytes)) {run : ProxyRun}
    (h : Handshake names conn disturbed run) (hsettled : run.due = false) {before : Bytes}
    (hle : run.received <+: before) (hopen : run.proxy.bev.isSome = true → run.received = before) :
    (∃ last, reads.foldlM (ProxyRun.deliver names) run = some last ∧ Handshake names conn disturbed last ∧
      last.due = false ∧ last.received <+: before ++ reads.flatten.flatten ∧
      (last.proxy.bev.isSome = true → last.received = before ++ reads.flatten.flatten)) ∨
    reads.foldlM (ProxyRun.deliver names) run = none ∧
      RequestAborts names conn (before ++ reads.flatten.flatten) := by
  induction reads generalizing run before with
  | nil => exact Or.inl ⟨run, rfl, h, hsettled, by simpa using hle, by simpa using hopen⟩
  | cons chunks reads ih =>
    rw [List.flatten_cons, List.flatten_append, ← List.append_assoc, List.foldlM_cons]
    cases hbev : run.proxy.bev with
    | none =>
      have hdeliver : run.deliver names chunks = some run := foldlM_of_ended hbev _
      rw [hdeliver]
      exact ih h hsettled (hle.trans (List.prefix_append _ _)) (by simp [hbev])
    | some bev =>
      have hbefore : run.received = before := hopen (by simp [hbev])
      rcases h.deliver chunks with ⟨next, hnext, hnext', hsettled', hreceived⟩ | ⟨hnone, haborts⟩
      · rw [hbev, Option.isSome_some, if_pos rfl, hbefore] at hreceived
        rw [hnext]
        exact ih hnext' hsettled' (hreceived ▸ List.prefix_rfl) fun _ => hreceived
      · rw [hbefore] at haborts
        exact Or.inr ⟨by rw [hnone]; rfl, haborts.mono (List.prefix_append _ _)⟩

/-- A handshake that has succeeded has received a greeting that is accepted and a reply that is complete by the count of
`read_final`, and handed over what followed them. -/
theorem Handshake.of_success {run : ProxyRun} (h : Handshake names conn disturbed run) {handed : BufferEvent}
    {resolved : CConnection} (hsuccess : outcomes run.log = [.proxySuccess handed resolved]) :
    ∃ head input request need, run.received = head ++ input ∧ GreetingAccepted conn.proxy.auth head ∧
      writeproto names conn = .written request ∧ 8 ≤ input.length ∧ finalNeed input = some need ∧
      need ≤ input.length ∧ handed.input.flatten = input.drop need ∧ handed.readPending = false := by
  cases h with
  | methodReply | authReply => simp [outcomes] at hsuccess
  | finalReply =>
    rw [outcomes_map_write] at hsuccess
    contradiction
  | failed =>
    rw [outcomes_append, outcomes_map_write] at hsuccess
    simp [outcomes] at hsuccess
  | succeeded hhead hrequest hlen hneed hfull hhanded hpending =>
    rw [outcomes_append, outcomes_map_write] at hsuccess
    obtain ⟨rfl, -⟩ := ProxyEffect.proxySuccess.inj (List.cons.inj hsuccess).1
    exact ⟨_, _, _, _, rfl, hhead, hrequest, hlen, hneed, hfull, hhanded, hpending⟩

/-- A settled handshake that nothing disturbed has not been asked for a request that aborts. -/
theorem Handshake.not_aborts {run : ProxyRun} (h : Handshake names conn False run)
    (hsettled : run.due = false) : ¬RequestAborts names conn run.received := by
  rintro ⟨haborted, head, hhead, tail, hle⟩
  cases h with
  | @methodReply _ received hawait =>
    have hshort := hawait.lt_of_settled hsettled rfl
    obtain rfl : head ++ tail = received := hle
    cases hhead <;> simp only [List.length_append, List.length_cons, List.length_nil] at hshort <;> omega
  | authReply hauth hawait =>
    have hshort := hawait.lt_of_settled hsettled rfl
    cases hhead with
    | method m hm => exact hm (List.cons.inj (List.cons.inj hle).2).1
    | credentials version status hauth' haccepted =>
      rw [← (List.cons.inj (List.cons.inj hle).2).2] at hshort
      change tail.length + 2 < 2 at hshort
      omega
  | finalReply _ hrequest _ _ => simp [haborted] at hrequest
  | succeeded _ hrequest _ _ _ _ => simp [haborted] at hrequest
  | @failed received writes hreason =>
    obtain rfl : head ++ tail = received := hle
    rcases (hreason.resolve_right id).of_accepted hhead with hrefused | ⟨⟨request, hrequest⟩, -⟩
    · simp [haborted] at hrefused
    · simp [haborted] at hrequest

end Step

/-- A proxied connection of the test program's network to a named endpoint. -/
def proxiedConnection : CConnection :=
  { mainnetConnection with
    host := [0x61], port := 8333, isDns := true, isSet := true, proxy := localProxy .socks5 }

end LibBtcNet
