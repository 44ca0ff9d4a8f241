import LibBtcNet.ProxyHandshake

/-!
# Proxies that do not conform

Whatever a proxy sends, a handshake reports at most one outcome. Success must mean that
the proxy selected a method that was offered and that a whole success reply has arrived.
It does, unless the proxy selects a method that was not offered, which is taken for no
authentication, or announces a domain of 249 bytes or more, whose length wraps to a
small one. A failed authentication must end in failure, with the request not written; it
does, unless just one byte of the reply is wrong.
-/

namespace LibBtcNet

/-- The methods that `InitProxy` offers. -/
def MethodOffered (auth : CProxyAuth) (m : UInt8) : Prop := m = 0x00 ∨ m = 0x02 ∧ auth.isSet = true

/-- A whole success reply with a known address type has been received. -/
def ReplyReceived (reply : Bytes) : Prop :=
  reply.getD 0 0 = 0x05 ∧ reply.getD 1 0 = 0x00 ∧
    (reply.getD 3 0 = 0x01 ∧ 10 ≤ reply.length ∨ reply.getD 3 0 = 0x04 ∧ 22 ≤ reply.length ∨
      reply.getD 3 0 = 0x03 ∧ 7 + (reply.getD 4 0).toNat ≤ reply.length)

/-- What success must mean: the method reply has version 5 and selects an offered method, and behind
it and behind the reply to the credentials, if it selects them, a whole success reply has arrived. -/
def SuccessDue (auth : CProxyAuth) (received : Bytes) : Prop :=
  ∃ m rest, received = 0x05 :: m :: rest ∧ MethodOffered auth m ∧
    ReplyReceived (if m = 0x02 then rest.drop 2 else rest)

/-- A handshake that is still waiting, has failed once, or has succeeded once when it was due. -/
def EndsSoundly (auth : CProxyAuth) (run : ProxyRun) : Prop :=
  (outcomes run.log = [] ∧ run.proxy.bev.isSome = true) ∨ outcomes run.log = [.proxyFailure] ∨
    ∃ handed resolved, outcomes run.log = [.proxySuccess handed resolved] ∧ SuccessDue auth run.received

/-- Replies that `read_final` accepts when they are complete by its own count, which takes a length
byte from 128 on as negative. -/
def CountedComplete (reply : Bytes) : Prop :=
  reply.getD 3 0 = 0x01 ∧ 10 ≤ reply.length ∨ reply.getD 3 0 = 0x04 ∧ 22 ≤ reply.length ∨
    reply.getD 3 0 = 0x03 ∧ ((reply.getD 4 0).toNat < 128 ∧ 7 + (reply.getD 4 0).toNat ≤ reply.length ∨
      2 ^ 64 - 249 + (reply.getD 4 0).toNat ≤ reply.length)

/-- The bytes that lead to a success that is not due: the greeting is accepted, a success reply
follows, and either its method was not offered or it has a domain of 249 bytes or more. -/
def Misjudged (names : NameInfo) (conn : CConnection) (sent : Bytes) : Prop :=
  (∃ request, writeproto names conn = .written request) ∧
    ∃ head reply, sent = head ++ reply ∧ GreetingAccepted conn.proxy.auth head ∧ 8 ≤ reply.length ∧
      reply.getD 0 0 = 0x05 ∧ reply.getD 1 0 = 0x00 ∧
      (¬MethodOffered conn.proxy.auth (head.getD 1 0) ∧ CountedComplete reply ∨
        reply.getD 3 0 = 0x03 ∧ 249 ≤ (reply.getD 4 0).toNat)

/-- What `read_final` wants, by address type. -/
theorem finalNeed_eq_some_iff (reply : Bytes) (need : ℕ) :
    finalNeed reply = some need ↔ reply.getD 0 0 = 0x05 ∧ reply.getD 1 0 = 0x00 ∧
      (reply.getD 3 0 = 0x01 ∧ need = 10 ∨ reply.getD 3 0 = 0x04 ∧ need = 22 ∨
        reply.getD 3 0 = 0x03 ∧ need = domainNeed (reply.getD 4 0).toNat) := by
  rw [finalNeed]
  by_cases hstart : reply.getD 0 0 ≠ 0x05 ∨ reply.getD 1 0 ≠ 0x00
  · rw [if_pos hstart]
    simp only [reduceCtorEq, false_iff]
    rintro ⟨h0, h1, -⟩
    exact hstart.elim (· h0) (· h1)
  · rw [if_neg hstart]
    rw [not_or, not_not, not_not] at hstart
    simp only [hstart.1, hstart.2, true_and]
    have hipv4 : needSize (4, some (sockaddrIn 0)) = 10 := rfl
    have hipv6 : needSize (16, some (sockaddrIn6 0)) = 22 := rfl
    generalize reply.getD 3 0 = atyp
    unfold replyAddress
    split
    · simp [hipv4, eq_comm]
    · simp [hipv6, eq_comm]
    · simp [needSize_domain, eq_comm]
    · next h1 h4 h3 =>
      simp only [Option.map_none, reduceCtorEq, false_iff]
      rintro (⟨htype, -⟩ | ⟨htype, -⟩ | ⟨htype, -⟩)
      · exact h1 htype
      · exact h4 htype
      · exact h3 htype

/-- Behind an accepted greeting, success is due for an offered method and a whole reply. -/
theorem successDue_append_iff {auth : CProxyAuth} {head : Bytes} (hhead : GreetingAccepted auth head)
    (reply : Bytes) :
    SuccessDue auth (head ++ reply) ↔ MethodOffered auth (head.getD 1 0) ∧ ReplyReceived reply := by
  cases hhead with
  | method m hm => simp [SuccessDue, hm]
  | credentials version status hauth h => simp [SuccessDue]

section Sound

variable {names : NameInfo} {conn : CConnection}

/-- A handshake on bytes that are not misjudged ends soundly. -/
theorem Handshake.endsSoundly {run : ProxyRun} {sent : Bytes} (h : Handshake names conn True run)
    (hle : run.received <+: sent) (hjudged : ¬Misjudged names conn sent) :
    EndsSoundly conn.proxy.auth run := by
  cases h with
  | methodReply | authReply => exact Or.inl ⟨rfl, rfl⟩
  | finalReply => exact Or.inl ⟨outcomes_map_write _, rfl⟩
  | failed => exact Or.inr (Or.inl (by rw [outcomes_append, outcomes_map_write]; rfl))
  | @succeeded head input _ need handed resolved hhead hrequest hlen hneed hfull hhanded =>
    refine Or.inr (Or.inr ⟨handed, resolved, by rw [outcomes_append, outcomes_map_write]; rfl, ?_⟩)
    rw [successDue_append_iff hhead]
    obtain ⟨tail, rfl⟩ := hle
    obtain ⟨hversion, hstatus, htype⟩ := (finalNeed_eq_some_iff input need).mp hneed
    have hbyte (i : ℕ) (hi : i < 8) : (input ++ tail).getD i 0 = input.getD i 0 := by
      rw [List.getD_eq_getElem?_getD, List.getElem?_append_left (by omega), ← List.getD_eq_getElem?_getD]
    -- Nothing that is misjudged was sent: the method was offered and the domain is short.
    have hnot (hbad : ¬MethodOffered conn.proxy.auth (head.getD 1 0) ∧ CountedComplete (input ++ tail) ∨
        input.getD 3 0 = 0x03 ∧ 249 ≤ (input.getD 4 0).toNat) : False := by
      refine hjudged ⟨⟨_, hrequest⟩, head, input ++ tail, by simp, hhead, by simp; omega, ?_⟩
      rw [hbyte 0 (by omega), hbyte 1 (by omega), hbyte 3 (by omega), hbyte 4 (by omega)]
      exact ⟨hversion, hstatus, hbad⟩
    have hshort (hdomain : input.getD 3 0 = 0x03) : (input.getD 4 0).toNat < 249 :=
      Nat.lt_of_not_le fun hlong => hnot (Or.inr ⟨hdomain, hlong⟩)
    have hcounted : CountedComplete (input ++ tail) ∧ ReplyReceived input := by
      rw [CountedComplete, ReplyReceived, hbyte 3 (by omega), hbyte 4 (by omega), List.length_append]
      rcases htype with ⟨htype, rfl⟩ | ⟨htype, rfl⟩ | ⟨htype, rfl⟩
      · exact ⟨Or.inl ⟨htype, by omega⟩, hversion, hstatus, Or.inl ⟨htype, hfull⟩⟩
      · exact ⟨Or.inr (Or.inl ⟨htype, by omega⟩), hversion, hstatus, Or.inr (Or.inl ⟨htype, hfull⟩)⟩
      · have hlt := hshort htype
        rw [domainNeed] at hfull
        refine ⟨Or.inr (Or.inr ⟨htype, ?_⟩), hversion, hstatus, Or.inr (Or.inr ⟨htype, ?_⟩)⟩ <;>
          split_ifs at hfull <;> omega
    refine ⟨?_, hcounted.2⟩
    by_contra hoffered
    exact hnot (Or.inl ⟨hoffered, hcounted.1⟩)

/-- Sound success is due. -/
theorem EndsSoundly.successDue {auth : CProxyAuth} {run : ProxyRun} (h : EndsSoundly auth run)
    {handed : BufferEvent} {resolved : CConnection}
    (hout : outcomes run.log = [.proxySuccess handed resolved]) : SuccessDue auth run.received := by
  rcases h with ⟨hnone, -⟩ | hfailed | ⟨_, _, -, hdue⟩
  · simp [hout] at hnone
  · simp [hout] at hfailed
  · exact hdue

/-- A settled handshake that was sent a reply complete by `read_final`'s count has succeeded. -/
theorem Handshake.succeeds {run : ProxyRun} (h : Handshake names conn False run)
    (hsettled : run.due = false) {head reply request : Bytes} {need : ℕ}
    (hreceived : run.received = head ++ reply) (hhead : GreetingAccepted conn.proxy.auth head)
    (hrequest : writeproto names conn = .written request) (hlen : 8 ≤ reply.length)
    (hneed : finalNeed reply = some need) (hfull : need ≤ reply.length) :
    ∃ handed resolved, outcomes run.log = [.proxySuccess handed resolved] := by
  have hgreeting : 2 ≤ head.length := by cases hhead <;> simp
  cases h with
  | @methodReply _ received hawait =>
    have hshort := hawait.lt_of_settled hsettled rfl
    obtain rfl : received = head ++ reply := hreceived
    rw [List.length_append] at hshort
    omega
  | @authReply _ input _ hauth hawait =>
    have hshort := hawait.lt_of_settled hsettled rfl
    have hlength := congrArg List.length hreceived
    rw [List.length_append, List.length_cons, List.length_cons] at hlength
    omega
  | @finalReply _ _ input _ low hhead' _ hlow hawait =>
    have hshort := hawait.lt_of_settled hsettled rfl
    obtain ⟨rfl, rfl⟩ := hhead'.unique hhead hreceived
    rcases hlow with rfl | ⟨-, hlow⟩
    · omega
    · rw [hneed] at hlow
      obtain rfl := Option.some.inj hlow
      omega
  | @failed received _ hreason =>
    obtain rfl : received = head ++ reply := hreceived
    rcases (hreason.resolve_right id).of_accepted hhead with hrefused | ⟨-, -, hnone⟩
    · simp [hrequest] at hrefused
    · simp [hneed] at hnone
  | succeeded => exact ⟨_, _, by rw [outcomes_append, outcomes_map_write]; rfl⟩

end Sound

/-- Every run on the bytes sent ends soundly, whatever order bytes, callbacks and events come in, if
and only if the request does not abort and the bytes are not misjudged. -/
theorem endsSoundly_iff (names : NameInfo) (conn : CConnection) (bev : BufferEvent)
    (hset : conn.proxy.isSet = true) (hempty : bev.input.flatten = []) (sent : Bytes) :
    (∀ steps : List ProxyStep, arrivedBytes steps <+: sent →
      ∃ start run, ProxyRun.begin conn bev = some start ∧
        steps.foldlM (ProxyRun.step names) start = some run ∧ EndsSoundly conn.proxy.auth run) ↔
      ¬RequestAborts names conn sent ∧ ¬Misjudged names conn sent := by
  constructor
  · intro hsound
    obtain ⟨start, hstart, hstart', hreceived, -, hopen⟩ := begin_handshake names False hset hempty
    -- Bytes that arrive at once are settled soundly.
    have hsettles {bytes : Bytes} (hle : bytes <+: sent) :
        ∃ run, Handshake names conn False run ∧ run.due = false ∧ run.received = bytes ∧
          EndsSoundly conn.proxy.auth run := by
      obtain ⟨start', run, hstart'', hrun, hsound⟩ :=
        hsound [.arrive [bytes], .readCallback, .readCallback, .readCallback]
          (by simpa [arrivedBytes] using hle)
      obtain rfl := Option.some.inj (hstart.symm.trans hstart'')
      rcases hstart'.deliver [bytes] with ⟨last, hlast, hlast', hsettled, hreceived'⟩ | ⟨hnone, -⟩
      · obtain rfl := Option.some.inj (hrun.symm.trans hlast)
        refine ⟨run, hlast', hsettled, ?_, hsound⟩
        simpa [hopen, hreceived] using hreceived'
      · exact absurd (hrun.symm.trans hnone) (by simp)
    constructor
    · rintro ⟨haborted, head, hhead, hle⟩
      obtain ⟨run, hrun, hsettled, hreceived, -⟩ := hsettles hle
      exact hrun.not_aborts hsettled ⟨haborted, head, hhead, hreceived ▸ List.prefix_rfl⟩
    · rintro ⟨⟨request, hrequest⟩, head, reply, rfl, hhead, hlen, hversion, hstatus, hbad⟩
      -- A part of the reply that `read_final` accepts must be a success that is due.
      have hdue {part : Bytes} {need : ℕ} (hle : part <+: reply) (hlen : 8 ≤ part.length)
          (hneed : finalNeed part = some need) (hfull : need ≤ part.length) :
          MethodOffered conn.proxy.auth (head.getD 1 0) ∧ ReplyReceived part := by
        obtain ⟨run, hrun, hsettled, hreceived, hsound⟩ :=
          hsettles ((List.prefix_append_right_inj head).mpr hle)
        obtain ⟨handed, resolved, hout⟩ :=
          hrun.succeeds hsettled hreceived hhead hrequest hlen hneed hfull
        rw [← successDue_append_iff hhead, ← hreceived]
        exact hsound.successDue hout
      rcases hbad with ⟨hoffered, hcounted⟩ | ⟨htype, hlong⟩
      · apply hoffered
        rcases hcounted with ⟨htype, hfull⟩ | ⟨htype, hfull⟩ | ⟨htype, hfull⟩
        · exact (hdue List.prefix_rfl hlen
            ((finalNeed_eq_some_iff _ _).mpr ⟨hversion, hstatus, Or.inl ⟨htype, rfl⟩⟩) hfull).1
        · exact (hdue List.prefix_rfl hlen
            ((finalNeed_eq_some_iff _ _).mpr ⟨hversion, hstatus, Or.inr (Or.inl ⟨htype, rfl⟩)⟩) hfull).1
        · refine (hdue List.prefix_rfl hlen
            ((finalNeed_eq_some_iff _ _).mpr ⟨hversion, hstatus, Or.inr (Or.inr ⟨htype, rfl⟩)⟩) ?_).1
          rw [domainNeed]
          split_ifs <;> omega
      · have hpart : (reply.take 8).length = 8 := by
          rw [List.length_take]
          omega
        have hbyte (i : ℕ) (hi : i < 8) : (reply.take 8).getD i 0 = reply.getD i 0 := by
          rw [List.getD_eq_getElem?_getD, List.getElem?_take_of_lt hi, ← List.getD_eq_getElem?_getD]
        have hneed : finalNeed (reply.take 8) = some (domainNeed (reply.getD 4 0).toNat) := by
          rw [finalNeed_eq_some_iff, hbyte 0 (by omega), hbyte 1 (by omega), hbyte 3 (by omega),
            hbyte 4 (by omega)]
          exact ⟨hversion, hstatus, Or.inr (Or.inr ⟨htype, rfl⟩)⟩
        have hbound := (reply.getD 4 0).toNat_lt
        obtain ⟨-, -, -, hwhole⟩ := hdue (List.take_prefix 8 reply) hpart.ge hneed (by
          rw [domainNeed]
          split_ifs <;> omega)
        rw [hbyte 3 (by omega), hbyte 4 (by omega), hpart] at hwhole
        omega
  · rintro ⟨haborts, hjudged⟩ steps hle
    obtain ⟨start, hstart, hstart', hreceived, -, -⟩ := begin_handshake names True hset hempty
    have hnow : ¬RequestAborts names conn (start.received ++ arrivedBytes steps) := by
      rw [hreceived, List.nil_append]
      exact fun hbad => haborts (hbad.mono hle)
    obtain ⟨run, hrun, hrun', hwithin⟩ := hstart'.steps steps hnow
    rw [hreceived, List.nil_append] at hwithin
    exact ⟨start, run, hstart, hrun, hrun'.endsSoundly (hwithin.trans hle) hjudged⟩

/-- A proxy that refuses every method and goes on as if it had not. -/
def refusingProxy : Bytes := [0x05, 0xff, 0x05, 0x00, 0x00, 0x01, 127, 0, 0, 1, 0x20, 0x8d]

/-- A proxy that selects no authentication and grants the request. -/
def grantingProxy : Bytes := [0x05, 0x00, 0x05, 0x00, 0x00, 0x01, 127, 0, 0, 1, 0x20, 0x8d]

/-- A granted request ends soundly, also when the proxy closes right after it. -/
theorem endsSoundly_granted :
    ∃ start run, ProxyRun.begin proxiedConnection .socketNew = some start ∧
      [.arrive [grantingProxy], .readCallback, .readCallback, .event ⟨true, false, false, false⟩].foldlM
        (ProxyRun.step noNames) start = some run ∧ EndsSoundly proxiedConnection.proxy.auth run := by
  refine (endsSoundly_iff noNames proxiedConnection .socketNew rfl rfl grantingProxy).mpr ⟨?_, ?_⟩ _
    (by decide)
  · rintro ⟨haborted, -⟩
    exact absurd haborted (by decide)
  · rintro ⟨-, head, reply, heq, hhead, -, -, -, hbad⟩
    have hoffered : GreetingAccepted proxiedConnection.proxy.auth [0x05, 0x00] := .method 0x00 (by decide)
    obtain ⟨rfl, rfl⟩ := hoffered.unique hhead heq
    rcases hbad with ⟨hnot, -⟩ | ⟨hdomain, -⟩
    · exact hnot (Or.inl rfl)
    · exact absurd hdomain (by decide)

/-- A proxy that refuses every method and goes on is taken for one that grants the request. -/
theorem endsSoundly_refused_failing :
    ¬∀ steps : List ProxyStep, arrivedBytes steps <+: refusingProxy →
      ∃ start run, ProxyRun.begin proxiedConnection .socketNew = some start ∧
        steps.foldlM (ProxyRun.step noNames) start = some run ∧
        EndsSoundly proxiedConnection.proxy.auth run := by
  intro hsound
  obtain ⟨start, run, hstart, hrun, hsound⟩ :=
    hsound [.arrive [refusingProxy], .readCallback, .readCallback] (by decide)
  have hreported : ((ProxyRun.begin proxiedConnection .socketNew).bind fun start =>
      [.arrive [refusingProxy], .readCallback, .readCallback].foldlM (ProxyRun.step noNames) start).map
        (fun run => (decide (outcomes run.log = [] ∨ outcomes run.log = [.proxyFailure]), run.received)) =
      some (false, refusingProxy) := by
    decide +kernel
  rw [hstart, Option.bind_some, hrun, Option.map_some, Option.some.injEq, Prod.mk.injEq,
    decide_eq_false_iff_not, not_or] at hreported
  obtain ⟨⟨hnone, hfailed⟩, hreceived⟩ := hreported
  rcases hsound with ⟨hwaiting, -⟩ | hfailure | ⟨handed, resolved, -, m, rest, heq, hoffered, -⟩
  · exact hnone hwaiting
  · exact hfailed hfailure
  · obtain rfl : m = 0xff := by
      rw [hreceived] at heq
      exact (List.cons.inj (List.cons.inj heq).2).1.symm
    exact hoffered.elim (by decide) fun h => absurd h.1 (by decide)

/-- What a handshake wrote to the proxy. -/
def written (log : List ProxyEffect) : List Bytes :=
  log.filterMap fun
    | .write data => some data
    | _ => none

/-- What is written is written one after another. -/
theorem written_append (before after : List ProxyEffect) :
    written (before ++ after) = written before ++ written after := List.filterMap_append ..

/-- Every write is written. -/
@[simp] theorem written_map_write (writes : List Bytes) : written (writes.map .write) = writes := by
  simp [written, List.filterMap_map]

/-- What is asked of a handshake that was told to authenticate and has received some of a reply with
the given version and status, and what may follow it: more than the methods and the credentials is
written only after the reply 01 00, and any other reply makes it fail once with no more written. -/
def FailsClosed (names : NameInfo) (conn : CConnection) (bev : BufferEvent) (version status : UInt8) : Prop :=
  ∀ (reads : List (List Bytes)) (later : Bytes),
    reads.flatten.flatten <+: [0x05, 0x02, version, status] ++ later →
    ∃ start, ProxyRun.begin conn bev = some start ∧
      (∀ run, reads.foldlM (ProxyRun.deliver names) start = some run →
        written run.log <+: initRequest conn.proxy.auth :: (writeAuth conn.proxy.auth).toList ∨
          4 ≤ run.received.length ∧ version = 0x01 ∧ status = 0x00) ∧
      (¬(version = 0x01 ∧ status = 0x00) → 4 ≤ reads.flatten.flatten.length →
        ∃ run, reads.foldlM (ProxyRun.deliver names) start = some run ∧
          run.log = (initRequest conn.proxy.auth :: (writeAuth conn.proxy.auth).toList).map .write ++
            [.proxyFailure])

section Authenticated

variable {names : NameInfo} {conn : CConnection} {version status : UInt8}

/-- The greeting accepted from a proxy that selects credentials is its whole reply. -/
theorem GreetingAccepted.of_credentials {auth : CProxyAuth} {head input later : Bytes}
    (hhead : GreetingAccepted auth head)
    (hle : head ++ input <+: [0x05, 0x02, version, status] ++ later) :
    head = [0x05, 0x02, version, status] ∧ (version = 0x01 ∨ status = 0x00) := by
  obtain ⟨tail, heq⟩ := hle
  cases hhead with
  | method m hm => exact absurd (List.cons.inj (List.cons.inj heq).2).1 hm
  | credentials version' status' hauth h =>
    simp only [List.cons_append, List.nil_append, List.cons.injEq, true_and] at heq
    obtain ⟨rfl, rfl, -⟩ := heq
    exact ⟨rfl, h⟩

/-- A handshake that writes a request after credentials has seen the right reply, if the reply is
right or wrong as a whole. -/
theorem reply_of_request {auth : CProxyAuth} {head input later : Bytes} {request : Bytes}
    (hcond : (version = 0x01 ↔ status = 0x00) ∨ writeproto names conn = .refused)
    (hhead : GreetingAccepted auth head) (hrequest : writeproto names conn = .written request)
    (hle : head ++ input <+: [0x05, 0x02, version, status] ++ later) :
    4 ≤ (head ++ input).length ∧ version = 0x01 ∧ status = 0x00 := by
  obtain ⟨rfl, haccepted⟩ := hhead.of_credentials hle
  have hiff := hcond.resolve_right (by simp [hrequest])
  refine ⟨by simp, ?_⟩
  rcases haccepted with hversion | hstatus
  · exact ⟨hversion, hiff.mp hversion⟩
  · exact ⟨hiff.mpr hstatus, hstatus⟩

/-- What a handshake wrote before a reply that is right. -/
theorem Handshake.written_prefix {run : ProxyRun} (h : Handshake names conn False run) {later : Bytes}
    (hle : run.received <+: [0x05, 0x02, version, status] ++ later)
    (hcond : (version = 0x01 ↔ status = 0x00) ∨ writeproto names conn = .refused) :
    written run.log <+: initRequest conn.proxy.auth :: (writeAuth conn.proxy.auth).toList ∨
      4 ≤ run.received.length ∧ version = 0x01 ∧ status = 0x00 := by
  have hinit : [initRequest conn.proxy.auth] <+:
      initRequest conn.proxy.auth :: (writeAuth conn.proxy.auth).toList := ⟨_, rfl⟩
  cases h with
  | methodReply => exact Or.inl hinit
  | authReply hauth => exact Or.inl (by simp [written, hauth])
  | finalReply hhead hrequest | succeeded hhead hrequest =>
    exact Or.inr (reply_of_request hcond hhead hrequest hle)
  | @failed received writes hreason =>
    rw [written_append, written_map_write]
    change writes ++ [] <+: _ ∨ _
    rw [List.append_nil]
    cases hreason.resolve_right id with
    | version | credentials => exact Or.inl hinit
    | authReply hauth => exact Or.inl (by simp [hauth])
    | request hhead =>
      obtain ⟨rfl, -⟩ := hhead.of_credentials hle
      exact Or.inl List.prefix_rfl
    | reply hhead hrequest => exact Or.inr (reply_of_request hcond hhead hrequest hle)

/-- A settled handshake that received a wrong reply has failed. -/
theorem Handshake.log_of_wrong {run : ProxyRun} (h : Handshake names conn False run)
    (hsettled : run.due = false) (hauth : AuthEncodable conn.proxy.auth) {arrived later : Bytes}
    (hle : run.received <+: arrived) (hlater : arrived <+: [0x05, 0x02, version, status] ++ later)
    (hopen : run.proxy.bev.isSome = true → run.received = arrived) (hfull : 4 ≤ arrived.length)
    (hcond : (version = 0x01 ↔ status = 0x00) ∨ writeproto names conn = .refused)
    (hwrong : ¬(version = 0x01 ∧ status = 0x00)) :
    run.log = (initRequest conn.proxy.auth :: (writeAuth conn.proxy.auth).toList).map .write ++
      [.proxyFailure] := by
  have hwithin := hle.trans hlater
  cases h with
  | @methodReply _ received hawait =>
    have hshort := hawait.lt_of_settled hsettled rfl
    obtain rfl : received = arrived := hopen rfl
    omega
  | authReply hauth hawait =>
    have hshort := hawait.lt_of_settled hsettled rfl
    rw [← hopen rfl, List.length_cons, List.length_cons] at hfull
    omega
  | finalReply hhead hrequest | succeeded hhead hrequest =>
    exact absurd (reply_of_request hcond hhead hrequest hwithin).2 hwrong
  | @failed received writes hreason =>
    obtain ⟨tail, heq⟩ := hwithin
    cases hreason.resolve_right id with
    | version hlen hversion =>
      match received, hlen with
      | b0 :: b1 :: rest, _ => exact absurd (List.cons.inj heq).1 hversion
    | credentials hnone =>
      have := (writeAuth_isSome_iff _).mpr hauth
      simp [hnone] at this
    | authReply hauth => simp [hauth]
    | request hhead =>
      obtain ⟨rfl, -⟩ := hhead.of_credentials ⟨tail, heq⟩
      rfl
    | reply hhead hrequest => exact absurd (reply_of_request hcond hhead hrequest ⟨tail, heq⟩).2 hwrong

end Authenticated

/-- A handshake fails closed on a reply to its credentials if and only if both bytes of the reply are
right or both are wrong, or the request would be refused anyway. -/
theorem failsClosed_iff (names : NameInfo) (conn : CConnection) (bev : BufferEvent)
    (hset : conn.proxy.isSet = true) (hempty : bev.input.flatten = [])
    (hauth : AuthEncodable conn.proxy.auth) (version status : UInt8) :
    FailsClosed names conn bev version status ↔
      (version = 0x01 ↔ status = 0x00) ∨ writeproto names conn = .refused := by
  obtain ⟨start, hstart, hstart', hreceived, hsettled, hopen⟩ := begin_handshake names False hset hempty
  constructor
  · intro hcloses
    by_contra hcond
    rw [not_or] at hcond
    obtain ⟨hmixed, hnotRefused⟩ := hcond
    have hwrong : ¬(version = 0x01 ∧ status = 0x00) := by
      rintro ⟨hversion, hstatus⟩
      exact hmixed ⟨fun _ => hstatus, fun _ => hversion⟩
    have haccepted : version = 0x01 ∨ status = 0x00 := by
      by_contra hneither
      rw [not_or] at hneither
      exact hmixed ⟨fun h => absurd h hneither.1, fun h => absurd h hneither.2⟩
    have hhead := GreetingAccepted.credentials version status hauth haccepted
    obtain ⟨start', hstart'', -, hfails⟩ := hcloses [[[0x05, 0x02, version, status]]] [] (by simp)
    obtain rfl := Option.some.inj (hstart.symm.trans hstart'')
    obtain ⟨run, hrun, hlog⟩ := hfails hwrong (by simp)
    rw [List.foldlM_cons] at hrun
    obtain ⟨next, hnext, hrest⟩ := Option.bind_eq_some_iff.mp hrun
    obtain rfl : next = run := Option.some.inj hrest
    rcases hstart'.deliver [[0x05, 0x02, version, status]] with
      ⟨last, hlast, hlast', -, hreceived'⟩ | ⟨hnone, -⟩
    · obtain rfl := Option.some.inj (hnext.symm.trans hlast)
      rw [hopen, if_pos rfl, hreceived] at hreceived'
      have hout : outcomes next.log = [.proxyFailure] := by
        rw [hlog, outcomes_append, outcomes_map_write]
        rfl
      cases hlast' with
      | methodReply | authReply => simp [outcomes] at hout
      | finalReply =>
        rw [outcomes_map_write] at hout
        contradiction
      | succeeded =>
        rw [outcomes_append, outcomes_map_write] at hout
        simp [outcomes] at hout
      | @failed received _ hreason =>
        obtain rfl : received = [0x05, 0x02, version, status] ++ [] := hreceived'
        rcases (hreason.resolve_right id).of_accepted hhead with hrefused | ⟨-, hlen, -⟩
        · exact hnotRefused hrefused
        · simp at hlen
    · exact absurd (hnext.symm.trans hnone) (by simp)
  · intro hcond reads later hlater
    have hreads := hstart'.reads reads hsettled (hreceived ▸ List.prefix_rfl) fun _ => hreceived
    rw [List.nil_append] at hreads
    refine ⟨start, hstart, fun run hrun => ?_, fun hwrong hfull => ?_⟩
    · rcases hreads with ⟨last, hlast, hlast', -, hle, -⟩ | ⟨hnone, -⟩
      · obtain rfl := Option.some.inj (hrun.symm.trans hlast)
        exact hlast'.written_prefix (hle.trans hlater) hcond
      · exact absurd (hrun.symm.trans hnone) (by simp)
    · rcases hreads with ⟨last, hlast, hlast', hsettled', hle, hopen'⟩ | ⟨-, haborted, head, hhead, hle⟩
      · exact ⟨last, hlast, hlast'.log_of_wrong hsettled' hauth hle hlater hopen' hfull hcond hwrong⟩
      · have hwithin : head ++ [] <+: [0x05, 0x02, version, status] ++ later := by
          rw [List.append_nil]
          exact hle.trans hlater
        obtain ⟨-, haccepted⟩ := hhead.of_credentials hwithin
        have hiff := hcond.resolve_right (by simp [haborted])
        exact absurd (haccepted.elim (fun h => ⟨h, hiff.mp h⟩) fun h => ⟨hiff.mpr h, h⟩) hwrong

/-- A proxied connection with credentials. -/
def authenticatedConnection : CConnection :=
  { proxiedConnection with
    proxy := { proxiedConnection.proxy with auth := ⟨[0x75], [0x70], true⟩ } }

/-- A reply with neither the right version nor the right status fails closed. -/
theorem failsClosed_wrong : FailsClosed noNames authenticatedConnection .socketNew 0x05 0x01 :=
  (failsClosed_iff noNames authenticatedConnection .socketNew rfl rfl ⟨by decide, by decide⟩ 0x05 0x01).mpr
    (Or.inl (by decide))

/-- The usual reply to wrong credentials, 01 01, does not: the request is written. -/
theorem failsClosed_failing : ¬FailsClosed noNames authenticatedConnection .socketNew 0x01 0x01 := by
  intro hcloses
  obtain ⟨start, hstart, -, hfails⟩ := hcloses [[[0x05, 0x02, 0x01, 0x01]]] [] (by decide)
  obtain ⟨run, hrun, hlog⟩ := hfails (by decide) (by decide)
  have hreported : ((ProxyRun.begin authenticatedConnection .socketNew).bind fun start =>
      [[[0x05, 0x02, 0x01, 0x01]]].foldlM (ProxyRun.deliver noNames) start).map
        (fun run => outcomes run.log) = some [] := by
    decide +kernel
  rw [hstart, Option.bind_some, hrun, Option.map_some, Option.some.injEq, hlog, outcomes_append] at hreported
  simp [outcomes] at hreported

end LibBtcNet
