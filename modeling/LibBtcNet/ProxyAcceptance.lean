import LibBtcNet.ProxyHandshake

/-!
# Conforming proxies

The transcripts that a conforming SOCKS5 proxy may send, and the ones that the handshake
understands: it ends in success as soon as the whole final reply has arrived, with
exactly the transcript taken from the input. A domain name in the final reply must have
between 1 and 127 bytes for that, because its length byte is read as a signed character
and the low watermark is 8.
-/

namespace LibBtcNet

/-- A conforming success reply: version, success, a reserved byte, an address and a port. -/
inductive FinalReply where
  | ipv4 (addr : { addr : Bytes // addr.length = 4 }) (port : UInt16)
  | ipv6 (addr : { addr : Bytes // addr.length = 16 }) (port : UInt16)
  | domain (name : { name : Bytes // name.length ≤ 255 }) (port : UInt16)

/-- The bytes of a final reply. -/
def FinalReply.toBytes : FinalReply → Bytes
  | .ipv4 addr port => [0x05, 0x00, 0x00, 0x01] ++ addr.val ++ portBytes port
  | .ipv6 addr port => [0x05, 0x00, 0x00, 0x04] ++ addr.val ++ portBytes port
  | .domain name port =>
    [0x05, 0x00, 0x00, 0x03, UInt8.ofNat name.val.length] ++ name.val ++ portBytes port

/-- The replies whose length `read_final` computes right and can wait for. -/
def FinalReply.Understood : FinalReply → Prop
  | .domain name _ => 1 ≤ name.val.length ∧ name.val.length ≤ 127
  | _ => True

/-- Everything a conforming proxy sends before the connection is through. It selects credentials
only when they were offered. -/
structure Transcript (auth : CProxyAuth) where
  credentials : Bool
  offered : credentials = true → auth.isSet = true
  reply : FinalReply

namespace Transcript

variable {auth : CProxyAuth}

/-- The method reply, and the success reply to the credentials if they were selected. -/
def greeting (t : Transcript auth) : Bytes :=
  if t.credentials then [0x05, 0x02, 0x01, 0x00] else [0x05, 0x00]

/-- The bytes of a transcript. -/
def toBytes (t : Transcript auth) : Bytes := t.greeting ++ t.reply.toBytes

/-- The transcripts that the handshake gets through: credentials can be sent if they are selected,
and the final reply is understood. -/
def Understood (t : Transcript auth) : Prop :=
  (t.credentials = true → AuthEncodable auth) ∧ t.reply.Understood

end Transcript

/-- What is asked of a handshake once the given bytes have arrived: before the end of the
transcript nothing is reported, and from then on one success, on a bufferevent whose input is what
arrived behind the transcript. -/
def AcceptedOnTime {auth : CProxyAuth} (t : Transcript auth) (arrived : Bytes) (run : ProxyRun) : Prop :=
  if t.toBytes.length ≤ arrived.length then
    ∃ handed resolved, outcomes run.log = [.proxySuccess handed resolved] ∧
      run.received = t.toBytes ++ handed.input.flatten
  else outcomes run.log = []

namespace FinalReply

/-- The length that `read_final` wants for a conforming reply. -/
def need : FinalReply → ℕ
  | .ipv4 _ _ => 10
  | .ipv6 _ _ => 22
  | .domain name _ => domainNeed name.val.length

/-- What `read_final` wants depends only on the bytes of the reply. -/
theorem finalNeed_toBytes (reply : FinalReply) (later : Bytes) :
    finalNeed (reply.toBytes ++ later) = some reply.need := by
  cases reply with
  | ipv4 addr port => rfl
  | ipv6 addr port => rfl
  | domain name port =>
    have hlength : (UInt8.ofNat name.val.length).toNat = name.val.length := by
      rw [UInt8.toNat_ofNat']
      have := name.property
      omega
    change some (needSize (charToSizeT (UInt8.ofNat name.val.length), none)) = _
    rw [needSize_domain, hlength]
    rfl

/-- The length of a conforming reply. -/
theorem length_toBytes (reply : FinalReply) : reply.toBytes.length =
    match reply with
    | .ipv4 _ _ => 10
    | .ipv6 _ _ => 22
    | .domain name _ => 7 + name.val.length := by
  cases reply with
  | ipv4 addr port => simp [toBytes, portBytes, addr.property]
  | ipv6 addr port => simp [toBytes, portBytes, addr.property]
  | domain name port =>
    simp only [toBytes, portBytes, List.length_append, List.length_cons, List.length_nil]
    omega

/-- A reply is understood exactly when it has the length that `read_final` wants, and at least the
eight bytes that make the callback run. -/
theorem understood_iff (reply : FinalReply) :
    reply.Understood ↔ 8 ≤ reply.toBytes.length ∧ reply.need = reply.toBytes.length := by
  rw [length_toBytes]
  cases reply with
  | ipv4 addr port | ipv6 addr port => simp [Understood, need]
  | domain name port =>
    have hname := name.property
    simp only [Understood, need, domainNeed]
    split_ifs <;> omega

end FinalReply

/-- A reply that `read_final` would accept within a whole transcript is one it understands. -/
theorem FinalReply.understood_of_need {reply : FinalReply} (hlen : 8 ≤ reply.toBytes.length)
    (hle : reply.need ≤ reply.toBytes.length)
    (hrest : reply.toBytes.drop reply.need = []) : reply.Understood := by
  rw [List.drop_eq_nil_iff] at hrest
  exact reply.understood_iff.mpr ⟨hlen, Nat.le_antisymm hle hrest⟩

namespace Transcript

variable {auth : CProxyAuth} (t : Transcript auth)

/-- The greeting that the handshake accepts is the one of the transcript, which it understands. -/
theorem greeting_of_accepted {head input later : Bytes} (hhead : GreetingAccepted auth head)
    (hle : head ++ input <+: t.toBytes ++ later) :
    head = t.greeting ∧ input <+: t.reply.toBytes ++ later ∧ (t.credentials = true → AuthEncodable auth) := by
  obtain ⟨tail, heq⟩ := hle
  rw [toBytes, List.append_assoc, List.append_assoc] at heq
  cases hhead with
  | method m hm =>
    cases hcred : t.credentials with
    | true =>
      simp [greeting, hcred] at heq
      exact absurd heq.1 hm
    | false =>
      simp only [greeting, hcred, Bool.false_eq_true, if_false, List.cons_append, List.nil_append,
        List.cons.injEq, true_and] at heq ⊢
      exact ⟨⟨heq.1, trivial⟩, ⟨tail, heq.2⟩, by simp⟩
  | credentials version status hauth h =>
    cases hcred : t.credentials with
    | true =>
      simp only [greeting, hcred, if_true, List.cons_append, List.nil_append,
        List.cons.injEq, true_and] at heq ⊢
      exact ⟨⟨heq.1, heq.2.1, trivial⟩, ⟨tail, heq.2.2⟩, fun _ => hauth⟩
    | false => simp [greeting, hcred] at heq

/-- The transcript's length. -/
theorem length_toBytes : t.toBytes.length = t.greeting.length + t.reply.toBytes.length :=
  List.length_append

end Transcript

/-- Eight bytes of a conforming reply are enough for what `read_final` wants. -/
theorem FinalReply.finalNeed_of_le {reply : FinalReply} {input later : Bytes} (hlen : 8 ≤ input.length)
    (hle : input <+: reply.toBytes ++ later) : finalNeed input = some reply.need := by
  obtain ⟨tail, heq⟩ := hle
  rw [← finalNeed_append hlen tail, heq, reply.finalNeed_toBytes]

section Accepted

variable {names : NameInfo} {conn : CConnection} {t : Transcript conn.proxy.auth}

/-- A transcript that is understood is never rejected, nor is any part of it. -/
theorem Transcript.Understood.not_rejected (hunderstood : t.Understood) {request : Bytes}
    (hrequest : writeproto names conn = .written request) {received later : Bytes} {writes : List Bytes}
    (hle : received <+: t.toBytes ++ later) : ¬Rejected names conn received writes := by
  intro hrejected
  cases hrejected with
  | version hlen hversion =>
    obtain ⟨tail, heq⟩ := hle
    match received, hlen with
    | b0 :: b1 :: rest, _ =>
      apply hversion
      cases hcred : t.credentials <;> simp_all [Transcript.toBytes, Transcript.greeting]
  | credentials hauth =>
    have hcred : t.credentials = true := by
      by_contra hcred
      obtain ⟨tail, heq⟩ := hle
      simp [Transcript.toBytes, Transcript.greeting, hcred] at heq
    have := (writeAuth_isSome_iff _).mpr (hunderstood.1 hcred)
    simp [hauth] at this
  | authReply hauth hversion hstatus =>
    obtain ⟨tail, heq⟩ := hle
    cases hcred : t.credentials <;> simp [Transcript.toBytes, Transcript.greeting, hcred] at heq
    exact hversion heq.1
  | request hhead hrefused => simp [hrequest] at hrefused
  | reply hhead _ hlen hneed =>
    obtain ⟨-, hinput, -⟩ := t.greeting_of_accepted hhead hle
    simp [t.reply.finalNeed_of_le hlen hinput] at hneed

/-- A settled handshake that understands its transcript accepts it on time. -/
theorem Transcript.Understood.acceptedOnTime (hunderstood : t.Understood) {request : Bytes}
    (hrequest : writeproto names conn = .written request) {arrived later : Bytes} {run : ProxyRun}
    (h : Handshake names conn False run)
    (hsettled : run.due = false) (hle : run.received <+: arrived) (hlater : arrived <+: t.toBytes ++ later)
    (hopen : run.proxy.bev.isSome = true → run.received = arrived) : AcceptedOnTime t arrived run := by
  obtain ⟨hlen, hneed⟩ := t.reply.understood_iff.mp hunderstood.2
  have hlength := t.length_toBytes
  have hgreeting : t.greeting.length = if t.credentials then 4 else 2 := by
    rw [Transcript.greeting]
    split <;> rfl
  cases h with
  | @methodReply bev received hawait =>
    obtain rfl := hopen rfl
    have hshort := hawait.lt_of_settled hsettled rfl
    rw [AcceptedOnTime, if_neg]
    · rfl
    · change ¬_ ≤ received.length
      omega
  | authReply hauth hawait =>
    obtain rfl := hopen rfl
    have hshort := hawait.lt_of_settled hsettled rfl
    rw [AcceptedOnTime, if_neg]
    · rfl
    · rw [List.length_cons, List.length_cons]
      omega
  | @finalReply bev head input _ low hhead _ hlow hawait =>
    obtain rfl := hopen rfl
    have hshort := hawait.lt_of_settled hsettled rfl
    obtain ⟨rfl, hinput, -⟩ := t.greeting_of_accepted hhead hlater
    have hlow' : low ≤ t.reply.toBytes.length := by
      rcases hlow with rfl | ⟨hlen', hlow⟩
      · exact hlen
      · rw [t.reply.finalNeed_of_le hlen' hinput] at hlow
        exact ((Option.some.inj hlow).symm.trans hneed).le
    rw [AcceptedOnTime, if_neg]
    · exact outcomes_map_write _
    · rw [List.length_append]
      omega
  | failed hreason =>
    exact absurd (hreason.resolve_right id) (hunderstood.not_rejected hrequest (hle.trans hlater))
  | @succeeded head input _ need handed resolved hhead _ hlen' hneed' hfull hhanded =>
    obtain ⟨rfl, hinput, -⟩ := t.greeting_of_accepted hhead (hle.trans hlater)
    rw [t.reply.finalNeed_of_le hlen' hinput] at hneed'
    obtain rfl := Option.some.inj hneed'
    rw [hneed] at hfull hhanded
    have hreceived := hle.length_le
    rw [List.length_append] at hreceived
    rw [AcceptedOnTime, if_pos (by omega)]
    refine ⟨handed, resolved, ?_, ?_⟩
    · rw [outcomes_append, outcomes_map_write]
      rfl
    · obtain ⟨rest, rfl⟩ := List.prefix_of_prefix_length_le (List.prefix_append _ _) hinput hfull
      rw [hhanded, List.drop_left, Transcript.toBytes, List.append_assoc]

/-- A handshake that has accepted a transcript and received no more understands the transcript. -/
theorem Transcript.understood_of_acceptedOnTime {run : ProxyRun} (h : Handshake names conn False run)
    (hle : run.received <+: t.toBytes) (haccepted : AcceptedOnTime t t.toBytes run) : t.Understood := by
  rw [AcceptedOnTime, if_pos le_rfl] at haccepted
  obtain ⟨handed, resolved, hout, hreceived⟩ := haccepted
  obtain ⟨head, input, request, need, hsplit, hhead, -, hlen, hneed, hfull, hhanded, -⟩ := h.of_success hout
  have hrest : handed.input.flatten = [] := by
    rw [hreceived] at hle
    have hlength := hle.length_le
    rw [List.length_append] at hlength
    exact List.length_eq_zero_iff.mp (by omega)
  rw [hsplit, ← List.append_nil t.toBytes] at hle
  rw [hsplit] at hreceived
  obtain ⟨rfl, hinput, hauth⟩ := t.greeting_of_accepted hhead hle
  refine ⟨hauth, ?_⟩
  rw [t.reply.finalNeed_of_le hlen hinput] at hneed
  obtain rfl := Option.some.inj hneed
  rw [hrest, List.append_nil, Transcript.toBytes] at hreceived
  obtain rfl := List.append_cancel_left hreceived
  exact FinalReply.understood_of_need hlen hfull (hhanded.symm.trans hrest)

end Accepted

/-- A handshake accepts a conforming transcript on time, with exactly its bytes consumed, however it
is cut into reads and whatever follows it, if and only if it understands the transcript. -/
theorem acceptedOnTime_iff_understood (names : NameInfo) (conn : CConnection) (bev : BufferEvent)
    (hset : conn.proxy.isSet = true) (hempty : bev.input.flatten = [])
    (hrequest : ∃ request, writeproto names conn = .written request) (t : Transcript conn.proxy.auth) :
    (∀ (reads : List (List Bytes)) (later : Bytes), reads.flatten.flatten <+: t.toBytes ++ later →
      ∃ start run, ProxyRun.begin conn bev = some start ∧
        reads.foldlM (ProxyRun.deliver names) start = some run ∧
        AcceptedOnTime t reads.flatten.flatten run) ↔ t.Understood := by
  obtain ⟨request, hrequest⟩ := hrequest
  obtain ⟨start, hstart, hstart', hreceived, hsettled, -⟩ := begin_handshake names False hset hempty
  have hreads (reads : List (List Bytes)) :=
    (hstart'.reads reads hsettled (hreceived ▸ List.prefix_rfl) fun _ => hreceived).resolve_right
      fun hbad => by simp [hbad.2.1] at hrequest
  simp only [List.nil_append] at hreads
  constructor
  · intro haccepts
    obtain ⟨start', run, hstart'', hrun, haccepted⟩ := haccepts [[t.toBytes]] [] (by simp)
    obtain rfl := Option.some.inj (hstart.symm.trans hstart'')
    obtain ⟨last, hlast, hlast', -, hle, -⟩ := hreads [[t.toBytes]]
    obtain rfl := Option.some.inj (hrun.symm.trans hlast)
    simp only [List.flatten_cons, List.flatten_nil, List.append_nil] at hle haccepted
    exact t.understood_of_acceptedOnTime hlast' hle haccepted
  · intro hunderstood reads later hlater
    obtain ⟨last, hlast, hlast', hsettled', hle, hopen⟩ := hreads reads
    exact ⟨start, last, hstart, hlast, hunderstood.acceptedOnTime hrequest hlast' hsettled' hle hlater hopen⟩

/-- No credentials, and a reply with an IPv4 address. -/
def ipv4Transcript : Transcript proxiedConnection.proxy.auth :=
  ⟨false, nofun, .ipv4 ⟨[127, 0, 0, 1], rfl⟩ 8333⟩

/-- No credentials, and a reply with a domain of 255 bytes. -/
def longDomainTranscript : Transcript proxiedConnection.proxy.auth :=
  ⟨false, nofun, .domain ⟨List.replicate 255 0x61, by rw [List.length_replicate]⟩ 8333⟩

/-- A reply with an IPv4 address in three reads is accepted, and the byte behind it is left. -/
theorem acceptedOnTime_ipv4 :
    ∃ start run, ProxyRun.begin proxiedConnection .socketNew = some start ∧
      [[[0x05, 0x00]], [[0x05, 0x00, 0x00], [0x01, 127, 0]], [[0, 1, 0x20, 0x8d, 0xf9]]].foldlM
        (ProxyRun.deliver noNames) start = some run ∧
      AcceptedOnTime ipv4Transcript
        [0x05, 0x00, 0x05, 0x00, 0x00, 0x01, 127, 0, 0, 1, 0x20, 0x8d, 0xf9] run :=
  (acceptedOnTime_iff_understood noNames proxiedConnection .socketNew rfl rfl ⟨_, rfl⟩
    ipv4Transcript).mpr ⟨nofun, trivial⟩
    [[[0x05, 0x00]], [[0x05, 0x00, 0x00], [0x01, 127, 0]], [[0, 1, 0x20, 0x8d, 0xf9]]] [0xf9]
    (by decide)

/-- The first two reads of a transcript with a long domain, far from its end. -/
def longDomainReads : List (List Bytes) := [[[0x05, 0x00]], [[0x05, 0x00, 0x00, 0x03, 255, 0x61, 0x61, 0x61]]]

set_option maxRecDepth 2000 in
/-- With a domain of 255 bytes success is reported after the first eight bytes of the reply. -/
theorem acceptedOnTime_domain_failing :
    ¬∀ (reads : List (List Bytes)) (later : Bytes),
      reads.flatten.flatten <+: longDomainTranscript.toBytes ++ later →
      ∃ start run, ProxyRun.begin proxiedConnection .socketNew = some start ∧
        reads.foldlM (ProxyRun.deliver noNames) start = some run ∧
        AcceptedOnTime longDomainTranscript reads.flatten.flatten run := by
  intro haccepts
  obtain ⟨start, run, hstart, hrun, haccepted⟩ := haccepts longDomainReads [] (by decide +kernel)
  have hreported : ((ProxyRun.begin proxiedConnection .socketNew).bind fun start =>
      longDomainReads.foldlM (ProxyRun.deliver noNames) start).map
        (fun run => decide (outcomes run.log = [])) = some false := by
    decide +kernel
  rw [hstart, Option.bind_some, hrun, Option.map_some, Option.some.injEq, decide_eq_false_iff_not] at hreported
  rw [AcceptedOnTime, if_neg (by decide +kernel)] at haccepted
  exact hreported haccepted

end LibBtcNet
