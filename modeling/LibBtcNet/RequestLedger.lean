import LibBtcNet.HandlerAssertions
import LibBtcNet.Shutdown

/-!
# A ledger of requests and connections

Every request that the handler starts and every connection that the user admits is entered once, and
struck out once: when the user is told of its end, or where the code drops it without a word. Retries
and hand-overs move an entry between the maps and change its id, but the handler never holds more or
fewer entries than the ledger says, for any property of their `CConnection`.
-/

namespace LibBtcNet

open CConnectionHandlerInt

/-- The connection whose request or session ends with an item: the user has been told that it is over, or has not
asked for another attempt. -/
def TraceItem.ended? : TraceItem → Option CConnection
  | .callback (.onConnectionFailure _ _ retry) answer about => if retry && answer then none else about
  | .callback (.onProxyFailure _ retry) answer about => if retry && answer then none else about
  | .callback (.onDnsFailure _ retry) answer about => if retry && answer then none else about
  | .callback (.onDnsResponse _ _) _ about => about
  | .callback (.onOutgoingConnection _ _ _) answer about => if answer then none else about
  | .callback (.onDisconnected _ persistent) answer about => if persistent && answer then none else about
  | _ => none

/-- The connection of a listener that the user admits with an item. -/
def TraceItem.admitted? : TraceItem → Option CConnection
  | .callback (.onIncomingConnection _ _ _) answer about => if answer then about else none
  | _ => none

/-- The entries struck out, as far as they have a property. -/
def ended (p : CConnection → Bool) (t : Trace) : ℕ := t.countP fun item => item.ended?.any p

/-- The entries of admitted connections. -/
def admitted (p : CConnection → Bool) (t : Trace) : ℕ := t.countP fun item => item.admitted?.any p

namespace CConnectionHandlerInt

/-- The connections and resolve-only requests that the handler holds. -/
def held (p : CConnection → Bool) (h : CConnectionHandlerInt) : ℕ :=
  OrderedMap.countValues (fun obj => p obj.base.conn) h.connecting +
    OrderedMap.countValues (fun obj => p obj.base.conn) h.connected +
      OrderedMap.countValues (fun c => p c.conn) h.dnsResolves

/-- The requests that `StartConnection` files. It files none that is to be resolved through a proxy. -/
def filed (p : CConnection → Bool) (conns : List CConnection) : ℕ :=
  conns.countP fun conn => p conn && !(conn.isResolveOnly && conn.proxy.isSet)

/-- The requests that an event starts. -/
def startedBy (p : CConnection → Bool) (h : CConnectionHandlerInt) (input : HandlerInput) : ℕ :=
  if input.event = .requestEvent ∧ 0 < h.needed then
    filed p (h.starting input.env) else 0

/-- The requests that an event drops without a word: `ShutdownInt` clears the resolve-only requests. -/
def droppedBy (p : CConnection → Bool) (h : CConnectionHandlerInt) (input : HandlerInput) : ℕ :=
  if input.event = .shutdownEvent then OrderedMap.countValues (fun c => p c.conn) h.dnsResolves else 0

/-- What an event does if it can come and no assertion has failed. -/
def amountOf (amount : CConnectionHandlerInt → HandlerInput → ℕ) (h : CConnectionHandlerInt)
    (input : HandlerInput) : ℕ :=
  if h.failed.isEmpty && h.enabled input.event then amount h input else 0

/-- What the events of a run do. -/
def total (amount : CConnectionHandlerInt → HandlerInput → ℕ) (h : CConnectionHandlerInt) : List HandlerInput → ℕ
  | [] => 0
  | input :: inputs => amountOf amount h input + (h.step input).total amount inputs

/-- What the trace says of the entries: those struck out, less those of admitted connections. -/
def booked (p : CConnection → Bool) (t : Trace) : ℤ := ended p t - admitted p t

/-- The entries that are held and what the trace says. -/
def balance (p : CConnection → Bool) (h : CConnectionHandlerInt) : ℤ := h.held p + booked p h.trace

end CConnectionHandlerInt

section Balance

variable {p : CConnection → Bool} {h h' : CConnectionHandlerInt} {k : ConnID} {obj : ConnectionObject}

/-- What later items say is added. -/
theorem booked_append (items later : Trace) : booked p (items ++ later) = booked p items + booked p later := by
  have hended : ended p (items ++ later) = ended p items + ended p later := List.countP_append
  have hadmitted : admitted p (items ++ later) = admitted p items + admitted p later := List.countP_append
  rw [booked, booked, booked, hended, hadmitted]
  omega

/-- Items that end and admit nothing say nothing. -/
theorem booked_of_silent {items : Trace} (hended : ∀ item ∈ items, item.ended? = none)
    (hadmitted : ∀ item ∈ items, item.admitted? = none) : booked p items = 0 := by
  have hended : ended p items = 0 := List.countP_eq_zero.mpr fun item hitem => by simp [hended item hitem]
  have hadmitted : admitted p items = 0 := List.countP_eq_zero.mpr fun item hitem => by simp [hadmitted item hitem]
  rw [booked, hended, hadmitted]
  rfl

/-- An item that ends a request or a session unless it goes on. -/
theorem booked_unless {item : TraceItem} {conn : CConnection} {kept : Bool}
    (hended : item.ended? = if kept then none else some conn) (hadmitted : item.admitted? = none) :
    booked p [item] = if kept then 0 else ((p conn).toNat : ℤ) := by
  rw [booked, ended, admitted, List.countP_singleton, List.countP_singleton, hended, hadmitted]
  cases kept <;> cases hp : p conn <;> simp [hp]

/-- An item that admits a connection if the user says so. -/
theorem booked_when {item : TraceItem} {conn : CConnection} {kept : Bool} (hended : item.ended? = none)
    (hadmitted : item.admitted? = if kept then some conn else none) :
    booked p [item] = if kept then -((p conn).toNat : ℤ) else 0 := by
  rw [booked, ended, admitted, List.countP_singleton, List.countP_singleton, hended, hadmitted]
  cases kept <;> cases hp : p conn <;> simp [hp]

/-- The calls of the user say nothing. -/
theorem Frame.booked (frame : Frame h h') : booked p h'.trace = booked p h.trace := by
  obtain ⟨items, htrace, hquiet, -⟩ := frame.items
  have hsilent : ∀ item ∈ items, item.ended? = none ∧ item.admitted? = none := by
    intro item hitem
    have hitem := hquiet item hitem
    unfold TraceItem.Quiet at hitem
    split at hitem
    · exact ⟨rfl, rfl⟩
    · exact ⟨rfl, rfl⟩
    · contradiction
  rw [htrace, booked_append, booked_of_silent (fun item hitem => (hsilent item hitem).1) fun item hitem =>
    (hsilent item hitem).2, add_zero]

/-- Something happens. -/
theorem balance_record (items : List TraceItem) : (h.record items).balance p = h.balance p + booked p items := by
  have hbooked : booked p (h.record items).trace = booked p h.trace + booked p items := booked_append _ _
  have hheld : (h.record items).held p = h.held p := rfl
  rw [CConnectionHandlerInt.balance, CConnectionHandlerInt.balance, hheld, hbooked, add_assoc]

/-- What is asked of the network says nothing. -/
theorem balance_record_net (conn : CConnection) (actions : List NetAction) :
    (h.record (actions.map (.net conn))).balance p = h.balance p := by
  rw [balance_record, booked_of_silent, add_zero]
  · intro item hitem
    obtain ⟨action, -, rfl⟩ := List.mem_map.mp hitem
    rfl
  · intro item hitem
    obtain ⟨action, -, rfl⟩ := List.mem_map.mp hitem
    rfl

/-- Only the maps that hold entries and the trace matter. -/
theorem balance_of_same (hconnecting : h'.connecting = h.connecting) (hconnected : h'.connected = h.connected)
    (hdnsResolves : h'.dnsResolves = h.dnsResolves) (htrace : h'.trace = h.trace) : h'.balance p = h.balance p := by
  rw [balance, balance, held, held, hconnecting, hconnected, hdnsResolves, htrace]

/-- The user's calls enter and strike out nothing. -/
theorem Frame.balance (frame : Frame h h') : h'.balance p = h.balance p := by
  have hconnected : OrderedMap.countValues (fun obj : ConnectionObject => p obj.base.conn) h'.connected =
      OrderedMap.countValues (fun obj : ConnectionObject => p obj.base.conn) h.connected := by
    refine OrderedMap.countValues_of_map _ fun k => ?_
    cases hobj : h.connected[k]? with
    | none => rw [(frame.connected_eq_none_iff k).mpr hobj]
    | some obj =>
      obtain ⟨obj', hobj', hcalled⟩ := frame.kept k obj hobj
      rw [hobj', Option.map_some, Option.map_some, hcalled.conn]
  rw [CConnectionHandlerInt.balance, CConnectionHandlerInt.balance, held, held, frame.connecting, frame.dnsResolves,
    hconnected, frame.booked]

/-- A callback says what its item does. -/
theorem callUser_booked {env : Environment} {about : Option CConnection} {c : Callback} {ret : Bool}
    (hcall : h.callUser env about c = (ret, h')) :
    booked p h'.trace = booked p h.trace + booked p [.callback c ret about] := by
  obtain ⟨ret', h'', hcall', frame⟩ := callUser_frame h env about c
  obtain ⟨rfl, rfl⟩ := Prod.mk.inj (hcall'.symm.trans hcall)
  exact frame.booked.trans (booked_append _ _)

/-- It changes no entry. -/
theorem callUser_balance {env : Environment} {about : Option CConnection} {c : Callback} {ret : Bool}
    (hcall : h.callUser env about c = (ret, h')) : h'.balance p = h.balance p + booked p [.callback c ret about] := by
  obtain ⟨ret', h'', hcall', frame⟩ := callUser_frame h env about c
  obtain ⟨rfl, rfl⟩ := Prod.mk.inj (hcall'.symm.trans hcall)
  rw [frame.balance, balance_record]

/-- A connection changes, but is for the same `CConnection`. -/
theorem put_balance {place : Place} {obj' : ConnectionObject} (hobj : (h.objects place)[k]? = some obj)
    (hconn : obj'.base.conn = obj.base.conn) : (h.put place k obj').balance p = h.balance p := by
  have hsame : p obj'.base.conn = p obj.base.conn := congrArg p hconn
  have hcount := OrderedMap.countValues_replace (fun obj : ConnectionObject => p obj.base.conn) hobj hsame
  cases place with
  | connecting =>
    rw [CConnectionHandlerInt.balance, CConnectionHandlerInt.balance, held, held]
    simp only [put, objects] at hcount ⊢
    rw [hcount]
  | connected =>
    rw [CConnectionHandlerInt.balance, CConnectionHandlerInt.balance, held, held]
    simp only [put, objects] at hcount ⊢
    rw [hcount]

/-- A connection that is not established leaves its map. -/
theorem takeConnecting_balance (hobj : h.connecting[k]? = some obj) :
    (h.takeConnecting k).balance p = h.balance p - (p obj.base.conn).toNat := by
  have hcount := OrderedMap.countValues_erase (fun obj : ConnectionObject => p obj.base.conn) hobj
  rw [CConnectionHandlerInt.balance, CConnectionHandlerInt.balance, held, held, ← hcount]
  simp only [takeConnecting, Nat.cast_add]
  omega

/-- An established connection leaves its map. -/
theorem eraseConnected_balance (hobj : h.connected[k]? = some obj) :
    { h with connected := h.connected.erase k }.balance p = h.balance p - (p obj.base.conn).toNat := by
  have hcount := OrderedMap.countValues_erase (fun obj : ConnectionObject => p obj.base.conn) hobj
  rw [CConnectionHandlerInt.balance, CConnectionHandlerInt.balance, held, held, ← hcount]
  simp only [Nat.cast_add]
  omega

/-- A connection is filed as an established one under an id that is free. -/
theorem established_balance (hfree : h.connected[k]? = none) (obj : ConnectionObject) :
    { h with connected := h.connected.insertIfNew k obj }.balance p = h.balance p + (p obj.base.conn).toNat := by
  have hcount := OrderedMap.countValues_insertIfNew (fun obj : ConnectionObject => p obj.base.conn) obj hfree
  rw [CConnectionHandlerInt.balance, CConnectionHandlerInt.balance, held, held, hcount]
  simp only [Nat.cast_add]
  omega

/-- A connection is filed as one that is not established. -/
theorem filed_balance (hfree : h.connecting[k]? = none) (obj : ConnectionObject) :
    { h with connecting := h.connecting.insertIfNew k obj }.balance p = h.balance p + (p obj.base.conn).toNat := by
  have hcount := OrderedMap.countValues_insertIfNew (fun obj : ConnectionObject => p obj.base.conn) obj hfree
  rw [CConnectionHandlerInt.balance, CConnectionHandlerInt.balance, held, held, hcount]
  simp only [Nat.cast_add]
  omega

/-- A request is filed. -/
theorem resolving_balance (hfree : h.dnsResolves[k]? = none) (c : CResolveOnly) :
    { h with dnsResolves := h.dnsResolves.insertIfNew k c }.balance p = h.balance p + (p c.conn).toNat := by
  have hcount := OrderedMap.countValues_insertIfNew (fun c : CResolveOnly => p c.conn) c hfree
  rw [CConnectionHandlerInt.balance, CConnectionHandlerInt.balance, held, held, hcount]
  simp only [Nat.cast_add]
  omega

/-- A request changes. -/
theorem resolved_balance {c c' : CResolveOnly} (hc : h.dnsResolves[k]? = some c) (hconn : c'.conn = c.conn) :
    { h with dnsResolves := h.dnsResolves.insert k c' }.balance p = h.balance p := by
  have hcount := OrderedMap.countValues_replace (fun c : CResolveOnly => p c.conn) hc (congrArg p hconn)
  rw [CConnectionHandlerInt.balance, CConnectionHandlerInt.balance, held, held, hcount]

/-- A request is done. -/
theorem eraseResolve_balance {c : CResolveOnly} (hc : h.dnsResolves[k]? = some c) :
    { h with dnsResolves := h.dnsResolves.erase k }.balance p = h.balance p - (p c.conn).toNat := by
  have hcount := OrderedMap.countValues_erase (fun c : CResolveOnly => p c.conn) hc
  rw [CConnectionHandlerInt.balance, CConnectionHandlerInt.balance, held, held, ← hcount]
  simp only [Nat.cast_add]
  omega

/-- An id is issued. -/
theorem issued_balance {id : ConnID} (hissue : h.getNextConnectionIndex = (id, h')) :
    h'.balance p = h.balance p := by
  obtain ⟨index, failures, rfl, -, -⟩ := issued_shape hissue
  have hrecorded := @balance_record p { h with connectionIndex := index, failed := h.failed ++ failures } [.issued id]
  rwa [booked_of_silent (by simp [TraceItem.ended?]) (by simp [TraceItem.admitted?]), add_zero] at hrecorded

end Balance

section Ends

variable {P : CConnection → Prop} {p : CConnection → Bool} {h h' : CConnectionHandlerInt} {conns : List CConnection}
  {place : Place} {k : ConnID} {obj : ConnectionObject} {r : ConnResult ConnectionObject}

/-- A connection is kept under a new id. -/
theorem retryConnecting_balance (sound : Sound P ⟨h, .retrying obj, conns⟩)
    (hfew : FewIds (h.retryConnecting obj).trace) :
    (h.retryConnecting obj).balance p = h.balance p + (p obj.base.conn).toNat := by
  obtain ⟨id, h', hissue⟩ : ∃ id h', h.getNextConnectionIndex = (id, h') := ⟨_, _, rfl⟩
  have hretried : h.retryConnecting obj =
      { h' with connecting := (h'.connecting.insertIfNew id obj).modify id (·.retry id) } := by
    rw [retryConnecting, hissue]
  rw [hretried] at hfew ⊢
  have hfree : h'.connecting[id]? = none := by
    have hfree := (places_eq_zero_iff.mp (sound.fresh hissue hfew)).1
    obtain ⟨index, failures, rfl, -, -⟩ := issued_shape hissue
    exact hfree
  have hcount : OrderedMap.countValues (fun obj : ConnectionObject => p obj.base.conn)
      ((h'.connecting.insertIfNew id obj).modify id (·.retry id)) =
        OrderedMap.countValues (fun obj : ConnectionObject => p obj.base.conn)
          (h'.connecting.insertIfNew id obj) := by
    refine OrderedMap.countValues_of_map _ fun k => ?_
    rw [OrderedMap.getElem?_modify]
    split
    · next heq =>
      rw [heq, Option.map_map]
      rfl
    · rfl
  have hfiled := @filed_balance p h' id hfree obj
  rw [issued_balance hissue] at hfiled
  rw [← hfiled, CConnectionHandlerInt.balance, CConnectionHandlerInt.balance, held, held, hcount]

/-- A method has run. -/
theorem Working.balance (working : Working h place k obj r) : (h.worked place k obj r).balance p = h.balance p := by
  rw [worked, balance_record_net, put_balance working.found working.works.keeps.1]

/-- What a failure says. -/
theorem booked_failure (type : ConnectionFailureType) (failed conn : CConnection) (retry ret : Bool) :
    booked p [.callback (failureCallback type failed retry) ret (some conn)] =
      if retry && ret then 0 else ((p conn).toNat : ℤ) := by
  cases type <;> exact booked_unless rfl rfl

/-- What the end of a session says. -/
theorem booked_disconnected (id : ConnID) (conn : CConnection) (reconnect ret : Bool) :
    booked p [.callback (.onDisconnected id reconnect) ret (some conn)] =
      if reconnect && ret then 0 else ((p conn).toNat : ℤ) := booked_unless rfl rfl

/-- A connection whose method ends with a report is not established, and leaves its map. -/
theorem Working.taken (working : Working h place k obj r) (hreport : r.report ≠ .waiting) (hearlier : FewIds h.trace) :
    (h.worked place k obj r).connecting[k]? = some r.obj ∧
      ((h.worked place k obj r).takeConnecting k).balance p = h.balance p - (p obj.base.conn).toNat := by
  obtain ⟨rfl, -⟩ := working.ends hearlier hreport
  have hptr : (h.worked .connecting k obj r).connecting[k]? = some r.obj := objects_put h .connecting k r.obj
  refine ⟨hptr, ?_⟩
  rw [takeConnecting_balance hptr, working.balance, working.works.keeps.1]

/-- A connection that fails is struck out, unless it is kept for another attempt. -/
theorem Working.failed_balance (env : Environment) (sound : Sound P ⟨h, .idle, conns⟩)
    (working : Working h place k obj r) {type : ConnectionFailureType} {failed : CConnection} {retry : Bool}
    (hreport : r.report = .connectionFailure type failed retry) (hearlier : FewIds h.trace)
    (hfew : FewIds ((h.worked place k obj r).onConnectionFailure env k obj.base.conn type failed retry).trace) :
    ((h.worked place k obj r).onConnectionFailure env k obj.base.conn type failed retry).balance p = h.balance p := by
  have hconn : r.obj.base.conn = obj.base.conn := working.works.keeps.1
  have hshutdown : (h.worked place k obj r).isShutdown = h.isShutdown := put_isShutdown h place k r.obj
  obtain ⟨hptr, htaken⟩ := @Working.taken p h place k obj r working (by simp [hreport]) hearlier
  obtain ⟨ret, h', hcall, frame⟩ := callUser_frame ((h.worked place k obj r).takeConnecting k) env obj.base.conn
    (failureCallback type failed (retry && !h.isShutdown))
  have hcalled : h'.balance p = _ := callUser_balance hcall
  rw [htaken, booked_failure] at hcalled
  have hfailed : Leads P (fun _ => True) ⟨h, .idle, conns⟩
      ⟨h', if retry && !h.isShutdown && ret then .retrying r.obj else .idle, conns⟩ :=
    .head (.failed working hreport hptr) (.of_move (.user frame))
  rw [← hshutdown] at hcall
  rw [onConnectionFailure_of_call hptr hcall, hshutdown] at hfew ⊢
  cases hretry : retry && !h.isShutdown && ret with
  | true =>
    rw [hretry] at hfailed hcalled hfew
    have hretried := @retryConnecting_balance P p h' conns r.obj (Moves.sound (hfailed sound) sound) hfew
    rw [if_pos rfl, hretried, hcalled, hconn, if_pos rfl]
    omega
  | false =>
    rw [hretry] at hcalled
    rw [if_neg Bool.false_ne_true, hcalled, if_neg Bool.false_ne_true]
    omega

/-- A connection that is made is filed as an established one if the user keeps it, and else struck out. -/
theorem Working.outgoing_balance (env : Environment) (sound : Sound P ⟨h, .idle, conns⟩)
    (working : Working h place k obj r) {bev : BufferEvent} {resolved : CConnection}
    (hreport : r.report = .outgoingConnected bev resolved) (hearlier : FewIds h.trace)
    (hfew : FewIds ((h.worked place k obj r).onOutgoingConnected env k obj.base.conn resolved).trace) :
    ((h.worked place k obj r).onOutgoingConnected env k obj.base.conn resolved).balance p = h.balance p := by
  obtain ⟨hptr, htaken⟩ := @Working.taken p h place k obj r working (by simp [hreport]) hearlier
  obtain ⟨ret, h', hcall, frame⟩ := callUser_frame ((h.worked place k obj r).takeConnecting k) env obj.base.conn
    (.onOutgoingConnection k obj.base.conn resolved)
  have hcalled : h'.balance p = _ := callUser_balance hcall
  have hbooked : booked p [.callback (.onOutgoingConnection k obj.base.conn resolved) ret (some obj.base.conn)] =
      if ret then 0 else ((p obj.base.conn).toNat : ℤ) := booked_unless rfl rfl
  rw [htaken, hbooked] at hcalled
  have houtgoing : Leads P (fun _ => True) ⟨h, .idle, conns⟩
    ⟨h', if ret then .accepted k r.obj else .idle, conns⟩ :=
    .head (.outgoing working hreport hptr) (.of_move (.user frame))
  rw [onOutgoingConnected_of_call hptr hcall] at hfew ⊢
  cases ret with
  | true =>
    rw [if_pos rfl] at hfew hcalled ⊢
    obtain ⟨ret', h'', hready, frame'⟩ := callUser_frame { h' with
      connected := h'.connected.insertIfNew k r.obj.enable
      outgoingConnCount := h'.outgoingConnCount + 1 } env r.obj.base.conn (.onReadyForFirstSend k)
    rw [hready] at hfew ⊢
    have sound' : Sound P ⟨h', .accepted k r.obj, conns⟩ := Moves.sound (houtgoing sound) sound
    have hfree := (places_eq_zero_iff.mp (sound'.books (frame'.grows.fewIds hfew).of_append).hand.2.1).2.1
    have hestablished : CConnectionHandlerInt.balance p { h' with
        connected := h'.connected.insertIfNew k r.obj.enable
        outgoingConnCount := h'.outgoingConnCount + 1 } = h'.balance p + (p r.obj.enable.base.conn).toNat :=
      @established_balance p h' k hfree r.obj.enable
    have henabled : r.obj.enable.base.conn = obj.base.conn := working.works.keeps.1
    have hsent : booked p [.callback (.onReadyForFirstSend k) ret' (some r.obj.base.conn)] = 0 :=
      booked_of_silent (by simp [TraceItem.ended?]) (by simp [TraceItem.admitted?])
    have hready : h''.balance p = _ := callUser_balance hready
    rw [hready, hestablished, hsent, hcalled, henabled]
    omega
  | false =>
    rw [if_neg Bool.false_ne_true, hcalled, if_neg Bool.false_ne_true]
    omega

/-- The report that ends a method keeps the ledger right. -/
theorem onReport_balance (env : Environment) (sound : Sound P ⟨h, .idle, conns⟩) (working : Working h place k obj r)
    (hfew : FewIds ((h.worked place k obj r).onReport env r).trace) :
    ((h.worked place k obj r).onReport env r).balance p = h.balance p := by
  have hworked : Leads P (fun _ => True) ⟨h, .idle, conns⟩ ⟨(h.worked place k obj r).onReport env r, .idle, conns⟩ :=
    onReport_leads env working
  have hearlier : FewIds h.trace := Moves.fewIds (hworked sound) hfew
  obtain ⟨hconn, hid, -⟩ := working.works.keeps
  have hid : r.obj.base.id = k := hid.trans (sound.objects.ready_of_found working.found).id
  cases hreport : r.report with
  | waiting =>
    simp only [onReport, hreport]
    exact working.balance
  | connectionFailure type failed retry =>
    simp only [onReport, hreport, hid, hconn] at hfew ⊢
    exact working.failed_balance env sound hreport hearlier hfew
  | outgoingConnected bev resolved =>
    simp only [onReport, hreport, hid, hconn] at hfew ⊢
    exact working.outgoing_balance env sound hreport hearlier hfew
  | incomingConnected bev resolved =>
    have hfits := working.works.fits.report
    rw [hreport] at hfits
    exact absurd (hfits.symm.trans (working.directed (by simp [hreport]))) Bool.false_ne_true

/-- So does a method. -/
theorem runMethod_balance (env : Environment) {method : ConnectionObject → Option (ConnResult ConnectionObject)}
    (sound : Sound P ⟨h, .idle, conns⟩)
    (hmethod : ∀ obj r, (h.objects place)[k]? = some obj → method obj = some r → Working h place k obj r)
    (hfew : FewIds (h.runMethod env place k method).trace) :
    (h.runMethod env place k method).balance p = h.balance p := by
  cases hobj : (h.objects place)[k]? with
  | none => simp only [runMethod, hobj]
  | some obj =>
    cases hr : method obj with
    | none =>
      simp only [runMethod, hobj, hr]
      exact balance_of_same rfl rfl rfl rfl
    | some r =>
      rw [runMethod_eq env hobj hr] at hfew ⊢
      exact onReport_balance env sound (hmethod obj r hobj hr) hfew

/-- So does `Connect`. -/
theorem connect_balance (env : Environment) (sound : Sound P ⟨h, .idle, conns⟩) (hready : h.Connectable place k)
    (hfew : FewIds (h.connect env place k).trace) : (h.connect env place k).balance p = h.balance p := by
  refine runMethod_balance env sound (fun obj r hobj hr => ?_) hfew
  obtain ⟨houtgoing, hsettled⟩ := hready obj hobj
  exact working_of_connect hobj hr houtgoing hsettled

/-- So does the retry timer of a connection. -/
theorem reconnectFunc_balance (env : Environment) (sound : Sound P ⟨h, .idle, conns⟩)
    (hfew : FewIds (h.reconnectFunc env place k).trace) : (h.reconnectFunc env place k).balance p = h.balance p := by
  unfold CConnectionHandlerInt.reconnectFunc at hfew ⊢
  split at hfew
  · rfl
  · next obj hobj =>
    split at hfew
    · next hwaits =>
      have sound' :
        Sound P ⟨h.put place k { obj with base := { obj.base with reconnectFunc := false } }, .idle, conns⟩ :=
        (rearmed_move (L := fun _ => True) hobj).sound sound
      rw [if_pos hwaits, connect_balance env sound' (sound.rearmed_connectable hobj hwaits) hfew]
      exact put_balance hobj rfl
    · next hwaits => rw [if_neg hwaits]

/-- A notice says nothing of the entries. -/
theorem notice_balance (env : Environment) {effect : ConnEffect} (hother : effect ≠ .disconnectInt) :
    (h.performEffect env place k effect).balance p = h.balance p := by
  unfold performEffect
  split
  · rfl
  · next obj hobj =>
    rw [if_neg hother]
    split
    · rfl
    · next c hc =>
      obtain ⟨ret, h', hcall, frame⟩ := callUser_frame h env obj.base.conn c
      have hsilent : booked p [.callback c ret (some obj.base.conn)] = 0 := by
        cases effect <;> simp only [effectCallback, Option.some.injEq, reduceCtorEq] at hc <;> subst hc <;>
          exact booked_of_silent (by simp [TraceItem.ended?]) (by simp [TraceItem.admitted?])
      have hcalled : h'.balance p = _ := callUser_balance hcall
      rw [hcall, hcalled, hsilent, add_zero]

/-- The end of an established connection that is stopped. -/
theorem onDisconnected_balance (env : Environment) {hand : Hand} (hhand : hand = .idle ∨ hand = .closing k)
    (sound : Sound P ⟨h, hand, conns⟩) (hobj : h.connected[k]? = some obj) (hstopped : obj.base.Stopped)
    (hfew : FewIds (h.onDisconnected env k (obj.base.conn.opts.fPersistent && obj.isOutgoing)).trace) :
    (h.onDisconnected env k (obj.base.conn.opts.fPersistent && obj.isOutgoing)).balance p = h.balance p := by
  generalize hreconnect : (obj.base.conn.opts.fPersistent && obj.isOutgoing && !h.isShutdown) = reconnect
  obtain ⟨ret, h', hcall, frame⟩ := callUser_frame
    ({ h with connected := h.connected.erase k }.count obj.isOutgoing (-1))
    env obj.base.conn (.onDisconnected k reconnect)
  have hended : Leads P (fun _ => True) ⟨h, hand, conns⟩
      ⟨h', if reconnect && ret then .retrying obj else .idle, conns⟩ :=
    .head (.ended hhand hobj (fun _ => hstopped) hreconnect.symm) (.of_move (.user frame))
  have herased : ({ h with connected := h.connected.erase k }.count obj.isOutgoing (-1)).balance p =
      h.balance p - (p obj.base.conn).toNat := by
    rw [← eraseConnected_balance hobj]
    exact balance_of_same (count_connecting ..) (count_connected ..) (count_dnsResolves ..) (count_trace ..)
  have hcalled : h'.balance p = _ := callUser_balance hcall
  rw [herased, booked_disconnected] at hcalled
  simp only [onDisconnected, hobj, hreconnect, hcall] at hfew ⊢
  cases hretry : reconnect && ret with
  | true =>
    rw [hretry] at hended hfew hcalled
    have hretried := @retryConnecting_balance P p h' conns obj (Moves.sound (hended sound) sound) hfew
    rw [if_pos rfl, hretried, hcalled, if_pos rfl]
    omega
  | false =>
    rw [hretry] at hcalled
    rw [if_neg Bool.false_ne_true, hcalled, if_neg Bool.false_ne_true]
    omega

/-- The end of an established connection. -/
theorem disconnectInt_balance (env : Environment) {hand : Hand} (hhand : hand = .idle ∨ hand = .closing k)
    (sound : Sound P ⟨h, hand, conns⟩) (hobj : h.connected[k]? = some obj)
    (hfew : FewIds (h.performEffect env .connected k .disconnectInt).trace) :
    (h.performEffect env .connected k .disconnectInt).balance p = h.balance p := by
  have hid : obj.base.disconnectInt.id = k := (sound.objects.connected k obj hobj).id
  have hfound : (h.put .connected k { obj with base := obj.base.disconnectInt }).connected[k]? =
      some { obj with base := obj.base.disconnectInt } := objects_put h .connected k _
  have hchanged : Move P (fun _ => True) ⟨h, hand, conns⟩
      ⟨h.put .connected k { obj with base := obj.base.disconnectInt }, hand, conns⟩ :=
    .changed hobj ⟨rfl, rfl, rfl, Option.isSome_map, fun h => absurd h Bool.false_ne_true⟩
  simp only [performEffect, show (h.objects .connected)[k]? = some obj from hobj, if_pos, hid] at hfew ⊢
  have hended := @onDisconnected_balance P p _ conns _ _ env _ hhand (hchanged.sound sound) hfound
    (ConnectionBase.disconnectInt_stopped obj.base) hfew
  have hput : (h.put .connected k { obj with base := obj.base.disconnectInt }).balance p = h.balance p :=
    put_balance hobj rfl
  exact hended.trans hput

/-- The effects of an event, in their order. -/
theorem performEffects_balance (env : Environment) {effects : List ConnEffect} (hordered : ConnEffect.Ordered effects)
    (sound : Sound P ⟨h, .idle, conns⟩) (hfew : FewIds (effects.foldl (performEffect env .connected k) h).trace) :
    (effects.foldl (performEffect env .connected k) h).balance p = h.balance p := by
  obtain ⟨notices, ending, rfl, hnotices, hending⟩ := hordered
  rw [List.foldl_append] at hfew ⊢
  have hnoticed : (notices.foldl (performEffect env .connected k) h).balance p = h.balance p := by
    clear hfew sound
    induction notices generalizing h with
    | nil => rfl
    | cons notice notices ih =>
      rw [List.foldl_cons, ih fun other hother => hnotices other (List.mem_cons_of_mem _ hother)]
      exact notice_balance env (hnotices notice List.mem_cons_self).2
  have sound' : Sound P ⟨notices.foldl (performEffect env .connected k) h, .idle, conns⟩ := by
    have hleads : Leads P (fun _ => True) ⟨h, .idle, conns⟩
        ⟨notices.foldl (performEffect env .connected k) h, .idle, conns⟩ :=
      performEffects_leads env ⟨notices, [], (List.append_nil _).symm, hnotices, Or.inl rfl⟩
    exact Moves.sound (hleads sound) sound
  rw [← hnoticed]
  clear hnoticed sound
  generalize notices.foldl (performEffect env .connected k) h = h' at *
  cases hobj : h'.connected[k]? with
  | none =>
    -- Nothing is left to end.
    have hnone (effect : ConnEffect) : h'.performEffect env .connected k effect = h' := by
      simp only [performEffect, show (h'.objects .connected)[k]? = none from hobj]
    rcases hending with rfl | rfl | rfl
    · rfl
    · rw [List.foldl_cons, hnone, List.foldl_nil]
    · rw [List.foldl_cons, hnone, List.foldl_cons, hnone, List.foldl_nil]
  | some obj =>
    rcases hending with rfl | rfl | rfl
    · rfl
    · exact disconnectInt_balance env (Or.inl rfl) sound' hobj hfew
    · have hid := (sound'.objects.connected k obj hobj).id
      obtain ⟨ret, h'', hcall, frame⟩ := callUser_frame h' env obj.base.conn (.onMalformedMessage k)
      have hperform : h'.performEffect env .connected k .onMalformedMessage = h'' := by
        simp only [performEffect, show (h'.objects .connected)[k]? = some obj from hobj, effectCallback, hid, hcall]
        rfl
      obtain ⟨obj', hobj', -⟩ := frame.kept k obj hobj
      have hclosing : Leads P (fun _ => True) ⟨h', .idle, conns⟩ ⟨h'', .closing k, conns⟩ :=
        .head (.malformed hobj) (.of_move (.user frame))
      have hcalled := @notice_balance p h' .connected k env .onMalformedMessage (by simp)
      rw [List.foldl_cons, hperform] at hfew ⊢
      rw [hperform] at hcalled
      rw [← hcalled]
      exact disconnectInt_balance env (Or.inr rfl) (Moves.sound (hclosing sound') sound') hobj' hfew

/-- An event of a connection. -/
theorem connectionEvent_balance (env : Environment) {e : ConnEvent} (sound : Sound P ⟨h, .idle, conns⟩)
    (hfew : FewIds (h.connectionEvent env place k e).trace) :
    (h.connectionEvent env place k e).balance p = h.balance p := by
  unfold connectionEvent at hfew ⊢
  cases hobj : (h.objects place)[k]? with
  | none => rfl
  | some obj =>
    simp only [hobj] at hfew ⊢
    split at hfew
    · next harmed =>
      rw [if_pos harmed]
      obtain rfl := sound.established_of_armed hobj harmed
      cases hreact : obj.base.react e with
      | none => exact balance_of_same rfl rfl rfl rfl
      | some reacted =>
        obtain ⟨base, effects⟩ := reacted
        obtain ⟨⟨hconn, hid, hbev, hretry⟩, hordered⟩ := ConnectionBase.react_spec hreact
        have hchanged : Move P (fun _ => True) ⟨h, .idle, conns⟩
            ⟨h.put .connected k { obj with base }, .idle, conns⟩ :=
          .changed hobj ⟨rfl, hconn, hid, hbev, fun hwaits => hretry ▸ hwaits⟩
        simp only [hreact] at hfew ⊢
        rw [performEffects_balance env hordered (hchanged.sound sound) hfew]
        exact put_balance hobj hconn
    · next harmed => rw [if_neg harmed]

end Ends

section Requests

variable {P : CConnection → Prop} {p : CConnection → Bool} {h : CConnectionHandlerInt} {conns : List CConnection}
  {k : ConnID} {c : CResolveOnly}

/-- A failed request is erased or tried again. -/
theorem onResolveFailure_balance (env : Environment) (hc : h.dnsResolves[k]? = some c) (retry : Bool) :
    (h.onResolveFailure env k c.conn retry).balance p = h.balance p := by
  obtain ⟨ret, h', hcall, frame⟩ := callUser_frame h env c.conn (.onDnsFailure c.conn (retry && !h.isShutdown))
  have hcalled : h'.balance p = _ := callUser_balance hcall
  have hbooked : booked p [.callback (.onDnsFailure c.conn (retry && !h.isShutdown)) ret (some c.conn)] =
      if retry && !h.isShutdown && ret then 0 else ((p c.conn).toNat : ℤ) := booked_unless rfl rfl
  rw [hbooked] at hcalled
  have hc' : h'.dnsResolves[k]? = some c := by rw [frame.dnsResolves]; exact hc
  simp only [onResolveFailure, hcall, hc']
  split
  · next hretry =>
    rw [if_pos hretry, add_zero] at hcalled
    rw [← hcalled]
    exact resolved_balance hc' rfl
  · next hretry =>
    rw [if_neg hretry] at hcalled
    rw [eraseResolve_balance hc', hcalled]
    omega

/-- A completed request is erased. -/
theorem onResolveComplete_balance (env : Environment) (hc : h.dnsResolves[k]? = some c)
    (resolved : List CConnection) :
    (h.onResolveComplete env k c.conn resolved).balance p = h.balance p := by
  obtain ⟨ret, h', hcall, frame⟩ := callUser_frame h env c.conn (.onDnsResponse c.conn resolved)
  have hcalled : h'.balance p = _ := callUser_balance hcall
  have hbooked : booked p [.callback (.onDnsResponse c.conn resolved) ret (some c.conn)] =
      if false then 0 else ((p c.conn).toNat : ℤ) := booked_unless rfl rfl
  rw [hbooked, if_neg Bool.false_ne_true] at hcalled
  have hc' : h'.dnsResolves[k]? = some c := by rw [frame.dnsResolves]; exact hc
  simp only [onResolveComplete, hcall]
  rw [eraseResolve_balance hc', hcalled]
  omega

/-- A method of a resolve-only request keeps the ledger right. -/
theorem runResolve_balance (env : Environment) {method : CResolveOnly →
    Option (MethodResult CResolveOnly ResolveReport)} (sound : Sound P ⟨h, .idle, conns⟩)
    (hmethod : ∀ c r, method c = some r → c.Works r) : (h.runResolve env k method).balance p = h.balance p := by
  unfold runResolve
  split
  · rfl
  · next c hc =>
    split
    · exact balance_of_same rfl rfl rfl rfl
    · next r hr =>
      obtain ⟨hid, hconn, hpermitted⟩ := hmethod c r hr
      have hk : r.obj.id = k := hid.trans (sound.objects.dnsResolves k c hc).id
      generalize hworked : ({ h with dnsResolves := h.dnsResolves.insert k r.obj }.record
        (r.net.map (.net c.conn))) = worked
      have hbalance : worked.balance p = h.balance p := by
        rw [← hworked, balance_record_net, resolved_balance hc hconn]
      have hfound : worked.dnsResolves[k]? = some r.obj := by rw [← hworked]; simp [record]
      rw [hk, ← hbalance]
      cases r.report with
      | waiting => rfl
      | resolveFailure retry => exact onResolveFailure_balance env hfound retry
      | resolveComplete resolved => exact onResolveComplete_balance env hfound resolved

/-- So does the retry event of a request. -/
theorem retryEvent_balance (env : Environment) (sound : Sound P ⟨h, .idle, conns⟩) :
    (h.retryEvent env k).balance p = h.balance p := by
  unfold CConnectionHandlerInt.retryEvent
  split
  · rfl
  · next c hc =>
    split
    · have hchanged : Move P (fun _ => True) ⟨h, .idle, conns⟩
          ⟨{ h with dnsResolves := h.dnsResolves.insert k { c with retryEvent := false } }, .idle, conns⟩ :=
        resolveChanged_move hc rfl rfl
      rw [CConnectionHandlerInt.resolve,
        runResolve_balance env (hchanged.sound sound) fun _ _ hr => CResolveOnly.resolve_works hr]
      exact resolved_balance hc rfl
    · rfl

end Requests

section Starts

variable {P : CConnection → Prop} {p : CConnection → Bool} {h : CConnectionHandlerInt} {conns : List CConnection}
  {k : ConnID}

/-- What is filed under an id that has just been issued is filed under one that is free. -/
theorem Sound.free {hand : Hand} {id : ConnID} {h' : CConnectionHandlerInt} (sound : Sound P ⟨h, hand, conns⟩)
    (hissue : h.getNextConnectionIndex = (id, h')) (hfew : FewIds h'.trace) :
    h'.connecting[id]? = none ∧ h'.connected[id]? = none ∧ h'.dnsResolves[id]? = none := by
  have hfree := places_eq_zero_iff.mp (sound.fresh hissue hfew)
  obtain ⟨index, failures, rfl, -, -⟩ := issued_shape hissue
  exact ⟨hfree.1, hfree.2.1, hfree.2.2.2⟩

/-- A connection that is started is filed, but for a request that is to be resolved through a proxy. -/
theorem startConnection_balance (env : Environment) {conn : CConnection} (hsupplied : P conn)
    (sound : Sound P ⟨h, .idle, conn :: conns⟩) (hfew : FewIds (h.startConnection env conn).trace) :
    (h.startConnection env conn).balance p = h.balance p + filed p [conn] := by
  obtain ⟨id, h', hissue⟩ : ∃ id h', h.getNextConnectionIndex = (id, h') := ⟨_, _, rfl⟩
  have hissued : h'.balance p = h.balance p := issued_balance hissue
  simp only [startConnection, hissue] at hfew ⊢
  rw [filed, List.countP_singleton, ← hissued]
  cases honly : conn.isResolveOnly with
  | true =>
    rw [honly] at hfew
    cases hproxy : conn.proxy.isSet with
    | true => simp
    | false =>
      rw [hproxy] at hfew
      simp only [if_true, Bool.false_eq_true, if_false] at hfew
      have started :
        Sound P ⟨{ h' with dnsResolves := h'.dnsResolves.insertIfNew id (.new conn id) }, .idle, conns⟩ :=
        (@Move.resolveStarted P (fun _ => True) h h' conns id conn hsupplied hproxy hissue).sound sound
      have hfree := (sound.free hissue (Moves.fewIds (resolve_leads (L := fun _ => True) env id started) hfew)).2.2
      have hfiled := @resolving_balance p h' id hfree (.new conn id)
      simp only [if_true, Bool.false_eq_true, if_false]
      rw [CConnectionHandlerInt.resolve,
        runResolve_balance env started fun _ _ hr => CResolveOnly.resolve_works hr, hfiled]
      cases hp : p conn <;> simp [CResolveOnly.new, hp]
  | false =>
    rw [honly] at hfew
    simp only [Bool.false_eq_true, if_false] at hfew ⊢
    have hstarted := @Move.started P (fun _ => True) h h' conns id conn (env.uninitialized h'.trace).1
      (env.uninitialized h'.trace).2 hsupplied honly hissue
    have hready := @Sound.started_connectable P h conns id h' conn (env.uninitialized h'.trace).1
      (env.uninitialized h'.trace).2 sound hsupplied honly hissue
    have started := hstarted.sound sound
    have hleads : Leads P (fun _ => True) ⟨_, .idle, conns⟩ _ := connect_leads env hready
    have hfree := (sound.free hissue (Moves.fewIds (hleads started) hfew)).1
    rw [connect_balance env started hready hfew, filed_balance hfree]
    cases hp : p conn <;> simp [ConnectionObject.new, ConnectionBase.new, hp]

/-- The connections that were offered are filed one after the other. -/
theorem startConnections_balance (env : Environment) (hsupplied : ∀ conn ∈ conns, P conn)
    (sound : Sound P ⟨h, .idle, conns⟩) (hfew : FewIds (conns.foldl (startConnection env) h).trace) :
    (conns.foldl (startConnection env) h).balance p = h.balance p + filed p conns := by
  induction conns generalizing h with
  | nil => simp [filed]
  | cons conn conns ih =>
    have hconn : P conn := hsupplied conn List.mem_cons_self
    have hlater : ∀ other ∈ conns, P other := fun other hother => hsupplied other (List.mem_cons_of_mem _ hother)
    have hfirst : Leads P (fun _ => True) ⟨h, .idle, conn :: conns⟩ ⟨h.startConnection env conn, .idle, conns⟩ :=
      startConnection_leads env hconn
    have sound' := Moves.sound (hfirst sound) sound
    have hrest := @startConnections_leads P (fun _ => True) (h.startConnection env conn) conns env [] hlater
    rw [List.append_nil] at hrest
    have hfew' : FewIds (h.startConnection env conn).trace := Moves.fewIds (hrest sound') hfew
    have hfiled : filed p (conn :: conns) = filed p [conn] + filed p conns := by
      rw [filed, filed, filed, ← List.countP_append]
      rfl
    rw [List.foldl_cons, ih hlater sound' hfew, startConnection_balance env hconn sound hfew', hfiled]
    push_cast
    omega

/-- An attempt is filed under an id that is free, and taken out again. -/
theorem passing_balance (hfree : h.connecting[k]? = none) (filed worked : ConnectionObject) :
    balance p { h with connecting := ((h.connecting.insertIfNew k filed).insert k worked).erase k } = h.balance p := by
  have hsame (a : ConnID) :
      (((h.connecting.insertIfNew k filed).insert k worked).erase k)[a]? = h.connecting[a]? := by
    by_cases heq : k = a
    · subst heq
      simp [hfree]
    · simp [heq]
  have hcounted := OrderedMap.countValues_congr (fun obj : ConnectionObject => p obj.base.conn) hsame
  rw [CConnectionHandlerInt.balance, CConnectionHandlerInt.balance, held, held, hcounted]

/-- The user is asked about an incoming connection, and it is filed if the user admits it. -/
theorem incoming_balance {h' : CConnectionHandlerInt} {env : Environment} {obj : ConnectionObject} {conn : CConnection}
    {resolved : CConnection} {ret : Bool}
    (hcall : h.callUser env conn (.onIncomingConnection k conn resolved) = (ret, h'))
    (hfree : h.connected[k]? = none) (hconn : obj.base.conn = conn) :
    (if ret then { h' with
      connected := h'.connected.insertIfNew k obj
      incomingConnCount := h'.incomingConnCount + 1 } else h').balance p = h.balance p := by
  have hbooked : booked p [.callback (.onIncomingConnection k conn resolved) ret (some conn)] =
      if ret then -((p conn).toNat : ℤ) else 0 := booked_when rfl rfl
  have hcalled : h'.balance p = _ := callUser_balance hcall
  rw [hbooked] at hcalled
  cases ret with
  | true =>
    have hunused : h'.connected[k]? = none := by
      obtain ⟨answer, other, hother, frame⟩ := callUser_frame h env conn (.onIncomingConnection k conn resolved)
      obtain ⟨-, rfl⟩ := Prod.mk.inj (hother.symm.trans hcall)
      exact (frame.connected_eq_none_iff k).mpr hfree
    have hestablished : balance p { h' with
        connected := h'.connected.insertIfNew k obj
        incomingConnCount := h'.incomingConnCount + 1 } = h'.balance p + (p obj.base.conn).toNat :=
      @established_balance p h' k hunused obj
    rw [if_pos rfl, hestablished, hcalled, if_pos rfl, hconn]
    omega
  | false => rw [if_neg Bool.false_ne_true, hcalled, if_neg Bool.false_ne_true, add_zero]

/-- A connection that a listener accepts is filed if the user admits it. -/
theorem acceptConn_balance (env : Environment) {addr : Bytes} (sound : Sound P ⟨h, .idle, conns⟩)
    (hfew : FewIds (h.acceptConn env k addr).trace) : (h.acceptConn env k addr).balance p = h.balance p := by
  unfold CConnectionHandlerInt.acceptConn at hfew ⊢
  split at hfew
  · rfl
  · next conn hbind =>
    rw [onIncomingConnection_eq] at hfew ⊢
    obtain ⟨id, h', hissue⟩ : ∃ id h', h.getNextConnectionIndex = (id, h') := ⟨_, _, rfl⟩
    obtain ⟨hfew', condition, filed, bytesRead, bytesWritten, ret, h'', -, hcall, hrun⟩ :=
      sound.acceptingCall_asks hissue hfew
    obtain ⟨hnone, hunused, -⟩ := sound.free hissue hfew'
    have hchecked : (h'.check condition .incomingConn).balance p = h.balance p := by
      rw [check_eq, ← issued_balance hissue]
      exact balance_of_same rfl rfl rfl rfl
    have hnone' : (h'.check condition .incomingConn).connecting[id]? = none := by
      rw [check_eq]
      exact hnone
    have hunused' : (h'.check condition .incomingConn).connected[id]? = none := by
      rw [check_eq]
      exact hunused
    rw [hrun, incoming_balance hcall hunused' rfl, passing_balance hnone', hchecked]

end Starts

section Shutdowns

variable {P : CConnection → Prop} {p : CConnection → Bool} {h : CConnectionHandlerInt}

/-- The first loop of `ShutdownInt` tells of every established connection. -/
theorem shutdownConnected_booked (env : Environment) (entries : List (ConnID × ConnectionObject)) :
    booked p (entries.foldl (shutdownConnected env) h).trace =
      booked p h.trace + entries.countP (fun entry => p entry.2.base.conn) ∧
        (entries.foldl (shutdownConnected env) h).connecting = h.connecting := by
  induction entries generalizing h with
  | nil => exact ⟨by simp, rfl⟩
  | cons entry entries ih =>
    obtain ⟨ret, h', hcall, frame⟩ := callUser_frame (h.count entry.2.isOutgoing (-1)) env entry.2.base.conn
      (.onDisconnected entry.1 false)
    have hbooked : booked p h'.trace = booked p h.trace + (p entry.2.base.conn).toNat := by
      rw [callUser_booked hcall, booked_disconnected, count_trace]
      rfl
    obtain ⟨hlater, hconnecting⟩ := @ih h'
    rw [List.foldl_cons, shutdownConnected, hcall]
    refine ⟨?_, hconnecting.trans (frame.connecting.trans (count_connecting ..))⟩
    rw [hlater, hbooked, List.countP_cons]
    cases p entry.2.base.conn <;> simp
    omega

/-- The second loop tells of every outgoing attempt. -/
theorem shutdownConnecting_booked (env : Environment) (entries : List (ConnID × ConnectionObject))
    (houtgoing : ∀ entry ∈ entries, entry.2.isOutgoing = true) :
    booked p (entries.foldl (shutdownConnecting env) h).trace =
      booked p h.trace + entries.countP (fun entry => p entry.2.base.conn) := by
  induction entries generalizing h with
  | nil => simp
  | cons entry entries ih =>
    obtain ⟨ret, h', hcall, frame⟩ := callUser_frame h env entry.2.base.conn
      (.onConnectionFailure entry.2.base.conn entry.2.base.conn false)
    have hbooked : booked p h'.trace = booked p h.trace + (p entry.2.base.conn).toNat :=
      (callUser_booked hcall).trans (congrArg _ (booked_failure .connect _ _ false ret))
    have hlater := @ih { h' with connecting := h'.connecting.erase entry.1 } fun other hother =>
      houtgoing other (List.mem_cons_of_mem _ hother)
    rw [List.foldl_cons, shutdownConnecting]
    simp only [houtgoing entry List.mem_cons_self, if_true, hcall]
    rw [hlater, hbooked, List.countP_cons]
    cases p entry.2.base.conn <;> simp
    omega

/-- Empty maps hold nothing. -/
theorem held_of_isEmpty (hconnecting : h.connecting.isEmpty = true) (hconnected : h.connected.isEmpty = true)
    (hdnsResolves : h.dnsResolves.isEmpty = true) : h.held p = 0 := by
  rw [held, OrderedMap.countValues_of_isEmpty _ hconnecting, OrderedMap.countValues_of_isEmpty _ hconnected,
    OrderedMap.countValues_of_isEmpty _ hdnsResolves]

/-- A handler that is shut down holds nothing. -/
theorem held_of_isShutdown (sound : Sound P ⟨h, .idle, []⟩) (hshutdown : h.isShutdown = true) : h.held p = 0 := by
  have hidle : h.Idle := sound.objects.hand.resolve_left fun hrunning =>
    absurd (hshutdown.symm.trans hrunning.2) (by simp)
  exact held_of_isEmpty (OrderedMap.isEmpty_iff.mpr hidle.connecting) (OrderedMap.isEmpty_iff.mpr hidle.connected)
    (OrderedMap.isEmpty_iff.mpr hidle.dnsResolves)

/-- `ShutdownInt` tells of all that it drops but the requests. -/
theorem shutdownInt_balance (env : Environment) (hrunning : h.isShutdown = false) (sound : Sound P ⟨h, .idle, []⟩) :
    (h.shutdownInt env).balance p + OrderedMap.countValues (fun c => p c.conn) h.dnsResolves = h.balance p := by
  obtain ⟨-, -, -, hshutdown, -⟩ := shutdownInt_endings env hrunning
  have hnothing : (h.shutdownInt env).held p = 0 :=
    held_of_isShutdown (Moves.sound (shutdownInt_leads (L := fun _ => True) env sound) sound) hshutdown
  obtain ⟨hfirst, hconnecting⟩ :=
    @shutdownConnected_booked p { h with connected := ∅, binds := ∅, isShutdown := true } env h.connected.toList
  have hsecond := @shutdownConnecting_booked p
    (h.connected.toList.foldl (shutdownConnected env) { h with connected := ∅, binds := ∅, isShutdown := true }) env
      h.connecting.toList fun entry hentry =>
        (sound.objects.connecting entry.1 entry.2 (Std.TreeMap.mem_toList_iff_getElem?_eq_some.mp hentry)).outgoing
  have htrace : booked p (h.shutdownInt env).trace = booked p h.trace +
      h.connected.toList.countP (fun entry => p entry.2.base.conn) +
        h.connecting.toList.countP (fun entry => p entry.2.base.conn) := by
    simp only [shutdownInt, hrunning, check_eq, hconnecting]
    rw [← hfirst]
    exact hsecond
  rw [CConnectionHandlerInt.balance, CConnectionHandlerInt.balance, hnothing, htrace, held]
  simp only [OrderedMap.countValues, Nat.cast_add, Nat.cast_zero]
  omega

end Shutdowns

section Runs

variable {P : CConnection → Prop} {L : Int32 → Prop} {p : CConnection → Bool} {h : CConnectionHandlerInt}

/-- `Start` enters nothing. -/
theorem start_balance (env : Environment) (outgoingLimit : Int32) :
    (h.start env outgoingLimit).balance p = h.balance p := by
  unfold CConnectionHandlerInt.start
  split
  · exact balance_of_same rfl rfl rfl rfl
  · generalize hstarted : ({ h with
      isShutdown := false
      outgoingConnLimit := outgoingLimit
      eventBase := true
      dnsBase := true
      requestEvent := true
      shutdownEvent := some false } : CConnectionHandlerInt) = started
    have hbalance : started.balance p = h.balance p := by
      rw [← hstarted]
      exact balance_of_same rfl rfl rfl rfl
    obtain ⟨ret, h', hcall, frame⟩ := callUser_frame started env none .onStartup
    have hbooked : booked p [.callback .onStartup ret none] = 0 :=
      booked_of_silent (by simp [TraceItem.ended?]) (by simp [TraceItem.admitted?])
    have hcalled : h'.balance p = _ := callUser_balance hcall
    rw [hcall, hcalled, hbooked, hbalance, add_zero]

/-- `RequestOutgoingInt` enters what it files. -/
theorem requestOutgoingInt_balance {input : HandlerInput} (hevent : input.event = .requestEvent)
    (supplies : input.Supplies P L) (sound : Sound P ⟨h, .idle, []⟩) (henabled : h.enabled input.event = true)
    (hfew : FewIds (h.requestOutgoingInt input.env).trace) :
    (h.requestOutgoingInt input.env).balance p = h.balance p + h.startedBy p input := by
  have hrequest : h.requestOutgoingInt input.env = if 0 < h.needed then
      (h.starting input.env).foldl (startConnection input.env) (h.callUser input.env none h.asking).2 else h := rfl
  rw [hrequest] at hfew ⊢
  rw [startedBy]
  by_cases hneeded : 0 < h.needed
  · have hsound := sound.opening input.env henabled
    rw [CConnectionHandlerInt.opening, if_pos ⟨hevent, hneeded⟩] at hsound
    rw [if_pos hneeded] at hfew ⊢
    rw [if_pos ⟨hevent, hneeded⟩]
    obtain ⟨ret, h', hcall, frame⟩ := callUser_frame h input.env none h.asking
    have hanswer : input.env.answer h.trace h.asking = ret := congrArg Prod.fst hcall
    have hbooked : booked p [.callback h.asking ret none] = 0 :=
      booked_of_silent (by simp [TraceItem.ended?, asking]) (by simp [TraceItem.admitted?, asking])
    have hcalled : h'.balance p = _ := callUser_balance hcall
    rw [hbooked, add_zero] at hcalled
    rw [hanswer] at hsound
    rw [hcall] at hfew ⊢
    have hasked : Sound P ⟨h', .idle, h.starting input.env⟩ :=
      (Move.user (P := P) (L := fun _ => True) frame).sound hsound
    rw [startConnections_balance input.env (supplies.starting h) hasked hfew, hcalled]
  · rw [if_neg hneeded, if_neg fun hstarts => hneeded hstarts.2]
    simp

/-- What an event enters and drops. -/
theorem react_balance {input : HandlerInput} (supplies : input.Supplies P L) (sound : Sound P ⟨h, .idle, []⟩)
    (henabled : h.enabled input.event = true) (hfew : FewIds (h.react input.env input.event).trace) :
    (h.react input.env input.event).balance p + h.droppedBy p input = h.balance p + h.startedBy p input := by
  have hquiet (hrequest : input.event ≠ .requestEvent) (hshutdown : input.event ≠ .shutdownEvent)
      (hsame : (h.react input.env input.event).balance p = h.balance p) :
      (h.react input.env input.event).balance p + h.droppedBy p input = h.balance p + h.startedBy p input := by
    rw [hsame, droppedBy, startedBy, if_neg hshutdown, if_neg fun hother => hrequest hother.1]
  obtain ⟨event, env⟩ := input
  cases event with
  | requestEvent =>
    have hrequested := requestOutgoingInt_balance (p := p) rfl supplies sound henabled hfew
    rw [droppedBy, if_neg (by simp), Nat.cast_zero, add_zero]
    exact hrequested
  | shutdownEvent =>
    have hrunning : h.Running := (running_of_enabled henabled).resolve_right fun hother => by simp at hother
    have hevent : h.shutdownEvent = some true := by simpa using (Bool.and_eq_true_iff.mp henabled).2
    have hframe : Frame h { h with shutdownEvent := some false } :=
      { Frame.refl h with shutdownEvent := by rw [hevent]; rfl }
    have sound' : Sound P ⟨{ h with shutdownEvent := some false }, .idle, []⟩ :=
      (Move.user (P := P) (L := fun _ => True) hframe).sound sound
    have hdropped := @shutdownInt_balance P p { h with shutdownEvent := some false } env hrunning.2 sound'
    rw [hframe.balance] at hdropped
    rw [droppedBy, startedBy, if_pos rfl, if_neg (by simp), Nat.cast_zero, add_zero]
    exact hdropped
  | start outgoingLimit => exact hquiet (by simp) (by simp) (start_balance env outgoingLimit)
  | call c => exact hquiet (by simp) (by simp) (apiCall_frame h c).balance
  | pumpReturn =>
    have hrecorded := @balance_record p { h with eventBase := false } [.callback .onShutdown false none]
    rw [booked_of_silent (by simp [TraceItem.ended?]) (by simp [TraceItem.admitted?]), add_zero] at hrecorded
    exact hquiet (by simp) (by simp) (hrecorded.trans (balance_of_same rfl rfl rfl rfl))
  | reconnectFunc place k => exact hquiet (by simp) (by simp) (reconnectFunc_balance env sound hfew)
  | connEvent place k event =>
    refine hquiet (by simp) (by simp) (runMethod_balance env sound (fun obj r hobj hr =>
      working_of_steps sound hobj (ConnectionObject.connEvent_works hr)
      (fun hidle => ConnectionObject.connEvent_of_idle hidle hr)
      fun hhandles => ConnectionObject.connEvent_steps hhandles hr) hfew)
  | dnsCallback place k result =>
    refine hquiet (by simp) (by simp) (runMethod_balance env sound (fun obj r hobj hr => working_of_steps sound hobj
      (ConnectionObject.dnsCallback_works hr) (fun hidle => ConnectionObject.dnsCallback_of_idle hidle hr)
      fun hhandles => ConnectionObject.dnsCallback_steps hhandles hr) hfew)
  | handshake place k s =>
    refine hquiet (by simp) (by simp) (runMethod_balance env sound (fun obj r hobj hr => working_of_steps sound hobj
      (ConnectionObject.handshake_works hr) (fun hidle => ConnectionObject.handshake_of_idle hidle hr)
      fun hhandles => ConnectionObject.handshake_steps hhandles hr) hfew)
  | connection place k e => exact hquiet (by simp) (by simp) (connectionEvent_balance env sound hfew)
  | resolveOnly k result =>
    refine hquiet (by simp) (by simp) (runResolve_balance env sound fun c r hr => ?_)
    obtain rfl := Option.some.inj hr
    exact CResolveOnly.dnsCallback_works result
  | retryEvent k => exact hquiet (by simp) (by simp) (retryEvent_balance env sound)
  | acceptConn k addr => exact hquiet (by simp) (by simp) (acceptConn_balance env sound hfew)

/-- A step enters what it starts, and strikes out what it tells of or drops. -/
theorem step_balance {input : HandlerInput} (supplies : input.Supplies P L) (sound : Sound P ⟨h, .idle, []⟩)
    (hfew : FewIds (h.step input).trace) :
    (h.step input).balance p + amountOf (droppedBy p) h input = h.balance p + amountOf (startedBy p) h input := by
  unfold CConnectionHandlerInt.step at hfew ⊢
  unfold amountOf
  split at hfew
  · next hstep =>
    rw [if_pos hstep, if_pos hstep, if_pos hstep]
    exact react_balance supplies sound (Bool.and_eq_true_iff.mp hstep).2 hfew
  · next hstep => rw [if_neg hstep, if_neg hstep, if_neg hstep]

/-- The total of a run with one more event. -/
theorem total_concat (amount : CConnectionHandlerInt → HandlerInput → ℕ) (inputs : List HandlerInput)
    (input : HandlerInput) :
    h.total amount (inputs ++ [input]) = h.total amount inputs + amountOf amount (inputs.foldl step h) input := by
  induction inputs generalizing h with
  | nil => simp [total]
  | cons first inputs ih => rw [List.cons_append, total, total, ih, List.foldl_cons, add_assoc]

/-- In every run the requests and the admitted connections with a property are as many as those that are held, that
the user has been told the end of and that were dropped without a word, and a handler that is shut down holds none. -/
theorem run_ledger (p : CConnection → Bool) (inputs : List HandlerInput) (hfew : FewIds (run inputs).trace) :
    (run inputs).held p + ended p (run inputs).trace + new.total (droppedBy p) inputs =
        new.total (startedBy p) inputs + admitted p (run inputs).trace ∧
      ((run inputs).isShutdown = true → (run inputs).held p = 0) := by
  have hsupplies (input : HandlerInput) : input.Supplies (fun _ => True) (fun _ => True) :=
    ⟨fun _ _ _ _ => trivial, fun _ _ => trivial⟩
  have hsound (inputs : List HandlerInput) : Sound (fun _ => True) ⟨run inputs, .idle, []⟩ :=
    run_sound inputs fun input _ => hsupplies input
  refine ⟨?_, held_of_isShutdown (hsound inputs)⟩
  have hbalance : (run inputs).balance p + new.total (droppedBy p) inputs = new.total (startedBy p) inputs := by
    induction inputs using List.reverseRecOn with
    | nil =>
      have hheld : new.held p = 0 := held_of_isEmpty rfl rfl rfl
      change (new.held p : ℤ) + 0 + 0 = 0
      rw [hheld]
      rfl
    | append_singleton inputs input ih =>
      rw [run_concat] at hfew ⊢
      have hstep := @step_balance _ _ p _ input (hsupplies input) (hsound inputs) hfew
      have hearlier := ih (fewIds_of_step (hsupplies input) (hsound inputs) hfew)
      rw [total_concat, total_concat]
      change (step (run inputs) input).balance p + ((new.total (droppedBy p) inputs +
        amountOf (droppedBy p) (run inputs) input : ℕ) : ℤ) = ((new.total (startedBy p) inputs +
          amountOf (startedBy p) (run inputs) input : ℕ) : ℤ)
      push_cast
      omega
  rw [CConnectionHandlerInt.balance, booked] at hbalance
  omega

/-- A request is established, another only resolved, and a connection is admitted before the handler is shut down. -/
def droppedAtShutdown : List HandlerInput :=
  [⟨.start 8, .accepting [] .later⟩,
    ⟨.requestEvent, .accepting [localPeer true, seedLookup] .later⟩,
    ⟨.connEvent .connecting 0 ⟨false, false, false, true⟩, .accepting [] .later⟩,
    ⟨.call (.bind (localPeer false) true), .accepting [] .later⟩,
      ⟨.acceptConn 2 [127, 0, 0, 1], .accepting [] .later⟩,
    ⟨.call .shutdown, .accepting [] .later⟩, ⟨.shutdownEvent, .accepting [] .later⟩]

/-- The user is told the end of two, and nothing of the third. -/
theorem run_ledger_shutdown : FewIds (run droppedAtShutdown).trace ∧
    ended (fun _ => true) (run droppedAtShutdown).trace = 2 ∧
      admitted (fun _ => true) (run droppedAtShutdown).trace = 1 ∧
        new.total (startedBy fun _ => true) droppedAtShutdown = 2 ∧
          (run droppedAtShutdown).held (fun _ => true) + 2 + new.total (droppedBy fun _ => true) droppedAtShutdown =
            2 + 1 ∧ (run droppedAtShutdown).held (fun _ => true) = 0 := by
  have hfew : FewIds (run droppedAtShutdown).trace := by decide +kernel
  have hended : ended (fun _ => true) (run droppedAtShutdown).trace = 2 := by decide +kernel
  have hadmitted : admitted (fun _ => true) (run droppedAtShutdown).trace = 1 := by decide +kernel
  have hstarted : new.total (startedBy fun _ => true) droppedAtShutdown = 2 := by decide +kernel
  obtain ⟨hledger, hheld⟩ := run_ledger (fun _ => true) droppedAtShutdown hfew
  rw [hended, hadmitted, hstarted] at hledger
  exact ⟨hfew, hended, hadmitted, hstarted, hledger, hheld (by decide +kernel)⟩

end Runs

end LibBtcNet
