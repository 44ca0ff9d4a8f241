import LibBtcNet.HandlerRuns

/-!
# What a run leaves in its trace

Every item that a move adds to the trace fits the connection that it is about: what is asked
of the network is permitted, and a callback with the outcome of a request names the request.
The one exception is the address named by a failed connect after a resolution. The user is
asked for connections at the beginning of a step only.
-/

namespace LibBtcNet

open CConnectionHandlerInt

/-- How a callback names the connection that it is about. -/
def Callback.Fits (P : CConnection → Prop) (about : Option CConnection) : Callback → Prop
  | .onNeedOutgoingConnections _ => False
  | .onConnectionFailure conn resolved _ => ∃ request, about = some request ∧ P request ∧ resolved = conn ∧
      (conn = request ∨ (request.resolvesToConnect = true ∧
        ∃ addr, conn = CDNSConnection.resolvedConnection request addr))
  | .onProxyFailure conn _ => about = some conn ∧ P conn
  | .onDnsFailure conn _ => about = some conn ∧ P conn
  | .onDnsResponse conn _ => about = some conn ∧ P conn
  | .onOutgoingConnection _ conn _ => about = some conn ∧ P conn
  | _ => True

/-- How an item fits the connection that it is about. -/
def TraceItem.Fits (P : CConnection → Prop) : TraceItem → Prop
  | .callback c _ about => c.Fits P about
  | .issued _ => True
  | .net conn action => P conn ∧ action.Permitted conn

variable {P : CConnection → Prop} {L : Int32 → Prop}

/-- Items that calls of the user leave behind. -/
theorem TraceItem.Quiet.fits {item : TraceItem} (quiet : item.Quiet) : item.Fits P := by
  unfold Quiet at quiet
  split at quiet
  · trivial
  · trivial
  · contradiction

/-- Calls of the user leave items that fit. -/
theorem Frame.fits {h h' : CConnectionHandlerInt} (frame : Frame h h') :
    ∃ items, h'.trace = h.trace ++ items ∧ ∀ item ∈ items, item.Fits P := by
  obtain ⟨items, htrace, hquiet, -⟩ := frame.items
  exact ⟨items, htrace, fun item hitem => (hquiet item hitem).fits⟩

/-- What a connection asks of the network is permitted. -/
theorem Working.fits {h : CConnectionHandlerInt} {conns : List CConnection} {place : Place} {k : ConnID}
    {obj : ConnectionObject}
    {r : ConnResult ConnectionObject} (working : Working h place k obj r) (objects : Objects P ⟨h, .idle, conns⟩) :
    ∀ item ∈ r.net.map (TraceItem.net obj.base.conn), item.Fits P := by
  intro item hitem
  obtain ⟨action, haction, rfl⟩ := List.mem_map.mp hitem
  have hready := objects.ready_of_found working.found
  have houtgoing := working.works.fits.asks (List.ne_nil_of_mem haction)
  exact ⟨hready.supplied houtgoing, working.works.fits.permitted hready.suits action haction⟩

/-- A failure names the connection that it is about. -/
theorem Working.failure_fits {h : CConnectionHandlerInt} {conns : List CConnection} {place : Place}
    {k : ConnID} {obj : ConnectionObject}
    {r : ConnResult ConnectionObject} (working : Working h place k obj r) (objects : Objects P ⟨h, .idle, conns⟩)
    {type : ConnectionFailureType} {failed : CConnection} {retry : Bool}
    (hreport : r.report = .connectionFailure type failed retry) (told : Bool) :
    (failureCallback type failed told).Fits P (some obj.base.conn) := by
  have hready := objects.ready_of_found working.found
  have hsupplied := hready.supplied (working.directed (by simp [hreport]))
  have hnames := working.works.names hready.suits
  rw [hreport] at hnames
  cases type with
  | connect =>
    refine ⟨obj.base.conn, rfl, hsupplied, rfl, ?_⟩
    exact hnames.imp_right fun hfound => hfound.2
  | resolve =>
    obtain rfl : failed = obj.base.conn := hnames.resolve_right fun hfound => by simp at hfound
    exact ⟨rfl, hsupplied⟩
  | proxy =>
    obtain rfl : failed = obj.base.conn := hnames.resolve_right fun hfound => by simp at hfound
    exact ⟨rfl, hsupplied⟩

/-- Every item of a move fits. -/
theorem Move.items {s s' : Stage} (move : Move P L s s') (objects : Objects P s) :
    ∃ items, s'.handler.trace = s.handler.trace ++ items ∧ ∀ item ∈ items, item.Fits P := by
  have hnone {h h' : CConnectionHandlerInt} (htrace : h'.trace = h.trace) :
      ∃ items, h'.trace = h.trace ++ items ∧ ∀ item ∈ items, item.Fits P :=
    ⟨[], by simp [htrace], by simp⟩
  have hone {h h' : CConnectionHandlerInt} {item : TraceItem} (htrace : h'.trace = h.trace ++ [item])
      (hitem : item.Fits P) : ∃ items, h'.trace = h.trace ++ items ∧ ∀ item ∈ items, item.Fits P :=
    ⟨[item], htrace, by simpa using hitem⟩
  cases move with
  | user frame => exact frame.fits
  | @stray h conns place k obj r assertion working hreport hnone =>
    exact ⟨_, by simp [CConnectionHandlerInt.fail, worked, record], working.fits objects⟩
  | waited working hreport => exact ⟨_, by simp [worked, record], working.fits objects⟩
  | @failed h conns place k obj ptr r type failed retry ret working hreport hptr =>
    refine ⟨r.net.map (.net obj.base.conn) ++ [.callback (failureCallback type failed (retry && !h.isShutdown)) ret
      (some obj.base.conn)], by simp [called, takeConnecting, worked, record], fun item hitem => ?_⟩
    rcases List.mem_append.mp hitem with hnet | hcallback
    · exact working.fits objects item hnet
    · obtain rfl := List.mem_singleton.mp hcallback
      exact working.failure_fits objects hreport _
  | @outgoing h conns place k obj ptr r bev resolved ret working hreport hptr =>
    refine ⟨r.net.map (.net obj.base.conn) ++ [.callback (.onOutgoingConnection k obj.base.conn resolved) ret
      (some obj.base.conn)], by simp [called, takeConnecting, worked, record], fun item hitem => ?_⟩
    rcases List.mem_append.mp hitem with hnet | hcallback
    · exact working.fits objects item hnet
    · obtain rfl := List.mem_singleton.mp hcallback
      exact ⟨rfl, (objects.ready_of_found working.found).supplied (working.directed (by simp [hreport]))⟩
  | @accepted h h' conns k id conn addr bytesRead bytesWritten ret connecting hrunning hbind hissue hfree hsame =>
    obtain ⟨index, failures, rfl, -, -⟩ := issued_shape hissue
    refine ⟨[.issued id,
      .callback (.onIncomingConnection id conn (.ofSockAddr conn.opts conn.netConfig .unset addr)) ret
      (some conn)], by simp [called, record], fun item hitem => ?_⟩
    rcases List.mem_cons.mp hitem with rfl | hcallback
    · trivial
    · obtain rfl := List.mem_singleton.mp hcallback
      trivial
  | establishedOutgoing houtgoing => exact hone rfl trivial
  | @ended h hand conns k obj reconnect ret hhand hobj hstopped hreconnect =>
    exact ⟨[.callback (.onDisconnected k reconnect) ret (some obj.base.conn)], by simp [called, record],
      by simp [TraceItem.Fits, Callback.Fits]⟩
  | retried hissue =>
    obtain ⟨index, failures, rfl, -, -⟩ := issued_shape hissue
    exact hone rfl trivial
  | started hsupplied hconnects hissue =>
    obtain ⟨index, failures, rfl, -, -⟩ := issued_shape hissue
    exact hone rfl trivial
  | @notified h conns k obj effect c ret hobj heffect hc =>
    refine hone rfl ?_
    cases effect <;> simp only [effectCallback, Option.some.injEq, reduceCtorEq] at hc <;> subst hc <;> trivial
  | malformed hobj => exact hone rfl trivial
  | resolveStarted hsupplied hproxy hissue =>
    obtain ⟨index, failures, rfl, -, -⟩ := issued_shape hissue
    exact hone rfl trivial
  | @resolveWorked h conns k c c' net hc hid hconn hpermitted =>
    refine ⟨net.map (.net c.conn), rfl, fun item hitem => ?_⟩
    obtain ⟨action, haction, rfl⟩ := List.mem_map.mp hitem
    have hfiled := objects.dnsResolves k c hc
    exact ⟨hfiled.supplied, hpermitted hfiled.proxy action haction⟩
  | @resolveTold h conns k c cb ret hc hcb =>
    refine hone rfl ?_
    have hfiled := objects.dnsResolves k c hc
    rcases hcb with ⟨resolved, rfl⟩ | ⟨retry, rfl⟩
    · exact ⟨rfl, hfiled.supplied⟩
    · exact ⟨rfl, hfiled.supplied⟩
  | begun hlimit hbase hcount => exact hone rfl trivial
  | @shutdownDisconnected h conns entry entries ret =>
    exact ⟨[.callback (.onDisconnected entry.1 false) ret (some entry.2.base.conn)], by simp [called, record],
      by simp [TraceItem.Fits, Callback.Fits]⟩
  | @shutdownTold h conns entry entries ret houtgoing =>
    refine hone rfl ?_
    exact ⟨entry.2.base.conn, rfl, (objects.hand.2.2 entry List.mem_cons_self).supplied, rfl, Or.inl rfl⟩
  | shutdownDone => exact hnone (by simp [check_eq])
  | pumped hshutdown => exact hone rfl trivial
  | _ => exact hnone (by simp [CConnectionHandlerInt.fail, takeConnecting])

/-- Every item of many moves fits. -/
theorem Moves.items {s s' : Stage} (moves : Moves P L s s') (sound : Sound P s) :
    ∃ items, s'.handler.trace = s.handler.trace ++ items ∧ ∀ item ∈ items, item.Fits P := by
  induction moves with
  | refl => exact ⟨[], by simp, by simp⟩
  | tail moves move ih =>
    obtain ⟨items, htrace, hitems⟩ := ih
    obtain ⟨later, hlater, hfits⟩ := move.items (Moves.sound moves sound).objects
    refine ⟨items ++ later, by rw [hlater, htrace, List.append_assoc], fun item hitem => ?_⟩
    rcases List.mem_append.mp hitem with hold | hnew
    · exact hitems item hold
    · exact hfits item hnew

/-- Every item of a step fits, but the question that a request begins with. -/
theorem step_items {h : CConnectionHandlerInt} {input : HandlerInput} (supplies : input.Supplies P L)
    (sound : Sound P ⟨h, .idle, []⟩) : ∃ items, (h.step input).trace = h.trace ++ items ∧ ∀ item ∈ items,
      item.Fits P ∨ (0 < h.needed ∧ ∃ answer, item = .callback h.asking answer none) := by
  unfold step
  split
  · next hstep =>
    have henabled := (Bool.and_eq_true_iff.mp hstep).2
    obtain ⟨items, htrace, hfits⟩ := Moves.items (react_moves supplies sound henabled)
      (sound.opening input.env henabled)
    unfold opening at htrace
    split at htrace
    · next hneeded =>
      refine ⟨.callback h.asking (input.env.answer h.trace h.asking) none :: items, ?_, fun item hitem => ?_⟩
      · simpa [called, record] using htrace
      · rcases List.mem_cons.mp hitem with rfl | hlater
        · exact Or.inr ⟨hneeded.2, _, rfl⟩
        · exact Or.inl (hfits item hlater)
    · exact ⟨items, htrace, fun item hitem => Or.inl (hfits item hitem)⟩
  · exact ⟨[], by simp, by simp⟩

/-- So does every item of a run, but the questions. -/
theorem run_items (inputs : List HandlerInput) (hsupplies : ∀ input ∈ inputs, input.Supplies P L) :
    ∀ item ∈ (run inputs).trace, item.Fits P ∨
      ∃ needcount answer, item = .callback (.onNeedOutgoingConnections needcount) answer none := by
  induction inputs using List.reverseRecOn with
  | nil => exact fun item hitem => absurd hitem List.not_mem_nil
  | append_singleton inputs input ih =>
    have hbefore : ∀ other ∈ inputs, HandlerInput.Supplies P L other := fun other hother =>
      hsupplies other (by simp [hother])
    obtain ⟨items, htrace, hitems⟩ := step_items (hsupplies input (by simp)) (run_sound inputs hbefore)
    intro item hitem
    rw [run_concat, htrace] at hitem
    rcases List.mem_append.mp hitem with hold | hnew
    · exact ih hbefore item hold
    · rcases hitems item hnew with hfits | ⟨-, answer, rfl⟩
      · exact Or.inl hfits
      · exact Or.inr ⟨_, answer, rfl⟩

section Told

variable {h : CConnectionHandlerInt}

/-- A callback is in the trace when the user has returned. -/
theorem callUser_told {env : Environment} {about : Option CConnection} {c : Callback} {ret : Bool}
    {h' : CConnectionHandlerInt} (hcall : h.callUser env about c = (ret, h')) :
    h.trace ++ [.callback c ret about] <+: h'.trace := by
  obtain ⟨answer, handler, heq, frame⟩ := callUser_frame h env about c
  obtain ⟨rfl, rfl⟩ := Prod.mk.inj (hcall.symm.trans heq)
  obtain ⟨items, htrace⟩ := frame.grows.trace
  exact ⟨items, htrace.symm⟩

/-- Another attempt adds to the trace. -/
theorem retryConnecting_trace (ptr : ConnectionObject) : h.trace <+: (h.retryConnecting ptr).trace := by
  obtain ⟨id, h', hissue⟩ : ∃ id h', h.getNextConnectionIndex = (id, h') := ⟨_, _, rfl⟩
  obtain ⟨index, failures, rfl, -, -⟩ := issued_shape hissue
  simp [retryConnecting, hissue]

/-- The user is told of a failed attempt. -/
theorem onConnectionFailure_told (env : Environment) {id : ConnID} {ptr : ConnectionObject}
    (hptr : h.connecting[id]? = some ptr) (about : CConnection) (type : ConnectionFailureType) (failed : CConnection)
    (retry : Bool) :
      ∃ ret, h.trace ++ [.callback (failureCallback type failed (retry && !h.isShutdown)) ret (some about)] <+:
      (h.onConnectionFailure env id about type failed retry).trace := by
  obtain ⟨ret, h', hcall, -⟩ := callUser_frame { h with connecting := h.connecting.erase id } env about
    (failureCallback type failed (retry && !h.isShutdown))
  have htold := callUser_told hcall
  refine ⟨ret, ?_⟩
  simp only [onConnectionFailure, hptr, hcall]
  split
  · exact htold.trans (retryConnecting_trace ptr)
  · exact htold

/-- The user is told of a connection. -/
theorem onOutgoingConnected_told (env : Environment) {id : ConnID} {ptr : ConnectionObject}
    (hptr : h.connecting[id]? = some ptr) (conn resolved : CConnection) :
    ∃ ret, h.trace ++ [.callback (.onOutgoingConnection id conn resolved) ret (some conn)] <+:
      (h.onOutgoingConnected env id conn resolved).trace := by
  obtain ⟨ret, h', hcall, -⟩ := callUser_frame { h with connecting := h.connecting.erase id } env conn
    (.onOutgoingConnection id conn resolved)
  have htold := callUser_told hcall
  refine ⟨ret, ?_⟩
  simp only [onOutgoingConnected, hptr, hcall]
  split
  · obtain ⟨ready, h'', hready, -⟩ := callUser_frame { h' with
      connected := h'.connected.insertIfNew id ptr.enable
      outgoingConnCount := h'.outgoingConnCount + 1 } env ptr.base.conn (.onReadyForFirstSend id)
    have hreadyTold := callUser_told hready
    rw [hready]
    exact htold.trans ((List.prefix_append _ _).trans hreadyTold)
  · exact htold

/-- The user is told of a failed resolution. -/
theorem onResolveFailure_told (env : Environment) (id : ConnID) (conn : CConnection) (retry : Bool) :
    ∃ ret, h.trace ++ [.callback (.onDnsFailure conn (retry && !h.isShutdown)) ret (some conn)] <+:
      (h.onResolveFailure env id conn retry).trace := by
  obtain ⟨ret, h', hcall, -⟩ := callUser_frame h env conn (.onDnsFailure conn (retry && !h.isShutdown))
  have htold := callUser_told hcall
  refine ⟨ret, ?_⟩
  simp only [onResolveFailure, hcall]
  split
  · exact htold
  · split <;> exact htold

/-- The user is told of a resolution. -/
theorem onResolveComplete_told (env : Environment) (id : ConnID) (conn : CConnection) (resolved : List CConnection) :
    ∃ ret, h.trace ++ [.callback (.onDnsResponse conn resolved) ret (some conn)] <+:
      (h.onResolveComplete env id conn resolved).trace := by
  obtain ⟨ret, h', hcall, -⟩ := callUser_frame h env conn (.onDnsResponse conn resolved)
  have htold := callUser_told hcall
  refine ⟨ret, ?_⟩
  simp only [onResolveComplete, hcall]
  exact htold

end Told

end LibBtcNet
