import LibBtcNet.ConnectionEffects
import LibBtcNet.HandlerBooks
import Mathlib.Data.List.Induction

/-!
# Runs of the handler

Every step of the handler is a chain of moves, whatever the user and the network do. So what
every move keeps holds in every state that a run reaches: the objects are in order, and so
are the books for as long as few ids are issued.
-/

namespace LibBtcNet

open CConnectionHandlerInt

/-- The objects are in order, and the books while few ids are issued. -/
structure Sound (P : CConnection → Prop) (s : Stage) : Prop where
  objects : Objects P s
  books : FewIds s.handler.trace → Books s

variable {P : CConnection → Prop} {L : Int32 → Prop}

/-- A move keeps both. -/
theorem Move.sound {s s' : Stage} (move : Move P L s s') (sound : Sound P s) : Sound P s' :=
  ⟨move.objects sound.objects, fun hfew => move.books sound.objects (sound.books (move.fewIds hfew)) hfew⟩

/-- So do any number of moves. -/
theorem Moves.sound {s s' : Stage} (moves : Moves P L s s') (sound : Sound P s) : Sound P s' := by
  induction moves with
  | refl => exact sound
  | tail _ move ih => exact move.sound ih

/-- Few ids after any number of moves are few before. -/
theorem Moves.fewIds {s s' : Stage} (moves : Moves P L s s') (hfew : FewIds s'.handler.trace) :
    FewIds s.handler.trace := by
  induction moves with
  | refl => exact hfew
  | tail _ move ih => exact ih (move.fewIds hfew)

/-- From a stage that is sound, moves lead to another. -/
def Leads (P : CConnection → Prop) (L : Int32 → Prop) (s s' : Stage) : Prop := Sound P s → Moves P L s s'

namespace Leads

variable {s s' s'' : Stage}

/-- Staying where one is. -/
theorem refl (s : Stage) : Leads P L s s := fun _ => Relation.ReflTransGen.refl

/-- One move. -/
theorem of_move (move : Move P L s s') : Leads P L s s' := fun _ => Relation.ReflTransGen.single move

/-- Moves after moves. -/
theorem trans (first : Leads P L s s') (second : Leads P L s' s'') : Leads P L s s'' := fun sound =>
  (first sound).trans (second (Moves.sound (first sound) sound))

/-- What is known of the stage may be used. -/
theorem of_sound (h : Sound P s → Leads P L s s') : Leads P L s s' := fun sound => h sound sound

/-- A move first. -/
theorem head (move : Move P L s s') (later : Leads P L s' s'') : Leads P L s s'' := (of_move move).trans later

/-- A move last. -/
theorem tail (earlier : Leads P L s s') (move : Move P L s' s'') : Leads P L s s'' := earlier.trans (of_move move)

end Leads

/-- A connection is tried again. -/
theorem retryConnecting_move (h : CConnectionHandlerInt) (obj : ConnectionObject) (conns : List CConnection) :
    Move P L ⟨h, .retrying obj, conns⟩ ⟨h.retryConnecting obj, .idle, conns⟩ := by
  obtain ⟨id, h', hissue⟩ : ∃ id h', h.getNextConnectionIndex = (id, h') := ⟨_, _, rfl⟩
  rw [retryConnecting, hissue]
  exact .retried hissue

/-- An id that nothing is filed under. -/
theorem issued_move {h h' : CConnectionHandlerInt} {id : ConnID} (hissue : h.getNextConnectionIndex = (id, h'))
    (hand : Hand) (conns : List CConnection) : Move P L ⟨h, hand, conns⟩ ⟨h', hand, conns⟩ := by
  obtain ⟨index, failures, rfl, hcalls, hnumbered⟩ := issued_shape hissue
  refine .user { Frame.refl h with
    items := ⟨[.issued id], rfl, ?_, fun k hk => Or.inl hk⟩
    failed := ⟨failures, rfl, hcalls⟩
    numbered := hnumbered }
  simp [TraceItem.Quiet]

/-- An assertion about something else than the books. -/
theorem check_leads (h : CConnectionHandlerInt) (condition : Bool) {assertion : Assertion}
    (hother : ¬assertion.OfBooks) (hand : Hand) (conns : List CConnection) :
    Leads P L ⟨h, hand, conns⟩ ⟨h.check condition assertion, hand, conns⟩ := by
  cases condition with
  | true => exact .refl _
  | false => exact .of_move (.fail hother)

section Methods

variable {h : CConnectionHandlerInt} {conns : List CConnection} {place : Place} {k : ConnID} {obj : ConnectionObject}
  {r : ConnResult ConnectionObject}

/-- The report that ends a method. -/
theorem onReport_leads (env : Environment) (working : Working h place k obj r) :
    Leads P L ⟨h, .idle, conns⟩ ⟨(h.worked place k obj r).onReport env r, .idle, conns⟩ := by
  refine .of_sound fun sound => ?_
  obtain ⟨hconn, hid, -⟩ := working.works.keeps
  have hid : r.obj.base.id = k := hid.trans (sound.objects.ready_of_found working.found).id
  have hshutdown : (h.worked place k obj r).isShutdown = h.isShutdown := put_isShutdown h place k r.obj
  cases hreport : r.report with
  | waiting =>
    simp only [onReport, hreport]
    exact .of_move (.waited working hreport)
  | connectionFailure type failed retry =>
    simp only [onReport, hreport, hid, hconn]
    cases hptr : (h.worked place k obj r).connecting[k]? with
    | none =>
      simp only [onConnectionFailure, hptr]
      exact .of_move (.stray working (by simp [hreport]) hptr)
    | some ptr =>
      obtain ⟨ret, h', hcall, frame⟩ := callUser_frame ((h.worked place k obj r).takeConnecting k) env obj.base.conn
        (failureCallback type failed (retry && !h.isShutdown))
      have hcall' := hcall
      rw [← hshutdown] at hcall'
      rw [onConnectionFailure_of_call hptr hcall', hshutdown]
      have hfailed : Leads P L ⟨h, .idle, conns⟩
        ⟨h', if retry && !h.isShutdown && ret then .retrying ptr else .idle, conns⟩ :=
        .head (.failed working hreport hptr) (.of_move (.user frame))
      cases hretry : retry && !h.isShutdown && ret with
      | true =>
        rw [hretry] at hfailed
        exact hfailed.tail (retryConnecting_move h' ptr conns)
      | false =>
        rw [hretry] at hfailed
        exact hfailed
  | outgoingConnected bev resolved =>
    simp only [onReport, hreport, hid, hconn]
    cases hptr : (h.worked place k obj r).connecting[k]? with
    | none =>
      simp only [onOutgoingConnected, hptr]
      exact .of_move (.stray working (by simp [hreport]) hptr)
    | some ptr =>
      obtain ⟨ret, h', hcall, frame⟩ := callUser_frame ((h.worked place k obj r).takeConnecting k) env obj.base.conn
        (.onOutgoingConnection k obj.base.conn resolved)
      rw [onOutgoingConnected_of_call hptr hcall]
      have houtgoing : Leads P L ⟨h, .idle, conns⟩ ⟨h', if ret then .accepted k ptr else .idle, conns⟩ :=
        .head (.outgoing working hreport hptr) (.of_move (.user frame))
      cases ret with
      | true =>
        have hptr' : ptr.isOutgoing = true := by
          cases place with
          | connecting =>
            change (h.connecting.insert k r.obj)[k]? = some ptr at hptr
            obtain rfl : r.obj = ptr := by simpa using hptr
            exact working.works.outgoing.trans (working.directed (by simp [hreport]))
          | connected => exact (sound.objects.connecting k ptr hptr).outgoing
        obtain ⟨ret', h'', hready, frame'⟩ := callUser_frame { h' with
            connected := h'.connected.insertIfNew k ptr.enable
            outgoingConnCount := h'.outgoingConnCount + 1 } env ptr.base.conn (.onReadyForFirstSend k)
        change Leads P L _ ⟨(callUser env ptr.base.conn (.onReadyForFirstSend k) _).2, _, _⟩
        rw [hready]
        exact (houtgoing.tail (.establishedOutgoing hptr')).tail (.user frame')
      | false => exact houtgoing
  | incomingConnected bev resolved =>
    have hfits := working.works.fits.report
    rw [hreport] at hfits
    exact absurd (hfits.symm.trans (working.directed (by simp [hreport]))) Bool.false_ne_true

/-- A method that does not fail is followed by its report. -/
theorem runMethod_eq (env : Environment) {method : ConnectionObject → Option (ConnResult ConnectionObject)}
    (hobj : (h.objects place)[k]? = some obj) (hr : method obj = some r) :
    h.runMethod env place k method = (h.worked place k obj r).onReport env r := by
  simp only [runMethod, hobj, hr]
  rfl

/-- A step that runs a method. -/
theorem step_runMethod (h : CConnectionHandlerInt) (input : HandlerInput)
    {method : ConnectionObject → Option (ConnResult ConnectionObject)}
    (henabled : (h.failed.isEmpty && h.enabled input.event) = true)
    (hreact : h.react input.env input.event = h.runMethod input.env place k method)
    (hobj : (h.objects place)[k]? = some obj) (hr : method obj = some r) :
    h.step input = (h.worked place k obj r).onReport input.env r := by
  rw [step, if_pos henabled, hreact, runMethod_eq input.env hobj hr]

/-- A method of an object in a map. -/
theorem runMethod_leads (env : Environment) {method : ConnectionObject → Option (ConnResult ConnectionObject)}
    (hmethod : Sound P ⟨h, .idle, conns⟩ → ∀ obj r, (h.objects place)[k]? = some obj → method obj = some r →
      Working h place k obj r) :
    Leads P L ⟨h, .idle, conns⟩ ⟨h.runMethod env place k method, .idle, conns⟩ := by
  refine .of_sound fun sound => ?_
  unfold runMethod
  split
  · exact .refl _
  · next obj hobj =>
    split
    · exact .of_move (.fail (by simp [Assertion.OfBooks]))
    · next r hr => exact onReport_leads env (hmethod sound obj r hobj hr)

/-- A method that makes nothing of an object without a handle. -/
theorem working_of_steps (sound : Sound P ⟨h, .idle, conns⟩) (hobj : (h.objects place)[k]? = some obj)
    (hworks : obj.Works r) (hidle : obj.kind.handles = 0 → r = ConnResult.unchanged obj)
    (hsteps : obj.kind.handles ≤ 1 → obj.Steps r) : Working h place k obj r := by
  refine ⟨hobj, hworks, fun hreport => ?_, fun hfew hreport => ?_, fun hfew hreport => ?_⟩
  · obtain ⟨base, kind⟩ := obj
    cases kind with
    | incoming c => exact absurd (congrArg MethodResult.report (hidle rfl)) hreport
    | _ => rfl
  · by_cases hzero : obj.kind.handles = 0
    · exact Or.inl (congrArg MethodResult.obj (hidle hzero))
    · cases place with
      | connecting =>
        have htrying := (sound.books hfew).trying k obj hobj
        have hsettled := (hsteps htrying.handles).settled
        rw [ConnResult.Settled, hreport] at hsettled
        refine Or.inr ⟨rfl, hsettled, fun hwaits => ?_⟩
        rw [hworks.keeps.2.2] at hwaits
        exact absurd (htrying.waits hwaits) hzero
      | connected => exact absurd ((sound.books hfew).settled k obj hobj).handles hzero
  · have hzero : obj.kind.handles ≠ 0 := fun hzero => hreport (congrArg MethodResult.report (hidle hzero))
    cases place with
    | connecting =>
      have htrying := (sound.books hfew).trying k obj hobj
      have hsettled := (hsteps htrying.handles).settled
      have hhandles : r.obj.kind.handles = 0 := by
        unfold ConnResult.Settled at hsettled
        split at hsettled
        · contradiction
        · exact hsettled.1
        · exact hsettled.1
      refine ⟨rfl, hhandles, ?_⟩
      rw [hworks.keeps.2.2]
      cases hwaits : obj.base.reconnectFunc with
      | false => rfl
      | true => exact absurd (htrying.waits hwaits) hzero
    | connected => exact absurd ((sound.books hfew).settled k obj hobj).handles hzero

/-- `Connect` of an object without a handle. -/
theorem working_of_connect {names : NameInfo} {lookup : Lookup} (hobj : (h.objects place)[k]? = some obj)
    (hr : obj.connect names lookup = some r) (houtgoing : obj.isOutgoing = true)
    (hsettled : FewIds h.trace → place = .connecting ∧ obj.Settled) : Working h place k obj r := by
  have hworks := ConnectionObject.connect_works hr
  refine ⟨hobj, hworks, fun _ => houtgoing, fun hfew hreport => ?_, fun hfew hreport => ?_⟩
  · obtain ⟨hplace, hhandles, hwaits⟩ := hsettled hfew
    have hsteps := (ConnectionObject.connect_steps hhandles hr).settled
    rw [ConnResult.Settled, hreport] at hsteps
    refine Or.inr ⟨hplace, hsteps, fun h => ?_⟩
    rw [hworks.keeps.2.2, hwaits] at h
    contradiction
  · obtain ⟨hplace, hhandles, hwaits⟩ := hsettled hfew
    have hsteps := (ConnectionObject.connect_steps hhandles hr).settled
    refine ⟨hplace, ?_, hworks.keeps.2.2.trans hwaits⟩
    unfold ConnResult.Settled at hsteps
    split at hsteps
    · contradiction
    · exact hsteps.1
    · exact hsteps.1

/-- What is filed under an id is outgoing, and not established and without a handle while few ids are issued. -/
def CConnectionHandlerInt.Connectable (h : CConnectionHandlerInt) (place : Place) (k : ConnID) : Prop :=
  ∀ obj, (h.objects place)[k]? = some obj →
    obj.isOutgoing = true ∧ (FewIds h.trace → place = .connecting ∧ obj.Settled)

/-- `Connect` of whatever is filed under an id. -/
theorem connect_leads (env : Environment) (hready : h.Connectable place k) :
    Leads P L ⟨h, .idle, conns⟩ ⟨h.connect env place k, .idle, conns⟩ := by
  refine runMethod_leads env fun sound obj r hobj hr => ?_
  obtain ⟨houtgoing, hsettled⟩ := hready obj hobj
  exact working_of_connect hobj hr houtgoing hsettled

end Methods

section Requests

variable {h : CConnectionHandlerInt} {conns : List CConnection} {k : ConnID} {c c' : CResolveOnly}

/-- A resolve-only request changes without asking for anything. -/
theorem resolveChanged_move (hc : h.dnsResolves[k]? = some c) (hid : c'.id = c.id) (hconn : c'.conn = c.conn) :
    Move P L ⟨h, .idle, conns⟩ ⟨{ h with dnsResolves := h.dnsResolves.insert k c' }, .idle, conns⟩ := by
  have hmove := @Move.resolveWorked P L h conns k c c' [] hc hid hconn fun _ _ haction =>
    absurd haction List.not_mem_nil
  simpa [record] using hmove

/-- A failed request is erased or tried again. -/
theorem onResolveFailure_leads (env : Environment) (hc : h.dnsResolves[k]? = some c) (retry : Bool) :
    Leads P L ⟨h, .idle, conns⟩ ⟨h.onResolveFailure env k c.conn retry, .idle, conns⟩ := by
  obtain ⟨ret, h', hcall, frame⟩ := callUser_frame h env c.conn (.onDnsFailure c.conn (retry && !h.isShutdown))
  have htold : Leads P L ⟨h, .idle, conns⟩ ⟨h', .idle, conns⟩ :=
    .head (.resolveTold hc (Or.inr ⟨_, rfl⟩)) (.of_move (.user frame))
  have hc' : h'.dnsResolves[k]? = some c := by rw [frame.dnsResolves]; exact hc
  simp only [onResolveFailure, hcall, hc']
  split
  · exact htold.tail (resolveChanged_move hc' rfl rfl)
  · exact htold.tail (.resolveErased k)

/-- A completed request is erased. -/
theorem onResolveComplete_leads (env : Environment) (hc : h.dnsResolves[k]? = some c) (resolved : List CConnection) :
    Leads P L ⟨h, .idle, conns⟩ ⟨h.onResolveComplete env k c.conn resolved, .idle, conns⟩ := by
  obtain ⟨ret, h', hcall, frame⟩ := callUser_frame h env c.conn (.onDnsResponse c.conn resolved)
  simp only [onResolveComplete, hcall]
  exact (Leads.head (.resolveTold hc (Or.inl ⟨_, rfl⟩)) (.of_move (.user frame))).tail (.resolveErased k)

/-- A method of a resolve-only request. -/
theorem runResolve_leads (env : Environment) {method : CResolveOnly →
    Option (MethodResult CResolveOnly ResolveReport)}
    (hmethod : ∀ c r, method c = some r → c.Works r) :
    Leads P L ⟨h, .idle, conns⟩ ⟨h.runResolve env k method, .idle, conns⟩ := by
  refine .of_sound fun sound => ?_
  unfold runResolve
  split
  · exact .refl _
  · next c hc =>
    split
    · exact .of_move (.fail (by simp [Assertion.OfBooks]))
    · next r hr =>
      obtain ⟨hid, hconn, hpermitted⟩ := hmethod c r hr
      have hk : r.obj.id = k := hid.trans (sound.objects.dnsResolves k c hc).id
      have hworked : Leads P L ⟨h, .idle, conns⟩
          ⟨{ h with dnsResolves := h.dnsResolves.insert k r.obj }.record (r.net.map (.net c.conn)), .idle, conns⟩ :=
        .of_move (.resolveWorked hc hid hconn hpermitted)
      have hfound : ({ h with dnsResolves := h.dnsResolves.insert k r.obj }.record
          (r.net.map (.net c.conn))).dnsResolves[k]? = some r.obj := by simp [record]
      rw [hk]
      cases r.report with
      | waiting => exact hworked
      | resolveFailure retry => exact hworked.trans (onResolveFailure_leads env hfound retry)
      | resolveComplete resolved => exact hworked.trans (onResolveComplete_leads env hfound resolved)

/-- `Resolve`. -/
theorem resolve_leads (env : Environment) (k : ConnID) :
    Leads P L ⟨h, .idle, conns⟩ ⟨h.resolve env k, .idle, conns⟩ :=
  runResolve_leads env fun _ _ hr => CResolveOnly.resolve_works hr

/-- The retry event of a request. -/
theorem retryEvent_leads (env : Environment) (k : ConnID) :
    Leads P L ⟨h, .idle, conns⟩ ⟨h.retryEvent env k, .idle, conns⟩ := by
  unfold retryEvent
  split
  · exact .refl _
  · next c hc =>
    split
    · have hchanged : Move P L ⟨h, .idle, conns⟩
          ⟨{ h with dnsResolves := h.dnsResolves.insert k { c with retryEvent := false } }, .idle, conns⟩ :=
        resolveChanged_move hc rfl rfl
      exact .head hchanged (resolve_leads env k)
    · exact .refl _

end Requests

section Starts

variable {h : CConnectionHandlerInt} {conns : List CConnection} {k : ConnID}

/-- An id that is issued while few are is not in use. -/
theorem Sound.fresh {hand : Hand} {id : ConnID} {h' : CConnectionHandlerInt} (sound : Sound P ⟨h, hand, conns⟩)
    (hissue : h.getNextConnectionIndex = (id, h')) (hfew : FewIds h'.trace) : h.places id = 0 := by
  have hbefore : FewIds h.trace := by
    obtain ⟨index, failures, rfl, -, -⟩ := issued_shape hissue
    exact hfew.of_append
  exact (sound.books hbefore).places_of_issue hissue sound.objects.numbered hfew

/-- What is filed under an id that has just been issued is the new object, while few ids are issued. -/
theorem Sound.found_new {hand : Hand} {id : ConnID} {h' : CConnectionHandlerInt} {obj filed : ConnectionObject}
    (sound : Sound P ⟨h, hand, conns⟩) (hissue : h.getNextConnectionIndex = (id, h')) (hfew : FewIds h'.trace)
    (hobj : (h'.connecting.insertIfNew id filed)[id]? = some obj) : obj = filed := by
  have hfree := (places_eq_zero_iff.mp (sound.fresh hissue hfew)).1
  obtain ⟨index, failures, rfl, -, -⟩ := issued_shape hissue
  rw [OrderedMap.getElem?_insertIfNew, if_pos rfl, hfree] at hobj
  exact (Option.some.inj hobj).symm

/-- `StartConnection` files a connection that may be connected. -/
theorem Sound.started_connectable {id : ConnID} {h' : CConnectionHandlerInt} {conn : CConnection}
    {bytesRead bytesWritten : ℕ} (sound : Sound P ⟨h, .idle, conn :: conns⟩) (hsupplied : P conn)
    (honly : conn.isResolveOnly = false) (hissue : h.getNextConnectionIndex = (id, h')) :
    { h' with connecting := h'.connecting.insertIfNew id (.new conn id bytesRead bytesWritten) }.Connectable
      .connecting id := by
  have started : Sound P ⟨{ h' with
      connecting := h'.connecting.insertIfNew id (.new conn id bytesRead bytesWritten) }, .idle, conns⟩ :=
    (@Move.started P (fun _ => True) h h' conns id conn bytesRead bytesWritten hsupplied honly hissue).sound sound
  refine fun obj hobj => ⟨(started.objects.connecting id obj hobj).outgoing, fun hfew => ⟨rfl, ?_⟩⟩
  rw [sound.found_new hissue hfew hobj]
  exact ConnectionObject.settled_new _ _ _ _

/-- `StartConnection`. -/
theorem startConnection_leads (env : Environment) {conn : CConnection} (hsupplied : P conn) :
    Leads P L ⟨h, .idle, conn :: conns⟩ ⟨h.startConnection env conn, .idle, conns⟩ := by
  refine .of_sound fun sound => ?_
  obtain ⟨id, h', hissue⟩ : ∃ id h', h.getNextConnectionIndex = (id, h') := ⟨_, _, rfl⟩
  simp only [startConnection, hissue]
  split
  · split
    · exact (Leads.of_move (issued_move hissue _ _)).tail .forget
    · next hproxy =>
      rw [Bool.not_eq_true] at hproxy
      exact .head (.resolveStarted hsupplied hproxy hissue) (resolve_leads env id)
  · next honly =>
    rw [Bool.not_eq_true] at honly
    exact .head (.started hsupplied honly hissue)
      (connect_leads env (sound.started_connectable hsupplied honly hissue))

/-- Every connection that was offered is started, before the rest. -/
theorem startConnections_leads (env : Environment) (rest : List CConnection) (hsupplied : ∀ conn ∈ conns, P conn) :
    Leads P L ⟨h, .idle, conns ++ rest⟩ ⟨conns.foldl (startConnection env) h, .idle, rest⟩ := by
  induction conns generalizing h with
  | nil => exact .refl _
  | cons conn conns ih =>
    have hstarted : Leads P L ⟨h, .idle, conn :: (conns ++ rest)⟩
      ⟨h.startConnection env conn, .idle, conns ++ rest⟩ :=
      startConnection_leads env (hsupplied conn List.mem_cons_self)
    exact hstarted.trans (ih fun other hother => hsupplied other (List.mem_cons_of_mem _ hother))

/-- An accepted connection is reported as soon as it is connected. -/
theorem connect_incoming (env : Environment) {h : CConnectionHandlerInt} {id : ConnID} {conn : CConnection}
    {bytesRead bytesWritten : ℕ} {addr : Bytes}
    (hfound : h.connecting[id]? = some ⟨.new conn id bytesRead bytesWritten, .incoming ⟨addr⟩⟩) :
    h.connect env .connecting id =
      let taken := ConnectionObject.ofSocket conn id bytesRead bytesWritten addr
      let (ret, h') :=
        callUser env conn (.onIncomingConnection id conn (.ofSockAddr conn.opts conn.netConfig .unset addr))
        { h with connecting := (h.connecting.insert id taken).erase id }
      if ret then
        { h' with
          connected := h'.connected.insertIfNew id taken.enable
          incomingConnCount := h'.incomingConnCount + 1 }
      else h' := by
  have hrun : h.connect env .connecting id = onIncomingConnected env id conn
      (.ofSockAddr conn.opts conn.netConfig .unset addr) (record [] { h with
        connecting := h.connecting.insert id (.ofSocket conn id bytesRead bytesWritten addr) }) := by
    rw [connect, runMethod, show (h.objects .connecting)[id]? = _ from hfound]
    rfl
  have hrecord (h : CConnectionHandlerInt) : h.record [] = h := by simp [record]
  rw [hrun, hrecord, onIncomingConnected, OrderedMap.getElem?_insert, if_pos rfl]

/-- A connection that is accepted under an id in use is not filed. -/
theorem occupied_leads {id : ConnID} {h' : CConnectionHandlerInt} {old : ConnectionObject}
    (hissue : h.getNextConnectionIndex = (id, h')) (condition : Bool) (hold : h.connecting[id]? = some old)
    (filed : ConnectionObject) :
    Leads P L ⟨h, .idle, conns⟩ ⟨{ h'.check condition .incomingConn with
      connecting := (h'.check condition .incomingConn).connecting.insertIfNew id filed }, .idle, conns⟩ := by
  have hother : ¬Assertion.incomingConn.OfBooks := by simp [Assertion.OfBooks]
  have hchecked : (h'.check condition .incomingConn).connecting = h.connecting := by
    obtain ⟨index, failures, rfl, -, -⟩ := issued_shape hissue
    rw [check_eq]
  have hsame (a : ConnID) : ((h'.check condition .incomingConn).connecting.insertIfNew id filed)[a]? =
      (h'.check condition .incomingConn).connecting[a]? := by
    rw [OrderedMap.getElem?_insertIfNew, hchecked]
    split
    · next heq => rw [← heq, hold, Option.getD_some]
    · rfl
  exact .head (issued_move hissue _ _) ((check_leads h' condition hother _ _).tail (.relooked hsame))

/-- What is filed there may be connected: few ids cannot have been issued. -/
theorem Sound.occupied_connectable {id : ConnID} {h' : CConnectionHandlerInt} {condition : Bool}
    {old filed : ConnectionObject} (sound : Sound P ⟨h, .idle, conns⟩)
    (hissue : h.getNextConnectionIndex = (id, h')) (hold : h.connecting[id]? = some old) :
    { h'.check condition .incomingConn with
      connecting := (h'.check condition .incomingConn).connecting.insertIfNew id filed }.Connectable
        .connecting id := by
  intro obj hobj
  have hchecked : (h'.check condition .incomingConn).connecting = h.connecting := by
    obtain ⟨index, failures, rfl, -, -⟩ := issued_shape hissue
    rw [check_eq]
  change ((h'.check condition .incomingConn).connecting.insertIfNew id filed)[id]? = some obj at hobj
  rw [OrderedMap.getElem?_insertIfNew, if_pos rfl, hchecked, hold] at hobj
  obtain rfl := Option.some.inj hobj
  refine ⟨(sound.objects.connecting id old hold).outgoing, fun hfew => ?_⟩
  change FewIds (h'.check condition .incomingConn).trace at hfew
  rw [check_eq] at hfew
  exact absurd (hold.symm.trans (places_eq_zero_iff.mp (sound.fresh hissue hfew)).1) (by simp)

/-- `accept_conn`. -/
theorem acceptConn_leads (env : Environment) (hrunning : h.Running) (k : ConnID) (addr : Bytes) :
    Leads P L ⟨h, .idle, conns⟩ ⟨h.acceptConn env k addr, .idle, conns⟩ := by
  refine .of_sound fun sound => ?_
  unfold acceptConn
  split
  · exact .refl _
  · next conn hbind =>
    obtain ⟨id, h', hissue⟩ : ∃ id h', h.getNextConnectionIndex = (id, h') := ⟨_, _, rfl⟩
    have hother : ¬Assertion.incomingConn.OfBooks := by simp [Assertion.OfBooks]
    have hconnecting : h'.connecting = h.connecting := by
      obtain ⟨index, failures, rfl, -, -⟩ := issued_shape hissue
      rfl
    simp only [onIncomingConnection, hissue]
    generalize hcondition : decide (addr.length ≤ sockaddrStorageSize) = condition
    generalize hcounters : env.uninitialized (h'.check condition .incomingConn).trace = counters
    change Leads P L _ ⟨connect env .connecting id { h'.check condition .incomingConn with
      connecting := (h'.check condition .incomingConn).connecting.insertIfNew id
        ⟨.new conn id (env.uninitialized (h'.check condition .incomingConn).trace).1
          (env.uninitialized (h'.check condition .incomingConn).trace).2, .incoming ⟨addr⟩⟩ }, .idle, conns⟩
    rw [hcounters]
    have hchecked : (h'.check condition .incomingConn).connecting = h.connecting := by rw [check_eq, ← hconnecting]
    cases hfree : h.connecting[id]? with
    | some old =>
      -- The id is in use, so that the connection filed under it is connected instead.
      exact (occupied_leads hissue condition hfree _).trans
        (connect_leads env (sound.occupied_connectable hissue hfree))
    | none =>
      -- The connection is accepted at once, and never stays in the map.
      have hfound : ((h'.check condition .incomingConn).connecting.insertIfNew id
          ⟨.new conn id counters.1 counters.2, .incoming ⟨addr⟩⟩)[id]? =
            some ⟨.new conn id counters.1 counters.2, .incoming ⟨addr⟩⟩ := by
        rw [OrderedMap.getElem?_insertIfNew, if_pos rfl, hchecked, hfree, Option.getD_none]
      have hsame (a : ConnID) : (((h'.check condition .incomingConn).connecting.insertIfNew id
          ⟨.new conn id counters.1 counters.2, .incoming ⟨addr⟩⟩).insert id
            (.ofSocket conn id counters.1 counters.2 addr) |>.erase id)[a]? = h.connecting[a]? := by
        by_cases heq : id = a
        · subst heq
          simp [hfree]
        · simp [heq, hchecked]
      rw [connect_incoming env hfound]
      simp only
      generalize (((h'.check condition .incomingConn).connecting.insertIfNew id
        ⟨.new conn id counters.1 counters.2, .incoming ⟨addr⟩⟩).insert id
          (.ofSocket conn id counters.1 counters.2 addr)).erase id = connecting at hsame ⊢
      obtain ⟨ret, h'', hcall, frame⟩ := callUser_frame { h'.check condition .incomingConn with connecting } env conn
        (.onIncomingConnection id conn (.ofSockAddr conn.opts conn.netConfig .unset addr))
      rw [hcall]
      have haccepted : Leads P L ⟨h, .idle, conns⟩
          ⟨h'', if ret then .accepted id (.ofSocket conn id counters.1 counters.2 addr) else .idle, conns⟩ := by
        refine .head (.accepted hrunning hbind hissue hfree hsame)
          ((check_leads _ condition hother _ _).tail (.user ?_))
        rw [check_eq] at frame ⊢
        exact frame
      cases ret with
      | true => exact haccepted.tail (.establishedIncoming rfl)
      | false => exact haccepted

end Starts

section Events

variable {h : CConnectionHandlerInt} {conns : List CConnection} {place : Place} {k : ConnID} {obj : ConnectionObject}

/-- A connection whose retry timer runs is not established and has no handle, while few ids are issued. -/
theorem Sound.idle_of_waits (sound : Sound P ⟨h, .idle, conns⟩) (hfew : FewIds h.trace)
    (hobj : (h.objects place)[k]? = some obj) (hwaits : obj.base.reconnectFunc = true) :
    place = .connecting ∧ obj.kind.handles = 0 := by
  cases place with
  | connecting => exact ⟨rfl, ((sound.books hfew).trying k obj hobj).waits hwaits⟩
  | connected =>
    exact absurd (hwaits.symm.trans ((sound.books hfew).settled k obj hobj).reconnectFunc) (by simp)

/-- The retry timer of a connection has run out. -/
theorem rearmed_move (hobj : (h.objects place)[k]? = some obj) :
    Move P L ⟨h, .idle, conns⟩
      ⟨h.put place k { obj with base := { obj.base with reconnectFunc := false } }, .idle, conns⟩ := by
  cases place with
  | connecting => exact .rearmed hobj
  | connected => exact .changed hobj ⟨rfl, rfl, rfl, rfl, fun h => absurd h Bool.false_ne_true⟩

/-- Then it may be connected. -/
theorem Sound.rearmed_connectable (sound : Sound P ⟨h, .idle, conns⟩) (hobj : (h.objects place)[k]? = some obj)
    (hwaits : obj.base.reconnectFunc = true) :
    (h.put place k { obj with base := { obj.base with reconnectFunc := false } }).Connectable place k := by
  intro found hfound
  rw [objects_put] at hfound
  obtain rfl := Option.some.inj hfound
  refine ⟨?_, fun hfew => ?_⟩
  · cases place with
    | connecting => exact (sound.objects.connecting k obj hobj).outgoing
    | connected =>
      cases houtgoing : obj.isOutgoing with
      | true => exact houtgoing
      | false => exact absurd (hwaits.symm.trans ((sound.objects.connected k obj hobj).kept houtgoing)) (by simp)
  · rw [put_trace] at hfew
    obtain ⟨hplace, hhandles⟩ := sound.idle_of_waits hfew hobj hwaits
    exact ⟨hplace, hhandles, rfl⟩

/-- The retry timer of a connection. -/
theorem reconnectFunc_leads (env : Environment) (place : Place) (k : ConnID) :
    Leads P L ⟨h, .idle, conns⟩ ⟨h.reconnectFunc env place k, .idle, conns⟩ := by
  refine .of_sound fun sound => ?_
  unfold reconnectFunc
  split
  · exact .refl _
  · next obj hobj =>
    split
    · next hwaits => exact .head (rearmed_move hobj) (connect_leads env (sound.rearmed_connectable hobj hwaits))
    · exact .refl _

/-- A notice of an established connection. -/
theorem notice_leads (env : Environment) {effect : ConnEffect} (hnotice : effect.Notice) :
    Leads P L ⟨h, .idle, conns⟩ ⟨h.performEffect env .connected k effect, .idle, conns⟩ := by
  refine .of_sound fun sound => ?_
  unfold performEffect
  split
  · exact .refl _
  · next obj hobj =>
    change h.connected[k]? = some obj at hobj
    rw [if_neg hnotice.2, (sound.objects.connected k obj hobj).id]
    split
    · exact .refl _
    · next c hc =>
      obtain ⟨ret, h', hcall, frame⟩ := callUser_frame h env obj.base.conn c
      rw [hcall]
      exact .head (.notified hobj hnotice.1 hc) (.of_move (.user frame))

/-- `OnDisconnected` of a connection that is stopped. -/
theorem onDisconnected_leads (env : Environment) {hand : Hand} (hhand : hand = .idle ∨ hand = .closing k)
    (hobj : h.connected[k]? = some obj) (hstopped : obj.base.Stopped) :
    Leads P L ⟨h, hand, conns⟩
      ⟨h.onDisconnected env k (obj.base.conn.opts.fPersistent && obj.isOutgoing), .idle, conns⟩ := by
  generalize hreconnect : (obj.base.conn.opts.fPersistent && obj.isOutgoing && !h.isShutdown) = reconnect
  obtain ⟨ret, h', hcall, frame⟩ := callUser_frame
    ({ h with connected := h.connected.erase k }.count obj.isOutgoing (-1))
    env obj.base.conn (.onDisconnected k reconnect)
  have hended : Leads P L ⟨h, hand, conns⟩ ⟨h', if reconnect && ret then .retrying obj else .idle, conns⟩ :=
    .head (.ended hhand hobj (fun _ => hstopped) hreconnect.symm) (.of_move (.user frame))
  simp only [onDisconnected, hobj, hreconnect, hcall]
  cases hretry : reconnect && ret with
  | true =>
    rw [hretry] at hended
    exact hended.tail (retryConnecting_move h' obj conns)
  | false =>
    rw [hretry] at hended
    exact hended

/-- The end of an established connection. -/
theorem disconnectInt_leads (env : Environment) {hand : Hand} (hhand : hand = .idle ∨ hand = .closing k)
    (hobj : h.connected[k]? = some obj) :
    Leads P L ⟨h, hand, conns⟩ ⟨h.performEffect env .connected k .disconnectInt, .idle, conns⟩ := by
  refine .of_sound fun sound => ?_
  have hid : obj.base.disconnectInt.id = k := (sound.objects.connected k obj hobj).id
  have hfound : (h.put .connected k { obj with base := obj.base.disconnectInt }).connected[k]? =
      some { obj with base := obj.base.disconnectInt } := by simp [put]
  have hchanged :
    Move P L ⟨h, hand, conns⟩ ⟨h.put .connected k { obj with base := obj.base.disconnectInt }, hand, conns⟩ :=
    .changed hobj ⟨rfl, rfl, rfl, Option.isSome_map, fun h => absurd h Bool.false_ne_true⟩
  simp only [performEffect, show (h.objects .connected)[k]? = some obj from hobj, if_pos, hid]
  have hended := @onDisconnected_leads P L _ conns _ _ env _ hhand hfound
    (ConnectionBase.disconnectInt_stopped obj.base)
  exact .head hchanged hended

/-- The effects of an event, in their order. -/
theorem performEffects_leads (env : Environment) {effects : List ConnEffect} (hordered : ConnEffect.Ordered effects) :
    Leads P L ⟨h, .idle, conns⟩ ⟨effects.foldl (performEffect env .connected k) h, .idle, conns⟩ := by
  obtain ⟨notices, ending, rfl, hnotices, hending⟩ := hordered
  rw [List.foldl_append]
  have hlead : Leads P L ⟨h, .idle, conns⟩ ⟨notices.foldl (performEffect env .connected k) h, .idle, conns⟩ := by
    induction notices generalizing h with
    | nil => exact .refl _
    | cons notice notices ih =>
      exact (notice_leads env (hnotices notice List.mem_cons_self)).trans
        (ih fun other hother => hnotices other (List.mem_cons_of_mem _ hother))
  refine hlead.trans ?_
  generalize notices.foldl (performEffect env .connected k) h = h'
  cases hobj : h'.connected[k]? with
  | none =>
    -- Nothing is left to end.
    have hnone (effect : ConnEffect) : h'.performEffect env .connected k effect = h' := by
      simp only [performEffect, show (h'.objects .connected)[k]? = none from hobj]
    rcases hending with rfl | rfl | rfl
    · exact .refl _
    · rw [List.foldl_cons, hnone, List.foldl_nil]
      exact .refl _
    · rw [List.foldl_cons, hnone, List.foldl_cons, hnone, List.foldl_nil]
      exact .refl _
  | some obj =>
    rcases hending with rfl | rfl | rfl
    · exact .refl _
    · exact disconnectInt_leads env (Or.inl rfl) hobj
    · refine .of_sound fun sound => ?_
      have hid := (sound.objects.connected k obj hobj).id
      obtain ⟨ret, h'', hcall, frame⟩ := callUser_frame h' env obj.base.conn (.onMalformedMessage k)
      have hperform : h'.performEffect env .connected k .onMalformedMessage = h'' := by
        simp only [performEffect, show (h'.objects .connected)[k]? = some obj from hobj, effectCallback, hid, hcall]
        rfl
      obtain ⟨obj', hobj', -⟩ := frame.kept k obj hobj
      rw [List.foldl_cons, hperform]
      exact .head (.malformed hobj) (.head (.user frame) (disconnectInt_leads env (Or.inr rfl) hobj'))

/-- Events come to established connections only. -/
theorem Sound.established_of_armed {hand : Hand} {place : Place} {obj : ConnectionObject} {e : ConnEvent}
    (sound : Sound P ⟨h, hand, conns⟩) (hobj : (h.objects place)[k]? = some obj) (harmed : obj.base.armed e = true) :
    place = .connected := by
  cases place with
  | connected => rfl
  | connecting =>
    have hwaiting := sound.objects.connecting k obj hobj
    exact absurd (harmed.symm.trans (hwaiting.stopped.not_armed hwaiting.bev e)) (by simp)

/-- An event of a connection that is not established finds nothing to do. -/
theorem connectionEvent_connecting (env : Environment) (sound : Sound P ⟨h, .idle, conns⟩) (k : ConnID)
    (e : ConnEvent) : h.connectionEvent env .connecting k e = h := by
  cases hobj : (h.objects .connecting)[k]? with
  | none => simp only [connectionEvent, hobj]
  | some obj =>
    have harmed : obj.base.armed e ≠ true := fun harmed =>
      absurd (sound.established_of_armed hobj harmed) (by simp)
    simp only [connectionEvent, hobj, if_neg harmed]

/-- An event of a connection. -/
theorem connectionEvent_leads (env : Environment) (place : Place) (k : ConnID) (e : ConnEvent) :
    Leads P L ⟨h, .idle, conns⟩ ⟨h.connectionEvent env place k e, .idle, conns⟩ := by
  refine .of_sound fun sound => ?_
  unfold connectionEvent
  split
  · exact .refl _
  · next obj hobj =>
    split
    · next harmed =>
      obtain rfl := sound.established_of_armed hobj harmed
      split
      · exact .of_move (.fail (by simp [Assertion.OfBooks]))
      · next base effects hreact =>
        obtain ⟨⟨hconn, hid, hbev, hretry⟩, hordered⟩ := ConnectionBase.react_spec hreact
        have hchanged : Move P L ⟨h, .idle, conns⟩ ⟨h.put .connected k { obj with base }, .idle, conns⟩ :=
          .changed hobj ⟨rfl, hconn, hid, hbev, fun hwaits => hretry ▸ hwaits⟩
        exact .head hchanged (performEffects_leads env hordered)
    · exact .refl _

/-- `Start`. -/
theorem start_leads (env : Environment) {outgoingLimit : Int32} (hlimit : L outgoingLimit) :
    Leads P L ⟨h, .idle, []⟩ ⟨h.start env outgoingLimit, .idle, []⟩ := by
  unfold start
  split
  · exact .of_move (.fail (by simp [Assertion.OfBooks]))
  · next hstart =>
    simp only [ne_eq, not_or, not_not, Bool.not_eq_true] at hstart
    obtain ⟨houtgoing, -, hbase, -⟩ := hstart
    obtain ⟨ret, h', hcall, frame⟩ := callUser_frame { h with
      isShutdown := false
      outgoingConnLimit := outgoingLimit
      eventBase := true
      dnsBase := true
      requestEvent := true
      shutdownEvent := some false } env none .onStartup
    rw [hcall]
    exact .head (.begun hlimit hbase houtgoing) (.of_move (.user frame))

/-- Established connections are disconnected one after the other. -/
theorem shutdownConnected_leads (env : Environment) (entries : List (ConnID × ConnectionObject)) :
    Leads P L ⟨h, .disconnecting entries, conns⟩
      ⟨entries.foldl (shutdownConnected env) h, .disconnecting [], conns⟩ := by
  induction entries generalizing h with
  | nil => exact .refl _
  | cons entry entries ih =>
    obtain ⟨ret, h', hcall, frame⟩ := callUser_frame (h.count entry.2.isOutgoing (-1)) env entry.2.base.conn
      (.onDisconnected entry.1 false)
    rw [List.foldl_cons, shutdownConnected, hcall]
    exact .head .shutdownDisconnected (.head (.user frame) ih)

/-- Connections that are not established are dropped one after the other. -/
theorem shutdownConnecting_leads (env : Environment) (entries : List (ConnID × ConnectionObject)) :
    Leads P L ⟨h, .dropping entries, conns⟩ ⟨entries.foldl (shutdownConnecting env) h, .dropping [], conns⟩ := by
  induction entries generalizing h with
  | nil => exact .refl _
  | cons entry entries ih =>
    rw [List.foldl_cons, shutdownConnecting]
    cases houtgoing : entry.2.isOutgoing with
    | true =>
      obtain ⟨ret, h', hcall, frame⟩ := callUser_frame h env entry.2.base.conn
        (.onConnectionFailure entry.2.base.conn entry.2.base.conn false)
      simp only [if_true, hcall]
      exact .head (.shutdownTold houtgoing) (.head (.user frame) (.head .shutdownDropped ih))
    | false => exact .head .shutdownDropped ih

/-- `ShutdownInt`. -/
theorem shutdownInt_leads (env : Environment) : Leads P L ⟨h, .idle, []⟩ ⟨h.shutdownInt env, .idle, []⟩ := by
  unfold shutdownInt
  split
  · exact .refl _
  · next hshutdown =>
    rw [Bool.not_eq_true] at hshutdown
    refine .head (.shutdownBegun hshutdown) ((shutdownConnected_leads env _).trans (.head .shutdownTurned
      ((shutdownConnecting_leads env _).trans (.of_move .shutdownDone))))

end Events

namespace CConnectionHandlerInt

/-- The number of connections that `RequestOutgoingInt` asks for. -/
def needed (h : CConnectionHandlerInt) : ℕ :=
  sizeT (min gMaxSimultaneousConnecting
    (h.outgoingConnLimit.toInt - h.outgoingConnCount - sizeToInt h.connecting.size))

/-- The question of `RequestOutgoingInt`. -/
def asking (h : CConnectionHandlerInt) : Callback := .onNeedOutgoingConnections (sizeToInt h.needed)

/-- The offered connections that `RequestOutgoingInt` starts. -/
def starting (env : Environment) (h : CConnectionHandlerInt) : List CConnection :=
  ((env.offered h.trace).take (min (env.offered h.trace).length h.needed)).filter (·.isSet)

/-- The stage in which the moves of a step begin: a request has already asked the user. -/
def opening (env : Environment) (h : CConnectionHandlerInt) (event : HandlerEvent) : Stage :=
  if event = .requestEvent ∧ 0 < h.needed then
    ⟨h.called h.asking (env.answer h.trace h.asking) none, .idle, h.starting env⟩
  else ⟨h, .idle, []⟩

end CConnectionHandlerInt

/-- The user supplies connections with a property, and starts the handler with a limit that has one. -/
structure HandlerInput.Supplies (P : CConnection → Prop) (L : Int32 → Prop) (input : HandlerInput) : Prop where
  offered : ∀ (t : Trace) (conn : CConnection), conn ∈ input.env.offered t → conn.isSet = true → P conn
  limit : ∀ outgoingLimit : Int32, input.event = .start outgoingLimit → L outgoingLimit

section Steps

variable {h : CConnectionHandlerInt} {input : HandlerInput}

/-- An event that libevent brings needs a handler that runs. -/
theorem running_of_enabled {event : HandlerEvent} (henabled : h.enabled event = true) :
    h.Running ∨ event = .pumpReturn ∨ (∃ limit, event = .start limit) ∨ ∃ c, event = .call c := by
  have hrunning (heq : (h.eventBase && !h.isShutdown) = true) : h.Running := by
    obtain ⟨hbase, hshutdown⟩ := Bool.and_eq_true_iff.mp heq
    exact ⟨hbase, by simpa using hshutdown⟩
  cases event with
  | start limit => exact Or.inr (Or.inr (Or.inl ⟨limit, rfl⟩))
  | call c => exact Or.inr (Or.inr (Or.inr ⟨c, rfl⟩))
  | pumpReturn => exact Or.inr (Or.inl rfl)
  | requestEvent => exact Or.inl (hrunning (Bool.and_eq_true_iff.mp henabled).1)
  | shutdownEvent => exact Or.inl (hrunning (Bool.and_eq_true_iff.mp henabled).1)
  | _ => exact Or.inl (hrunning henabled)

/-- The started connections are among those offered. -/
theorem HandlerInput.Supplies.starting (supplies : input.Supplies P L) (h : CConnectionHandlerInt) :
    ∀ conn ∈ h.starting input.env, P conn := by
  intro conn hconn
  obtain ⟨htaken, hset⟩ := List.mem_filter.mp hconn
  exact supplies.offered h.trace conn (List.mem_of_mem_take htaken) hset

/-- A step is in order from its first stage on. -/
theorem Sound.opening (sound : Sound P ⟨h, .idle, []⟩) (env : Environment) {event : HandlerEvent}
    (henabled : h.enabled event = true) : Sound P (h.opening env event) := by
  unfold CConnectionHandlerInt.opening
  split
  · next hneeded =>
    obtain ⟨rfl, -⟩ := hneeded
    have hrunning : h.Running := (running_of_enabled henabled).resolve_right fun hother => by simp at hother
    have hasked := sound.objects.called h.asking (env.answer h.trace h.asking) none
    have hgrown : h.trace <+: (h.called h.asking (env.answer h.trace h.asking) none).trace := List.prefix_append _ _
    refine ⟨hasked.of_same rfl rfl rfl hasked.hand (fun _ => hrunning) hasked.numbered, fun hfew => ?_⟩
    have books := sound.books hfew.of_append
    exact books.next hgrown (fun _ => Or.inl le_rfl) books.trying books.settled books.counts trivial
      fun _ hmem => Or.inl hmem
  · exact sound

/-- What the handler does at an event is a chain of moves. -/
theorem react_moves (supplies : input.Supplies P L) (sound : Sound P ⟨h, .idle, []⟩)
    (henabled : h.enabled input.event = true) :
    Moves P L (h.opening input.env input.event) ⟨h.react input.env input.event, .idle, []⟩ := by
  obtain ⟨event, env⟩ := input
  have hrunning (hevent : h.enabled event = (h.eventBase && !h.isShutdown)) : h.Running := by
    rw [hevent] at henabled
    simpa [Running] using henabled
  have hopening (hother : event ≠ .requestEvent) : h.opening env event = ⟨h, .idle, []⟩ :=
    if_neg fun hevent => hother hevent.1
  change h.enabled event = true at henabled
  change Moves P L (h.opening env event) ⟨h.react env event, .idle, []⟩
  cases event with
  | requestEvent =>
    change Moves P L _ ⟨if 0 < h.needed then (h.starting env).foldl (startConnection env)
      (h.callUser env none h.asking).2 else h, .idle, []⟩
    by_cases hneeded : 0 < h.needed
    · have hsound := sound.opening env henabled
      rw [CConnectionHandlerInt.opening, if_pos ⟨rfl, hneeded⟩] at hsound ⊢
      rw [if_pos hneeded]
      obtain ⟨ret, h', hcall, frame⟩ := callUser_frame h env none h.asking
      have hanswer : env.answer h.trace h.asking = ret := congrArg Prod.fst hcall
      rw [hcall]
      rw [hanswer] at hsound ⊢
      have hstarted := @startConnections_leads P L h' (h.starting env) env [] (supplies.starting h)
      rw [List.append_nil] at hstarted
      exact Leads.head (.user frame) hstarted hsound
    · rw [CConnectionHandlerInt.opening, if_neg fun hevent => hneeded hevent.2, if_neg hneeded]
  | start outgoingLimit =>
    rw [hopening (by simp)]
    exact start_leads env (supplies.limit outgoingLimit rfl) sound
  | call c =>
    rw [hopening (by simp)]
    exact .single (.user (apiCall_frame h c))
  | pumpReturn =>
    rw [hopening (by simp)]
    exact .single (.pumped (Bool.and_eq_true_iff.mp henabled).2)
  | shutdownEvent =>
    rw [hopening (by simp)]
    have hevent : h.shutdownEvent = some true := by simpa using (Bool.and_eq_true_iff.mp henabled).2
    have hframe : Frame h { h with shutdownEvent := some false } :=
      { Frame.refl h with shutdownEvent := by rw [hevent]; rfl }
    exact Leads.head (.user hframe) (shutdownInt_leads env) sound
  | reconnectFunc place k =>
    rw [hopening (by simp)]
    exact reconnectFunc_leads env place k sound
  | connEvent place k event =>
    rw [hopening (by simp)]
    refine runMethod_leads env (fun sound obj r hobj hr =>
      working_of_steps sound hobj (ConnectionObject.connEvent_works hr)
      (fun hidle => ConnectionObject.connEvent_of_idle hidle hr)
      fun hhandles => ConnectionObject.connEvent_steps hhandles hr) sound
  | dnsCallback place k result =>
    rw [hopening (by simp)]
    refine runMethod_leads env (fun sound obj r hobj hr => working_of_steps sound hobj
      (ConnectionObject.dnsCallback_works hr) (fun hidle => ConnectionObject.dnsCallback_of_idle hidle hr)
      fun hhandles => ConnectionObject.dnsCallback_steps hhandles hr) sound
  | handshake place k s =>
    rw [hopening (by simp)]
    refine runMethod_leads env (fun sound obj r hobj hr => working_of_steps sound hobj
      (ConnectionObject.handshake_works hr) (fun hidle => ConnectionObject.handshake_of_idle hidle hr)
      fun hhandles => ConnectionObject.handshake_steps hhandles hr) sound
  | connection place k e =>
    rw [hopening (by simp)]
    exact connectionEvent_leads env place k e sound
  | resolveOnly k result =>
    rw [hopening (by simp)]
    have hworks (c : CResolveOnly) (r : MethodResult CResolveOnly ResolveReport)
        (hr : some (c.dnsCallback result) = some r) : c.Works r := by
      obtain rfl := Option.some.inj hr
      exact CResolveOnly.dnsCallback_works result
    have hleads : Leads P L ⟨h, .idle, []⟩ ⟨h.runResolve env k fun c => some (c.dnsCallback result), .idle, []⟩ :=
      runResolve_leads env hworks
    exact hleads sound
  | retryEvent k =>
    rw [hopening (by simp)]
    exact retryEvent_leads env k sound
  | acceptConn k addr =>
    rw [hopening (by simp)]
    exact acceptConn_leads env (hrunning rfl) k addr sound

/-- A step keeps the handler in order. -/
theorem step_sound (supplies : input.Supplies P L) (sound : Sound P ⟨h, .idle, []⟩) :
    Sound P ⟨h.step input, .idle, []⟩ := by
  unfold step
  split
  · next hstep =>
    have henabled := (Bool.and_eq_true_iff.mp hstep).2
    exact Moves.sound (react_moves supplies sound henabled) (sound.opening input.env henabled)
  · exact sound

/-- A new handler is in order. -/
theorem sound_new : Sound P ⟨new, .idle, []⟩ := by
  have hnone {α : Type} (k : ConnID) : (∅ : ConnMap α)[k]? = none := Std.TreeMap.getElem?_emptyc
  have hcount (outgoing : Bool) : new.established outgoing = 0 := OrderedMap.countValues_of_isEmpty _ rfl
  refine ⟨⟨OrderedMap.All.empty, OrderedMap.All.empty, OrderedMap.All.empty, Or.inr ⟨hnone, hnone, hnone⟩,
    fun hne => absurd rfl hne, ⟨rfl, rfl⟩⟩, fun _ => ⟨OrderedMap.All.empty, OrderedMap.All.empty,
      fun k hk => ?_, fun k => ?_, fun outgoing => ?_, trivial, fun _ hmem => absurd hmem List.not_mem_nil⟩⟩
  · exact absurd (places_eq_zero_iff.mpr ⟨hnone k, hnone k, hnone k, hnone k⟩) hk
  · exact (places_eq_zero_iff.mpr ⟨hnone k, hnone k, hnone k, hnone k⟩).le.trans (Nat.zero_le 1)
  · change new.counter outgoing = new.established outgoing + 0
    rw [hcount]
    cases outgoing <;> rfl

/-- A run with one more step. -/
theorem run_concat (inputs : List HandlerInput) (input : HandlerInput) :
    run (inputs ++ [input]) = (run inputs).step input := by
  rw [run, List.foldl_append]
  rfl

/-- So is every handler that a run reaches. -/
theorem run_sound (inputs : List HandlerInput) (hsupplies : ∀ input ∈ inputs, input.Supplies P L) :
    Sound P ⟨run inputs, .idle, []⟩ := by
  induction inputs using List.reverseRecOn with
  | nil => exact sound_new
  | append_singleton inputs input ih =>
    rw [run_concat]
    exact step_sound (hsupplies input (by simp)) (ih fun other hother => hsupplies other (by simp [hother]))

end Steps

end LibBtcNet
