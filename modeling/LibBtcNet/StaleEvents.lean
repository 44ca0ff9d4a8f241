import LibBtcNet.CallbackProtocol
import LibBtcNet.ThreadedHandler

/-!
# The events that other threads arm

A call of another thread arms an event of an established connection, which then runs on the event
thread. Every step of the event thread is a chain of moves, with the connection that it works on
in hand, as long as no connection is kept for another attempt with an event armed after
`DisconnectInt` has cancelled it. So the event finds its connection in `m_connected`, under its id
and with a bufferevent.

Whether a connection is kept with an event armed can be told from the calls: none is when no other
thread closes it, sends or sets its ping timer between the cancels of `DisconnectInt` and its removal.
-/

namespace LibBtcNet

open CConnectionHandlerInt

/-- The events that calls arm. -/
def ConnEvent.OfCalls (e : ConnEvent) : Prop :=
  e = .disconnectFunc ∨ e = .disconnectWaitFunc ∨ e = .checkWriteBufferFunc ∨ e = .pingTimeoutFunc

/-- The user has been given an id and has accepted it. -/
def Accepted (id : ConnID) (t : Trace) : Prop :=
  ∃ conn resolved, (.onOutgoingConnection id conn resolved, true) ∈ callbacks t ∨
    (.onIncomingConnection id conn resolved, true) ∈ callbacks t

/-- A connection is in `m_connected` under its id, and holds a bufferevent. -/
def CConnectionHandlerInt.Holds (h : CConnectionHandlerInt) (obj : ConnectionObject) : Prop :=
  h.connected[obj.base.id]? = some obj ∧ obj.base.bev.isSome = true

/-- The connection that the event thread is at work on. -/
def EventThread.at? : EventThread → Option (Place × ConnID)
  | .reporting place k _ => some (place, k)
  | .cancelled place k => some (place, k)
  | _ => none

/-- An event that a call arms finds its connection when it runs, and when it goes on. Neither its assertions nor those
of `OnDisconnected` fail, and it reports a ping timeout for an accepted id only. -/
structure NoStaleEvent (t : ThreadedHandler) : Prop where
  runs : t.thread = .waiting → ∀ (place : Place) (k : ConnID) (obj : ConnectionObject) (e : ConnEvent),
    (t.handler.objects place)[k]? = some obj → e.OfCalls → obj.base.armed e = true →
      t.handler.Holds obj ∧ obj.base.react e ≠ none
  goesOn (place : Place) (k : ConnID) : t.thread.at? = some (place, k) →
    ∃ obj, (t.handler.objects place)[k]? = some obj ∧ t.handler.Holds obj
  asserted : .onDisconnected ∉ t.handler.failed
  told (before after : Trace) (id : ConnID) (answer : Bool) (about : Option CConnection) :
    t.handler.trace = before ++ .callback (.onPingTimeout id) answer about :: after → Accepted id before

/-- Whether `OnDisconnected` keeps a connection for another attempt. -/
def CConnectionHandlerInt.keeps (env : Environment) (obj : ConnectionObject) (h : CConnectionHandlerInt) : Bool :=
  obj.base.conn.opts.fPersistent && obj.isOutgoing && !h.isShutdown &&
    env.answer h.trace (.onDisconnected obj.base.id true)

/-- Which events are pending is decidable. -/
instance (base : ConnectionBase) : Decidable base.Stopped :=
  decidable_of_iff (base.disconnectFunc = false ∧ base.disconnectWaitFunc = false ∧
    base.checkWriteBufferFunc = false ∧
    base.pingTimeoutFunc = false ∧ base.firstDataFunc = false)
    ⟨fun h => ⟨h.1, h.2.1, h.2.2.1, h.2.2.2.1, h.2.2.2.2⟩, fun h => ⟨h.1, h.2, h.3, h.4, h.5⟩⟩

namespace ThreadedHandler

/-- A step removes no connection that is kept for another attempt while one of its events is armed. -/
def KeepsStopped (t : ThreadedHandler) (input : ThreadedInput) : Prop :=
  match input, t.thread with
  | .proceed env, .cancelled place k =>
    ∀ obj ∈ (t.handler.objects place)[k]?, t.handler.keeps env obj = true → obj.base.Stopped
  | _, _ => True

/-- Nor does any step of a run. -/
def KeptStopped (t : ThreadedHandler) : List ThreadedInput → Prop
  | [] => True
  | input :: inputs => t.KeepsStopped input ∧ (t.step input).KeptStopped inputs

/-- A step can be checked. -/
instance (t : ThreadedHandler) (input : ThreadedInput) : Decidable (t.KeepsStopped input) := by
  unfold KeepsStopped
  split <;> infer_instance

/-- So can a run. -/
instance decidableKeptStopped (t : ThreadedHandler) : (inputs : List ThreadedInput) → Decidable (t.KeptStopped inputs)
  | [] => .isTrue trivial
  | input :: inputs =>
    have := decidableKeptStopped (t.step input) inputs
    inferInstanceAs (Decidable (t.KeepsStopped input ∧ (t.step input).KeptStopped inputs))

end ThreadedHandler

/-- An established connection holds a bufferevent, and so does one that is about to be established. -/
structure Equipped (s : Stage) : Prop where
  connected : OrderedMap.All (fun _ obj => obj.base.bev.isSome = true) s.handler.connected
  hand {id : ConnID} {obj : ConnectionObject} (hhand : s.hand = .accepted id obj) : obj.base.bev.isSome = true

/-- What is known of a stage. -/
structure Stage.Intact (s : Stage) : Prop where
  sound : Sound (fun _ => True) s
  linked : FewIds s.handler.trace → Linked s
  equipped : FewIds s.handler.trace → Equipped s

/-- What is in hand is what the event thread is in the middle of, unless an assertion has stopped it. -/
def EventThread.Fits (h : CConnectionHandlerInt) (hand : Hand) : EventThread → Prop
  | .waiting => h.failed.isEmpty = true → hand = .idle
  | .reporting place k effects => place = .connected ∧ h.connected[k]? ≠ none ∧
      ((hand = .idle ∧ ConnEffect.Ordered effects) ∨ (hand = .closing k ∧ effects = [.disconnectInt]))
  | .cancelled place k => place = .connected ∧ h.connected[k]? ≠ none ∧ (hand = .idle ∨ hand = .closing k)
  | .retrying moved => hand = .retrying moved

/-- What is known of the handler and its event thread. -/
def ThreadedHandler.Intact (t : ThreadedHandler) : Prop :=
  ∃ hand, t.thread.Fits t.handler hand ∧ Stage.Intact ⟨t.handler, hand, []⟩

variable {P : CConnection → Prop} {L : Int32 → Prop}

/-- Every move keeps the bufferevents while few ids are issued. -/
theorem Move.equipped {s s' : Stage} (move : Move P L s s') (objects : Objects P s) (equipped : Equipped s)
    (hfew : FewIds s'.handler.trace) : Equipped s' := by
  have hbefore := move.fewIds hfew
  cases move with
  | @user h h' hand conns frame =>
    refine ⟨fun k obj' hobj' => ?_, equipped.hand⟩
    obtain ⟨obj, hobj, hcalled⟩ := frame.called k obj' hobj'
    exact hcalled.bev.trans (equipped.connected k obj hobj)
  | forget => exact ⟨equipped.connected, equipped.hand⟩
  | fail hother => exact ⟨equipped.connected, equipped.hand⟩
  | stray working hreport hnone =>
    obtain ⟨rfl, -⟩ := working.ends hbefore hreport
    exact ⟨equipped.connected, fun hhand => Hand.noConfusion hhand⟩
  | relooked hsame => exact ⟨equipped.connected, equipped.hand⟩
  | changed hobj hchanges =>
    exact ⟨equipped.connected.insert (hchanges.bev.trans (equipped.connected _ _ hobj)), equipped.hand⟩
  | rearmed hobj => exact ⟨equipped.connected, fun hhand => Hand.noConfusion hhand⟩
  | @waited h conns place k obj r working hreport =>
    refine ⟨?_, fun hhand => Hand.noConfusion hhand⟩
    cases place with
    | connecting => exact equipped.connected
    | connected =>
      rcases working.waits hbefore hreport with hsame | ⟨hplace, -⟩
      · exact equipped.connected.insert (hsame ▸ equipped.connected k obj working.found)
      · contradiction
  | failed working hreport hptr =>
    obtain ⟨rfl, -⟩ := working.ends hbefore (by simp [hreport])
    refine ⟨equipped.connected, fun hhand => ?_⟩
    split at hhand <;> contradiction
  | @outgoing h conns place k obj ptr r bev resolved ret working hreport hptr =>
    obtain ⟨rfl, -⟩ := working.ends hbefore (by simp [hreport])
    refine ⟨equipped.connected, fun hhand => ?_⟩
    split at hhand
    · obtain ⟨rfl, rfl⟩ := Hand.accepted.inj hhand
      -- The object that is moved has just been given its bufferevent.
      change (h.connecting.insert k r.obj)[k]? = some ptr at hptr
      obtain rfl : r.obj = ptr := by simpa using hptr
      have hbase := working.works.base
      rw [hreport] at hbase
      rw [hbase]
      rfl
    · contradiction
  | accepted hrunning hbind hissue hfree hsame =>
    obtain ⟨index, failures, rfl, -, -⟩ := issued_shape hissue
    refine ⟨equipped.connected, fun hhand => ?_⟩
    split at hhand
    · obtain ⟨rfl, rfl⟩ := Hand.accepted.inj hhand
      rfl
    · contradiction
  | establishedIncoming hincoming =>
    have hbev := equipped.hand rfl
    exact ⟨equipped.connected.insertIfNew (Option.isSome_map.trans hbev), fun hhand => Hand.noConfusion hhand⟩
  | establishedOutgoing houtgoing =>
    have hbev := equipped.hand rfl
    exact ⟨equipped.connected.insertIfNew (Option.isSome_map.trans hbev), fun hhand => Hand.noConfusion hhand⟩
  | ended hhand hobj hstopped hreconnect =>
    refine ⟨?_, fun hhand => ?_⟩
    · simpa [called, record] using equipped.connected.erase _
    · split at hhand <;> contradiction
  | retried hissue =>
    obtain ⟨index, failures, rfl, -, -⟩ := issued_shape hissue
    exact ⟨equipped.connected, fun hhand => Hand.noConfusion hhand⟩
  | started hsupplied hconnects hissue =>
    obtain ⟨index, failures, rfl, -, -⟩ := issued_shape hissue
    exact ⟨equipped.connected, fun hhand => Hand.noConfusion hhand⟩
  | resolveStarted hsupplied hproxy hissue =>
    obtain ⟨index, failures, rfl, -, -⟩ := issued_shape hissue
    exact ⟨equipped.connected, fun hhand => Hand.noConfusion hhand⟩
  | shutdownBegun hrunning => exact ⟨OrderedMap.All.empty, fun hhand => Hand.noConfusion hhand⟩
  | shutdownDisconnected =>
    refine ⟨?_, fun hhand => Hand.noConfusion hhand⟩
    simpa [called, record] using equipped.connected
  | shutdownDone =>
    rw [check_eq]
    exact ⟨equipped.connected, fun hhand => Hand.noConfusion hhand⟩
  | _ => exact ⟨equipped.connected, fun hhand => Hand.noConfusion hhand⟩

namespace Stage.Intact

variable {s s' : Stage}

/-- Moves keep what is known. -/
theorem moves (intact : s.Intact) (moves : Moves (fun _ => True) L s s') : s'.Intact := by
  refine ⟨Moves.sound moves intact.sound, fun hfew => ?_, fun hfew => ?_⟩
  · exact Moves.linked moves intact.sound (intact.linked (Moves.fewIds moves hfew)) hfew
  · induction moves with
    | refl => exact intact.equipped hfew
    | tail moves move ih =>
      exact move.equipped (Moves.sound moves intact.sound).objects (ih (move.fewIds hfew)) hfew

/-- So does the question of a request. -/
theorem opening {h : CConnectionHandlerInt} (intact : Stage.Intact ⟨h, .idle, []⟩) (env : Environment)
    {event : HandlerEvent} (henabled : h.enabled event = true) : (h.opening env event).Intact := by
  have hgrown : h.trace <+: (h.opening env event).handler.trace := by
    unfold CConnectionHandlerInt.opening
    split
    · exact List.prefix_append _ _
    · exact List.prefix_refl _
  have hbefore (hfew : FewIds (h.opening env event).handler.trace) : FewIds h.trace := by
    obtain ⟨items, hitems⟩ := hgrown
    rw [← hitems] at hfew
    exact hfew.of_append
  refine ⟨intact.sound.opening env henabled, fun hfew => (intact.linked (hbefore hfew)).opening env event,
    fun hfew => ?_⟩
  have equipped := intact.equipped (hbefore hfew)
  unfold CConnectionHandlerInt.opening
  split
  · exact ⟨equipped.connected, fun hhand => Hand.noConfusion hhand⟩
  · exact equipped

end Stage.Intact

section Steps

variable {h : CConnectionHandlerInt} {hand : Hand} {place : Place} {k : ConnID}

/-- The event thread is at work on a connection, or is done. -/
theorem reports_fits {effects : List ConnEffect} (hfound : h.connected[k]? ≠ none)
    (hordered : ConnEffect.Ordered effects) :
    (EventThread.reports .connected k effects).Fits h .idle := by
  cases effects with
  | nil => exact fun _ => rfl
  | cons effect effects => exact ⟨rfl, hfound, Or.inl ⟨rfl, hordered⟩⟩

/-- Calls leave what is in hand. -/
theorem EventThread.Fits.frame {h' : CConnectionHandlerInt} {thread : EventThread} (fits : thread.Fits h hand)
    (frame : Frame h h') : thread.Fits h' hand := by
  cases thread with
  | waiting =>
    obtain ⟨failures, hfailed, -⟩ := frame.failed
    refine fun hempty => fits ?_
    rw [hfailed, List.isEmpty_iff, List.append_eq_nil_iff] at hempty
    rw [hempty.1]
    rfl
  | reporting place k effects => exact ⟨fits.1, mt (frame.connected_eq_none_iff k).mp fits.2.1, fits.2.2⟩
  | cancelled place k => exact ⟨fits.1, mt (frame.connected_eq_none_iff k).mp fits.2.1, fits.2.2⟩
  | retrying moved => exact fits

/-- Moves lead from a stage to where the event thread is. -/
def ThreadedHandler.From (L : Int32 → Prop) (s : Stage) (t : ThreadedHandler) : Prop :=
  ∃ hand, t.thread.Fits t.handler hand ∧ Moves (fun _ => True) L s ⟨t.handler, hand, []⟩

/-- What is known stays known. -/
theorem ThreadedHandler.From.intact {s : Stage} {t : ThreadedHandler} (reached : t.From L s) (intact : s.Intact) :
    t.Intact := by
  obtain ⟨hand, hfits, moves⟩ := reached
  exact ⟨hand, hfits, intact.moves moves⟩

/-- A call of another thread leaves the rest alone. -/
theorem otherCall_frame (h : CConnectionHandlerInt) (c : ApiCall) : Frame h (h.otherCall c) := by
  unfold otherCall
  split
  · exact .of_fail h (Or.inl rfl)
  · exact apiCall_frame h c

/-- A method of a connection runs up to its first report. -/
theorem beginEvent_from (sound : Sound (fun _ => True) ⟨h, .idle, []⟩) (place : Place) (k : ConnID) (e : ConnEvent) :
    (h.beginEvent place k e).From L ⟨h, .idle, []⟩ := by
  unfold beginEvent
  split
  · exact ⟨.idle, fun _ => rfl, .refl⟩
  · next obj hobj =>
    split
    · next harmed =>
      obtain rfl := sound.established_of_armed hobj harmed
      split
      · exact ⟨.idle, fun _ => rfl, .single (.fail (by simp [Assertion.OfBooks]))⟩
      · next base effects hreact =>
        obtain ⟨⟨hconn, hid, hbev, hretry⟩, hordered⟩ := ConnectionBase.react_spec hreact
        refine ⟨.idle, reports_fits (by simp [put]) hordered, .single ?_⟩
        exact .changed hobj ⟨rfl, hconn, hid, hbev, fun hwaits => hretry ▸ hwaits⟩
    · exact ⟨.idle, fun _ => rfl, .refl⟩

/-- `DisconnectInt` cancels the events. -/
theorem cancelEvents_from {obj : ConnectionObject} (hhand : hand = .idle ∨ hand = .closing k)
    (hobj : h.connected[k]? = some obj) : (h.cancelEvents .connected k obj).From L ⟨h, hand, []⟩ := by
  unfold cancelEvents
  split
  · refine ⟨hand, ⟨rfl, by simp [put], hhand⟩, .single (.changed hobj ?_)⟩
    exact ⟨rfl, rfl, rfl, Option.isSome_map, fun h => absurd h Bool.false_ne_true⟩
  · refine ⟨hand, fun hempty => ?_, .single (.fail (by simp [Assertion.OfBooks]))⟩
    simp [CConnectionHandlerInt.fail] at hempty

/-- `OnDisconnected` takes a connection out of the map. If it is kept for another attempt it must be stopped. -/
theorem removeConnected_from (env : Environment) {obj : ConnectionObject} (hhand : hand = .idle ∨ hand = .closing k)
    (hobj : h.connected[k]? = some obj) (hid : obj.base.id = k)
    (hstopped : h.keeps env obj = true → obj.base.Stopped) :
    (h.removeConnected env k (obj.base.conn.opts.fPersistent && obj.isOutgoing)).From L ⟨h, hand, []⟩ := by
  generalize hreconnect : (obj.base.conn.opts.fPersistent && obj.isOutgoing && !h.isShutdown) = reconnect
  generalize hremoved : { h with connected := h.connected.erase k }.count obj.isOutgoing (-1) = removed
  obtain ⟨ret, h', hcall, frame⟩ := callUser_frame removed env obj.base.conn (.onDisconnected k reconnect)
  have hanswer : env.answer removed.trace (.onDisconnected k reconnect) = ret := congrArg Prod.fst hcall
  have htrace : removed.trace = h.trace := by rw [← hremoved, count_trace]
  simp only [removeConnected, hobj, hreconnect, hremoved, hcall]
  refine ⟨if reconnect && ret then .retrying obj else .idle, ?_, ?_⟩
  · split
    · rfl
    · exact fun _ => rfl
  · have hended : Move (fun _ => True) L ⟨h, hand, []⟩
      ⟨removed.called (.onDisconnected k reconnect) ret obj.base.conn,
        if reconnect && ret then .retrying obj else .idle, []⟩ := by
      rw [← hremoved]
      refine .ended hhand hobj (fun hkept => hstopped ?_) hreconnect.symm
      obtain ⟨rfl, rfl⟩ := Bool.and_eq_true_iff.mp hkept
      rw [keeps, hreconnect, hid, ← htrace, hanswer]
      rfl
    exact .tail (.single hended) (.user frame)

/-- The event thread goes on, and keeps no connection with an event armed. -/
theorem proceed_from (env : Environment) {thread : EventThread} (fits : thread.Fits h hand)
    (sound : Sound (fun _ => True) ⟨h, hand, []⟩)
    (hstopped : ∀ place k obj, thread = .cancelled place k → (h.objects place)[k]? = some obj →
      h.keeps env obj = true → obj.base.Stopped) :
    (ThreadedHandler.proceed env ⟨h, thread⟩).From L ⟨h, hand, []⟩ := by
  cases thread with
  | waiting => exact ⟨hand, fits, .refl⟩
  | retrying moved =>
    obtain rfl : hand = .retrying moved := fits
    exact ⟨.idle, fun _ => rfl, .single (retryConnecting_move h moved [])⟩
  | cancelled place k =>
    obtain ⟨rfl, hfound, hhand⟩ := fits
    obtain ⟨obj, hobj⟩ := Option.ne_none_iff_exists'.mp hfound
    have hid := (sound.objects.connected k obj hobj).id
    have hobjects : (h.objects .connected)[k]? = some obj := hobj
    simp only [ThreadedHandler.proceed, hobjects, hid]
    exact removeConnected_from env hhand hobj hid (hstopped .connected k obj rfl hobj)
  | reporting place k effects =>
    obtain ⟨rfl, hfound, heffects⟩ := fits
    obtain ⟨obj, hobj⟩ := Option.ne_none_iff_exists'.mp hfound
    have hobjects : (h.objects .connected)[k]? = some obj := hobj
    rcases heffects with ⟨rfl, notices, ending, rfl, hnotices, hending⟩ | ⟨rfl, rfl⟩
    · cases notices with
      | cons notice notices =>
        have hnotice := hnotices notice List.mem_cons_self
        obtain ⟨items, frame⟩ := performEffect_frame env .connected k hnotice.2 h
        simp only [List.cons_append, ThreadedHandler.proceed, hobjects, if_neg hnotice.2]
        refine ⟨.idle, reports_fits (mt (frame.connected_eq_none_iff k).mp hfound)
          ⟨notices, ending, rfl, fun effect heffect => hnotices effect (List.mem_cons_of_mem _ heffect), hending⟩, ?_⟩
        exact notice_leads env hnotice sound
      | nil =>
        rcases hending with rfl | rfl | rfl
        · exact ⟨.idle, fun _ => rfl, .refl⟩
        · simp only [List.nil_append, ThreadedHandler.proceed, hobjects, if_true]
          exact cancelEvents_from (Or.inl rfl) hobj
        · have hid := (sound.objects.connected k obj hobj).id
          obtain ⟨ret, h', hcall, frame⟩ := callUser_frame h env obj.base.conn (.onMalformedMessage k)
          have hperform : h.performEffect env .connected k .onMalformedMessage = h' := by
            simp only [performEffect, hobjects, effectCallback, hid, hcall]
            rfl
          simp only [List.nil_append, ThreadedHandler.proceed, hobjects, hperform]
          refine ⟨.closing k, ⟨rfl, mt (frame.connected_eq_none_iff k).mp hfound, Or.inr ⟨rfl, rfl⟩⟩, ?_⟩
          exact .tail (.single (.malformed hobj)) (.user frame)
    · simp only [ThreadedHandler.proceed, hobjects, if_true]
      exact cancelEvents_from (Or.inr rfl) hobj

/-- A step keeps what is known, if the event thread keeps no connection with an event armed. -/
theorem step_intact {t : ThreadedHandler} (intact : t.Intact) {input : ThreadedInput}
    (hstopped : t.KeepsStopped input) :
    (t.step input).Intact := by
  obtain ⟨hand, hfits, hstage⟩ := intact
  obtain ⟨h, thread⟩ := t
  unfold ThreadedHandler.step
  split
  · next hempty =>
    cases input with
    | other c =>
      have frame := otherCall_frame h c
      have moves : Moves (fun _ => True) (fun _ => True) ⟨h, hand, []⟩ ⟨h.otherCall c, hand, []⟩ :=
        .single (.user frame)
      exact ⟨hand, hfits.frame frame, hstage.moves moves⟩
    | event input =>
      simp only
      split
      · next henabled =>
        obtain ⟨rfl, henabled⟩ := henabled
        obtain rfl : hand = .idle := hfits hempty
        obtain ⟨event, env⟩ := input
        have hreact : Moves (fun _ => True) (fun _ => True) (h.opening env event) ⟨h.react env event, .idle, []⟩ :=
          @react_moves _ _ h ⟨event, env⟩ ⟨fun _ _ _ _ => trivial, fun _ _ => trivial⟩ hstage.sound henabled
        unfold ThreadedHandler.take
        cases event with
        | connection place k e =>
          have hreached : (h.beginEvent place k e).From (fun _ => True) ⟨h, .idle, []⟩ :=
            beginEvent_from hstage.sound place k e
          exact hreached.intact hstage
        | _ => exact ⟨.idle, fun _ => rfl, (hstage.opening env henabled).moves hreact⟩
      · exact ⟨hand, hfits, hstage⟩
    | proceed env =>
      have hreached : (ThreadedHandler.proceed env ⟨h, thread⟩).From (fun _ => True) ⟨h, hand, []⟩ := by
        refine proceed_from env hfits hstage.sound fun place k obj hthread hobj => ?_
        subst hthread
        exact hstopped obj hobj
      exact hreached.intact hstage
  · exact ⟨hand, hfits, hstage⟩

/-- A new handler has nothing in hand. -/
theorem new_intact : ThreadedHandler.new.Intact := by
  refine ⟨.idle, fun _ => rfl, sound_new, fun hfew => run_linked [] hfew,
    fun _ => ⟨OrderedMap.All.empty, fun hhand => ?_⟩⟩
  exact Hand.noConfusion hhand

/-- So does a run. -/
theorem run_intact {t : ThreadedHandler} (intact : t.Intact) (inputs : List ThreadedInput)
    (hstopped : t.KeptStopped inputs) : (inputs.foldl ThreadedHandler.step t).Intact := by
  induction inputs generalizing t with
  | nil => exact intact
  | cons input inputs ih => exact ih (step_intact intact hstopped.1) hstopped.2

end Steps

section Interruptions

/-- The calls that arm an event of a connection. -/
def ApiCall.arms (k : ConnID) : ApiCall → Bool
  | .closeConnection id _ => id == k
  | .send id _ => id == k
  | .resetPingTimeout id seconds => id == k && seconds != 0
  | _ => false

namespace ThreadedHandler

/-- Another thread arms an event of the connection that the event thread is about to remove. -/
def Interrupts (t : ThreadedHandler) (input : ThreadedInput) : Prop :=
  match input, t.thread with
  | .other c, .cancelled _ k => c.arms k = true
  | _, _ => False

/-- No other thread does so in a run. -/
def Uninterrupted (t : ThreadedHandler) : List ThreadedInput → Prop
  | [] => True
  | input :: inputs => ¬t.Interrupts input ∧ (t.step input).Uninterrupted inputs

/-- A connection whose events have been cancelled is stopped. -/
def Stops (t : ThreadedHandler) : Prop :=
  ∀ (place : Place) (k : ConnID) (obj : ConnectionObject), t.thread = .cancelled place k →
    (t.handler.objects place)[k]? = some obj → obj.base.Stopped

end ThreadedHandler

variable {h : CConnectionHandlerInt} {k : ConnID}

/-- A call that arms no event of a connection leaves it stopped. -/
theorem connectionCall_stopped {id : ConnID} {c : ConnCall}
    (hstopped : ∀ obj, h.connected[k]? = some obj → obj.base.Stopped)
    (hcall : ∀ base base' : ConnectionBase, id = k → base.call c = some base' → base.Stopped → base'.Stopped) :
    ∀ obj, (h.connectionCall id c).connected[k]? = some obj → obj.base.Stopped := by
  intro obj hobj
  unfold connectionCall at hobj
  split at hobj
  · split at hobj
    · exact hstopped obj hobj
    · next found hfound =>
      split at hobj
      · exact hstopped obj hobj
      · next base hbase =>
        change (h.connected.insert id { found with base })[k]? = some obj at hobj
        rw [OrderedMap.getElem?_insert] at hobj
        split at hobj
        · next heq =>
          obtain rfl := Option.some.inj hobj
          exact hcall found.base base heq hbase (hstopped found (heq ▸ hfound))
        · exact hstopped obj hobj
  · exact hstopped obj hobj

/-- So does any other call. -/
theorem otherCall_stopped {c : ApiCall} (hstopped : ∀ obj, h.connected[k]? = some obj → obj.base.Stopped)
    (harms : ¬c.arms k = true) : ∀ obj, (h.otherCall c).connected[k]? = some obj → obj.base.Stopped := by
  have hrecv (on : Bool) (base base' : ConnectionBase) (hcall : base.setRecv on = some base')
    (stopped : base.Stopped) :
      base'.Stopped := by
    obtain ⟨bev, -, rfl⟩ := Option.map_eq_some_iff.mp hcall
    exact ⟨stopped.1, stopped.2, stopped.3, stopped.4, stopped.5⟩
  cases c with
  | closeConnection id immediately =>
    refine connectionCall_stopped hstopped fun _ _ heq => absurd ?_ harms
    simpa [ApiCall.arms] using heq
  | send id size =>
    refine connectionCall_stopped hstopped fun _ _ heq => absurd ?_ harms
    simpa [ApiCall.arms] using heq
  | resetPingTimeout id seconds =>
    refine connectionCall_stopped hstopped fun base base' heq hcall stopped => ?_
    obtain rfl := Option.some.inj hcall
    refine ⟨stopped.1, stopped.2, stopped.3, ?_, stopped.5⟩
    by_contra hseconds
    exact harms (by simpa [ApiCall.arms, heq, ConnectionBase.resetPingTimeout] using hseconds)
  | setRateLimit id =>
    refine connectionCall_stopped hstopped fun base base' _ hcall stopped => ?_
    change (if base.bev.isSome then some base else none) = some base' at hcall
    split at hcall
    · exact Option.some.inj hcall ▸ stopped
    · contradiction
  | pauseRecv id => exact connectionCall_stopped hstopped fun base base' _ hcall => hrecv false base base' hcall
  | unpauseRecv id => exact connectionCall_stopped hstopped fun base base' _ hcall => hrecv true base base' hcall
  | bind conn listens => exact hstopped
  | shutdown =>
    change ∀ obj, h.shutdown.connected[k]? = some obj → _
    unfold shutdown
    split
    · exact hstopped
    · exact hstopped

/-- A method that makes its reports has cancelled nothing yet. -/
theorem reports_ne_cancelled (place place' : Place) (k k' : ConnID) (effects : List ConnEffect) :
    EventThread.reports place k effects ≠ .cancelled place' k' := by
  cases effects <;> simp [EventThread.reports]

/-- Nor has a method that has just run. -/
theorem beginEvent_ne_cancelled (h : CConnectionHandlerInt) (place place' : Place) (k k' : ConnID) (e : ConnEvent) :
    (h.beginEvent place k e).thread ≠ .cancelled place' k' := by
  unfold beginEvent
  split
  · simp
  · split
    · split
      · simp
      · exact reports_ne_cancelled place place' k k' _
    · simp

/-- The event thread leaves a connection stopped when it has cancelled its events. -/
theorem proceed_stops {t : ThreadedHandler} (stops : t.Stops) (env : Environment) : (t.proceed env).Stops := by
  have hother {t' : ThreadedHandler} (hthread : ∀ place k, t'.thread ≠ .cancelled place k) : t'.Stops :=
    fun place k _ heq => absurd heq (hthread place k)
  obtain ⟨h, thread⟩ := t
  cases thread with
  | waiting => exact stops
  | retrying moved => exact hother (by simp [ThreadedHandler.proceed])
  | cancelled place k =>
    refine hother fun place' k' => ?_
    simp only [ThreadedHandler.proceed]
    split
    · simp
    · simp only [removeConnected]
      split
      · simp
      · simp only
        split <;> simp
  | reporting place k effects =>
    cases effects with
    | nil => exact hother (by simp [ThreadedHandler.proceed])
    | cons effect effects =>
      simp only [ThreadedHandler.proceed]
      split
      · exact hother (by simp)
      · next obj hobj =>
        split
        · unfold cancelEvents
          split
          · intro place' k' found hthread hfound
            obtain ⟨rfl, rfl⟩ := EventThread.cancelled.inj hthread
            have hput := objects_put h place k { obj with base := obj.base.disconnectInt }
            obtain rfl := Option.some.inj (hput.symm.trans hfound)
            exact ConnectionBase.disconnectInt_stopped obj.base
          · exact hother (by simp)
        · exact hother fun place' k' => reports_ne_cancelled place place' k k' effects

/-- A step that no other thread interrupts leaves a connection stopped whose events have been cancelled. -/
theorem step_stops {t : ThreadedHandler} (stops : t.Stops) {input : ThreadedInput}
    (hinterrupts : ¬t.Interrupts input) :
    (t.step input).Stops := by
  obtain ⟨h, thread⟩ := t
  unfold ThreadedHandler.step
  split
  · cases input with
    | proceed env => exact proceed_stops stops env
    | event input =>
      simp only
      split
      · next hwaiting =>
        obtain ⟨event, env⟩ := input
        intro place k obj hthread
        unfold ThreadedHandler.take at hthread
        split at hthread
        · exact absurd hthread (beginEvent_ne_cancelled h _ place _ k _)
        · contradiction
      · exact stops
    | other c =>
      intro place k obj hthread hobj
      have hthread : thread = .cancelled place k := hthread
      subst hthread
      have hbefore := fun found => stops place k found rfl
      cases place with
      | connecting =>
        change (h.otherCall c).connecting[k]? = some obj at hobj
        rw [(otherCall_frame h c).connecting] at hobj
        exact hbefore obj hobj
      | connected => exact otherCall_stopped hbefore hinterrupts obj hobj
  · exact stops

/-- Where no other thread arms an event between the cancels and the removal, no connection is kept with an event
armed. -/
theorem keptStopped_of_uninterrupted {t : ThreadedHandler} (stops : t.Stops) (inputs : List ThreadedInput)
    (huninterrupted : t.Uninterrupted inputs) : t.KeptStopped inputs := by
  induction inputs generalizing t with
  | nil => trivial
  | cons input inputs ih =>
    refine ⟨?_, ih (step_stops stops huninterrupted.1) huninterrupted.2⟩
    unfold ThreadedHandler.KeepsStopped
    split
    · next env place k hthread => exact fun obj hobj _ => stops place k obj hthread hobj
    · trivial

end Interruptions

/-- An open phase is reached from an open one, or by an acceptance. -/
theorem Phase.of_next {q p : Phase} {c : Callback × Bool} (hnext : q.next c = some p) (hopen : p ≠ .ended) :
    (q ≠ .unknown ∧ q ≠ .ended) ∨ ∃ id conn resolved, c = (.onOutgoingConnection id conn resolved, true) ∨
      c = (.onIncomingConnection id conn resolved, true) := by
  unfold Phase.next at hnext
  split at hnext
  · exact Or.inr ⟨_, _, _, Or.inl rfl⟩
  · exact absurd (Option.some.inj hnext).symm hopen
  · exact Or.inr ⟨_, _, _, Or.inr rfl⟩
  · exact absurd (Option.some.inj hnext).symm hopen
  · exact Or.inl ⟨by simp, by simp⟩
  · exact Or.inl ⟨by simp, by simp⟩
  · exact Or.inl ⟨by simp, by simp⟩
  · exact Or.inl ⟨by simp, by simp⟩
  · exact Or.inl ⟨by simp, by simp⟩
  · exact Or.inl ⟨by simp, by simp⟩
  · exact Or.inl ⟨by simp, by simp⟩
  · exact Or.inl ⟨by simp, by simp⟩
  · exact Or.inl ⟨by simp, by simp⟩
  · exact Or.inl ⟨by simp, by simp⟩
  · contradiction

/-- An id in an open phase has been accepted. -/
theorem accepted_of_phase {id : ConnID} {t : Trace} {p : Phase} (hphase : phase id t = some p) (hknown : p ≠ .unknown)
    (hopen : p ≠ .ended) : Accepted id t := by
  have hfold (cs : List (Callback × Bool)) (hmentions : ∀ c ∈ cs, c ∈ callbacks t ∧ c.1.id? = some id) (q : Phase)
      (hq : cs.foldlM Phase.next q = some p) : (q ≠ .unknown ∧ q ≠ .ended) ∨ Accepted id t := by
    induction cs generalizing q with
    | nil =>
      obtain rfl : q = p := Option.some.inj hq
      exact Or.inl ⟨hknown, hopen⟩
    | cons c cs ih =>
      rw [List.foldlM_cons] at hq
      obtain ⟨next, hnext, hq⟩ := Option.bind_eq_some_iff.mp hq
      rcases ih (fun other hother => hmentions other (List.mem_cons_of_mem _ hother)) next hq with hne | haccepted
      · obtain ⟨hmem, hid⟩ := hmentions c List.mem_cons_self
        refine (Phase.of_next hnext hne.2).imp_right fun haccepts => ?_
        obtain ⟨found, conn, resolved, rfl | rfl⟩ := haccepts
        · obtain rfl : found = id := Option.some.inj hid
          exact ⟨conn, resolved, Or.inl hmem⟩
        · obtain rfl : found = id := Option.some.inj hid
          exact ⟨conn, resolved, Or.inr hmem⟩
      · exact Or.inr haccepted
  have hmentions (c : Callback × Bool) (hc : c ∈ mentions id t) : c ∈ callbacks t ∧ c.1.id? = some id := by
    obtain ⟨hmem, hid⟩ := List.mem_filter.mp hc
    exact ⟨hmem, by simpa using hid⟩
  exact (hfold (mentions id t) hmentions .unknown hphase).resolve_left fun hne => hne.1 rfl

/-- A ping timeout is reported for an accepted id where the callbacks follow the protocol. -/
theorem accepted_of_pingTimeout {id : ConnID} {before after : Trace} {answer : Bool} {about : Option CConnection}
    (hphase : phase id (before ++ .callback (.onPingTimeout id) answer about :: after) ≠ none) :
      Accepted id before := by
  rw [← List.singleton_append, phase_append] at hphase
  obtain ⟨p', hp'⟩ := Option.ne_none_iff_exists'.mp hphase
  obtain ⟨p, hp, hrest⟩ := Option.bind_eq_some_iff.mp hp'
  rw [mentions_append, mentions_one rfl, if_pos rfl, List.singleton_append, List.foldlM_cons] at hrest
  obtain ⟨next, hnext, -⟩ := Option.bind_eq_some_iff.mp hrest
  cases p with
  | established => exact accepted_of_phase hp (by simp) (by simp)
  | _ => contradiction

/-- An event that a call arms has a reaction where there is a bufferevent. -/
theorem ConnEvent.OfCalls.react_ne_none {e : ConnEvent} (hcalls : e.OfCalls) {base : ConnectionBase}
    (hbev : base.bev.isSome = true) : base.react e ≠ none := by
  obtain ⟨bev, hbev⟩ := Option.isSome_iff_exists.mp hbev
  rcases hcalls with rfl | rfl | rfl | rfl
  · simp [ConnectionBase.react]
  · simp [ConnectionBase.react, ConnectionBase.disconnectWhenFinishedInt, hbev]
  · simp [ConnectionBase.react, ConnectionBase.checkWriteBufferInt, hbev]
  · simp [ConnectionBase.react]

/-- What is known of the handler leaves no event stale. -/
theorem ThreadedHandler.Intact.noStaleEvent {t : ThreadedHandler} (intact : t.Intact)
    (hfew : FewIds t.handler.trace) :
    NoStaleEvent t := by
  obtain ⟨hand, hfits, sound, hlinked, hequipped⟩ := intact
  have equipped := hequipped hfew
  have hholds (k : ConnID) (obj : ConnectionObject) (hobj : t.handler.connected[k]? = some obj) :
    t.handler.Holds obj := by
    refine ⟨?_, equipped.connected k obj hobj⟩
    rw [(sound.objects.connected k obj hobj).id]
    exact hobj
  constructor
  · intro _ place k obj e hobj hcalls harmed
    obtain rfl := sound.established_of_armed hobj harmed
    exact ⟨hholds k obj hobj, hcalls.react_ne_none (equipped.connected k obj hobj)⟩
  · intro place k hat
    have hfound : place = .connected ∧ t.handler.connected[k]? ≠ none := by
      obtain ⟨h, thread⟩ := t
      cases thread with
      | waiting => contradiction
      | retrying moved => contradiction
      | reporting place' k' effects =>
        obtain ⟨rfl, rfl⟩ := Prod.mk.inj (Option.some.inj hat)
        exact ⟨hfits.1, hfits.2.1⟩
      | cancelled place' k' =>
        obtain ⟨rfl, rfl⟩ := Prod.mk.inj (Option.some.inj hat)
        exact ⟨hfits.1, hfits.2.1⟩
    obtain ⟨rfl, hfound⟩ := hfound
    obtain ⟨obj, hobj⟩ := Option.ne_none_iff_exists'.mp hfound
    exact ⟨obj, hobj, hholds k obj hobj⟩
  · exact fun hmem => (sound.books hfew).failed _ hmem (by simp [Assertion.OfBooks])
  · intro before after id answer about htrace
    refine @accepted_of_pingTimeout id before after answer about ?_
    rw [← htrace]
    cases (hlinked hfew).agrees id with
    | kept hunderway hphase hconnecting hissued => simp [hphase]
    | unknown hunderway hphase => simp [hphase]
    | ended hunderway hphase hconnecting hissued => simp [hphase]

/-- No event is stale when no other thread arms one of a connection that is about to be removed. -/
theorem noStaleEvent_of_uninterrupted (inputs : List ThreadedInput)
    (hcalm : ThreadedHandler.new.Uninterrupted inputs) (hfew : FewIds (ThreadedHandler.run inputs).handler.trace) :
    NoStaleEvent (ThreadedHandler.run inputs) := by
  have stops : ThreadedHandler.new.Stops := fun place k obj hthread => absurd hthread (by simp [ThreadedHandler.new])
  exact (run_intact new_intact inputs (keptStopped_of_uninterrupted stops inputs hcalm)).noStaleEvent hfew

/-- No event is stale in any run of the threads that keeps no connection for another attempt with an event armed, while
fewer than 2^63 ids have been issued. -/
theorem run_noStaleEvent (inputs : List ThreadedInput) (hstopped : ThreadedHandler.new.KeptStopped inputs)
    (hfew : FewIds (ThreadedHandler.run inputs).handler.trace) : NoStaleEvent (ThreadedHandler.run inputs) :=
  (run_intact new_intact inputs hstopped).noStaleEvent hfew

/-- A persistent connection that another thread closes. A second call comes before the event thread cancels its events,
and others after the removal and after the new attempt. -/
def closedByOther : List ThreadedInput :=
  [.event ⟨.start 8, .accepting [] .later⟩, .event ⟨.requestEvent, .accepting [localPeer true] .later⟩,
    .event ⟨.connEvent .connecting 0 ⟨false, false, false, true⟩, .accepting [] .later⟩,
      .other (.closeConnection 0 true),
    .event ⟨.connection .connected 0 .disconnectFunc, .accepting [] .later⟩, .other (.resetPingTimeout 0 30),
    .proceed (.accepting [] .later), .proceed (.accepting [] .later), .other (.send 0 1),
    .proceed (.accepting [] .later), .other (.closeConnection 1 false)]

/-- They are in time, or too late. -/
theorem run_noStaleEvent_inTime : ThreadedHandler.new.KeptStopped closedByOther ∧
    FewIds (ThreadedHandler.run closedByOther).handler.trace ∧ NoStaleEvent (ThreadedHandler.run closedByOther) := by
  have hstopped : ThreadedHandler.new.KeptStopped closedByOther := by decide +kernel
  have hfew : FewIds (ThreadedHandler.run closedByOther).handler.trace := by decide +kernel
  exact ⟨hstopped, hfew, run_noStaleEvent closedByOther hstopped hfew⟩

/-- The same connection, but the second call comes after its events have been cancelled and before it is removed. -/
def closedTwice : List ThreadedInput :=
  [.event ⟨.start 8, .accepting [] .later⟩, .event ⟨.requestEvent, .accepting [localPeer true] .later⟩,
    .event ⟨.connEvent .connecting 0 ⟨false, false, false, true⟩, .accepting [] .later⟩,
      .other (.closeConnection 0 true),
    .event ⟨.connection .connected 0 .disconnectFunc, .accepting [] .later⟩, .proceed (.accepting [] .later),
    .other (.closeConnection 0 true), .proceed (.accepting [] .later), .proceed (.accepting [] .later)]

/-- The new attempt is left with a disconnect event that is armed. -/
theorem run_noStaleEvent_late : ¬∀ inputs : List ThreadedInput,
    FewIds (ThreadedHandler.run inputs).handler.trace → NoStaleEvent (ThreadedHandler.run inputs) := by
  intro hclaim
  have hstale := hclaim closedTwice (by decide +kernel)
  have hfound : ((ThreadedHandler.run closedTwice).handler.connecting[(1 : ConnID)]?.any fun obj =>
      obj.base.disconnectFunc && (ThreadedHandler.run closedTwice).handler.connected[obj.base.id]?.isNone) =
        true := by
    decide +kernel
  obtain ⟨obj, hobj, harmed⟩ := (Option.any_eq_true _ _).mp hfound
  obtain ⟨harmed, hnone⟩ := Bool.and_eq_true_iff.mp harmed
  have hwaiting : (ThreadedHandler.run closedTwice).thread = .waiting := by decide +kernel
  obtain ⟨⟨hconnected, -⟩, -⟩ := hstale.runs hwaiting .connecting 1 obj .disconnectFunc hobj (Or.inl rfl) harmed
  rw [hconnected] at hnone
  contradiction

end LibBtcNet
