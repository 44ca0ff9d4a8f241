import LibBtcNet.Handler
import Mathlib.Data.List.Nodup

/-!
# What the user's code leaves alone

A callback may call any public method. Whatever it calls, the connections under way, the
requests and the counters stay, an established connection stays the same connection, and
nothing happens but ids issued to listeners and listeners that fail.
-/

namespace LibBtcNet

/-- The id that a callback mentions. -/
def Callback.id? : Callback → Option ConnID
  | .onOutgoingConnection id _ _ => some id
  | .onIncomingConnection id _ _ => some id
  | .onDisconnected id _ => some id
  | .onReadyForFirstSend id => some id
  | .onReceiveMessages id _ _ => some id
  | .onMalformedMessage id => some id
  | .onWriteBufferFull id _ => some id
  | .onWriteBufferReady id _ => some id
  | .onBytesRead id _ _ => some id
  | .onBytesWritten id _ _ => some id
  | .onPingTimeout id => some id
  | _ => none

/-- The id of an item that issues one. -/
def TraceItem.issued? : TraceItem → Option ConnID
  | .issued id => some id
  | _ => none

/-- The callback of an item. -/
def TraceItem.callback? : TraceItem → Option (Callback × Bool)
  | .callback c answer _ => some (c, answer)
  | _ => none

/-- The ids issued, in order. -/
def issued (t : Trace) : List ConnID := t.filterMap TraceItem.issued?

/-- The callbacks with their answers, in order. -/
def callbacks (t : Trace) : List (Callback × Bool) := t.filterMap TraceItem.callback?

/-- The callbacks that mention an id. -/
def mentions (id : ConnID) (t : Trace) : List (Callback × Bool) :=
  (callbacks t).filter fun c => c.1.id? == some id

/-- Later ids follow earlier ones. -/
@[simp] theorem issued_append (t items : Trace) : issued (t ++ items) = issued t ++ issued items :=
  List.filterMap_append

/-- Later callbacks follow earlier ones. -/
@[simp] theorem callbacks_append (t items : Trace) : callbacks (t ++ items) = callbacks t ++ callbacks items :=
  List.filterMap_append

/-- Later callbacks about an id follow earlier ones. -/
@[simp] theorem mentions_append (id : ConnID) (t items : Trace) :
    mentions id (t ++ items) = mentions id t ++ mentions id items := by
  simp [mentions]

/-- The items that the user's calls leave behind. -/
def TraceItem.Quiet : TraceItem → Prop
  | .issued _ => True
  | .callback (.onBindFailure _) _ _ => True
  | _ => False

/-- Such items mention no id. -/
theorem mentions_of_quiet {items : Trace} (hquiet : ∀ item ∈ items, item.Quiet) (id : ConnID) :
    mentions id items = [] := by
  rw [mentions, List.filter_eq_nil_iff]
  intro c hc
  obtain ⟨item, hitem, hcallback⟩ := List.mem_filterMap.mp hc
  have hitem := hquiet item hitem
  unfold TraceItem.Quiet at hitem
  split at hitem
  · simp [TraceItem.callback?] at hcallback
  · obtain rfl : _ = c := Option.some.inj hcallback
    simp [Callback.id?]
  · contradiction

/-- The id issued after a number of others: the largest is followed by zero. -/
def idAt (i : ℕ) : ConnID := (i : ℤ) % 2 ^ 63

/-- The first ids are the numbers themselves. -/
theorem idAt_of_lt {i : ℕ} (hlt : i < 2 ^ 63) : idAt i = i :=
  Int.emod_eq_of_lt (by omega) (by omega)

/-- The next id. -/
theorem idAt_succ (i : ℕ) : idAt (i + 1) = if idAt i = 2 ^ 63 - 1 then 0 else idAt i + 1 := by
  have hsucc : ((i + 1 : ℕ) : ℤ) % 2 ^ 63 = if (i : ℤ) % 2 ^ 63 = 2 ^ 63 - 1 then 0 else (i : ℤ) % 2 ^ 63 + 1 := by
    split <;> omega
  exact hsucc

/-- The ids are issued in order, up to the index. -/
structure Numbered (t : Trace) (index : ConnID) : Prop where
  ids : issued t = (List.range (issued t).length).map idAt
  index : index = idAt (issued t).length

/-- Fewer ids have been issued than there are. -/
def FewIds (t : Trace) : Prop := (issued t).length < 2 ^ 63

/-- Which is decidable. -/
instance (t : Trace) : Decidable (FewIds t) := inferInstanceAs (Decidable ((issued t).length < 2 ^ 63))

/-- Few ids at the end are few before. -/
theorem FewIds.of_append {t items : Trace} (hfew : FewIds (t ++ items)) : FewIds t := by
  rw [FewIds, issued_append, List.length_append] at hfew
  exact lt_of_le_of_lt (Nat.le_add_right _ _) hfew

/-- Where nothing is issued, the numbering stays. -/
theorem Numbered.append {t items : Trace} {index : ConnID} (hnumbered : Numbered t index)
    (hissued : issued items = []) : Numbered (t ++ items) index := by
  constructor
  · rw [issued_append, hissued, List.append_nil]
    exact hnumbered.ids
  · rw [issued_append, hissued, List.append_nil]
    exact hnumbered.index

/-- As long as few ids are issued, none is issued twice. -/
theorem Numbered.nodup {t : Trace} {index : ConnID} (hnumbered : Numbered t index) (hfew : FewIds t) :
    (issued t).Nodup := by
  rw [hnumbered.ids]
  refine List.Nodup.map_on (fun i hi j hj heq => ?_) List.nodup_range
  rw [List.mem_range] at hi hj
  rw [idAt_of_lt (hi.trans hfew), idAt_of_lt (hj.trans hfew)] at heq
  exact Int.ofNat_inj.mp heq

/-- What happened stays, and the ids go on in order. -/
structure Grows (h h' : CConnectionHandlerInt) : Prop where
  trace : ∃ items, h'.trace = h.trace ++ items
  numbered : Numbered h.trace h.connectionIndex → Numbered h'.trace h'.connectionIndex

/-- Nothing happened. -/
theorem Grows.refl (h : CConnectionHandlerInt) : Grows h h := ⟨⟨[], by simp⟩, id⟩

/-- One after the other. -/
theorem Grows.trans {h h' h'' : CConnectionHandlerInt} (first : Grows h h') (second : Grows h' h'') :
    Grows h h'' := by
  obtain ⟨items, hitems⟩ := first.trace
  obtain ⟨later, hlater⟩ := second.trace
  refine ⟨⟨items ++ later, ?_⟩, fun hnumbered => second.numbered (first.numbered hnumbered)⟩
  rw [hlater, hitems, List.append_assoc]

/-- Few ids at the end are few before. -/
theorem Grows.fewIds {h h' : CConnectionHandlerInt} (hgrows : Grows h h') (hfew : FewIds h'.trace) :
    FewIds h.trace := by
  obtain ⟨items, hitems⟩ := hgrows.trace
  rw [hitems] at hfew
  exact hfew.of_append

/-- A connection after calls of the user: it is the same one. -/
structure ConnectionObject.Called (obj obj' : ConnectionObject) : Prop where
  kind : obj'.kind = obj.kind
  conn : obj'.base.conn = obj.base.conn
  id : obj'.base.id = obj.base.id
  bev : obj'.base.bev.isSome = obj.base.bev.isSome
  reconnectFunc : obj'.base.reconnectFunc = obj.base.reconnectFunc

namespace ConnectionObject

/-- Without a call. -/
theorem Called.refl (obj : ConnectionObject) : obj.Called obj := ⟨rfl, rfl, rfl, rfl, rfl⟩

/-- Call after call. -/
theorem Called.trans {obj obj' obj'' : ConnectionObject} (first : obj.Called obj') (second : obj'.Called obj'') :
    obj.Called obj'' :=
  ⟨second.kind.trans first.kind, second.conn.trans first.conn, second.id.trans first.id,
    second.bev.trans first.bev, second.reconnectFunc.trans first.reconnectFunc⟩

/-- One call. -/
theorem called_of_call {obj : ConnectionObject} {base : ConnectionBase} {c : ConnCall}
    (hcall : obj.base.call c = some base) : obj.Called { obj with base } := by
  cases ConnectionBase.calls_of_call hcall with
  | disconnect => exact ⟨rfl, rfl, rfl, rfl, rfl⟩
  | disconnectWhenFinished => exact ⟨rfl, rfl, rfl, rfl, rfl⟩
  | write size hbev => exact ⟨rfl, rfl, rfl, by rw [hbev]; rfl, rfl⟩
  | pauseRecv hbev => exact ⟨rfl, rfl, rfl, by rw [hbev]; rfl, rfl⟩
  | unpauseRecv hbev => exact ⟨rfl, rfl, rfl, by rw [hbev]; rfl, rfl⟩
  | setRateLimit => exact Called.refl obj
  | resetPingTimeout seconds => exact ⟨rfl, rfl, rfl, rfl, rfl⟩

end ConnectionObject

/-- The assertions that a call of the user can fail. -/
def Assertion.OfCalls (assertion : Assertion) : Prop :=
  assertion = .bind ∨ assertion = .shutdown ∨ assertion = .getNextConnectionIndex ∨ assertion = .connection

/-- What calls of the user leave alone. -/
structure Frame (h h' : CConnectionHandlerInt) : Prop where
  connecting : h'.connecting = h.connecting
  dnsResolves : h'.dnsResolves = h.dnsResolves
  outgoingConnCount : h'.outgoingConnCount = h.outgoingConnCount
  incomingConnCount : h'.incomingConnCount = h.incomingConnCount
  outgoingConnLimit : h'.outgoingConnLimit = h.outgoingConnLimit
  isShutdown : h'.isShutdown = h.isShutdown
  eventBase : h'.eventBase = h.eventBase
  shutdownEvent : h'.shutdownEvent.isSome = h.shutdownEvent.isSome
  called : ∀ (k : ConnID) (obj' : ConnectionObject), h'.connected[k]? = some obj' →
    ∃ obj, h.connected[k]? = some obj ∧ obj.Called obj'
  kept : ∀ (k : ConnID) (obj : ConnectionObject), h.connected[k]? = some obj →
    ∃ obj', h'.connected[k]? = some obj' ∧ obj.Called obj'
  count : ∀ p : ConnKind → Bool, OrderedMap.countValues (fun obj : ConnectionObject => p obj.kind) h'.connected =
    OrderedMap.countValues (fun obj : ConnectionObject => p obj.kind) h.connected
  items : ∃ items, h'.trace = h.trace ++ items ∧ (∀ item ∈ items, item.Quiet) ∧
    ∀ k : ConnID, h'.binds[k]? ≠ none → h.binds[k]? ≠ none ∨ .issued k ∈ items
  failed : ∃ failures, h'.failed = h.failed ++ failures ∧ ∀ assertion ∈ failures, assertion.OfCalls
  numbered : Numbered h.trace h.connectionIndex → Numbered h'.trace h'.connectionIndex

namespace Frame

/-- Without a call. -/
theorem refl (h : CConnectionHandlerInt) : Frame h h where
  connecting := rfl
  dnsResolves := rfl
  outgoingConnCount := rfl
  incomingConnCount := rfl
  outgoingConnLimit := rfl
  isShutdown := rfl
  eventBase := rfl
  shutdownEvent := rfl
  called := fun _ obj hobj => ⟨obj, hobj, .refl obj⟩
  kept := fun _ obj hobj => ⟨obj, hobj, .refl obj⟩
  count := fun _ => rfl
  items := ⟨[], by simp, by simp, fun _ hk => Or.inl hk⟩
  failed := ⟨[], by simp, by simp⟩
  numbered := id

variable {h h' h'' : CConnectionHandlerInt}

/-- Call after call. -/
theorem trans (first : Frame h h') (second : Frame h' h'') : Frame h h'' where
  connecting := second.connecting.trans first.connecting
  dnsResolves := second.dnsResolves.trans first.dnsResolves
  outgoingConnCount := second.outgoingConnCount.trans first.outgoingConnCount
  incomingConnCount := second.incomingConnCount.trans first.incomingConnCount
  outgoingConnLimit := second.outgoingConnLimit.trans first.outgoingConnLimit
  isShutdown := second.isShutdown.trans first.isShutdown
  eventBase := second.eventBase.trans first.eventBase
  shutdownEvent := second.shutdownEvent.trans first.shutdownEvent
  called := fun k obj'' hobj'' => by
    obtain ⟨obj', hobj', hsecond⟩ := second.called k obj'' hobj''
    obtain ⟨obj, hobj, hfirst⟩ := first.called k obj' hobj'
    exact ⟨obj, hobj, hfirst.trans hsecond⟩
  kept := fun k obj hobj => by
    obtain ⟨obj', hobj', hfirst⟩ := first.kept k obj hobj
    obtain ⟨obj'', hobj'', hsecond⟩ := second.kept k obj' hobj'
    exact ⟨obj'', hobj'', hfirst.trans hsecond⟩
  count := fun p => (second.count p).trans (first.count p)
  items := by
    obtain ⟨items, htrace, hquiet, hbinds⟩ := first.items
    obtain ⟨later, hlater, hquiet', hbinds'⟩ := second.items
    refine ⟨items ++ later, by rw [hlater, htrace, List.append_assoc], fun item hitem => ?_, fun k hk => ?_⟩
    · rcases List.mem_append.mp hitem with hold | hnew
      · exact hquiet item hold
      · exact hquiet' item hnew
    · rcases hbinds' k hk with hold | hnew
      · exact (hbinds k hold).imp_right (List.mem_append_left _)
      · exact Or.inr (List.mem_append_right _ hnew)
  failed := by
    obtain ⟨failures, hfailed, hcalls⟩ := first.failed
    obtain ⟨later, hlater, hcalls'⟩ := second.failed
    refine ⟨failures ++ later, by rw [hlater, hfailed, List.append_assoc], fun assertion hmem => ?_⟩
    rcases List.mem_append.mp hmem with hold | hnew
    · exact hcalls assertion hold
    · exact hcalls' assertion hnew
  numbered := fun hnumbered => second.numbered (first.numbered hnumbered)

/-- What happened stays. -/
theorem grows (frame : Frame h h') : Grows h h' := by
  obtain ⟨items, htrace, -⟩ := frame.items
  exact ⟨⟨items, htrace⟩, frame.numbered⟩

/-- No callback mentions an id. -/
theorem mentions (frame : Frame h h') (id : ConnID) : mentions id h'.trace = mentions id h.trace := by
  obtain ⟨items, htrace, hquiet, -⟩ := frame.items
  rw [htrace, mentions_append, mentions_of_quiet hquiet, List.append_nil]

/-- The established connections stay. -/
theorem connected_eq_none_iff (frame : Frame h h') (k : ConnID) :
    h'.connected[k]? = none ↔ h.connected[k]? = none := by
  constructor
  · intro hnone
    cases hobj : h.connected[k]? with
    | none => rfl
    | some obj =>
      obtain ⟨obj', hobj', -⟩ := frame.kept k obj hobj
      exact absurd (hobj'.symm.trans hnone) (by simp)
  · intro hnone
    cases hobj' : h'.connected[k]? with
    | none => rfl
    | some obj' =>
      obtain ⟨obj, hobj, -⟩ := frame.called k obj' hobj'
      exact absurd (hobj.symm.trans hnone) (by simp)

/-- A failed assertion of a call. -/
theorem of_fail (h : CConnectionHandlerInt) {assertion : Assertion} (hcalls : assertion.OfCalls) :
    Frame h (h.fail assertion) :=
  { refl { h with failed := h.failed ++ [assertion] } with failed := ⟨[assertion], rfl, by simpa using hcalls⟩ }

/-- An established connection is called. -/
theorem of_put (h : CConnectionHandlerInt) {id : ConnID} {obj obj' : ConnectionObject}
    (hobj : h.connected[id]? = some obj) (hcalled : obj.Called obj') : Frame h (h.put .connected id obj') where
  connecting := rfl
  dnsResolves := rfl
  outgoingConnCount := rfl
  incomingConnCount := rfl
  outgoingConnLimit := rfl
  isShutdown := rfl
  eventBase := rfl
  shutdownEvent := rfl
  called := fun k found hfound => by
    change (h.connected.insert id obj')[k]? = some found at hfound
    rw [OrderedMap.getElem?_insert] at hfound
    split at hfound
    · next heq =>
      obtain rfl := Option.some.inj hfound
      exact ⟨obj, heq ▸ hobj, hcalled⟩
    · exact ⟨found, hfound, .refl found⟩
  kept := fun k found hfound => by
    change ∃ obj'', (h.connected.insert id obj')[k]? = some obj'' ∧ found.Called obj''
    rw [OrderedMap.getElem?_insert]
    split
    · next heq =>
      obtain rfl : obj = found := Option.some.inj (hobj.symm.trans (heq ▸ hfound))
      exact ⟨obj', rfl, hcalled⟩
    · exact ⟨found, hfound, .refl found⟩
  count := fun p => OrderedMap.countValues_replace _ hobj (congrArg p hcalled.kind)
  items := ⟨[], by simp [CConnectionHandlerInt.put], by simp, fun _ hk => Or.inl hk⟩
  failed := ⟨[], by simp [CConnectionHandlerInt.put], by simp⟩
  numbered := fun hnumbered => hnumbered

end Frame

namespace CConnectionHandlerInt

variable (h : CConnectionHandlerInt)

/-- An assertion changes nothing but what has failed. -/
theorem check_eq (condition : Bool) (assertion : Assertion) :
    h.check condition assertion = { h with failed := h.failed ++ if condition then [] else [assertion] } := by
  unfold check fail
  cases condition <;> simp

/-- A new id is the next in order, and changes only the index, the trace and what has failed. -/
theorem getNextConnectionIndex_eq :
    ∃ id index failures, h.getNextConnectionIndex =
      (id, { h with
        connectionIndex := index
        trace := h.trace ++ [.issued id]
        failed := h.failed ++ failures }) ∧
      (∀ assertion ∈ failures, assertion.OfCalls) ∧
      (Numbered h.trace h.connectionIndex → Numbered (h.trace ++ [.issued id]) index) := by
  have hcalls : ∀ assertion ∈ if decide (0 ≤ h.connectionIndex) then [] else [.getNextConnectionIndex],
      Assertion.OfCalls assertion := by
    split <;> simp [Assertion.OfCalls]
  have hnumbered {id index : ConnID} (hid : ∀ n, h.connectionIndex = idAt n → id = idAt n ∧ index = idAt (n + 1))
      (h' : Numbered h.trace h.connectionIndex) : Numbered (h.trace ++ [.issued id]) index := by
    obtain ⟨hid, hindex⟩ := hid _ h'.index
    have hissued : issued (h.trace ++ [.issued id]) = issued h.trace ++ [id] := by
      rw [issued_append]
      rfl
    constructor
    · rw [hissued, List.length_append, List.length_singleton, List.range_succ, List.map_append, ← h'.ids, hid]
      rfl
    · rw [hissued, List.length_append, List.length_singleton, hindex]
  rw [getNextConnectionIndex, check_eq]
  simp only [record]
  -- The successor wraps around exactly at the largest id.
  split
  · next hlt =>
    refine ⟨_, _, _, rfl, hcalls, hnumbered fun n hindex => ⟨hindex, ?_⟩⟩
    rw [idAt_succ, if_neg (hindex ▸ hlt), hindex]
  · next hmax =>
    have hmax := not_not.mp hmax
    refine ⟨_, _, _, rfl, hcalls, hnumbered fun n hindex => ⟨hmax.symm.trans hindex, ?_⟩⟩
    rw [idAt_succ, if_pos (hindex.symm.trans hmax)]

/-- From an index that numbers the ids, the next one is issued and no assertion fails. -/
theorem getNextConnectionIndex_idAt {i : ℕ} (hindex : h.connectionIndex = idAt i) :
    h.getNextConnectionIndex =
      (idAt i, { h with connectionIndex := idAt (i + 1), trace := h.trace ++ [.issued (idAt i)] }) := by
  have hpositive : 0 ≤ h.connectionIndex := hindex ▸ Int.emod_nonneg _ (by decide)
  rw [getNextConnectionIndex, check, if_pos (decide_eq_true hpositive), idAt_succ]
  simp only [record, hindex]
  by_cases hmax : idAt i = 2 ^ 63 - 1
  · simp only [hmax, ne_eq, not_true_eq_false, if_true, if_false]
  · simp only [hmax, ne_eq, not_false_eq_true, if_true, if_false]

/-- Calls that look a connection up. -/
theorem connectionCall_frame (id : ConnID) (c : ConnCall) : Frame h (h.connectionCall id c) := by
  unfold connectionCall
  split
  · split
    · exact .refl h
    · next obj hobj =>
      split
      · exact .of_fail h (Or.inr (Or.inr (Or.inr rfl)))
      · next base hcall => exact .of_put h hobj (ConnectionObject.called_of_call hcall)
  · exact .refl h

/-- `Bind`. -/
theorem bind_frame (conn : CConnection) (listens : Bool) : Frame h (h.bind conn listens) := by
  obtain ⟨id, index, failures, heq, hcalls, hnumbered⟩ := getNextConnectionIndex_eq h
  have hfailed : ∃ later, h.failed ++ failures ++ (if h.eventBase then [] else [.bind]) = h.failed ++ later ∧
      ∀ assertion ∈ later, assertion.OfCalls := by
    refine ⟨failures ++ if h.eventBase then [] else [.bind], List.append_assoc _ _ _, fun assertion hmem => ?_⟩
    rcases List.mem_append.mp hmem with hold | hnew
    · exact hcalls assertion hold
    · cases hbase : h.eventBase <;> simp [hbase] at hnew
      exact Or.inl hnew
  rw [bind, heq]
  simp only [check_eq]
  cases listens with
  | true =>
    exact { Frame.refl h with
      items := by
        refine ⟨[.issued id], rfl, by simp [TraceItem.Quiet], fun k hk => ?_⟩
        by_cases hkey : id = k
        · exact Or.inr (by simp [hkey])
        · exact Or.inl (by simpa [hkey] using hk)
      failed := hfailed
      numbered := hnumbered }
  | false =>
    exact { Frame.refl h with
      items := by
        refine ⟨[.issued id, .callback (.onBindFailure conn) false none], ?_, ?_, fun k hk => Or.inl ?_⟩
        · simp [onListenFailure, record]
        · simp [TraceItem.Quiet]
        · by_cases hkey : id = k
          · simp [onListenFailure, record, hkey] at hk
          · simpa [onListenFailure, record, hkey] using hk
      failed := hfailed
      numbered := fun hnum => (hnumbered hnum).append rfl }

/-- `Shutdown`. -/
theorem shutdown_frame : Frame h h.shutdown := by
  unfold shutdown
  split
  · exact .of_fail h (Or.inr (Or.inl rfl))
  · next active hactive => exact { Frame.refl h with shutdownEvent := by rw [hactive]; rfl }

/-- Any call of the user. -/
theorem apiCall_frame (c : ApiCall) : Frame h (h.apiCall c) := by
  cases c with
  | bind conn listens => exact bind_frame h conn listens
  | shutdown => exact shutdown_frame h
  | closeConnection id immediately => exact connectionCall_frame h id _
  | send id size => exact connectionCall_frame h id _
  | setRateLimit id => exact connectionCall_frame h id _
  | pauseRecv id => exact connectionCall_frame h id _
  | unpauseRecv id => exact connectionCall_frame h id _
  | resetPingTimeout id seconds => exact connectionCall_frame h id (.resetPingTimeout seconds)

/-- Call after call. -/
theorem foldl_apiCall_frame (calls : List ApiCall) : Frame h (calls.foldl apiCall h) := by
  induction calls generalizing h with
  | nil => exact .refl h
  | cons c calls ih => exact (apiCall_frame h c).trans (ih (h.apiCall c))

/-- A callback is recorded with its answer, and what it calls leaves the rest alone. -/
theorem callUser_frame (env : Environment) (about : Option CConnection) (c : Callback) :
    ∃ answer h', h.callUser env about c = (answer, h') ∧ Frame (h.record [.callback c answer about]) h' :=
  ⟨_, _, rfl, foldl_apiCall_frame _ _⟩

end CConnectionHandlerInt

end LibBtcNet
