import LibBtcNet.HandlerTrace

/-!
# What the user hears of a connection

The callbacks that mention an id follow a protocol: a connection is accepted, is ready when it
is outgoing, reports any number of events, is perhaps found malformed, and ends once. At every
stage of a step the maps and what is in hand say how far each id has come, so that an event that
is pending, a callback that is installed or a shutdown cannot report an id out of turn. An id of
which nothing is kept has either not been heard of or is over for good.
-/

namespace LibBtcNet

open CConnectionHandlerInt

/-- How far the user has heard of an id. -/
inductive Phase where
  | unknown
  | accepted
  | established
  | malformed
  | ended
deriving DecidableEq, Repr

/-- The phase after a callback with its answer, if it may be made. -/
def Phase.next : Phase → Callback × Bool → Option Phase
  | .unknown, (.onOutgoingConnection .., true) => some .accepted
  | .unknown, (.onOutgoingConnection .., false) => some .ended
  | .unknown, (.onIncomingConnection .., true) => some .established
  | .unknown, (.onIncomingConnection .., false) => some .ended
  | .accepted, (.onReadyForFirstSend _, _) => some .established
  | .established, (.onReceiveMessages .., _) => some .established
  | .established, (.onBytesRead .., _) => some .established
  | .established, (.onBytesWritten .., _) => some .established
  | .established, (.onWriteBufferFull .., _) => some .established
  | .established, (.onWriteBufferReady .., _) => some .established
  | .established, (.onPingTimeout _, _) => some .established
  | .established, (.onMalformedMessage _, _) => some .malformed
  | .established, (.onDisconnected .., _) => some .ended
  | .malformed, (.onDisconnected .., _) => some .ended
  | _, _ => none

/-- The phase of an id, if the callbacks that mention it follow the protocol. -/
def phase (k : ConnID) (t : Trace) : Option Phase := (mentions k t).foldlM Phase.next .unknown

/-- The phase that what is kept of an id stands for, if anything is kept of it. -/
def Stage.underway (s : Stage) (k : ConnID) : Option Phase :=
  match s.hand with
  | .accepted id obj =>
    if id = k then some (if obj.isOutgoing then .accepted else .established)
    else s.handler.connected[k]?.map fun _ => .established
  | .closing id =>
    if id = k then some .malformed else s.handler.connected[k]?.map fun _ => .established
  | .disconnecting entries => if k ∈ entries.map Prod.fst then some .established else none
  | _ => s.handler.connected[k]?.map fun _ => .established

/-- An id is in the phase that is kept of it. Where nothing is kept it is over, or unknown still: an id that is
connecting or has not been issued is unknown. -/
inductive Agrees (s : Stage) (k : ConnID) : Prop where
  | kept {p : Phase} (hunderway : s.underway k = some p) (hphase : phase k s.handler.trace = some p)
      (hconnecting : s.handler.connecting[k]? = none) (hissued : k ∈ issued s.handler.trace)
  | unknown (hunderway : s.underway k = none) (hphase : phase k s.handler.trace = some .unknown)
  | ended (hunderway : s.underway k = none) (hphase : phase k s.handler.trace = some .ended)
      (hconnecting : s.handler.connecting[k]? = none) (hissued : k ∈ issued s.handler.trace)

/-- Every id agrees with what is kept of it. -/
structure Linked (s : Stage) : Prop where
  agrees (k : ConnID) : Agrees s k
  distinct {entries : List (ConnID × ConnectionObject)} (hhand : s.hand = .disconnecting entries) :
    (entries.map Prod.fst).Nodup

variable {P : CConnection → Prop} {L : Int32 → Prop}

/-- The callbacks after others go on from their phase. -/
theorem phase_append (k : ConnID) (t items : Trace) :
    phase k (t ++ items) = phase k t >>= (mentions k items).foldlM Phase.next := by
  rw [phase, mentions_append, List.foldlM_append]
  rfl

/-- One callback. -/
theorem mentions_callback (k : ConnID) (c : Callback) (ret : Bool) (about : Option CConnection) :
    mentions k [.callback c ret about] = if c.id? = some k then [(c, ret)] else [] := by
  by_cases hid : c.id? = some k <;> simp [mentions, callbacks, TraceItem.callback?, hid]

/-- A callback with an id mentions that id. -/
theorem mentions_one {id : ConnID} {c : Callback} (hid : c.id? = some id) (ret : Bool) (about : Option CConnection)
    (k : ConnID) : mentions k [.callback c ret about] = if id = k then [(c, ret)] else [] := by
  rw [mentions_callback, hid]
  simp

/-- A callback without an id mentions none. -/
theorem mentions_none {c : Callback} (hid : c.id? = none) (ret : Bool) (about : Option CConnection) (k : ConnID) :
    mentions k [.callback c ret about] = [] := by
  rw [mentions_callback, hid]
  rfl

/-- An id stays issued. -/
theorem mem_issued_append {k : ConnID} {t : Trace} (hissued : k ∈ issued t) (items : Trace) :
    k ∈ issued (t ++ items) := by
  rw [issued_append]
  exact List.mem_append_left _ hissued

/-- Items of the network mention no id. -/
theorem mentions_net (k : ConnID) (conn : CConnection) (net : List NetAction) :
    mentions k (net.map (.net conn)) = [] := by
  have hnone : callbacks (net.map (.net conn)) = [] := by
    rw [callbacks, List.filterMap_map, List.filterMap_eq_nil_iff]
    exact fun _ _ => rfl
  rw [mentions, hnone]
  rfl

/-- An id issued is no callback. -/
theorem mentions_issued (k id : ConnID) : mentions k [.issued id] = [] := rfl

/-- A failure of an attempt mentions no id. -/
theorem failureCallback_id (type : ConnectionFailureType) (failed : CConnection) (retry : Bool) :
    (failureCallback type failed retry).id? = none := by
  cases type <;> rfl

/-- Only whether an established connection is found matters. -/
theorem underway_congr {h h' : CConnectionHandlerInt} {hand : Hand} {conns rest : List CConnection} {k : ConnID}
    (hsame : h'.connected[k]? = none ↔ h.connected[k]? = none) :
    Stage.underway ⟨h', hand, rest⟩ k = Stage.underway ⟨h, hand, conns⟩ k := by
  have hmap : (h'.connected[k]?.map fun _ => Phase.established) = h.connected[k]?.map fun _ => Phase.established := by
    cases hnew : h'.connected[k]? with
    | none => rw [hsame.mp hnew]
    | some obj' =>
      cases hold : h.connected[k]? with
      | none => rw [hsame.mpr hold] at hnew; contradiction
      | some obj => rfl
  cases hand <;> simp [Stage.underway, hmap]

/-- A replacement finds what was found. -/
theorem put_eq_none_iff {h : CConnectionHandlerInt} {place : Place} {k : ConnID} {old : ConnectionObject}
    (hold : (h.objects place)[k]? = some old) (obj : ConnectionObject) (a : ConnID) :
    ((h.put place k obj).connected[a]? = none ↔ h.connected[a]? = none) ∧
      ((h.put place k obj).connecting[a]? = none ↔ h.connecting[a]? = none) := by
  cases place with
  | connecting =>
    change h.connecting[k]? = some old at hold
    by_cases heq : k = a
    · subst heq
      simp [put, hold]
    · simp [put, heq]
  | connected =>
    change h.connected[k]? = some old at hold
    by_cases heq : k = a
    · subst heq
      simp [put, hold]
    · simp [put, heq]

/-- An id that is found has a place. -/
theorem places_ne_zero {h : CConnectionHandlerInt} {place : Place} {k : ConnID} {obj : ConnectionObject}
    (hobj : (h.objects place)[k]? = some obj) : h.places k ≠ 0 := by
  intro hzero
  obtain ⟨hconnecting, hconnected, -⟩ := places_eq_zero_iff.mp hzero
  cases place with
  | connecting => exact absurd (hobj.symm.trans hconnecting) (by simp)
  | connected => exact absurd (hobj.symm.trans hconnected) (by simp)

/-- No id is connecting and established. -/
theorem Books.connected_eq_none {s : Stage} (books : Books s) {k : ConnID} {obj : ConnectionObject}
    (hobj : s.handler.connecting[k]? = some obj) : s.handler.connected[k]? = none := by
  have hapart := books.apart k
  cases hconnected : s.handler.connected[k]? with
  | none => rfl
  | some other =>
    simp [places, hobj, hconnected] at hapart
    omega

/-- A report leaves nothing that is connecting but what was. -/
theorem worked_takeConnecting {h : CConnectionHandlerInt} {k a : ConnID} {obj : ConnectionObject}
    {r : ConnResult ConnectionObject}
    (hne : ((h.worked .connecting k obj r).takeConnecting k).connecting[a]? ≠ none) : h.connecting[a]? ≠ none := by
  change ((h.connecting.insert k r.obj).erase k)[a]? ≠ none at hne
  by_cases heq : k = a
  · simp [heq] at hne
  · simpa [heq] using hne

namespace Agrees

variable {s s' : Stage} {k : ConnID} {items : Trace}

/-- An id that no new item mentions, and of which as much is kept as before. -/
theorem keep (agrees : Agrees s k) (htrace : s'.handler.trace = s.handler.trace ++ items)
    (hmentions : mentions k items = []) (hunderway : s'.underway k = s.underway k)
    (hconnecting : s'.handler.connecting[k]? ≠ none → s.handler.connecting[k]? ≠ none ∨ k ∉ issued s.handler.trace) :
    Agrees s' k := by
  have hphase : phase k s'.handler.trace = phase k s.handler.trace := by
    rw [htrace, phase_append, hmentions]
    exact bind_pure _
  have hissued (hk : k ∈ issued s.handler.trace) : k ∈ issued s'.handler.trace := by
    rw [htrace, issued_append]
    exact List.mem_append_left _ hk
  have hnone (hold : s.handler.connecting[k]? = none) (hk : k ∈ issued s.handler.trace) :
      s'.handler.connecting[k]? = none := by
    by_contra hnew
    exact (hconnecting hnew).elim (fun hne => hne hold) fun hnot => hnot hk
  cases agrees with
  | kept hold hp hconn hk => exact .kept (hunderway.trans hold) (hphase.trans hp) (hnone hconn hk) (hissued hk)
  | unknown hold hp => exact .unknown (hunderway.trans hold) (hphase.trans hp)
  | ended hold hp hconn hk => exact .ended (hunderway.trans hold) (hphase.trans hp) (hnone hconn hk) (hissued hk)

/-- The phase of an id of which something is kept. -/
theorem phase_eq (agrees : Agrees s k) {p : Phase} (hunderway : s.underway k = some p) :
    phase k s.handler.trace = some p ∧ s.handler.connecting[k]? = none ∧ k ∈ issued s.handler.trace := by
  cases agrees with
  | kept hold hp hconn hk =>
    obtain rfl := Option.some.inj (hold.symm.trans hunderway)
    exact ⟨hp, hconn, hk⟩
  | unknown hold hp => rw [hunderway] at hold; contradiction
  | ended hold hp hconn hk => rw [hunderway] at hold; contradiction

/-- An id that is connecting is unknown. -/
theorem unknown_of_connecting (agrees : Agrees s k) (hconnecting : s.handler.connecting[k]? ≠ none) :
    phase k s.handler.trace = some .unknown := by
  cases agrees with
  | kept hold hp hconn hk => contradiction
  | unknown hold hp => exact hp
  | ended hold hp hconn hk => contradiction

/-- So is an id that has not been issued. -/
theorem unknown_of_not_issued (agrees : Agrees s k) (hissued : k ∉ issued s.handler.trace) :
    phase k s.handler.trace = some .unknown := by
  cases agrees with
  | kept hold hp hconn hk => contradiction
  | unknown hold hp => exact hp
  | ended hold hp hconn hk => contradiction

end Agrees

/-- The phase after items that mention an id once. -/
theorem phase_next {k : ConnID} {t items : Trace} {p p' : Phase} {c : Callback × Bool} (hphase : phase k t = some p)
    (hmentions : mentions k items = [c]) (hnext : p.next c = some p') : phase k (t ++ items) = some p' := by
  rw [phase_append, hphase, hmentions]
  change (p.next c >>= fun p => pure p) = some p'
  rw [hnext]
  rfl

/-- A notice leaves a connection established. -/
theorem notice_next {k : ConnID} {effect : ConnEffect} {c : Callback} (heffect : effect ≠ .onMalformedMessage)
    (hc : effectCallback k effect = some c) (ret : Bool) :
    c.id? = some k ∧ Phase.established.next (c, ret) = some .established := by
  cases effect <;> simp only [effectCallback, Option.some.injEq, reduceCtorEq] at hc <;>
    first | (subst hc; exact ⟨rfl, rfl⟩) | exact absurd rfl heffect

namespace Linked

variable {s s' : Stage} {items : Trace}

/-- A move that mentions no id and keeps as much of each. -/
theorem keep (linked : Linked s) (htrace : s'.handler.trace = s.handler.trace ++ items)
    (hmentions : ∀ k, mentions k items = []) (hunderway : ∀ k, s'.underway k = s.underway k)
    (hconnecting : ∀ k, s'.handler.connecting[k]? ≠ none →
      s.handler.connecting[k]? ≠ none ∨ k ∉ issued s.handler.trace)
    (hdistinct : ∀ entries, s'.hand = .disconnecting entries → (entries.map Prod.fst).Nodup) : Linked s' :=
  ⟨fun k => (linked.agrees k).keep htrace (hmentions k) (hunderway k) (hconnecting k), fun hhand => hdistinct _ hhand⟩

/-- A move that mentions one id, once, and keeps as much of the others. -/
theorem advance (linked : Linked s) (htrace : s'.handler.trace = s.handler.trace ++ items) {id : ConnID}
    {c : Callback × Bool} {p p' : Phase} (hmentions : ∀ k, mentions k items = if id = k then [c] else [])
    (hphase : phase id s.handler.trace = some p) (hnext : p.next c = some p')
    (hkept : s'.underway id = some p' ∨ (s'.underway id = none ∧ p' = .ended))
    (hgone : s'.handler.connecting[id]? = none) (hissued : id ∈ issued s'.handler.trace)
    (hunderway : ∀ k, id ≠ k → s'.underway k = s.underway k)
    (hconnecting : ∀ k : ConnID, s'.handler.connecting[k]? ≠ none → s.handler.connecting[k]? ≠ none)
    (hdistinct : ∀ entries, s'.hand = .disconnecting entries → (entries.map Prod.fst).Nodup) : Linked s' := by
  refine ⟨fun k => ?_, fun hhand => hdistinct _ hhand⟩
  by_cases heq : id = k
  · subst heq
    have hphase' := phase_next hphase ((hmentions id).trans (if_pos rfl)) hnext
    rw [← htrace] at hphase'
    rcases hkept with hkept | ⟨hnone, rfl⟩
    · exact .kept hkept hphase' hgone hissued
    · exact .ended hnone hphase' hgone hissued
  · have hsilent : mentions k items = [] := (hmentions k).trans (if_neg heq)
    exact (linked.agrees k).keep htrace hsilent (hunderway k heq) fun hne => Or.inl (hconnecting k hne)

/-- A connection that the user is asked about is kept if it says so, and is over otherwise. -/
theorem asked {h h' : CConnectionHandlerInt} {conns : List CConnection} {id : ConnID} {obj : ConnectionObject}
    {c : Callback} {ret : Bool} (linked : Linked ⟨h, .idle, conns⟩) (htrace : h'.trace = h.trace ++ items)
    (hmentions : ∀ k, mentions k items = if id = k then [(c, ret)] else [])
    (hunknown : phase id h.trace = some .unknown)
    (hnext : Phase.unknown.next (c, ret) =
      some (if ret then if obj.isOutgoing then .accepted else .established else .ended))
    (hnone : h.connected[id]? = none) (hconnected : h'.connected = h.connected) (hgone : h'.connecting[id]? = none)
    (hissued : id ∈ issued h'.trace)
    (hconnecting : ∀ k : ConnID, h'.connecting[k]? ≠ none → h.connecting[k]? ≠ none) :
    Linked ⟨h', if ret then .accepted id obj else .idle, conns⟩ := by
  cases ret with
  | true =>
    refine linked.advance htrace hmentions hunknown hnext (Or.inl (if_pos rfl)) hgone hissued (fun k hne => ?_)
      hconnecting fun _ hhand => Hand.noConfusion hhand
    change (if id = k then _ else h'.connected[k]?.map fun _ => Phase.established) = _
    rw [if_neg hne, hconnected]
    rfl
  | false =>
    have hover : (h'.connected[id]?.map fun _ => Phase.established) = none := by
      rw [hconnected, hnone]
      rfl
    refine linked.advance htrace hmentions hunknown hnext (Or.inr ⟨hover, rfl⟩) hgone hissued (fun k _ => ?_)
      hconnecting fun _ hhand => Hand.noConfusion hhand
    change (h'.connected[k]?.map fun _ => Phase.established) = _
    rw [hconnected]
    rfl

section Moves

variable {h h' : CConnectionHandlerInt} {hand : Hand} {conns rest : List CConnection} {k id : ConnID}
  {obj ptr : ConnectionObject} {r : ConnResult ConnectionObject} {place : Place} {c : Callback} {ret : Bool}
  {entry : ConnID × ConnectionObject} {entries : List (ConnID × ConnectionObject)}

/-- A connection that waits mentions no id. -/
theorem waited (linked : Linked ⟨h, .idle, conns⟩) (working : Working h place k obj r) :
    Linked ⟨h.worked place k obj r, .idle, conns⟩ := by
  have hput := put_eq_none_iff working.found r.obj
  have htrace : (h.worked place k obj r).trace =
    h.trace ++ r.net.map (.net obj.base.conn) := by simp [worked, record]
  exact linked.keep htrace (fun a => mentions_net a _ _) (fun a => underway_congr (hput a).1)
    (fun a hne => Or.inl (mt (hput a).2.mpr hne)) fun _ hhand => Hand.noConfusion hhand

/-- An attempt that has failed leaves its map, and the user is told without an id. -/
theorem failed {retried : Bool} (linked : Linked ⟨h, .idle, conns⟩) (hid : c.id? = none) :
    Linked ⟨((h.worked .connecting k obj r).takeConnecting k).called c ret obj.base.conn,
      if retried then .retrying ptr else .idle, conns⟩ := by
  have htrace : (((h.worked .connecting k obj r).takeConnecting k).called c ret obj.base.conn).trace =
      h.trace ++ (r.net.map (.net obj.base.conn) ++ [.callback c ret obj.base.conn]) := by
    simp [called, takeConnecting, worked, record]
  refine linked.keep htrace (fun a => ?_) (fun a => ?_) (fun a hne => Or.inl ?_) fun entries hhand => ?_
  · rw [mentions_append, mentions_net, mentions_callback, hid]
    rfl
  · split <;> rfl
  · exact worked_takeConnecting hne
  · split at hhand <;> contradiction

/-- An attempt that has succeeded leaves its map, and the user is asked about it. -/
theorem outgoing {resolved : CConnection} (linked : Linked ⟨h, .idle, conns⟩) (books : Books ⟨h, .idle, conns⟩)
    (working : Working h .connecting k obj r) (hreport : r.report ≠ .waiting)
    (hptr : (h.worked .connecting k obj r).connecting[k]? = some ptr) :
    Linked ⟨((h.worked .connecting k obj r).takeConnecting k).called (.onOutgoingConnection k obj.base.conn resolved)
      ret obj.base.conn, if ret then .accepted k ptr else .idle, conns⟩ := by
  have hobj : h.connecting[k]? = some obj := working.found
  have htrace : (((h.worked .connecting k obj r).takeConnecting k).called (.onOutgoingConnection k obj.base.conn
      resolved) ret obj.base.conn).trace = h.trace ++ (r.net.map (.net obj.base.conn) ++
        [.callback (.onOutgoingConnection k obj.base.conn resolved) ret obj.base.conn]) := by
    simp [called, takeConnecting, worked, record]
  have hmentions (a : ConnID) : mentions a (r.net.map (.net obj.base.conn) ++
      [.callback (.onOutgoingConnection k obj.base.conn resolved) ret obj.base.conn]) =
        if k = a then [(.onOutgoingConnection k obj.base.conn resolved, ret)] else [] := by
    rw [mentions_append, mentions_net, mentions_callback]
    simp [Callback.id?]
  have hunknown := (linked.agrees k).unknown_of_connecting (by simp [hobj])
  have hconnected : h.connected[k]? = none := books.connected_eq_none hobj
  have hissued : k ∈ issued (((h.worked .connecting k obj r).takeConnecting k).called (.onOutgoingConnection k
      obj.base.conn resolved) ret obj.base.conn).trace := by
    rw [htrace, issued_append]
    exact List.mem_append_left _ (books.old k (places_ne_zero working.found))
  have hgone : ((h.connecting.insert k r.obj).erase k)[k]? = none := by simp
  have hsame : ptr = r.obj := by
    change (h.connecting.insert k r.obj)[k]? = some ptr at hptr
    simpa using hptr.symm
  have houtgoing : ptr.isOutgoing = true := by
    rw [hsame, working.works.outgoing]
    exact working.directed hreport
  have hnext : Phase.unknown.next (.onOutgoingConnection k obj.base.conn resolved, ret) =
      some (if ret then if ptr.isOutgoing then .accepted else .established else .ended) := by
    rw [houtgoing]
    cases ret <;> rfl
  exact linked.asked htrace hmentions hunknown hnext hconnected rfl hgone hissued fun a => worked_takeConnecting

/-- The user is asked about an incoming connection under a new id. -/
theorem accepted {conn resolved : CConnection} {connecting : ConnMap ConnectionObject}
    (linked : Linked ⟨h, .idle, conns⟩) (books : Books ⟨h, .idle, conns⟩) (hissue : h.getNextConnectionIndex = (id, h'))
    (hfresh : id ∉ issued h.trace) (hsame : ∀ k : ConnID, connecting[k]? = h.connecting[k]?)
    (hincoming : obj.isOutgoing = false) :
    Linked ⟨{ h' with connecting }.called (.onIncomingConnection id conn resolved) ret conn,
      if ret then .accepted id obj else .idle, conns⟩ := by
  obtain ⟨hconnecting, hconnected, -⟩ := places_eq_zero_iff.mp (books.places_eq_zero hfresh)
  obtain ⟨index, failures, rfl, -, -⟩ := issued_shape hissue
  have htrace : h.trace ++ [.issued id] ++ [.callback (.onIncomingConnection id conn resolved) ret conn] =
      h.trace ++ [.issued id, .callback (.onIncomingConnection id conn resolved) ret conn] := by simp
  have hmentions (a : ConnID) :
      mentions a [.issued id, .callback (.onIncomingConnection id conn resolved) ret conn] =
        if id = a then [(.onIncomingConnection id conn resolved, ret)] else [] := mentions_one rfl ret conn a
  have hissued : id ∈ issued (h.trace ++ [.issued id] ++ [.callback (.onIncomingConnection id conn resolved) ret
      conn]) := by simp [issued, TraceItem.issued?]
  have hunknown := (linked.agrees id).unknown_of_not_issued hfresh
  have hgone : connecting[id]? = none := (hsame id).trans hconnecting
  have hnext : Phase.unknown.next (.onIncomingConnection id conn resolved, ret) =
      some (if ret then if obj.isOutgoing then .accepted else .established else .ended) := by
    rw [hincoming]
    cases ret <;> rfl
  exact linked.asked htrace hmentions hunknown hnext hconnected rfl hgone hissued fun a hne => hsame a ▸ hne

/-- An incoming connection that the user has accepted is established. -/
theorem establishedIncoming (linked : Linked ⟨h, .accepted k obj, conns⟩) (hincoming : obj.isOutgoing = false) :
    Linked ⟨{ h with
      connected := h.connected.insertIfNew k obj.enable
      incomingConnCount := h.incomingConnCount + 1 }, .idle, conns⟩ := by
  have hunderway (a : ConnID) : Stage.underway ⟨{ h with
      connected := h.connected.insertIfNew k obj.enable
      incomingConnCount := h.incomingConnCount + 1 }, .idle, conns⟩ a =
        Stage.underway ⟨h, .accepted k obj, conns⟩ a := by
    by_cases heq : k = a <;> simp [Stage.underway, heq, hincoming]
  exact linked.keep (List.append_nil _).symm (fun _ => rfl) hunderway (fun _ => Or.inl) fun _ hhand =>
    Hand.noConfusion hhand

/-- So is an outgoing one, and it is ready for the first send. -/
theorem establishedOutgoing (linked : Linked ⟨h, .accepted k obj, conns⟩) (houtgoing : obj.isOutgoing = true) :
    Linked ⟨{ h with
      connected := h.connected.insertIfNew k obj.enable
      outgoingConnCount := h.outgoingConnCount + 1 }.called (.onReadyForFirstSend k) ret obj.base.conn,
        .idle, conns⟩ := by
  have hunderway : Stage.underway ⟨h, .accepted k obj, conns⟩ k = some .accepted := by
    simp [Stage.underway, houtgoing]
  obtain ⟨hphase, hgone, hissued⟩ := (linked.agrees k).phase_eq hunderway
  refine linked.advance rfl (mentions_one rfl ret obj.base.conn) hphase rfl (Or.inl ?_) hgone
    (mem_issued_append hissued _) (fun a hne => ?_) (fun _ => id) fun _ hhand => Hand.noConfusion hhand
  · simp [Stage.underway, called, record]
  · simp [Stage.underway, called, record, hne]

/-- A connection that is over leaves its map, and the user is told. -/
theorem ended {reconnect : Bool} (linked : Linked ⟨h, hand, conns⟩) (hhand : hand = .idle ∨ hand = .closing k)
    (hobj : h.connected[k]? = some obj) :
    Linked ⟨({ h with connected := h.connected.erase k }.count obj.isOutgoing (-1)).called
      (.onDisconnected k reconnect) ret obj.base.conn, if reconnect && ret then .retrying obj else .idle, conns⟩ := by
  have htrace : (({ h with connected := h.connected.erase k }.count obj.isOutgoing (-1)).called
      (.onDisconnected k reconnect) ret obj.base.conn).trace =
        h.trace ++ [.callback (.onDisconnected k reconnect) ret obj.base.conn] := by simp [called, record]
  have hconnecting : (({ h with connected := h.connected.erase k }.count obj.isOutgoing (-1)).called
      (.onDisconnected k reconnect) ret obj.base.conn).connecting = h.connecting := by simp [called, record]
  obtain ⟨p, hunderway, hnext⟩ : ∃ p, Stage.underway ⟨h, hand, conns⟩ k = some p ∧
      p.next (.onDisconnected k reconnect, ret) = some .ended := by
    rcases hhand with rfl | rfl
    · exact ⟨.established, by simp [Stage.underway, hobj], rfl⟩
    · exact ⟨.malformed, if_pos rfl, rfl⟩
  have hafter (a : ConnID) : Stage.underway ⟨({ h with connected := h.connected.erase k }.count obj.isOutgoing
      (-1)).called (.onDisconnected k reconnect) ret obj.base.conn,
        if reconnect && ret then .retrying obj else .idle, conns⟩ a =
          (h.connected.erase k)[a]?.map fun _ => Phase.established := by
    split <;> simp [Stage.underway, called, record]
  obtain ⟨hphase, hgone, hissued⟩ := (linked.agrees k).phase_eq hunderway
  refine linked.advance htrace (mentions_one rfl ret obj.base.conn) hphase hnext (Or.inr ⟨?_, rfl⟩)
    (by rw [hconnecting]; exact hgone) (htrace ▸ mem_issued_append hissued _) (fun a hne => ?_)
      (fun a hne => hconnecting ▸ hne)
    fun entries hdisconnecting => ?_
  · rw [hafter, OrderedMap.getElem?_erase, if_pos rfl]
    rfl
  · rw [hafter, OrderedMap.getElem?_erase, if_neg hne]
    rcases hhand with rfl | rfl
    · rfl
    · exact (if_neg hne).symm
  · split at hdisconnecting <;> contradiction

/-- A connection is to be made under a new id. -/
theorem joined {connecting : ConnMap ConnectionObject} (linked : Linked ⟨h, hand, conns⟩)
    (hissue : h.getNextConnectionIndex = (id, h')) (hfresh : id ∉ issued h.trace)
    (hunderway : ∀ k, Stage.underway ⟨h, .idle, rest⟩ k = Stage.underway ⟨h, hand, conns⟩ k)
    (hconnecting : ∀ a : ConnID, id ≠ a → connecting[a]? = h.connecting[a]?) :
    Linked ⟨{ h' with connecting }, .idle, rest⟩ := by
  obtain ⟨index, failures, rfl, -, -⟩ := issued_shape hissue
  refine linked.keep rfl (fun a => mentions_issued a id) hunderway (fun a hne => ?_)
    fun _ hhand => Hand.noConfusion hhand
  by_cases heq : id = a
  · exact Or.inr (heq ▸ hfresh)
  · exact Or.inl (hconnecting a heq ▸ hne)

/-- The user hears of an established connection, which stays established. -/
theorem notified {effect : ConnEffect} (linked : Linked ⟨h, .idle, conns⟩) (hobj : h.connected[k]? = some obj)
    (heffect : effect ≠ .onMalformedMessage) (hc : effectCallback k effect = some c) :
    Linked ⟨h.called c ret obj.base.conn, .idle, conns⟩ := by
  have hunderway : Stage.underway ⟨h, .idle, conns⟩ k = some .established := by simp [Stage.underway, hobj]
  obtain ⟨hphase, hgone, hissued⟩ := (linked.agrees k).phase_eq hunderway
  obtain ⟨hid, hnext⟩ := notice_next heffect hc ret
  exact linked.advance rfl (mentions_one hid ret obj.base.conn) hphase hnext (Or.inl hunderway) hgone
    (mem_issued_append hissued _) (fun _ _ => rfl) (fun _ => id) fun _ hhand => Hand.noConfusion hhand

/-- The established connections are to be closed, each under its id. -/
theorem shutdownBegun (linked : Linked ⟨h, .idle, conns⟩) :
    Linked ⟨{ h with connected := ∅, binds := ∅, isShutdown := true }, .disconnecting h.connected.toList, []⟩ := by
  have hunderway (a : ConnID) : (if a ∈ h.connected.toList.map Prod.fst then some Phase.established else none) =
      h.connected[a]?.map fun _ => Phase.established := by
    have hmem : a ∈ h.connected.toList.map Prod.fst ↔ h.connected[a]?.isSome = true := by
      rw [Std.TreeMap.map_fst_toList_eq_keys, Std.TreeMap.mem_keys, Std.TreeMap.mem_iff_isSome_getElem?]
    cases hobj : h.connected[a]? with
    | none =>
      rw [hobj] at hmem
      exact if_neg fun hin => Bool.false_ne_true (hmem.mp hin)
    | some obj =>
      rw [hobj] at hmem
      exact if_pos (hmem.mpr rfl)
  refine linked.keep (List.append_nil _).symm (fun _ => rfl) hunderway (fun _ => Or.inl) fun entries hhand => ?_
  obtain rfl := Hand.disconnecting.inj hhand
  rw [Std.TreeMap.map_fst_toList_eq_keys]
  exact Std.TreeMap.nodup_keys

/-- One of them is closed, and the user is told. -/
theorem shutdownDisconnected (linked : Linked ⟨h, .disconnecting (entry :: entries), conns⟩) :
    Linked ⟨(h.count entry.2.isOutgoing (-1)).called (.onDisconnected entry.1 false) ret entry.2.base.conn,
      .disconnecting entries, conns⟩ := by
  obtain ⟨hnot, hnodup⟩ := List.nodup_cons.mp (linked.distinct rfl)
  have hunderway : Stage.underway ⟨h, .disconnecting (entry :: entries), conns⟩ entry.1 = some .established := by
    simp [Stage.underway]
  obtain ⟨hphase, hgone, hissued⟩ := (linked.agrees entry.1).phase_eq hunderway
  have htrace :
    ((h.count entry.2.isOutgoing (-1)).called (.onDisconnected entry.1 false) ret entry.2.base.conn).trace =
      h.trace ++ [.callback (.onDisconnected entry.1 false) ret entry.2.base.conn] := by simp [called, record]
  have hconnecting : ((h.count entry.2.isOutgoing (-1)).called (.onDisconnected entry.1 false) ret
      entry.2.base.conn).connecting = h.connecting := by simp [called, record]
  refine linked.advance htrace (mentions_one rfl ret entry.2.base.conn) hphase rfl (Or.inr ⟨if_neg hnot, rfl⟩)
    (hconnecting ▸ hgone) (htrace ▸ mem_issued_append hissued _) (fun a hne => ?_) (fun a hne => hconnecting ▸ hne)
    fun others hhand => ?_
  · have hmem : a ∈ (entry :: entries).map Prod.fst ↔ a ∈ entries.map Prod.fst := by
      rw [List.map_cons, List.mem_cons, or_iff_right (Ne.symm hne)]
    exact if_congr hmem.symm rfl rfl
  · obtain rfl := Hand.disconnecting.inj hhand
    exact hnodup

/-- An attempt is dropped at the shutdown. -/
theorem shutdownDropped (linked : Linked ⟨h, .dropping (entry :: entries), conns⟩) :
    Linked ⟨h.takeConnecting entry.1, .dropping entries, conns⟩ := by
  refine linked.keep (List.append_nil _).symm (fun _ => rfl) (fun _ => rfl) (fun a hne => Or.inl ?_)
    fun _ hhand => Hand.noConfusion hhand
  change (h.connecting.erase entry.1)[a]? ≠ none at hne
  by_cases heq : entry.1 = a
  · simp [heq] at hne
  · simpa [heq] using hne

end Moves

end Linked

/-- Every move keeps the ids linked while few are issued. -/
theorem Move.linked {s s' : Stage} (move : Move P L s s') (objects : Objects P s) (books : Books s)
    (linked : Linked s) (hfew : FewIds s'.handler.trace) : Linked s' := by
  have hbefore := move.fewIds hfew
  have hsilent (k : ConnID) : mentions k [] = [] := rfl
  cases move with
  | @user h h' hand conns frame =>
    obtain ⟨items, htrace, hquiet, -⟩ := frame.items
    exact linked.keep htrace (mentions_of_quiet hquiet) (fun k => underway_congr (frame.connected_eq_none_iff k))
      (fun k hne => Or.inl (frame.connecting ▸ hne)) fun _ hhand => linked.distinct hhand
  | forget =>
    exact linked.keep (List.append_nil _).symm hsilent (fun _ => rfl) (fun _ => Or.inl) fun _ hhand =>
      linked.distinct hhand
  | fail hother =>
    exact linked.keep (List.append_nil _).symm hsilent (fun _ => rfl) (fun _ => Or.inl) fun _ hhand =>
      linked.distinct hhand
  | @stray h conns place k obj r assertion working hreport hnone =>
    obtain ⟨rfl, -⟩ := working.ends hbefore hreport
    change (h.connecting.insert k r.obj)[k]? = none at hnone
    simp at hnone
  | relooked hsame =>
    exact linked.keep (List.append_nil _).symm hsilent (fun _ => rfl) (fun k hne => Or.inl (hsame k ▸ hne))
      fun _ hhand => linked.distinct hhand
  | @changed h hand conns k obj obj' hobj hchanges =>
    have hfound : (h.objects .connected)[k]? = some obj := hobj
    exact linked.keep (List.append_nil _).symm hsilent (fun a => underway_congr (put_eq_none_iff hfound obj' a).1)
      (fun _ => Or.inl) fun _ hhand => linked.distinct hhand
  | @rearmed h conns k obj hobj =>
    have hfound : (h.objects .connecting)[k]? = some obj := hobj
    exact linked.keep (List.append_nil _).symm hsilent (fun _ => rfl)
      (fun a hne => Or.inl (mt (put_eq_none_iff hfound _ a).2.mpr hne)) fun _ hhand => Hand.noConfusion hhand
  | waited working hreport => exact linked.waited working
  | failed working hreport hptr =>
    obtain ⟨rfl, -⟩ := working.ends hbefore (by simp [hreport])
    exact linked.failed (failureCallback_id ..)
  | outgoing working hreport hptr =>
    obtain ⟨rfl, -⟩ := working.ends hbefore (by simp [hreport])
    exact linked.outgoing books working (by simp [hreport]) hptr
  | accepted hrunning hbind hissue hfree hsame =>
    exact linked.accepted books hissue (fresh_of_issue hissue objects.numbered hfew.of_append) hsame rfl
  | establishedIncoming hincoming => exact linked.establishedIncoming hincoming
  | establishedOutgoing houtgoing => exact linked.establishedOutgoing houtgoing
  | ended hhand hobj hstopped hreconnect => exact linked.ended hhand hobj
  | retried hissue =>
    obtain ⟨index, failures, rfl, -, -⟩ := issued_shape hissue
    exact linked.joined hissue (fresh_of_issue hissue objects.numbered hfew) (fun _ => rfl) fun a hne => by simp [hne]
  | started hsupplied hconnects hissue =>
    obtain ⟨index, failures, rfl, -, -⟩ := issued_shape hissue
    exact linked.joined hissue (fresh_of_issue hissue objects.numbered hfew) (fun _ => rfl) fun a hne => by simp [hne]
  | @resolveStarted h h' conns id conn hsupplied hproxy hissue =>
    obtain ⟨index, failures, rfl, -, -⟩ := issued_shape hissue
    exact linked.keep rfl (fun a => mentions_issued a id) (fun _ => rfl) (fun _ => Or.inl) fun _ hhand =>
      Hand.noConfusion hhand
  | notified hobj heffect hc => exact linked.notified hobj heffect hc
  | @malformed h conns k obj ret hobj =>
    have hunderway : Stage.underway ⟨h, .idle, conns⟩ k = some .established := by simp [Stage.underway, hobj]
    obtain ⟨hphase, hgone, hissued⟩ := (linked.agrees k).phase_eq hunderway
    exact linked.advance rfl (mentions_one rfl ret obj.base.conn) hphase rfl (Or.inl (if_pos rfl)) hgone
      (mem_issued_append hissued _) (fun a hne => if_neg hne) (fun _ => id) fun _ hhand => Hand.noConfusion hhand
  | @resolveWorked h conns k c c' net hc hid hconn hpermitted =>
    exact linked.keep rfl (fun a => mentions_net a _ _) (fun _ => rfl) (fun _ => Or.inl) fun _ hhand =>
      Hand.noConfusion hhand
  | @resolveTold h conns k c cb ret hc hcb =>
    have hid : cb.id? = none := by rcases hcb with ⟨resolved, rfl⟩ | ⟨retry, rfl⟩ <;> rfl
    exact linked.keep rfl (mentions_none hid ret c.conn) (fun _ => rfl) (fun _ => Or.inl)
      fun _ hhand => Hand.noConfusion hhand
  | resolveErased k =>
    exact linked.keep (List.append_nil _).symm hsilent (fun _ => rfl) (fun _ => Or.inl) fun _ hhand =>
      linked.distinct hhand
  | begun hlimit hbase hcount =>
    exact linked.keep rfl (mentions_none rfl _ _) (fun _ => rfl) (fun _ => Or.inl) fun _ hhand =>
      Hand.noConfusion hhand
  | shutdownBegun hrunning => exact linked.shutdownBegun
  | shutdownDisconnected => exact linked.shutdownDisconnected
  | @shutdownTurned h conns =>
    have hunderway (a : ConnID) : (h.connected[a]?.map fun _ => Phase.established) = none := by
      rw [objects.hand.1 a]
      rfl
    exact linked.keep (List.append_nil _).symm hsilent hunderway (fun _ => Or.inl) fun _ hhand =>
      Hand.noConfusion hhand
  | shutdownTold houtgoing =>
    exact linked.keep rfl (mentions_none rfl _ _) (fun _ => rfl) (fun _ => Or.inl) fun _ hhand =>
      Hand.noConfusion hhand
  | shutdownDropped => exact linked.shutdownDropped
  | shutdownDone =>
    rw [check_eq]
    exact linked.keep (List.append_nil _).symm hsilent (fun _ => rfl) (fun _ => Or.inl) fun _ hhand =>
      Hand.noConfusion hhand
  | pumped hshutdown =>
    exact linked.keep rfl (mentions_none rfl _ _) (fun _ => rfl) (fun _ => Or.inl) fun _ hhand =>
      Hand.noConfusion hhand

/-- So do many moves. -/
theorem Moves.linked {s s' : Stage} (moves : Moves P L s s') (sound : Sound P s) (linked : Linked s)
    (hfew : FewIds s'.handler.trace) : Linked s' := by
  induction moves with
  | refl => exact linked
  | tail moves move ih =>
    have hbefore := move.fewIds hfew
    have hsound := Moves.sound moves sound
    exact move.linked hsound.objects (hsound.books hbefore) (ih hbefore) hfew

/-- The question of a request mentions no id. -/
theorem Linked.opening {h : CConnectionHandlerInt} (linked : Linked ⟨h, .idle, []⟩) (env : Environment)
    (event : HandlerEvent) : Linked (h.opening env event) := by
  unfold CConnectionHandlerInt.opening
  split
  · have hid : h.asking.id? = none := rfl
    exact linked.keep rfl (mentions_none hid _ none) (fun _ => rfl) (fun _ => Or.inl) fun _ hhand =>
      Hand.noConfusion hhand
  · exact linked

/-- Every id is linked in every handler that a run reaches while few are issued. -/
theorem run_linked (inputs : List HandlerInput) (hfew : FewIds (run inputs).trace) :
    Linked ⟨run inputs, .idle, []⟩ := by
  have hsupplies (input : HandlerInput) : input.Supplies (fun _ => True) fun _ => True :=
    ⟨fun _ _ _ _ => trivial, fun _ _ => trivial⟩
  induction inputs using List.reverseRecOn with
  | nil =>
    exact ⟨fun k => .unknown (by simp [Stage.underway, run, new]) rfl, fun hhand => Hand.noConfusion hhand⟩
  | append_singleton inputs input ih =>
    have hsound := run_sound inputs fun input _ => hsupplies input
    obtain ⟨items, htrace, -⟩ := step_items (hsupplies input) hsound
    rw [run_concat] at hfew ⊢
    have linked := ih (htrace ▸ hfew).of_append
    unfold step at hfew ⊢
    split
    · next hstep =>
      rw [if_pos hstep] at hfew
      have henabled := (Bool.and_eq_true_iff.mp hstep).2
      exact Moves.linked (react_moves (hsupplies input) hsound henabled) (hsound.opening input.env henabled)
        (linked.opening input.env input.event) hfew
    · exact linked

/-- The callbacks that mention an id follow the protocol in every run that issues fewer than 2^63 ids, and every id
that has been accepted is over when `OnShutdown` is called. -/
theorem run_followsProtocol (inputs : List HandlerInput) (hfew : FewIds (run inputs).trace) (id : ConnID) :
    phase id (run inputs).trace ≠ none ∧ ((run inputs).enabled .pumpReturn = true →
      phase id (run inputs).trace = some .unknown ∨ phase id (run inputs).trace = some .ended) := by
  have hsupplies : ∀ input ∈ inputs, input.Supplies (fun _ => True) fun _ => True :=
    fun _ _ => ⟨fun _ _ _ _ => trivial, fun _ _ => trivial⟩
  have hsound := run_sound inputs hsupplies
  cases (run_linked inputs hfew).agrees id with
  | kept hunderway hphase hconnecting hissued =>
    refine ⟨by simp [hphase], fun henabled => ?_⟩
    -- Nothing is established when the handler does not run.
    have hshutdown : (run inputs).isShutdown = true := (Bool.and_eq_true_iff.mp henabled).2
    rcases hsound.objects.hand with hrunning | hidle
    · exact absurd (hrunning.2.symm.trans hshutdown) Bool.false_ne_true
    · simp [Stage.underway, hidle.connected id] at hunderway
  | unknown hunderway hphase => exact ⟨by simp [hphase], fun _ => Or.inl hphase⟩
  | ended hunderway hphase hconnecting hissued => exact ⟨by simp [hphase], fun _ => Or.inr hphase⟩

/-- A persistent connection that is established, closed by the user and tried again. -/
theorem run_followsProtocol_reconnected :
    FewIds (run [⟨.start 8, .accepting [] .later⟩, ⟨.requestEvent, .accepting [localPeer true] .later⟩,
      ⟨.connEvent .connecting 0 ⟨false, false, false, true⟩, .accepting [] .later⟩,
      ⟨.call (.closeConnection 0 true), .accepting [] .later⟩,
      ⟨.connection .connected 0 .disconnectFunc, .accepting [] .later⟩]).trace ∧
    phase 0 (run [⟨.start 8, .accepting [] .later⟩, ⟨.requestEvent, .accepting [localPeer true] .later⟩,
      ⟨.connEvent .connecting 0 ⟨false, false, false, true⟩, .accepting [] .later⟩,
      ⟨.call (.closeConnection 0 true), .accepting [] .later⟩,
      ⟨.connection .connected 0 .disconnectFunc, .accepting [] .later⟩]).trace ≠ none :=
  ⟨by decide +kernel, (run_followsProtocol _ (by decide +kernel) 0).1⟩

end LibBtcNet
