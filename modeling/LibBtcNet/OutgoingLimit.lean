import LibBtcNet.HandlerTrace

/-!
# The limit of outgoing connections

The number of connections that the handler asks for is the limit less the established outgoing
connections and the size of `m_connecting`. An attempt that succeeds moves from the one term to
the other, one that fails and is accepted for a retry or a reconnect moves back, and all others
only make room. So the difference is never negative, and the limit is kept at every stage of
every step, whatever ids are issued. The cap of `g_max_simultaneous_connecting` is another
matter: it bounds what one request asks for, and no request looks at the attempts of the
requests before it.
-/

namespace LibBtcNet

open CConnectionHandlerInt

/-- The attempts in hand. -/
def Hand.attempts : Hand → ℕ
  | .accepted _ obj => obj.isOutgoing.toNat
  | .retrying _ => 1
  | _ => 0

/-- The attempts of a stage: those under way, the one in hand and those about to be started. -/
def Stage.attempts (s : Stage) : ℕ :=
  s.handler.connecting.size + s.hand.attempts + s.pending.countP fun conn => !conn.isResolveOnly

/-- The user accepts that a persistent connection is tried again. -/
def TraceItem.reconnects : TraceItem → Bool
  | .callback (.onDisconnected _ true) answer _ => answer
  | _ => false

/-- A persistent connection has been tried again. -/
def Reconnects (t : Trace) : Prop := ∃ item ∈ t, item.reconnects = true

/-- Which is decidable. -/
instance (t : Trace) : Decidable (Reconnects t) := inferInstanceAs (Decidable (∃ item ∈ t, item.reconnects = true))

/-- What a move does to the attempts and to the count of the established connections: an attempt may
succeed, and an established connection may be tried again. -/
inductive Exchange (s s' : Stage) : Prop where
  | less (hattempts : s'.attempts ≤ s.attempts)
      (hcount : s'.handler.outgoingConnCount ≤ s.handler.outgoingConnCount)
  | succeeded (hattempts : s'.attempts + 1 ≤ s.attempts)
      (hcount : s'.handler.outgoingConnCount = s.handler.outgoingConnCount + 1)
  | reconnected (hattempts : s'.attempts ≤ s.attempts + 1)
      (hcount : s'.handler.outgoingConnCount + 1 = s.handler.outgoingConnCount) (htrace : Reconnects s'.handler.trace)

variable {P : CConnection → Prop} {L : Int32 → Prop}

/-- A replacement is no attempt. -/
theorem size_put {h : CConnectionHandlerInt} {place : Place} {k : ConnID} {old : ConnectionObject}
    (hold : (h.objects place)[k]? = some old) (obj : ConnectionObject) :
    (h.put place k obj).connecting.size = h.connecting.size := by
  cases place with
  | connecting => exact OrderedMap.size_insert hold obj
  | connected => rfl

/-- A report takes its attempt out of the map. -/
theorem Working.size {h : CConnectionHandlerInt} {place : Place} {k : ConnID} {obj ptr : ConnectionObject}
    {r : ConnResult ConnectionObject} (working : Working h place k obj r)
    (hptr : (h.worked place k obj r).connecting[k]? = some ptr) :
    ((h.worked place k obj r).takeConnecting k).connecting.size + 1 = h.connecting.size := by
  rw [← size_put working.found r.obj]
  exact OrderedMap.size_erase hptr

namespace Exchange

variable {h h' : CConnectionHandlerInt} {hand : Hand} {conns : List CConnection} {place : Place} {k id : ConnID}
  {obj ptr : ConnectionObject} {r : ConnResult ConnectionObject} {c : Callback} {ret : Bool}

/-- A report takes an attempt out of the map, and has one in hand at most. -/
theorem took {hand : Hand} (working : Working h place k obj r)
    (hptr : (h.worked place k obj r).connecting[k]? = some ptr) (hhand : hand.attempts ≤ 1) :
    Exchange ⟨h, .idle, conns⟩ ⟨((h.worked place k obj r).takeConnecting k).called c ret obj.base.conn, hand,
      conns⟩ := by
  have hsize := working.size hptr
  have hidle : Hand.attempts .idle = 0 := rfl
  refine .less ?_ (put_outgoingConnCount ..).le
  simp only [Stage.attempts, called, record]
  omega

/-- A connection that is over is an attempt again if the user accepts that. -/
theorem ended {reconnect : Bool} (hhand : hand = .idle ∨ hand = .closing k)
    (hreconnect : reconnect = true → obj.isOutgoing = true) :
    Exchange ⟨h, hand, conns⟩ ⟨({ h with connected := h.connected.erase k }.count obj.isOutgoing (-1)).called
      (.onDisconnected k reconnect) ret obj.base.conn, if reconnect && ret then .retrying obj else .idle, conns⟩ := by
  have hattempts : hand.attempts = 0 := by rcases hhand with rfl | rfl <;> rfl
  by_cases hretry : (reconnect && ret) = true
  · obtain ⟨rfl, rfl⟩ := Bool.and_eq_true_iff.mp hretry
    have houtgoing := hreconnect rfl
    refine .reconnected ?_ ?_ ⟨.callback (.onDisconnected k true) true (some obj.base.conn), ?_, rfl⟩
    · simp only [Stage.attempts, called, record, count_connecting, hattempts]
      simp [Hand.attempts]
      omega
    · simp [called, record, count, houtgoing]
    · simp [called, record]
  · refine .less ?_ ?_
    · simp only [Stage.attempts, called, record, count_connecting, hattempts, if_neg hretry]
      exact le_rfl
    · cases hdirection : obj.isOutgoing <;> simp [called, record, count]

/-- An attempt under a new id is the one in hand or one that was about to be started. -/
theorem joined {rest : List CConnection} {connecting : ConnMap ConnectionObject}
    (hissue : h.getNextConnectionIndex = (id, h')) (hsize : connecting.size ≤ h.connecting.size + 1)
    (hspent : rest.countP (fun conn => !conn.isResolveOnly) + 1 ≤
      hand.attempts + conns.countP fun conn => !conn.isResolveOnly) :
    Exchange ⟨h, hand, conns⟩ ⟨{ h' with connecting }, .idle, rest⟩ := by
  obtain ⟨index, failures, rfl, -, -⟩ := issued_shape hissue
  have hidle : Hand.attempts .idle = 0 := rfl
  refine .less ?_ le_rfl
  simp only [Stage.attempts]
  omega

end Exchange

/-- What any move does to the attempts. -/
theorem Move.exchange {s s' : Stage} (move : Move P L s s') (objects : Objects P s) : Exchange s s' := by
  cases move with
  | user frame =>
    refine .less ?_ frame.outgoingConnCount.le
    rw [Stage.attempts, frame.connecting]
    rfl
  | forget =>
    refine .less (Nat.add_le_add_left ?_ _) le_rfl
    rw [List.countP_cons]
    exact Nat.le_add_right _ _
  | stray working hreport hnone =>
    refine .less ?_ (put_outgoingConnCount ..).le
    simp only [Stage.attempts, CConnectionHandlerInt.fail, worked, record]
    rw [size_put working.found]
  | relooked hsame =>
    refine .less ?_ le_rfl
    simp only [Stage.attempts]
    rw [OrderedMap.size_congr hsame]
  | @changed h hand conns k obj obj' hobj hchanges => exact .less le_rfl le_rfl
  | @rearmed h conns k obj hobj =>
    refine .less ?_ le_rfl
    have hfound : (h.objects .connecting)[k]? = some obj := hobj
    simp only [Stage.attempts]
    rw [size_put hfound]
  | waited working hreport =>
    refine .less ?_ (put_outgoingConnCount ..).le
    simp only [Stage.attempts, worked, record]
    rw [size_put working.found]
  | failed working hreport hptr =>
    refine .took working hptr ?_
    split <;> simp [Hand.attempts]
  | @outgoing h conns place k obj ptr r bev resolved ret working hreport hptr =>
    refine .took working hptr ?_
    split
    · exact ptr.isOutgoing.toNat_le
    · exact Nat.zero_le 1
  | @accepted h h' conns k id conn addr bytesRead bytesWritten ret connecting hrunning hbind hissue hfree hsame =>
    obtain ⟨index, failures, rfl, -, -⟩ := issued_shape hissue
    refine .less ?_ le_rfl
    change connecting.size + _ + _ ≤ h.connecting.size + 0 + _
    rw [OrderedMap.size_congr hsame]
    split <;> exact le_rfl
  | @establishedIncoming h conns k obj hincoming => exact .less (by simp [Stage.attempts, Hand.attempts]) le_rfl
  | @establishedOutgoing h conns k obj ret houtgoing =>
    refine .succeeded ?_ rfl
    simp only [Stage.attempts, Hand.attempts, called, record, houtgoing, Bool.toNat_true]
    omega
  | @ended h hand conns k obj reconnect ret hhand hobj hstopped hreconnect =>
    refine .ended hhand fun hagain => ?_
    rw [hreconnect] at hagain
    simp only [Bool.and_eq_true] at hagain
    exact hagain.1.2
  | @retried h h' conns id obj hissue =>
    refine .joined hissue ?_ (by simp only [Hand.attempts]; omega)
    rw [Std.TreeMap.size_modify]
    obtain ⟨index, failures, rfl, -, -⟩ := issued_shape hissue
    exact Std.TreeMap.size_insertIfNew_le
  | @started h h' conns id conn bytesRead bytesWritten hsupplied hconnects hissue =>
    refine .joined hissue ?_ (by simp [hconnects])
    obtain ⟨index, failures, rfl, -, -⟩ := issued_shape hissue
    exact Std.TreeMap.size_insertIfNew_le
  | resolveStarted hsupplied hproxy hissue =>
    obtain ⟨index, failures, rfl, -, -⟩ := issued_shape hissue
    refine .less (Nat.add_le_add_left ?_ _) le_rfl
    rw [List.countP_cons]
    exact Nat.le_add_right _ _
  | begun hlimit hbase hcount => exact .less (Nat.add_le_add_left (Nat.zero_le _) _) le_rfl
  | shutdownBegun hrunning => exact .less (Nat.add_le_add_left (Nat.zero_le _) _) le_rfl
  | @shutdownDisconnected h conns entry entries ret =>
    refine .less ?_ ?_
    · simp [Stage.attempts, called, record, Hand.attempts]
    · cases hdirection : entry.2.isOutgoing <;> simp [called, record, count]
  | @shutdownDropped h conns entry entries =>
    have hsize : (h.connecting.erase entry.1).size ≤ h.connecting.size := Std.TreeMap.size_erase_le
    refine .less ?_ le_rfl
    change (h.connecting.erase entry.1).size + _ + _ ≤ h.connecting.size + _ + _
    exact Nat.add_le_add_right (Nat.add_le_add_right hsize _) _
  | shutdownDone =>
    rw [check_eq]
    exact .less le_rfl le_rfl
  | _ => exact .less le_rfl le_rfl

/-- Every established outgoing connection is counted. -/
def Stage.Counted (s : Stage) : Prop :=
  (s.handler.established true + s.hand.counted true : ℤ) ≤ s.handler.outgoingConnCount

/-- A connection established under any id adds one at most. -/
theorem established_insertIfNew_le (h : CConnectionHandlerInt) (id : ConnID) (obj : ConnectionObject) :
    established { h with connected := h.connected.insertIfNew id obj } true ≤
      h.established true + obj.isOutgoing.toNat := by
  cases hid : h.connected[id]? with
  | none =>
    have hinsert := OrderedMap.countValues_insertIfNew (fun obj : ConnectionObject => obj.isOutgoing == true) obj hid
    rw [beq_true] at hinsert
    exact hinsert.le
  | some old =>
    have hinsert := OrderedMap.countValues_insertIfNew_of_some (fun obj : ConnectionObject => obj.isOutgoing == true)
      obj hid
    exact hinsert.le.trans (Nat.le_add_right _ _)

/-- They stay counted where no more are established. -/
theorem Stage.Counted.of_le {h h' : CConnectionHandlerInt} {hand hand' : Hand} {conns rest : List CConnection}
    (counted : Stage.Counted ⟨h, hand, conns⟩) (hestablished : h'.established true ≤ h.established true)
    (hhand : hand'.counted true ≤ hand.counted true) (hcount : h'.outgoingConnCount = h.outgoingConnCount) :
    Stage.Counted ⟨h', hand', rest⟩ := by
  simp only [Stage.Counted] at counted ⊢
  omega

/-- A method of a connection establishes nothing. -/
theorem Working.established {h : CConnectionHandlerInt} {place : Place} {k : ConnID} {obj : ConnectionObject}
    {r : ConnResult ConnectionObject} (working : Working h place k obj r) :
    (h.worked place k obj r).established true = h.established true :=
  established_put working.found working.works.outgoing true

/-- Every move keeps them counted. -/
theorem Move.counted {s s' : Stage} (move : Move P L s s') (counted : s.Counted) : s'.Counted := by
  cases move with
  | user frame =>
    have hestablished := frame.count fun kind => kind.isOutgoing == true
    exact counted.of_le hestablished.le le_rfl frame.outgoingConnCount
  | stray working hreport hnone =>
    exact counted.of_le working.established.le le_rfl (put_outgoingConnCount ..)
  | @changed h hand conns k obj obj' hobj hchanges =>
    have hfound : (h.objects .connected)[k]? = some obj := hobj
    have hput := established_put hfound (congrArg ConnKind.isOutgoing hchanges.kind) true
    exact counted.of_le hput.le le_rfl rfl
  | waited working hreport =>
    exact counted.of_le working.established.le le_rfl (put_outgoingConnCount ..)
  | @failed h conns place k obj ptr r type failed retry ret working hreport hptr =>
    refine counted.of_le working.established.le ?_ (put_outgoingConnCount ..)
    split <;> exact le_rfl
  | @outgoing h conns place k obj ptr r bev resolved ret working hreport hptr =>
    refine counted.of_le working.established.le ?_ (put_outgoingConnCount ..)
    split <;> exact le_rfl
  | @accepted h h' conns k id conn addr bytesRead bytesWritten ret connecting hrunning hbind hissue hfree hsame =>
    obtain ⟨index, failures, rfl, -, -⟩ := issued_shape hissue
    refine counted.of_le le_rfl ?_ rfl
    split <;> exact le_rfl
  | @establishedIncoming h conns k obj hincoming =>
    have hle := established_insertIfNew_le h k obj.enable
    change obj.enable.isOutgoing = false at hincoming
    rw [hincoming] at hle
    exact counted.of_le hle le_rfl rfl
  | @establishedOutgoing h conns k obj ret houtgoing =>
    have hle := established_insertIfNew_le h k obj.enable
    change obj.enable.isOutgoing = true at houtgoing
    rw [houtgoing, Bool.toNat_true] at hle
    change (h.established true + (0 : ℕ) : ℤ) ≤ h.outgoingConnCount at counted
    change (established { h with connected := h.connected.insertIfNew k obj.enable } true + (0 : ℕ) : ℤ) ≤
      h.outgoingConnCount + 1
    omega
  | @ended h hand conns k obj reconnect ret hhand hobj hstopped hreconnect =>
    have herase := OrderedMap.countValues_erase (fun obj : ConnectionObject => obj.isOutgoing == true) hobj
    have hbefore : hand.counted true = 0 := by rcases hhand with rfl | rfl <;> rfl
    have hafter : (if reconnect && ret then Hand.retrying obj else .idle).counted true = 0 := by split <;> rfl
    simp only [Stage.Counted, hbefore, hafter, established, called, record, count_connected] at counted ⊢
    cases hdirection : obj.isOutgoing with
    | false =>
      simp [hdirection, count] at herase counted ⊢
      omega
    | true =>
      simp [hdirection, count] at herase counted ⊢
      omega
  | @retried h h' conns id obj hissue =>
    obtain ⟨index, failures, rfl, -, -⟩ := issued_shape hissue
    exact counted
  | started hsupplied hconnects hissue =>
    obtain ⟨index, failures, rfl, -, -⟩ := issued_shape hissue
    exact counted
  | resolveStarted hsupplied hproxy hissue =>
    obtain ⟨index, failures, rfl, -, -⟩ := issued_shape hissue
    exact counted
  | @shutdownBegun h conns hrunning =>
    -- The connections that leave the map are in hand.
    have hempty : OrderedMap.countValues (fun obj : ConnectionObject => obj.isOutgoing == true)
        (∅ : ConnMap ConnectionObject) = 0 := OrderedMap.countValues_of_isEmpty _ rfl
    change (h.established true + (0 : ℕ) : ℤ) ≤ h.outgoingConnCount at counted
    change (OrderedMap.countValues _ (∅ : ConnMap ConnectionObject) + h.established true : ℤ) ≤ h.outgoingConnCount
    rw [hempty]
    omega
  | @shutdownDisconnected h conns entry entries ret =>
    simp only [Stage.Counted, Hand.counted, List.countP_cons, established, called, record,
      count_connected] at counted ⊢
    cases hdirection : entry.2.isOutgoing with
    | false =>
      simp [hdirection, count] at counted ⊢
      omega
    | true =>
      simp [hdirection, count] at counted ⊢
      omega
  | shutdownDone =>
    rw [check_eq]
    exact counted
  | _ => exact counted

/-- The limits that a user may set: not negative. -/
abbrev NonNegative (limit : Int32) : Prop := 0 ≤ limit.toInt

/-- The slots of a stage: established connections and attempts keep the limit. -/
structure Slots (s : Stage) : Prop where
  limit : s.handler.outgoingConnCount + s.attempts ≤ s.handler.outgoingConnLimit.toInt
  counted : s.Counted

/-- A move changes the limit only when the handler is started. -/
theorem Move.limit {s s' : Stage} (move : Move P L s s') (objects : Objects P s) :
    s'.handler.outgoingConnLimit = s.handler.outgoingConnLimit ∨
      (L s'.handler.outgoingConnLimit ∧ s'.handler.outgoingConnCount = 0 ∧ s'.attempts = 0) := by
  cases move with
  | user frame => exact Or.inl frame.outgoingConnLimit
  | accepted hrunning hbind hissue =>
    obtain ⟨index, failures, rfl, -, -⟩ := issued_shape hissue
    exact Or.inl rfl
  | retried hissue =>
    obtain ⟨index, failures, rfl, -, -⟩ := issued_shape hissue
    exact Or.inl rfl
  | started hsupplied hconnects hissue =>
    obtain ⟨index, failures, rfl, -, -⟩ := issued_shape hissue
    exact Or.inl rfl
  | resolveStarted hsupplied hproxy hissue =>
    obtain ⟨index, failures, rfl, -, -⟩ := issued_shape hissue
    exact Or.inl rfl
  | @begun h conns limit ret hlimit hbase hcount =>
    refine Or.inr ⟨hlimit, hcount, ?_⟩
    have hidle : h.Idle := by
      rcases objects.hand with hrunning | hidle
      · exact absurd (hrunning.1.symm.trans hbase) (by simp)
      · exact hidle
    have hempty : h.connecting.size = 0 := by
      have hisEmpty := OrderedMap.isEmpty_iff.mpr hidle.connecting
      rw [Std.TreeMap.isEmpty_eq_size_eq_zero] at hisEmpty
      exact of_decide_eq_true hisEmpty
    change h.connecting.size + 0 + 0 = 0
    rw [hempty]
  | shutdownDone =>
    rw [check_eq]
    exact Or.inl rfl
  | _ => exact Or.inl (by simp [CConnectionHandlerInt.fail, called, takeConnecting, worked, record])

/-- Every move keeps the slots. -/
theorem Move.slots {s s' : Stage} (move : Move P NonNegative s s') (objects : Objects P s) (slots : Slots s) :
    Slots s' := by
  refine ⟨?_, move.counted slots.counted⟩
  have hlimit := slots.limit
  rcases move.limit objects with hsame | ⟨hnonneg, hcount, hattempts⟩
  · rw [hsame]
    cases move.exchange objects with
    | less hattempts hcount => omega
    | succeeded hattempts hcount => omega
    | reconnected hattempts hcount => omega
  · rw [hcount, hattempts]
    exact hnonneg

/-- So do many moves. -/
theorem Moves.slots {s s' : Stage} (moves : Moves P NonNegative s s') (sound : Sound P s) (slots : Slots s) :
    Slots s' := by
  induction moves with
  | refl => exact slots
  | tail moves move ih => exact move.slots (Moves.sound moves sound).objects ih

section Requests

variable {h : CConnectionHandlerInt} {input : HandlerInput}

/-- The free slots of a handler, as the request computes them, and the question that follows from them. -/
theorem Slots.free (slots : Slots ⟨h, .idle, []⟩) :
    h.outgoingConnLimit.toInt - h.outgoingConnCount - sizeToInt h.connecting.size =
        h.outgoingConnLimit.toInt - h.outgoingConnCount - h.connecting.size ∧
      0 ≤ h.outgoingConnLimit.toInt - h.outgoingConnCount - h.connecting.size ∧
      (h.needed : ℤ) = min 8 (h.outgoingConnLimit.toInt - h.outgoingConnCount - h.connecting.size) := by
  have hlimit : h.outgoingConnCount + ((h.connecting.size + 0 + 0 : ℕ) : ℤ) ≤ h.outgoingConnLimit.toInt := slots.limit
  have hcounted : (h.established true + (0 : ℕ) : ℤ) ≤ h.outgoingConnCount := slots.counted
  have hint : h.outgoingConnLimit.toInt < 2 ^ 31 := Int32.toInt_lt _
  have hsize : sizeToInt h.connecting.size = h.connecting.size := sizeToInt_of_lt (by omega)
  have hfree : 0 ≤ h.outgoingConnLimit.toInt - h.outgoingConnCount - h.connecting.size := by omega
  refine ⟨by rw [hsize], hfree, ?_⟩
  rw [needed, hsize, gMaxSimultaneousConnecting, sizeT_of_nonneg (by omega) (by omega),
    Int.toNat_of_nonneg (by omega)]

/-- No more is started than needed. -/
theorem starting_length_le (env : Environment) (h : CConnectionHandlerInt) : (h.starting env).length ≤ h.needed := by
  refine (List.length_filter_le _ _).trans ?_
  rw [List.length_take]
  omega

/-- The connections that a request starts fit into the free slots. -/
theorem Slots.opening (slots : Slots ⟨h, .idle, []⟩) (env : Environment) (event : HandlerEvent) :
    Slots (h.opening env event) := by
  obtain ⟨-, hfree, hneeded⟩ := slots.free
  unfold CConnectionHandlerInt.opening
  split
  · refine ⟨?_, slots.counted⟩
    have hstarting := starting_length_le env h
    have hconnects : (h.starting env).countP (fun conn => !conn.isResolveOnly) ≤ (h.starting env).length :=
      List.countP_le_length
    change h.outgoingConnCount + ((h.connecting.size + 0 +
      (h.starting env).countP fun conn => !conn.isResolveOnly : ℕ) : ℤ) ≤ h.outgoingConnLimit.toInt
    omega
  · exact slots

/-- A step keeps the slots, when a start sets no negative limit. -/
theorem step_slots (supplies : input.Supplies P NonNegative) (sound : Sound P ⟨h, .idle, []⟩)
    (slots : Slots ⟨h, .idle, []⟩) : Slots ⟨h.step input, .idle, []⟩ := by
  unfold step
  split
  · next hstep =>
    have henabled := (Bool.and_eq_true_iff.mp hstep).2
    exact Moves.slots (react_moves supplies sound henabled) (sound.opening input.env henabled)
      (slots.opening input.env input.event)
  · exact slots

/-- So does a run. -/
theorem run_slots (inputs : List HandlerInput) (hsupplies : ∀ input ∈ inputs, input.Supplies P NonNegative) :
    Slots ⟨run inputs, .idle, []⟩ := by
  induction inputs using List.reverseRecOn with
  | nil => exact ⟨le_rfl, le_rfl⟩
  | append_singleton inputs input ih =>
    have hbefore : ∀ other ∈ inputs, other.Supplies P NonNegative := fun other hother =>
      hsupplies other (by simp [hother])
    rw [run_concat]
    exact step_slots (hsupplies input (by simp)) (run_sound inputs hbefore) (ih hbefore)

end Requests

/-- The outgoing connections of a map. -/
abbrev outgoingIn (m : ConnMap ConnectionObject) : ℕ := OrderedMap.countValues ConnectionObject.isOutgoing m

/-- The outgoing connections of a handler keep its limit, and the slots that are free are not negative. -/
structure WithinLimit (h : CConnectionHandlerInt) : Prop where
  slots : (outgoingIn h.connected + outgoingIn h.connecting : ℤ) ≤ h.outgoingConnLimit.toInt
  free : 0 ≤ h.outgoingConnLimit.toInt - h.outgoingConnCount - sizeToInt h.connecting.size

/-- A question asks for one connection at least, for eight at most, and for no more than there are free slots. -/
def TraceItem.AsksWithin (h : CConnectionHandlerInt) : TraceItem → Prop
  | .callback (.onNeedOutgoingConnections needcount) _ _ =>
    1 ≤ needcount ∧ needcount ≤ 8 ∧
      needcount ≤ h.outgoingConnLimit.toInt - outgoingIn h.connected - outgoingIn h.connecting
  | _ => True

/-- The outgoing limit, in every state that a run reaches when no start sets a negative limit, and for every
question of the next step. -/
theorem run_withinLimit (inputs : List HandlerInput) (hlimits : ∀ outgoingLimit : Int32,
    .start outgoingLimit ∈ inputs.map HandlerInput.event → 0 ≤ outgoingLimit.toInt) :
    WithinLimit (run inputs) ∧ ∀ next : HandlerInput, ∃ items,
      (run (inputs ++ [next])).trace = (run inputs).trace ++ items ∧
        ∀ item ∈ items, item.AsksWithin (run inputs) := by
  have hsupplies : ∀ input ∈ inputs, input.Supplies (fun _ => True) NonNegative := fun input hinput =>
    ⟨fun _ _ _ _ => trivial, fun outgoingLimit hstart =>
      hlimits outgoingLimit (List.mem_map.mpr ⟨input, hinput, hstart⟩)⟩
  have hslots := run_slots inputs hsupplies
  obtain ⟨hint, hfree, hneeded⟩ := hslots.free
  have hcounted : ((run inputs).established true + (0 : ℕ) : ℤ) ≤ (run inputs).outgoingConnCount := hslots.counted
  have hestablished : (run inputs).established true = outgoingIn (run inputs).connected := by
    simp [established, outgoingIn]
  have hconnecting : outgoingIn (run inputs).connecting ≤ (run inputs).connecting.size :=
    OrderedMap.countValues_le_size _ _
  refine ⟨⟨by omega, by rw [hint]; exact hfree⟩, fun next => ?_⟩
  have hnext : next.Supplies (fun _ => True) fun _ => True := ⟨fun _ _ _ _ => trivial, fun _ _ => trivial⟩
  obtain ⟨items, htrace, hitems⟩ := step_items hnext (run_sound inputs hsupplies)
  refine ⟨items, by rw [run_concat, htrace], fun item hitem => ?_⟩
  rcases hitems item hitem with hfits | ⟨hpos, answer, rfl⟩
  · unfold TraceItem.AsksWithin
    split
    · contradiction
    · trivial
  · have hcount : sizeToInt (run inputs).needed = (run inputs).needed := sizeToInt_of_lt (by omega)
    simp only [TraceItem.AsksWithin, asking, hcount]
    omega

/-- A limit of two that is used up by an established connection and an attempt. -/
theorem run_withinLimit_two :
    (∀ outgoingLimit : Int32, .start outgoingLimit ∈ [⟨.start 2, .accepting [] .later⟩,
      ⟨.requestEvent, .accepting [localPeer true, localPeer false] .later⟩,
      ⟨.connEvent .connecting 0 ⟨false, false, false, true⟩, .accepting [] .later⟩].map HandlerInput.event →
        0 ≤ outgoingLimit.toInt) ∧
    WithinLimit (run [⟨.start 2, .accepting [] .later⟩,
      ⟨.requestEvent, .accepting [localPeer true, localPeer false] .later⟩,
      ⟨.connEvent .connecting 0 ⟨false, false, false, true⟩, .accepting [] .later⟩]) := by
  have hlimits : ∀ outgoingLimit : Int32, .start outgoingLimit ∈ [⟨.start 2, .accepting [] .later⟩,
      ⟨.requestEvent, .accepting [localPeer true, localPeer false] .later⟩,
      ⟨.connEvent .connecting 0 ⟨false, false, false, true⟩, .accepting [] .later⟩].map HandlerInput.event →
        0 ≤ outgoingLimit.toInt := by
    intro outgoingLimit hstart
    simp at hstart
    subst hstart
    decide
  exact ⟨hlimits, (run_withinLimit _ hlimits).1⟩

/-- Every request starts no more connections than the cap leaves beside the attempts under way. -/
def RequestsWithinCap (inputs : List HandlerInput) : Prop :=
  ∀ (before : List HandlerInput) (env : Environment), before ++ [⟨.requestEvent, env⟩] <+: inputs →
    outgoingIn (run before).connecting + ((run before).starting env).countP (fun conn => !conn.isResolveOnly) ≤ 8

/-- What has not happened at the end has not happened before. -/
theorem Reconnects.of_grown {t t' : Trace} (hgrown : t <+: t') (hreconnects : Reconnects t) : Reconnects t' := by
  obtain ⟨item, hmem, hitem⟩ := hreconnects
  exact ⟨item, hgrown.subset hmem, hitem⟩

/-- Moves without a reconnect add no attempt. -/
theorem Moves.attempts_le {s s' : Stage} (moves : Moves P L s s') (sound : Sound P s)
    (hnone : ¬Reconnects s'.handler.trace) : s'.attempts ≤ s.attempts := by
  induction moves with
  | refl => exact le_rfl
  | tail moves move ih =>
    have hbefore := ih fun hreconnects => hnone (hreconnects.of_grown move.trace)
    cases move.exchange (Moves.sound moves sound).objects with
    | less hattempts hcount => exact hattempts.trans hbefore
    | succeeded hattempts hcount => omega
    | reconnected hattempts hcount hreconnects => exact absurd hreconnects hnone

/-- The attempts of a handler between two steps are the outgoing connections of `m_connecting`. -/
theorem Sound.attempts_eq {h : CConnectionHandlerInt} (sound : Sound P ⟨h, .idle, []⟩) :
    Stage.attempts ⟨h, .idle, []⟩ = outgoingIn h.connecting := by
  change h.connecting.size = _
  rw [← OrderedMap.countValues_true]
  refine List.countP_congr fun entry hentry => ?_
  have hobj := Std.TreeMap.mem_toList_iff_getElem?_eq_some.mp hentry
  simp [(sound.objects.connecting entry.1 entry.2 hobj).outgoing]

/-- The attempts under way stay within the cap in every run whose requests leave them room, as long as no
persistent connection is tried again. -/
theorem run_withinCap (inputs : List HandlerInput) (hcap : RequestsWithinCap inputs)
    (hnone : ¬Reconnects (run inputs).trace) : outgoingIn (run inputs).connecting ≤ 8 := by
  have hsupplies (input : HandlerInput) : input.Supplies (fun _ => True) fun _ => True :=
    ⟨fun _ _ _ _ => trivial, fun _ _ => trivial⟩
  induction inputs using List.reverseRecOn with
  | nil => exact Nat.zero_le 8
  | append_singleton inputs input ih =>
    have hsound := run_sound inputs fun input _ => hsupplies input
    obtain ⟨items, htrace, -⟩ := step_items (hsupplies input) hsound
    rw [run_concat] at hnone ⊢
    have hbefore : outgoingIn (run inputs).connecting ≤ 8 := by
      refine ih (fun before env hgrown => hcap before env (hgrown.trans (List.prefix_append _ _)))
        fun hreconnects => ?_
      exact hnone (hreconnects.of_grown ⟨items, htrace.symm⟩)
    rw [← (step_sound (hsupplies input) hsound).attempts_eq]
    rw [← hsound.attempts_eq] at hbefore
    obtain ⟨event, env⟩ := input
    have hopening : ((run inputs).opening env event).attempts ≤ 8 := by
      unfold CConnectionHandlerInt.opening
      split
      · next hrequest =>
        obtain ⟨rfl, -⟩ := hrequest
        have hroom := hcap inputs env (List.prefix_refl _)
        rw [← hsound.attempts_eq] at hroom
        exact hroom
      · exact hbefore
    unfold step at hnone ⊢
    split
    · next hstep =>
      rw [if_pos hstep] at hnone
      have henabled := (Bool.and_eq_true_iff.mp hstep).2
      exact (Moves.attempts_le (react_moves (hsupplies _) hsound henabled) (hsound.opening env henabled) hnone).trans
        hopening
    · exact hbefore

/-- Two requests that fit under the cap. -/
theorem run_withinCap_two : RequestsWithinCap [⟨.start 2, .accepting [] .later⟩,
      ⟨.requestEvent, .accepting [localPeer false, localPeer false] .later⟩] ∧
    ¬Reconnects (run [⟨.start 2, .accepting [] .later⟩,
      ⟨.requestEvent, .accepting [localPeer false, localPeer false] .later⟩]).trace ∧
    outgoingIn (run [⟨.start 2, .accepting [] .later⟩,
      ⟨.requestEvent, .accepting [localPeer false, localPeer false] .later⟩]).connecting ≤ 8 := by
  have hcap : RequestsWithinCap [⟨.start 2, .accepting [] .later⟩,
      ⟨.requestEvent, .accepting [localPeer false, localPeer false] .later⟩] := by
    rintro before env ⟨rest, hrest⟩
    match before, hrest with
    | [], hrest => simp at hrest
    | [first], hrest =>
      simp only [List.cons_append, List.nil_append, List.cons.injEq, HandlerInput.mk.injEq, true_and] at hrest
      obtain ⟨rfl, rfl, -⟩ := hrest
      decide +kernel
    | first :: second :: before, hrest => simp at hrest
  exact ⟨hcap, by decide +kernel, run_withinCap _ hcap (by decide +kernel)⟩

/-- Two requests with a limit of sixteen, and a user who offers eight connections each time. -/
def twoRequests : List HandlerInput :=
  [⟨.start 16, .accepting [] .later⟩, ⟨.requestEvent, .accepting (.replicate 8 (localPeer false)) .later⟩,
    ⟨.requestEvent, .accepting (.replicate 8 (localPeer false)) .later⟩]

/-- They leave sixteen attempts under way. -/
theorem run_withinCap_exceeded : ¬∀ inputs : List HandlerInput, (∀ outgoingLimit : Int32,
    .start outgoingLimit ∈ inputs.map HandlerInput.event → 0 ≤ outgoingLimit.toInt) →
      ¬Reconnects (run inputs).trace → outgoingIn (run inputs).connecting ≤ 8 := by
  intro hclaim
  refine absurd (hclaim twoRequests (fun outgoingLimit hstart => ?_) (by decide +kernel)) (by decide +kernel)
  simp [twoRequests] at hstart
  subst hstart
  decide

end LibBtcNet
