import LibBtcNet.EvBuffer

/-!
# Buffered sockets of libevent

The part of a `bufferevent` that the library sets or reads, with callbacks deferred as
`BEV_OPT_DEFER_CALLBACKS` asks: bytes that move over the socket only mark a callback as
pending, and a later dispatch runs whichever callback is installed at that time. Of the
output queue only its length matters; what is handed to it is recorded where it is
written.
-/

namespace LibBtcNet

/-- The read callbacks the library installs. -/
inductive ReadCb where
  | receiveInit
  | checkAuthResponse
  | readFinal
  | readCbChunk
  | readCbMessage
deriving DecidableEq, Repr

/-- The write callbacks the library installs. -/
inductive WriteCb where
  | writeCb
  | closeOnFinishedWritecb
deriving DecidableEq, Repr

/-- The event callbacks the library installs. -/
inductive EventCb where
  | connEvent
  | proxyEventCb
  | eventCb
deriving DecidableEq, Repr

/-- The flags of `BEV_EVENT_*` that the library tests. -/
structure BevEvents where
  eof : Bool
  error : Bool
  timeout : Bool
  connected : Bool
deriving DecidableEq, Repr

/-- No event. -/
def BevEvents.none : BevEvents := ⟨false, false, false, false⟩

/-- The bitwise or of two event masks. -/
def BevEvents.or (left right : BevEvents) : BevEvents :=
  ⟨left.eof || right.eof, left.error || right.error, left.timeout || right.timeout,
    left.connected || right.connected⟩

/-- The state of one `bufferevent`. -/
structure BufferEvent where
  input : EvBuffer
  output : ℕ
  readcb : Option ReadCb
  writecb : Option WriteCb
  eventcb : Option EventCb
  readLow : ℕ
  readHigh : ℕ
  writeLow : ℕ
  readEnabled : Bool
  writeEnabled : Bool
  readTimeout : ℤ
  writeTimeout : ℤ
  readPending : Bool
  writePending : Bool
  eventPending : BevEvents
deriving DecidableEq, Repr

namespace BufferEvent

/-- `bufferevent_socket_new`: writing starts enabled. -/
def socketNew : BufferEvent where
  input := []
  output := 0
  readcb := none
  writecb := none
  eventcb := none
  readLow := 0
  readHigh := 0
  writeLow := 0
  readEnabled := false
  writeEnabled := true
  readTimeout := 0
  writeTimeout := 0
  readPending := false
  writePending := false
  eventPending := .none

/-- `bufferevent_setcb`. -/
def setcb (readcb : Option ReadCb) (writecb : Option WriteCb) (eventcb : Option EventCb)
    (bev : BufferEvent) : BufferEvent :=
  { bev with readcb, writecb, eventcb }

/-- `bufferevent_setwatermark` for `EV_READ`. -/
def setReadWatermark (low high : ℕ) (bev : BufferEvent) : BufferEvent :=
  { bev with readLow := low, readHigh := high }

/-- `bufferevent_setwatermark` for `EV_WRITE`. -/
def setWriteWatermark (low : ℕ) (bev : BufferEvent) : BufferEvent := { bev with writeLow := low }

/-- `bufferevent_set_timeouts`, in seconds. -/
def setTimeouts (read write : ℤ) (bev : BufferEvent) : BufferEvent :=
  { bev with readTimeout := read, writeTimeout := write }

/-- `bufferevent_enable` or `bufferevent_disable` of `EV_READ`. -/
def setReading (on : Bool) (bev : BufferEvent) : BufferEvent := { bev with readEnabled := on }

/-- `bufferevent_enable` or `bufferevent_disable` of `EV_READ | EV_WRITE`. -/
def setReadingWriting (on : Bool) (bev : BufferEvent) : BufferEvent :=
  { bev with readEnabled := on, writeEnabled := on }

/-- `bufferevent_write` of `size` bytes. -/
def write (size : ℕ) (bev : BufferEvent) : BufferEvent := { bev with output := bev.output + size }

/-- Reading waits while the input holds as much as a nonzero high watermark. -/
def readSuspended (bev : BufferEvent) : Bool :=
  decide (bev.readHigh ≠ 0 ∧ bev.readHigh ≤ bev.input.getLength)

/-- Bytes arrive from the socket; at or above the low watermark the read callback is pending. -/
def arrive (chunks : List Bytes) (bev : BufferEvent) : BufferEvent :=
  { bev with
    input := bev.input.add chunks
    readPending := bev.readPending ||
      (bev.readcb.isSome && decide (bev.readLow ≤ (bev.input.add chunks).getLength)) }

/-- The socket takes bytes; at or below the low watermark the write callback is pending. -/
def drained (size : ℕ) (bev : BufferEvent) : BufferEvent :=
  { bev with
    output := bev.output - size
    writePending := bev.writePending ||
      (bev.writecb.isSome && decide (bev.output - size ≤ bev.writeLow)) }

/-- The socket reports events; the event callback is pending with them. -/
def raise (what : BevEvents) (bev : BufferEvent) : BufferEvent :=
  if bev.eventcb.isSome then { bev with eventPending := bev.eventPending.or what } else bev

/-- Arriving bytes that leave an installed callback not pending are less than it waits for. -/
theorem lt_of_arrive_not_pending (bev : BufferEvent) {readcb : ReadCb} (hreadcb : bev.readcb = some readcb)
    {chunks : List Bytes} (hpending : (bev.arrive chunks).readPending = false) :
    (bev.arrive chunks).input.getLength < (bev.arrive chunks).readLow := by
  simp only [arrive, Bool.or_eq_false_iff, hreadcb, Option.isSome_some, Bool.true_and,
    decide_eq_false_iff_not, Nat.not_le] at hpending
  exact hpending.2

end BufferEvent

end LibBtcNet
