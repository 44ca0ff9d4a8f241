import LibBtcNet.PortSplitting

/-!
# The text of an endpoint

`ToString` writes the host, a colon and the port; the constructor reads the text again. A host
with colons of its own makes it unreadable, since nothing is put around it, and a host that is
a numeric address becomes one once a port follows. Every other named endpoint is read back.
-/

namespace LibBtcNet

/-- `ToString`; an address that has no numeric name is left out. -/
def CConnectionBase.toString (names : NameInfo) (c : CConnectionBase) : Bytes :=
  if c.isDns || c.isOnion then c.host ++ colonChar :: Decimal.ofNat c.port.toNat
  else if c.addr = [] then []
  else
    match names.host c.addr, names.service c.addr with
    | some hostbuf, some servbuf =>
      if saFamily c.addr = afInet6 then 91 :: hostbuf ++ 93 :: colonChar :: servbuf
      else if saFamily c.addr = afInet then hostbuf ++ colonChar :: servbuf
      else hostbuf
    | _, _ => []

/-- What an endpoint shows of its name. -/
structure CConnectionBase.SameName (names : NameInfo) (left right : CConnectionBase) : Prop where
  host : left.getHost names = right.getHost names
  port : left.getPort names = right.getPort names
  isDns : left.isDns = right.isDns
  isOnion : left.isOnion = right.isOnion

/-- What libevent accepts of texts with at most one colon: an IPv4 address, alone or with a port that is not zero. -/
structure ParsesPorts (parse : ParseSockAddr) : Prop where
  port : ∀ (addr : Bytes) (port : ℕ), colonChar ∉ addr → 0 ∉ addr → 0 < port → port ≤ 65535 →
    ((parse (addr ++ colonChar :: Decimal.ofNat port)).isSome = true ↔ (parse addr).isSome = true)
  zero : ∀ addr : Bytes, colonChar ∉ addr → 0 ∉ addr → parse (addr ++ colonChar :: Decimal.ofNat 0) = none

/-- No digit is a zero byte or a colon. -/
theorem not_mem_decimal (n : ℕ) {c : UInt8} (hc : Decimal.isDigit c = false) : c ∉ Decimal.ofNat n := by
  intro hmem
  rw [Decimal.isDigit_ofNat hmem] at hc
  contradiction

/-- A C string ends at its first zero byte. -/
theorem cstr_append {before : Bytes} (hzero : 0 ∈ before) (after : Bytes) :
    cstr (before ++ after) = cstr before := by
  have hshort : (before.takeWhile (· != 0)).length ≠ before.length := by
    intro heq
    have hall := List.takeWhile_eq_self_iff.mp ((List.takeWhile_prefix _).eq_of_length heq)
    exact absurd (hall 0 hzero) (by decide)
  rw [cstr, List.takeWhile_append, if_neg hshort, cstr]

/-- A string without zero bytes is all of it. -/
theorem cstr_eq_self {text : Bytes} (hzero : 0 ∉ text) : cstr text = text := by
  refine List.takeWhile_eq_self_iff.mpr fun c hc => ?_
  rw [bne_iff_ne]
  rintro rfl
  exact hzero hc

/-- What a suffix must be for the port to be zero. -/
def NoPort (portstr : Bytes) (portIn : UInt16) : Prop :=
  if portstr = [] then portIn = 0 else ¬ReadsAsPort portstr

/-- No port is left of such a suffix. -/
theorem portSuffix_eq_zero_iff (portstr : Bytes) (portIn : UInt16) :
    portSuffix portstr portIn = 0 ↔ NoPort portstr portIn := by
  unfold NoPort
  by_cases hport : portstr = []
  · rw [portSuffix, if_pos hport, if_pos hport]
  · rw [if_neg hport, ← portSuffix_ne_zero_iff hport portIn, not_not]

/-- A port is read back from its decimal text. -/
theorem portSuffix_decimal (port portIn : UInt16) : portSuffix (Decimal.ofNat port.toNat) portIn = port := by
  have hdigits : ∀ c ∈ Decimal.ofNat port.toNat, Decimal.isDigit c = true := fun c hc => Decimal.isDigit_ofNat hc
  have hle : Decimal.value (Decimal.ofNat port.toNat) ≤ 65535 := by
    rw [Decimal.value_ofNat]
    exact Nat.le_of_lt_succ port.toNat_lt
  rw [portSuffix_digits hdigits, exactPort, if_neg (Decimal.ofNat_ne_nil _), if_pos ⟨List.all_eq_true.mpr hdigits, hle⟩,
    Decimal.value_ofNat, UInt16.ofNat_toNat]

/-- The written text has the colon of the port and those of the host. -/
theorem count_printed (host : Bytes) (port : ℕ) :
    (host ++ colonChar :: Decimal.ofNat port).count colonChar = host.count colonChar + 1 := by
  rw [List.count_append, List.count_cons_self, List.count_eq_zero.mpr (not_mem_decimal port (by decide))]

/-- An endpoint that is named after a host. -/
def CConnectionBase.named (host : Bytes) (port : UInt16) : CConnectionBase :=
  ⟨host, port, !isOnionHost host, isOnionHost host, true, []⟩

/-- It is one or the other. -/
theorem CConnectionBase.named_isDns_or (host : Bytes) (port : UInt16) :
    ((named host port).isDns || (named host port).isOnion) = true := by
  rw [named, Bool.not_or_self]

/-- Its host is shown. -/
theorem CConnectionBase.getHost_named (names : NameInfo) (host : Bytes) (port : UInt16) :
    (named host port).getHost names = host := by
  rw [getHost, if_pos (named_isDns_or host port)]
  rfl

/-- Its text is the host, a colon and the port. -/
theorem CConnectionBase.toString_named (names : NameInfo) (host : Bytes) (port : UInt16) :
    (named host port).toString names = host ++ colonChar :: Decimal.ofNat port.toNat := by
  rw [toString, if_pos (named_isDns_or host port)]
  rfl

section Names

variable {parse : ParseSockAddr} {hostIn : Bytes} {portIn : UInt16}

/-- The fields of an endpoint that is named after a string. -/
theorem CConnectionBase.ofHost_eq (hhost : hostIn ≠ []) (hparse : parse (cstr hostIn) = none) :
    CConnectionBase.ofHost parse hostIn portIn =
      named (hostPart hostIn) (if hostIn.count colonChar = 1 then portSuffix (portPart hostIn) portIn else portIn) := by
  simp only [ofHost, if_neg hhost, hparse, splitPort_eq, named]

/-- A string names an endpoint when it is no numeric address. -/
theorem CConnectionBase.ofHost_named_iff :
    ((CConnectionBase.ofHost parse hostIn portIn).isDns = true ∨
        (CConnectionBase.ofHost parse hostIn portIn).isOnion = true) ↔
      hostIn ≠ [] ∧ parse (cstr hostIn) = none := by
  by_cases hhost : hostIn = []
  · simp [hhost, ofHost, unset]
  · cases hparse : parse (cstr hostIn) with
    | some saddr => simp [ofHost, hhost, hparse]
    | none =>
      rw [ofHost_eq hhost hparse, ← Bool.or_eq_true]
      exact iff_of_true (named_isDns_or _ _) ⟨hhost, rfl⟩

/-- A host without colons and its port are read back, unless libevent accepts them. -/
theorem CConnectionBase.ofHost_printed {host : Bytes} {port : UInt16} (hhost : colonChar ∉ host)
    (hparse : parse (cstr (host ++ colonChar :: Decimal.ofNat port.toNat)) = none) :
    CConnectionBase.ofHost parse (host ++ colonChar :: Decimal.ofNat port.toNat) portIn =
      named host port := by
  have hone : (host ++ colonChar :: Decimal.ofNat port.toNat).count colonChar = 1 := by
    rw [count_printed, List.count_eq_zero.mpr hhost]
  have hpart : hostPart (host ++ colonChar :: Decimal.ofNat port.toNat) = host := by
    rw [hostPart, if_pos hone, takeWhile_colon hhost]
  rw [ofHost_eq (by simp) hparse, hpart, if_pos hone, portPart_append hhost, portSuffix_decimal]

/-- Libevent accepts the text of a host when the host is an address and the port is not zero. -/
theorem ParsesPorts.isSome_printed (h : ParsesPorts parse) {host : Bytes} (hhost : colonChar ∉ host)
    (hzero : 0 ∈ host → parse (cstr host) = none) (port : UInt16) :
    (parse (cstr (host ++ colonChar :: Decimal.ofNat port.toNat))).isSome = true ↔
      (parse (cstr host)).isSome = true ∧ port ≠ 0 := by
  by_cases hmem : 0 ∈ host
  · rw [cstr_append hmem, hzero hmem]
    simp
  · have hprinted : 0 ∉ host ++ colonChar :: Decimal.ofNat port.toNat := by
      simp only [List.mem_append, List.mem_cons, not_or]
      exact ⟨hmem, by decide, not_mem_decimal _ (by decide)⟩
    rw [cstr_eq_self hprinted, cstr_eq_self hmem]
    by_cases hport : port = 0
    · subst hport
      simp [h.zero host hhost hmem]
    · have hpos : 0 < port.toNat := Nat.pos_of_ne_zero fun heq => hport (UInt16.toNat_inj.mp heq)
      rw [h.port host port.toNat hhost hmem hpos (Nat.le_of_lt_succ port.toNat_lt), and_iff_left hport]

/-- A numeric address does not show the name of a named endpoint. -/
theorem CConnectionBase.SameName.parse_eq_none {names : NameInfo} {text host : Bytes} {port : UInt16}
    (h : SameName names (CConnectionBase.ofHost parse text portIn) (named host port)) :
    parse (cstr text) = none := by
  have hnamed : (CConnectionBase.ofHost parse text portIn).isDns = true ∨
      (CConnectionBase.ofHost parse text portIn).isOnion = true := by
    rw [h.isDns, h.isOnion, ← Bool.or_eq_true, named_isDns_or]
  exact (ofHost_named_iff.mp hnamed).2

/-- A host without colons is read back exactly when libevent does not accept its text. -/
theorem CConnectionBase.sameName_printed_iff (names : NameInfo) {host : Bytes} {port : UInt16}
    (hhost : colonChar ∉ host) :
    SameName names (CConnectionBase.ofHost parse ((named host port).toString names) portIn) (named host port) ↔
      parse (cstr (host ++ colonChar :: Decimal.ofNat port.toNat)) = none := by
  rw [toString_named]
  constructor
  · exact SameName.parse_eq_none
  · intro hparse
    rw [ofHost_printed hhost hparse]
    exact ⟨rfl, rfl, rfl, rfl⟩

/-- A host with more colons than one takes its port into the name. -/
theorem CConnectionBase.not_sameName_printed (names : NameInfo) {host : Bytes} {port : UInt16}
    (hhost : host.count colonChar ≠ 0) :
    ¬SameName names (CConnectionBase.ofHost parse ((named host port).toString names) portIn) (named host port) := by
  rw [toString_named]
  intro hsame
  have hmany : (host ++ colonChar :: Decimal.ofNat port.toNat).count colonChar ≠ 1 := by
    rw [count_printed]
    omega
  have hread := @ofHost_eq parse _ portIn (by simp) hsame.parse_eq_none
  have hgetHost := hsame.host
  rw [hread, hostPart, if_neg hmany, getHost_named, getHost_named] at hgetHost
  have hlength := congrArg List.length hgetHost
  rw [List.length_append, List.length_cons] at hlength
  omega

end Names

/-- A named endpoint is read back from its text exactly when the string had at most one colon, and what
was before that colon is no numeric address or was left without a port. -/
theorem CConnectionBase.ofHost_toString_iff {parse : ParseSockAddr} (hparse : ParsesPorts parse) (names : NameInfo)
    {hostIn : Bytes} {portIn : UInt16}
    (hnamed : (CConnectionBase.ofHost parse hostIn portIn).isDns = true ∨
      (CConnectionBase.ofHost parse hostIn portIn).isOnion = true) (portQ : UInt16) :
    SameName names
        (CConnectionBase.ofHost parse ((CConnectionBase.ofHost parse hostIn portIn).toString names) portQ)
        (CConnectionBase.ofHost parse hostIn portIn) ↔
      hostIn.count colonChar = 0 ∨ (hostIn.count colonChar = 1 ∧
        ((parse (cstr (hostIn.takeWhile (· != colonChar)))).isSome = true → NoPort (portPart hostIn) portIn)) := by
  obtain ⟨hhost, hnone⟩ := ofHost_named_iff.mp hnamed
  have hread : CConnectionBase.ofHost parse hostIn portIn = named (hostPart hostIn)
      (if hostIn.count colonChar = 1 then portSuffix (portPart hostIn) portIn else portIn) := ofHost_eq hhost hnone
  rw [hread, hostPart]
  by_cases hone : hostIn.count colonChar = 1
  · have hhostPart : colonChar ∉ hostIn.takeWhile (· != colonChar) := fun hmem => by
      simpa using List.mem_takeWhile_imp hmem
    have hcstr : 0 ∈ hostIn.takeWhile (· != colonChar) → parse (cstr (hostIn.takeWhile (· != colonChar))) = none := by
      intro hmem
      rw [← cstr_append hmem (hostIn.dropWhile (· != colonChar)), List.takeWhile_append_dropWhile, hnone]
    rw [if_pos hone, if_pos hone, sameName_printed_iff names hhostPart, ← Option.not_isSome_iff_eq_none,
      hparse.isSome_printed hhostPart hcstr, not_and_not_right, portSuffix_eq_zero_iff]
    simp [hone]
  · rw [if_neg hone, if_neg hone]
    by_cases hzero : hostIn.count colonChar = 0
    · have hcolon : colonChar ∉ hostIn := List.count_eq_zero.mp hzero
      rw [sameName_printed_iff names hcolon, ← Option.not_isSome_iff_eq_none,
        hparse.isSome_printed hcolon (fun _ => hnone), hnone]
      simp [hzero]
    · simp only [hzero, hone, false_and, or_self, iff_false]
      exact not_sameName_printed names hzero

/-- The characters of `127.0.0.1`. -/
def loopbackChars : Bytes := [49, 50, 55, 46, 48, 46, 48, 46, 49]

/-- A parser that knows this address, alone or with a port. -/
def parseLoopback : ParseSockAddr := fun text =>
  if text.takeWhile (· != colonChar) = loopbackChars ∧ (colonChar ∉ text ∨ exactPort (portPart text) 0 ≠ 0) then
    some ([2, 0] ++ portBytes (exactPort (portPart text) 0) ++ [127, 0, 0, 1] ++ List.replicate 8 0)
  else none

/-- It treats ports as libevent does. -/
theorem parsesPorts_loopback : ParsesPorts parseLoopback := by
  have hexact (port : ℕ) (hport : port ≤ 65535) : exactPort (Decimal.ofNat port) 0 = UInt16.ofNat port := by
    have hdigits : ∀ c ∈ Decimal.ofNat port, Decimal.isDigit c = true := fun c hc => Decimal.isDigit_ofNat hc
    rw [exactPort, if_neg (Decimal.ofNat_ne_nil port), Decimal.value_ofNat,
      if_pos ⟨List.all_eq_true.mpr hdigits, hport⟩]
  constructor
  · intro addr port hcolon _ hpos hport
    have hself : addr.takeWhile (· != colonChar) = addr := List.takeWhile_eq_self_iff.mpr (bne_colonChar hcolon)
    have hne : UInt16.ofNat port ≠ 0 := by
      rw [ne_eq, ← UInt16.toNat_inj, UInt16.toNat_ofNat_of_lt' (by rw [UInt16.size]; omega)]
      exact hpos.ne'
    simp only [parseLoopback, takeWhile_colon hcolon, portPart_append hcolon, hexact port hport, hself, hcolon, hne,
      ne_eq, not_false_eq_true, or_true, true_or, and_true]
    split <;> simp
  · intro addr hcolon _
    simp [parseLoopback, portPart_append hcolon, hexact 0 (by decide)]

/-- The host `seed` is read back with its port. -/
theorem CConnectionBase.ofHost_toString_seed :
    SameName noNames
      (CConnectionBase.ofHost parseLoopback
        ((CConnectionBase.ofHost parseLoopback [115, 101, 101, 100] 8333).toString noNames) 0)
      (CConnectionBase.ofHost parseLoopback [115, 101, 101, 100] 8333) :=
  (ofHost_toString_iff parsesPorts_loopback noNames (by decide +kernel) 0).mpr (Or.inl (by decide))

/-- The host `a:b:c` comes back as `a:b:c:8333`, and the name `127.0.0.1` of the string `127.0.0.1:` as an address. -/
theorem CConnectionBase.ofHost_toString_failing :
    ((CConnectionBase.ofHost parseLoopback [97, 58, 98, 58, 99] 8333).isDns = true ∧
      (CConnectionBase.ofHost parseLoopback
          ((CConnectionBase.ofHost parseLoopback [97, 58, 98, 58, 99] 8333).toString noNames) 8333).getHost noNames =
        [97, 58, 98, 58, 99, 58, 56, 51, 51, 51] ∧
      (CConnectionBase.ofHost parseLoopback [97, 58, 98, 58, 99] 8333).getHost noNames = [97, 58, 98, 58, 99]) ∧
    (CConnectionBase.ofHost parseLoopback (loopbackChars ++ [58]) 8333).isDns = true ∧
      (CConnectionBase.ofHost parseLoopback
        ((CConnectionBase.ofHost parseLoopback (loopbackChars ++ [58]) 8333).toString noNames) 8333).isDns = false := by
  decide +kernel

end LibBtcNet
