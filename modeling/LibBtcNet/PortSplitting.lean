import LibBtcNet.HostNames
import LibBtcNet.Support.Decimal
import Mathlib.Data.List.TakeWhile

/-!
# Hosts with ports

The constructor from a string separates a port at the only colon and reads it with `std::stoul`.
That function takes more for a number than digits: blanks and a sign may stand before them,
a minus sign negates, and anything may follow. The grammar is spelled out here, and with it
which texts are split as a port of plain digits is.
-/

namespace LibBtcNet

/-- What stands before the only colon, if there is just one. -/
def hostPart (host : Bytes) : Bytes :=
  if host.count colonChar = 1 then host.takeWhile (· != colonChar) else host

/-- The last colon, with what stands before and after it. -/
theorem lastColon_spec (text : Bytes) :
    match lastColon text with
    | none => colonChar ∉ text
    | some i => ∃ before after, text = before ++ colonChar :: after ∧ before.length = i ∧ colonChar ∉ after := by
  induction text with
  | nil => exact List.not_mem_nil
  | cons c text ih =>
    rw [lastColon]
    cases hlast : lastColon text with
    | some i =>
      rw [hlast] at ih
      obtain ⟨before, after, rfl, rfl, hafter⟩ := ih
      exact ⟨c :: before, after, rfl, rfl, hafter⟩
    | none =>
      rw [hlast] at ih
      by_cases hc : c = colonChar
      · simp only [hc, if_true]
        exact ⟨[], text, rfl, rfl, ih⟩
      · simp only [hc, if_false]
        exact List.not_mem_cons_of_ne_of_not_mem (Ne.symm hc) ih

/-- What stands behind the first colon. -/
def portPart (host : Bytes) : Bytes := (host.dropWhile (· != colonChar)).tail

/-- No character of such a host is a colon. -/
theorem bne_colonChar {before : Bytes} (hbefore : colonChar ∉ before) : ∀ c ∈ before, (c != colonChar) = true := by
  intro c hc
  rw [bne_iff_ne]
  rintro rfl
  exact hbefore hc

/-- A host without colons stands before the first one. -/
theorem takeWhile_colon {before : Bytes} (hbefore : colonChar ∉ before) (after : Bytes) :
    (before ++ colonChar :: after).takeWhile (· != colonChar) = before := by
  rw [List.takeWhile_append_of_pos (bne_colonChar hbefore),
    List.takeWhile_cons_of_neg (by simp), List.append_nil]

/-- What follows is behind it. -/
theorem portPart_append {before : Bytes} (hbefore : colonChar ∉ before) (after : Bytes) :
    portPart (before ++ colonChar :: after) = after := by
  rw [portPart, List.dropWhile_append_of_pos (bne_colonChar hbefore),
    List.dropWhile_cons_of_neg (by simp), List.tail_cons]

/-- The constructor separates a host and a port at the only colon. -/
theorem splitPort_eq (host : Bytes) (portIn : UInt16) : splitPort host portIn =
    (hostPart host, if host.count colonChar = 1 then portSuffix (portPart host) portIn else portIn) := by
  have hspec := lastColon_spec host
  unfold splitPort hostPart
  cases hlast : lastColon host with
  | none =>
    rw [hlast] at hspec
    simp [List.count_eq_zero.mpr hspec]
  | some i =>
    rw [hlast] at hspec
    obtain ⟨before, after, rfl, rfl, hafter⟩ := hspec
    have hcount : (before ++ colonChar :: after).count colonChar = before.count colonChar + 1 := by
      rw [List.count_append, List.count_cons_self, List.count_eq_zero.mpr hafter]
    have hbefore := lastColon_spec before
    have htake : (before ++ colonChar :: after).take before.length = before := List.take_left
    have hdrop : (before ++ colonChar :: after).drop (before.length + 1) = after := by
      rw [← List.drop_drop, List.drop_left, List.drop_one, List.tail_cons]
    rw [hcount]
    simp only [htake, hdrop]
    cases hfirst : lastColon before with
    | none =>
      rw [hfirst] at hbefore
      have hsingle : before.length = 0 ∨ ¬(before.length = 0 ∨ (none : Option ℕ).isSome = true) := by
        by_cases hempty : before.length = 0
        · exact Or.inl hempty
        · exact Or.inr (by simp [hempty])
      have hone : before.count colonChar + 1 = 1 := by rw [List.count_eq_zero.mpr hbefore]
      rw [if_pos hsingle, if_pos hone, if_pos hone, takeWhile_colon hbefore, portPart_append hbefore]
    | some j =>
      rw [hfirst] at hbefore
      obtain ⟨left, right, hsplit, -, -⟩ := hbefore
      have hmem : colonChar ∈ before := by simp [hsplit]
      have hnonempty : before.length ≠ 0 := by simp [hsplit]
      have hmore : before.count colonChar + 1 ≠ 1 := by
        have hpos := List.count_pos_iff.mpr hmem
        omega
      rw [if_neg (by simp [hnonempty]), if_neg hmore, if_neg hmore]

/-- A blank of `isspace`. -/
def isBlank (c : UInt8) : Bool := c == 32 || (9 ≤ c && c ≤ 13)

/-- The sign before a number. -/
inductive NumberSign where
  | absent
  | plus
  | minus
deriving DecidableEq, Repr

/-- `"+"` or `"-"`, if present. -/
def NumberSign.text : NumberSign → Bytes
  | absent => []
  | plus => [43]
  | minus => [45]

/-- What the sign makes of a number in `unsigned long`. -/
def NumberSign.apply : NumberSign → ℕ → ℕ
  | absent, value => value
  | plus, value => value
  | minus, value => (2 ^ 64 - value) % 2 ^ 64

/-- `std::stoul` behind the blanks and a sign, if one is there. -/
theorem stoul_signed {text body : Bytes} (sign : NumberSign) (hbody : text.dropWhile isBlank = sign.text ++ body)
    (habsent : sign = .absent → ∀ c ∈ body.head?, c ≠ 45 ∧ c ≠ 43) :
    stoul text =
      if body.takeWhile Decimal.isDigit = [] ∨ 2 ^ 64 ≤ Decimal.value (body.takeWhile Decimal.isDigit) then none
      else some (sign.apply (Decimal.value (body.takeWhile Decimal.isDigit))) := by
  have hblank : text.dropWhile (fun c => c == 32 || (9 ≤ c && c ≤ 13)) = sign.text ++ body := hbody
  simp only [stoul, hblank, ← Decimal.foldl_eq_value]
  cases sign with
  | plus => rfl
  | minus => rfl
  | absent =>
    cases body with
    | nil => rfl
    | cons c rest =>
      obtain ⟨hminus, hplus⟩ := habsent rfl c rfl
      simp only [NumberSign.text, List.nil_append, NumberSign.apply]
      simp only [hminus, hplus, List.cons.injEq, false_and, imp_self, implies_true, Bool.false_eq_true, if_false]
      rfl

/-- A text that begins with a number, as `strtoul` takes it apart. -/
structure NumberText where
  blanks : Bytes
  sign : NumberSign
  digits : Bytes
  rest : Bytes
  blank : ∀ c ∈ blanks, isBlank c = true
  digit : ∀ c ∈ digits, Decimal.isDigit c = true
  nonempty : digits ≠ []
  longest : ∀ c ∈ rest.head?, Decimal.isDigit c = false

namespace NumberText

/-- The text as a whole. -/
def text (number : NumberText) : Bytes :=
  number.blanks ++ (number.sign.text ++ (number.digits ++ number.rest))

/-- The digits stay in the range of `unsigned long`. -/
def Fits (number : NumberText) : Prop := Decimal.value number.digits < 2 ^ 64

/-- Which is decidable. -/
instance (number : NumberText) : Decidable number.Fits := inferInstanceAs (Decidable (_ < _))

/-- The number in `unsigned long`. -/
def value (number : NumberText) : ℕ := number.sign.apply (Decimal.value number.digits)

/-- The digits begin with one. -/
theorem exists_digits_eq (number : NumberText) :
    ∃ d rest, number.digits = d :: rest ∧ Decimal.isDigit d = true := by
  obtain ⟨d, rest, heq⟩ := List.exists_cons_of_ne_nil number.nonempty
  exact ⟨d, rest, heq, number.digit d (by simp [heq])⟩

/-- A digit is no blank. -/
theorem isBlank_of_isDigit {c : UInt8} (hdigit : Decimal.isDigit c = true) : isBlank c = false := by
  simp only [Decimal.isDigit, isBlank, Bool.and_eq_true, decide_eq_true_eq, Bool.or_eq_false_iff, beq_eq_false_iff_ne,
    Bool.and_eq_false_iff, decide_eq_false_iff_not, UInt8.le_iff_toNat_le, ne_eq, ← UInt8.toNat_inj,
    UInt8.reduceToNat] at hdigit ⊢
  omega

/-- Only the blanks are skipped. -/
theorem dropWhile_text (number : NumberText) :
    number.text.dropWhile isBlank = number.sign.text ++ (number.digits ++ number.rest) := by
  obtain ⟨d, rest, hdigits, hd⟩ := number.exists_digits_eq
  rw [text, List.dropWhile_append_of_pos number.blank, hdigits]
  cases number.sign with
  | absent =>
    refine List.dropWhile_cons_of_neg ?_
    rw [isBlank_of_isDigit hd]
    exact Bool.false_ne_true
  | plus => rfl
  | minus => rfl

/-- The number ends behind the digits. -/
theorem takeWhile_digits (number : NumberText) :
    (number.digits ++ number.rest).takeWhile Decimal.isDigit = number.digits := by
  have hrest : number.rest.takeWhile Decimal.isDigit = [] := by
    have hlongest := number.longest
    cases hcases : number.rest with
    | nil => rfl
    | cons c rest =>
      refine List.takeWhile_cons_of_neg ?_
      rw [hlongest c (by simp [hcases])]
      exact Bool.false_ne_true
  rw [List.takeWhile_append_of_pos number.digit, hrest, List.append_nil]

/-- What `std::stoul` returns for the text. -/
theorem stoul_text (number : NumberText) :
    stoul number.text = if number.Fits then some number.value else none := by
  obtain ⟨d, rest, hdigits, hd⟩ := number.exists_digits_eq
  have habsent : number.sign = .absent → ∀ c ∈ (number.digits ++ number.rest).head?, c ≠ 45 ∧ c ≠ 43 := by
    rintro - c hc
    obtain rfl : d = c := by simpa [hdigits] using hc
    constructor
    · rintro rfl
      exact absurd hd (by decide)
    · rintro rfl
      exact absurd hd (by decide)
  rw [stoul_signed number.sign number.dropWhile_text habsent, number.takeWhile_digits]
  simp only [number.nonempty, false_or, ← Nat.not_lt, ite_not]
  rfl

/-- A text in which `std::stoul` finds a number has that form. -/
theorem exists_of_stoul {text : Bytes} {n : ℕ} (hstoul : stoul text = some n) :
    ∃ number : NumberText, number.text = text ∧ number.Fits ∧ number.value = n := by
  obtain ⟨sign, body, hbody, habsent⟩ : ∃ sign body, text.dropWhile isBlank = NumberSign.text sign ++ body ∧
      (sign = .absent → ∀ c ∈ body.head?, c ≠ 45 ∧ c ≠ 43) := by
    cases text.dropWhile isBlank with
    | nil => exact ⟨.absent, [], rfl, fun _ _ hc => absurd hc (by simp)⟩
    | cons c rest =>
      by_cases hminus : c = 45
      · exact ⟨.minus, rest, by rw [hminus]; rfl, fun heq => absurd heq (by decide)⟩
      · by_cases hplus : c = 43
        · exact ⟨.plus, rest, by rw [hplus]; rfl, fun heq => absurd heq (by decide)⟩
        · exact ⟨.absent, c :: rest, rfl, fun _ _ hc => Option.some.inj hc ▸ ⟨hminus, hplus⟩⟩
  rw [stoul_signed sign hbody habsent] at hstoul
  split at hstoul
  · contradiction
  · next hdigits =>
    obtain ⟨hnonempty, hfits⟩ := not_or.mp hdigits
    refine ⟨⟨text.takeWhile isBlank, sign, body.takeWhile Decimal.isDigit, body.dropWhile Decimal.isDigit,
      fun c hc => List.mem_takeWhile_imp hc, fun c hc => List.mem_takeWhile_imp hc, hnonempty, ?_⟩, ?_,
      Nat.not_le.mp hfits, Option.some.inj hstoul⟩
    · intro c hc
      have hnot := List.head?_dropWhile_not Decimal.isDigit body
      rwa [Option.mem_def.mp hc] at hnot
    · rw [NumberText.text, List.takeWhile_append_dropWhile, ← hbody, List.takeWhile_append_dropWhile]

end NumberText

/-- A text whose number is a port other than zero. -/
def ReadsAsPort (portstr : Bytes) : Prop :=
  ∃ number : NumberText, number.text = portstr ∧ number.Fits ∧ 0 < number.value ∧ number.value ≤ 65535

/-- Such a text with more in it than digits. -/
def LoosePort (portstr : Bytes) : Prop := ReadsAsPort portstr ∧ ¬∀ c ∈ portstr, Decimal.isDigit c = true

/-- The port that a suffix is meant to stand for: the given port for an empty one, a number of plain digits
in the range of ports, and zero for any other. -/
def exactPort (portstr : Bytes) (portIn : UInt16) : UInt16 :=
  if portstr = [] then portIn
  else if portstr.all Decimal.isDigit = true ∧ Decimal.value portstr ≤ 65535 then
    UInt16.ofNat (Decimal.value portstr)
  else 0

/-- How a host is meant to be split. -/
def exactSplit (host : Bytes) (portIn : UInt16) : Bytes × UInt16 :=
  if host.count colonChar = 1 then
    (host.takeWhile (· != colonChar), exactPort (host.dropWhile (· != colonChar)).tail portIn)
  else (host, portIn)

/-- A number that is read is a port, or out of range. -/
theorem portSuffix_ne_zero_iff {portstr : Bytes} (hport : portstr ≠ []) (portIn : UInt16) :
    portSuffix portstr portIn ≠ 0 ↔ ReadsAsPort portstr := by
  rw [portSuffix, if_neg hport]
  cases hstoul : stoul portstr with
  | none =>
    refine iff_of_false (fun hzero => hzero rfl) ?_
    rintro ⟨number, rfl, hfits, -⟩
    rw [number.stoul_text, if_pos hfits] at hstoul
    contradiction
  | some longport =>
    have hreads : ReadsAsPort portstr ↔ 0 < longport ∧ longport ≤ 65535 := by
      constructor
      · rintro ⟨number, rfl, hfits, hrange⟩
        rw [number.stoul_text, if_pos hfits] at hstoul
        exact Option.some.inj hstoul ▸ hrange
      · intro hrange
        obtain ⟨number, htext, hfits, rfl⟩ := NumberText.exists_of_stoul hstoul
        exact ⟨number, htext, hfits, hrange⟩
    rw [hreads]
    by_cases hrange : longport ≤ 65535
    · have hnat : (UInt16.ofNat longport).toNat = longport :=
        UInt16.toNat_ofNat_of_lt' (by rw [UInt16.size]; omega)
      simp only [hrange, if_true, and_true, ne_eq, ← UInt16.toNat_inj, hnat, UInt16.toNat_zero, Nat.pos_iff_ne_zero]
    · simp only [hrange, if_false, and_false, ne_eq, not_true_eq_false]

/-- Plain digits are read as the number they stand for. -/
theorem portSuffix_digits {portstr : Bytes} (hdigits : ∀ c ∈ portstr, Decimal.isDigit c = true) (portIn : UInt16) :
    portSuffix portstr portIn = exactPort portstr portIn := by
  by_cases hport : portstr = []
  · rw [portSuffix, exactPort, if_pos hport, if_pos hport]
  · let number : NumberText := ⟨[], .absent, portstr, [], fun _ hc => absurd hc List.not_mem_nil, hdigits, hport,
      fun _ hc => absurd hc (by simp)⟩
    have htext : number.text = portstr := by simp [number, NumberText.text, NumberSign.text]
    have hstoul := number.stoul_text
    rw [htext] at hstoul
    rw [portSuffix, exactPort, if_neg hport, if_neg hport, hstoul]
    by_cases hvalue : Decimal.value portstr ≤ 65535
    · have hfits : number.Fits := lt_of_le_of_lt hvalue (by decide)
      rw [if_pos hfits, if_pos ⟨List.all_eq_true.mpr hdigits, hvalue⟩]
      exact if_pos hvalue
    · rw [if_neg (not_and_of_not_right _ hvalue)]
      by_cases hfits : number.Fits
      · rw [if_pos hfits]
        exact if_neg hvalue
      · rw [if_neg hfits]

/-- A suffix is read as it is meant, unless it is a port with more in it than digits. -/
theorem portSuffix_eq_exactPort_iff (portstr : Bytes) (portIn : UInt16) :
    portSuffix portstr portIn = exactPort portstr portIn ↔ ¬LoosePort portstr := by
  by_cases hdigits : ∀ c ∈ portstr, Decimal.isDigit c = true
  · exact iff_of_true (portSuffix_digits hdigits portIn) fun hloose => hloose.2 hdigits
  · have hport : portstr ≠ [] := by
      rintro rfl
      exact hdigits fun c hc => absurd hc List.not_mem_nil
    have hall : ¬portstr.all Decimal.isDigit = true := mt List.all_eq_true.mp hdigits
    rw [exactPort, if_neg hport, if_neg (not_and_of_not_left _ hall), LoosePort, and_iff_left hdigits,
      ← portSuffix_ne_zero_iff hport portIn, not_not]

/-- A string that is no numeric address is split into the host and the port that it means exactly when
nothing but digits makes up the number of its port. -/
theorem CConnectionBase.ofHost_exactSplit_iff (parse : ParseSockAddr) {hostIn : Bytes} (portIn : UInt16)
    (hhost : hostIn ≠ []) (hparse : parse (cstr hostIn) = none) :
    ((CConnectionBase.ofHost parse hostIn portIn).host, (CConnectionBase.ofHost parse hostIn portIn).port) =
        exactSplit hostIn portIn ↔
      ¬(hostIn.count colonChar = 1 ∧ LoosePort (portPart hostIn)) := by
  simp only [ofHost, if_neg hhost, hparse, splitPort_eq, hostPart, exactSplit]
  by_cases hone : hostIn.count colonChar = 1
  · simp only [hone, if_true, true_and, Prod.mk.injEq]
    exact portSuffix_eq_exactPort_iff _ _
  · simp only [hone, if_false, false_and, not_false_eq_true]

/-- The host `a` and port 80 of `a:80`, which `std::stoul` would also read from longer texts. -/
theorem CConnectionBase.ofHost_exactSplit_digits :
    ((CConnectionBase.ofHost (fun _ => none) [97, 58, 56, 48] 8333).host,
        (CConnectionBase.ofHost (fun _ => none) [97, 58, 56, 48] 8333).port) = exactSplit [97, 58, 56, 48] 8333 :=
  (ofHost_exactSplit_iff (fun _ => none) 8333 (by decide) rfl).mpr fun hloose =>
    hloose.2.2 (List.all_eq_true.mp (by decide))

/-- The texts `80x`, ` 80`, `+80` and `-18446744073709551536`, which are read as 80. -/
def loosePorts : List Bytes := [[56, 48, 120], [32, 56, 48], [43, 56, 48], 45 :: Decimal.ofNat 18446744073709551536]

/-- The port of `a:80x` is 80, and so it is with the other texts. -/
theorem CConnectionBase.ofHost_exactSplit_failing :
    loosePorts.map (fun portstr => (CConnectionBase.ofHost (fun _ => none) ([97, 58] ++ portstr) 8333).port) =
        List.replicate 4 80 ∧
      loosePorts.map (fun portstr => exactSplit ([97, 58] ++ portstr) 8333) = List.replicate 4 ([97], 0) := by
  decide +kernel

end LibBtcNet
