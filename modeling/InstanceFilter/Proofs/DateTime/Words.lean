/-
Date-times in machine words. The digits of a field add up in 32 bits and the parts of an interval in
64; the fields of a wall-clock reading are cut down to 8, 16 and 32 bits, the year and the offset to
words with a sign. Nothing is checked on the way: a number too large would begin again from zero.

Reading, and building and writing intervals, are stated here once more on such words. They come to
the same as on numbers without bounds, since no number on the way leaves its word: a field has at
most eight digits, and the parts of an interval come in order below its one bound, which is less
than the largest number of 64 bits.
-/
import InstanceFilter.Proofs.DateTime.RoundTrip

namespace InstanceFilter.DateTime

open Nat (ofDigitChars)

namespace Words

/-! ## On words -/

/-- The number that digits write, after those read before them, in 32 bits. -/
def readDigits (position : Nat) (acc : UInt32) : List Char → Except DateTime.Error UInt32
  | [] => .ok acc
  | c :: rest =>
    if c.isDigit then
      readDigits (position + 1) (acc * 10 + (c.toUInt8 - '0'.toUInt8).toUInt32) rest
    else .error (.notDigit position)

def readField (text : List Char) (start stop : Nat) : Except DateTime.Error UInt32 :=
  readDigits start 0 ((text.drop start).take (stop - start))

def readBounded (text : List Char) (field : Field) (start stop : Nat) (greatest : UInt32) :
    Except DateTime.Error UInt32 := do
  let value ← readField text start stop
  if value > greatest then .error (.outOfRange field value.toNat) else .ok value

def microsPerSecond : UInt64 := 1000000
def microsPerMinute : UInt64 := 60 * microsPerSecond
def microsPerHour : UInt64 := 60 * microsPerMinute
def microsPerDay : UInt64 := 24 * microsPerHour

@[simp] theorem toNat_microsPerSecond : microsPerSecond.toNat = DateTime.microsPerSecond := rfl
@[simp] theorem toNat_microsPerMinute : microsPerMinute.toNat = DateTime.microsPerMinute := rfl
@[simp] theorem toNat_microsPerHour : microsPerHour.toNat = DateTime.microsPerHour := rfl
@[simp] theorem toNat_microsPerDay : microsPerDay.toNat = DateTime.microsPerDay := rfl

/-- The microseconds of an interval by its parts, in 64 bits. -/
def spanMicros (days hours minutes seconds micro : UInt32) : UInt64 :=
  days.toUInt64 * microsPerDay + hours.toUInt64 * microsPerHour +
    minutes.toUInt64 * microsPerMinute + seconds.toUInt64 * microsPerSecond + micro.toUInt64

def readInterval (text : List Char) (micro : UInt32) : Except DateTime.Error DateTime := do
  if text.drop 22 ≠ ['0', '0', '0'] then .error .wrongIntervalEnd
  let days ← readField text 0 8
  let hours ← readBounded text .hours 8 10 23
  let minutes ← readBounded text .minutes 10 12 59
  let seconds ← readBounded text .seconds 12 14 59
  return .interval (spanMicros days hours minutes seconds micro).toNat

/-- A word of 32 bits cut down to 16, the first of them taken for its sign. -/
def toInt16 (n : UInt32) : Int16 := n.toUInt16.toInt16

def readTimestamp (text : List Char) (micro : UInt32) (negative : Bool) :
    Except DateTime.Error DateTime := do
  let year ← readField text 0 4
  let month ← readBounded text .month 4 6 12
  let day ← readBounded text .day 6 8 31
  let hour ← readBounded text .hours 8 10 23
  let minute ← readBounded text .minutes 10 12 59
  let second ← readBounded text .seconds 12 14 59
  if ¬ Calendar.isDate year.toInt32.toInt month.toUInt8.toNat day.toUInt8.toNat then
    .error (.outOfRange .day day.toNat)
  let offset ← readField text 22 25
  return .timestamp ⟨year.toInt32.toInt, month.toUInt8.toNat, day.toUInt8.toNat,
      hour.toUInt8.toNat, minute.toUInt8.toNat, second.toUInt8.toNat, micro.toNat * 1000⟩
    (if negative then -toInt16 offset else toInt16 offset).toInt

def parseChars (text : List Char) : Except DateTime.Error DateTime := do
  if ¬ (text.length = 25 ∧ text.all (·.toNat < 128)) then .error (.wrongLength text.length)
  if text[14]? ≠ some '.' then .error .missingPoint
  let micro ← readField text 15 21
  match text[21]? with
  | some ':' => readInterval text micro
  | some '+' => readTimestamp text micro false
  | some '-' => readTimestamp text micro true
  | some other => .error (.unknownSign other)
  | none => .error (.wrongLength text.length)

/-- An interval of so many microseconds. The days of one that is too long are reported in 32 bits,
the largest such number standing for any that does not fit. -/
def interval? (micros : UInt64) : Except DateTime.Error DateTime :=
  let days := micros / microsPerDay
  if days > 99999999 then
    .error (.outOfRange .days (if days ≤ 4294967295 then days.toUInt32 else 4294967295).toNat)
  else .ok (.interval micros.toNat)

def renderInterval (micros : UInt64) : List Char :=
  padded 8 (micros / microsPerDay).toNat ++ padded 2 (micros % microsPerDay / microsPerHour).toNat ++
    padded 2 (micros % microsPerHour / microsPerMinute).toNat ++
    padded 2 (micros % microsPerMinute / microsPerSecond).toNat ++
    '.' :: padded 6 (micros % microsPerSecond).toNat ++ [':', '0', '0', '0']

/-! ## Fields -/

theorem toNat_digit {c : Char} (h : c.isDigit = true) :
    (c.toUInt8 - '0'.toUInt8).toUInt32.toNat = c.toNat - '0'.toNat := by
  have hrange := Char.isDigit_iff_toNat.1 h
  have h0 : '0'.toNat = 48 := rfl
  have h9 : '9'.toNat = 57 := rfl
  have hbyte : c.toUInt8.toNat = c.toNat := by
    show c.toNat % 2 ^ 8 = c.toNat
    omega
  have hle : '0'.toUInt8 ≤ c.toUInt8 := by
    rw [UInt8.le_iff_toNat_le, hbyte]
    exact hrange.1
  rw [UInt8.toNat_toUInt32, UInt8.toNat_sub_of_le _ _ hle, hbyte]
  rfl

/-- One digit more does not leave the word as long as what it makes has room in it. -/
theorem toNat_mul_ten_add {acc : UInt32} {c : Char} (hc : c.isDigit = true)
    (h : (acc.toNat + 1) * 10 ≤ 2 ^ 32) :
    (acc * 10 + (c.toUInt8 - '0'.toUInt8).toUInt32).toNat =
      10 * acc.toNat + (c.toNat - '0'.toNat) := by
  have hdigit := digit_lt hc
  have hten : (10 : UInt32).toNat = 10 := rfl
  rw [UInt32.toNat_add, UInt32.toNat_mul, toNat_digit hc, hten]
  omega

theorem map_readDigits {acc : UInt32} {text : List Char} (position : Nat)
    (h : (acc.toNat + 1) * 10 ^ text.length ≤ 2 ^ 32) :
    (readDigits position acc text).map UInt32.toNat =
      DateTime.readDigits position acc.toNat text := by
  induction text generalizing position acc with
  | nil => rfl
  | cons c rest ih =>
    rw [readDigits, DateTime.readDigits]
    by_cases hc : c.isDigit = true
    · rw [List.length_cons, Nat.pow_succ, Nat.mul_comm (10 ^ _), ← Nat.mul_assoc] at h
      have hroom : (acc.toNat + 1) * 10 ≤ 2 ^ 32 :=
        Nat.le_trans (Nat.le_mul_of_pos_right _ (Nat.pow_pos (by decide))) h
      have hdigit := digit_lt hc
      have hnext := toNat_mul_ten_add hc hroom
      rw [if_pos hc, if_pos hc, ← hnext]
      refine ih _ (Nat.le_trans (Nat.mul_le_mul_right _ ?_) h)
      omega
    · rw [if_neg hc, if_neg hc]
      rfl

/-- A field of up to nine digits has room in 32 bits. -/
theorem map_readField (text : List Char) {start stop : Nat} (h : stop ≤ start + 9) :
    (readField text start stop).map UInt32.toNat = DateTime.readField text start stop := by
  refine map_readDigits start ?_
  have hlength : ((text.drop start).take (stop - start)).length ≤ 9 := by
    rw [List.length_take]
    omega
  calc (0 + 1) * 10 ^ ((text.drop start).take (stop - start)).length
      ≤ (0 + 1) * 10 ^ 9 := Nat.mul_le_mul_left _ (Nat.pow_le_pow_right (by decide) hlength)
    _ ≤ 2 ^ 32 := by decide

theorem map_readBounded (text : List Char) (field : Field) {start stop : Nat} (greatest : UInt32)
    (h : stop ≤ start + 9) : (readBounded text field start stop greatest).map UInt32.toNat =
      DateTime.readBounded text field start stop greatest.toNat := by
  rw [readBounded, DateTime.readBounded, ← map_readField text h]
  cases readField text start stop with
  | error e => rfl
  | ok n =>
    show Except.map _ (if n > greatest then _ else _) = if n.toNat > greatest.toNat then _ else _
    by_cases hn : n > greatest
    · rw [if_pos hn, if_pos (UInt32.lt_iff_toNat_lt.1 hn)]
      rfl
    · rw [if_neg hn, if_neg (mt UInt32.lt_iff_toNat_lt.2 hn)]
      rfl

/-- A field of so many digits is less than that power of ten. -/
theorem toNat_lt_of_readField {text : List Char} {start stop : Nat} {n : UInt32}
    (h : stop ≤ start + 9) (hn : readField text start stop = .ok n) :
    n.toNat < 10 ^ (stop - start) := by
  have hread := map_readField text h
  rw [hn] at hread
  obtain ⟨hdigits, heq⟩ := readDigits_eq_ok_iff.1 hread.symm
  rw [heq]
  refine Nat.lt_of_lt_of_le (ofDigitChars_lt hdigits) (Nat.pow_le_pow_right (by decide) ?_)
  exact List.length_take_le _ _

theorem le_of_readBounded {text : List Char} {field : Field} {start stop : Nat}
    {greatest n : UInt32} (hn : readBounded text field start stop greatest = .ok n) :
    n.toNat ≤ greatest.toNat := by
  obtain ⟨m, -, hm⟩ := bind_eq_ok_iff.1 hn
  obtain ⟨hle, hm⟩ := check_eq_ok_iff.1 hm
  cases hm
  exact Nat.le_of_not_lt (mt UInt32.lt_iff_toNat_lt.2 hle)

/-! ## Casts -/

theorem toNat_toUInt8 {n : UInt32} (h : n.toNat < 100) : n.toUInt8.toNat = n.toNat := by
  rw [UInt32.toNat_toUInt8]
  omega

theorem toInt_toInt32 {n : UInt32} (h : n.toNat < 10000) : n.toInt32.toInt = n.toNat :=
  BitVec.toInt_eq_toNat_of_lt (by
    show 2 * n.toNat < 2 ^ 32
    omega)

theorem toInt_toInt16 {n : UInt32} (h : n.toNat < 1000) : (toInt16 n).toInt = n.toNat := by
  have hcut : n.toUInt16.toNat = n.toNat := by
    rw [UInt32.toNat_toUInt16]
    omega
  rw [← hcut]
  exact BitVec.toInt_eq_toNat_of_lt (by
    show 2 * n.toUInt16.toNat < 2 ^ 16
    omega)

theorem toInt_neg_toInt16 {n : UInt32} (h : n.toNat < 1000) : (-toInt16 n).toInt = -n.toNat := by
  rw [Int16.toInt_neg, toInt_toInt16 h]
  exact Int.bmod_eq_of_le (by omega) (by omega)

/-! ## Reading -/

/-- Steps on words come to the same as steps on numbers when what is read is the same number, and
what is done with it comes to the same. -/
theorem bind_congr_map {β : Type} {x : Except DateTime.Error UInt32}
    {y : Except DateTime.Error Nat} {f : UInt32 → Except DateTime.Error β}
    {g : Nat → Except DateTime.Error β} (hx : x.map UInt32.toNat = y)
    (h : ∀ n, x = .ok n → f n = g n.toNat) : x >>= f = y >>= g := by
  rw [← hx]
  cases x with
  | error e => rfl
  | ok n => exact h n rfl

/-- The parts of an interval add up to less than what 64 bits hold. -/
theorem toNat_spanMicros {days hours minutes seconds micro : UInt32} (hd : days.toNat < 100000000)
    (hh : hours.toNat < 24) (hm : minutes.toNat < 60) (hs : seconds.toNat < 60)
    (hmicro : micro.toNat < 1000000) :
    (spanMicros days hours minutes seconds micro).toNat =
      DateTime.spanMicros days.toNat hours.toNat minutes.toNat seconds.toNat micro.toNat := by
  simp only [spanMicros, DateTime.spanMicros, UInt64.toNat_add, UInt64.toNat_mul,
    UInt32.toNat_toUInt64, toNat_microsPerDay, toNat_microsPerHour, toNat_microsPerMinute,
    toNat_microsPerSecond, DateTime.microsPerDay, DateTime.microsPerHour,
    DateTime.microsPerMinute, DateTime.microsPerSecond]
  omega

theorem readInterval_eq (text : List Char) {micro : UInt32} (hmicro : micro.toNat < 1000000) :
    readInterval text micro = DateTime.readInterval text micro.toNat := by
  unfold readInterval DateTime.readInterval
  refine ite_congr rfl (fun _ => rfl) fun _ => ?_
  refine bind_congr_map (map_readField text (by decide)) fun days hd => ?_
  refine bind_congr_map (map_readBounded text _ _ (by decide)) fun hours hh => ?_
  refine bind_congr_map (map_readBounded text _ _ (by decide)) fun minutes hm => ?_
  refine bind_congr_map (map_readBounded text _ _ (by decide)) fun seconds hs => ?_
  rw [toNat_spanMicros (toNat_lt_of_readField (by decide) hd)
    (Nat.lt_succ_of_le (le_of_readBounded hh)) (Nat.lt_succ_of_le (le_of_readBounded hm))
    (Nat.lt_succ_of_le (le_of_readBounded hs)) hmicro]
  rfl

theorem readTimestamp_eq (text : List Char) (micro : UInt32) (negative : Bool) :
    readTimestamp text micro negative = DateTime.readTimestamp text micro.toNat negative := by
  unfold readTimestamp DateTime.readTimestamp
  have hfit {field : Field} {start : Nat} {greatest n : UInt32} (hg : greatest.toNat < 100)
      (h : readBounded text field start (start + 2) greatest = .ok n) :
      n.toUInt8.toNat = n.toNat :=
    toNat_toUInt8 (Nat.lt_of_le_of_lt (le_of_readBounded h) hg)
  refine bind_congr_map (map_readField text (by decide)) fun year hyear => ?_
  refine bind_congr_map (map_readBounded text _ _ (by decide)) fun month hmonth => ?_
  refine bind_congr_map (map_readBounded text _ _ (by decide)) fun day hday => ?_
  refine bind_congr_map (map_readBounded text _ _ (by decide)) fun hour hhour => ?_
  refine bind_congr_map (map_readBounded text _ _ (by decide)) fun minute hminute => ?_
  refine bind_congr_map (map_readBounded text _ _ (by decide)) fun second hsecond => ?_
  rw [toInt_toInt32 (toNat_lt_of_readField (by decide) hyear), hfit (by decide) hmonth,
    hfit (by decide) hday, hfit (by decide) hhour, hfit (by decide) hminute,
    hfit (by decide) hsecond]
  refine ite_congr rfl (fun _ => rfl) fun _ => ?_
  refine bind_congr_map (map_readField text (by decide)) fun offset hoffset => ?_
  have hlt : offset.toNat < 1000 := toNat_lt_of_readField (by decide) hoffset
  cases negative with
  | false =>
    show Except.ok (timestamp _ (toInt16 offset).toInt) = _
    rw [toInt_toInt16 hlt]
    rfl
  | true =>
    show Except.ok (timestamp _ (-toInt16 offset).toInt) = _
    rw [toInt_neg_toInt16 hlt]
    rfl

/-- Every text reads on words as it does without bounds. -/
theorem parseChars_eq (text : List Char) : parseChars text = DateTime.parseChars text := by
  unfold parseChars DateTime.parseChars
  refine ite_congr rfl (fun _ => rfl) fun _ => ite_congr rfl (fun _ => rfl) fun _ => ?_
  refine bind_congr_map (map_readField text (by decide)) fun micro hmicro => ?_
  have hlt : micro.toNat < 1000000 := toNat_lt_of_readField (by decide) hmicro
  have hinterval := readInterval_eq text hlt
  have htimestamp : readTimestamp text micro = DateTime.readTimestamp text micro.toNat :=
    funext (readTimestamp_eq text micro)
  exact hinterval ▸ htimestamp ▸ rfl

/-! ## Building and writing intervals -/

/-- No number of 64 bits has more days than fit in 32. -/
theorem interval?_eq (micros : UInt64) : interval? micros = DateTime.interval? micros.toNat := by
  have hlt := micros.toNat_lt
  have hdays : (micros / microsPerDay).toNat = micros.toNat / DateTime.microsPerDay := by
    rw [UInt64.toNat_div, toNat_microsPerDay]
  have hfits : micros.toNat / DateTime.microsPerDay < 2 ^ 32 := by
    simp only [DateTime.microsPerDay, DateTime.microsPerHour, DateTime.microsPerMinute,
      DateTime.microsPerSecond]
    omega
  have hle : micros / microsPerDay ≤ 4294967295 := by
    rw [UInt64.le_iff_toNat_le, hdays]
    exact Nat.le_of_lt_succ hfits
  have hgreatest : micros / microsPerDay > 99999999 ↔
      micros.toNat / DateTime.microsPerDay > 99999999 := by
    rw [gt_iff_lt, UInt64.lt_iff_toNat_lt, hdays]
    rfl
  refine ite_congr (propext hgreatest) (fun _ => ?_) fun _ => rfl
  rw [if_pos hle, UInt64.toNat_toUInt32, hdays, Nat.mod_eq_of_lt hfits]

theorem renderInterval_eq (micros : UInt64) :
    renderInterval micros = (interval micros.toNat).render := by
  simp only [renderInterval, render, UInt64.toNat_div, UInt64.toNat_mod, toNat_microsPerDay,
    toNat_microsPerHour, toNat_microsPerMinute, toNat_microsPerSecond]

/-! ## Bounds -/

theorem readField_of_digits {text : List Char} {start stop : Nat} (h : stop ≤ start + 9)
    (hdigits : ∀ c ∈ (text.drop start).take (stop - start), c.isDigit = true) :
    ∃ n, readField text start stop = .ok n ∧
      n.toNat = ofDigitChars 10 ((text.drop start).take (stop - start)) 0 := by
  have hread := map_readField text h
  rw [DateTime.readField, readDigits_eq_ok_iff.2 ⟨hdigits, rfl⟩] at hread
  exact map_eq_ok_iff.1 hread

theorem readDigits_of_not_digit {before after : List Char} {c : Char} (position : Nat)
    (acc : UInt32) (hbefore : ∀ d ∈ before, d.isDigit = true) (hc : c.isDigit = false) :
    readDigits position acc (before ++ c :: after) =
      .error (.notDigit (position + before.length)) := by
  induction before generalizing position acc with
  | nil =>
    rw [List.nil_append, readDigits, hc]
    rfl
  | cons d before ih =>
    obtain ⟨hd, hbefore⟩ := List.forall_mem_cons.1 hbefore
    rw [List.cons_append, readDigits, if_pos hd, ih _ _ hbefore, List.length_cons, Nat.add_assoc,
      Nat.add_comm 1]

theorem days_le_iff {micros : Nat} :
    micros / DateTime.microsPerDay ≤ 99999999 ↔ micros ≤ 8639999999999999999 := by
  simp only [DateTime.microsPerDay, DateTime.microsPerHour, DateTime.microsPerMinute,
    DateTime.microsPerSecond]
  omega

theorem exists_interval?_iff {micros : Nat} :
    (∃ d, DateTime.interval? micros = .ok d) ↔ micros ≤ 8639999999999999999 := by
  rw [← days_le_iff, ← valid_interval_iff, Valid]
  constructor
  · rintro ⟨d, h⟩
    obtain ⟨hle, -⟩ := check_eq_ok_iff.1 h
    exact if_neg hle
  · exact fun h => ⟨_, h⟩

/-- An interval that is read is the exact sum of the parts that stand in the text. -/
theorem parts_of_parseChars {text : List Char} {total : Nat}
    (h : DateTime.parseChars text = .ok (.interval total)) :
    total ≤ 8639999999999999999 ∧ ∃ days hours minutes seconds micro,
      ReadFrom text 0 (spanColumns days hours minutes seconds micro) ∧
        total = DateTime.spanMicros days hours minutes seconds micro := by
  obtain ⟨hvalid, -, -⟩ := valid_of_parseChars h
  refine ⟨days_le_iff.1 (valid_interval_iff.1 hvalid), ?_⟩
  obtain ⟨-, -, hspells⟩ := parseChars_eq_ok_iff.1 h
  cases hspells with
  | span hread => exact ⟨_, _, _, _, _, hread, rfl⟩

/-- The parts of an interval as they are written stand in their columns and add up to it. -/
theorem parts_of_render {micros : Nat} (h : micros ≤ 8639999999999999999) :
    ∃ days hours minutes seconds micro,
      (interval micros).render = written (spanColumns days hours minutes seconds micro) ∧
        (∀ column ∈ spanColumns days hours minutes seconds micro, column.Fits) ∧
        DateTime.spanMicros days hours minutes seconds micro = micros := by
  obtain ⟨hh, hm, hs, hmicro⟩ := parts_lt micros
  exact ⟨_, _, _, _, _, render_interval micros,
    (fits_spanColumns_iff hh hm hs).2 ⟨days_le_iff.2 h, hmicro⟩, spanMicros_div_mod micros⟩

/-- The arithmetic of date-times is exact on machine words. A field of up to nine columns, or so
much of one, reads in 32 bits as its decimal value, or as the place of its first character that is
no digit; the year, the parts of two digits and the offset are not changed by being cut down; and
every text reads as without bounds, an interval as the exact sum of its parts. An interval can be
built of a number of 64 bits exactly up to the largest that has a text, and is then written as parts
that stand in their columns and add up to it. -/
theorem arithmetic_exact (text : List Char) (micros : UInt64) :
    (∀ start stop, stop ≤ start + 9 →
      let field := (text.drop start).take (stop - start)
      ((∀ c ∈ field, c.isDigit = true) → ofDigitChars 10 field 0 ≤ 2 ^ 32 - 1 ∧
        ∃ n, readField text start stop = .ok n ∧ n.toNat = ofDigitChars 10 field 0) ∧
      ∀ before c after, field = before ++ c :: after → (∀ d ∈ before, d.isDigit = true) →
        c.isDigit = false →
          readField text start stop = .error (.notDigit (start + before.length))) ∧
    ((∀ n, readField text 0 4 = .ok n → n.toInt32.toInt = n.toNat) ∧
      (∀ start n, readField text start (start + 2) = .ok n → n.toUInt8.toNat = n.toNat) ∧
      ∀ n, readField text 22 25 = .ok n →
        (toInt16 n).toInt = n.toNat ∧ (-toInt16 n).toInt = -n.toNat) ∧
    (parseChars text = DateTime.parseChars text ∧
      ∀ total, DateTime.parseChars text = .ok (.interval total) →
        total ≤ 8639999999999999999 ∧ ∃ days hours minutes seconds micro,
          ReadFrom text 0 (spanColumns days hours minutes seconds micro) ∧
            total = DateTime.spanMicros days hours minutes seconds micro) ∧
    (interval? micros = DateTime.interval? micros.toNat ∧
      ((∃ d, interval? micros = .ok d) ↔ micros.toNat ≤ 8639999999999999999)) ∧
    (renderInterval micros = (interval micros.toNat).render ∧
      (micros.toNat ≤ 8639999999999999999 → ∃ days hours minutes seconds micro,
        renderInterval micros = written (spanColumns days hours minutes seconds micro) ∧
          (∀ column ∈ spanColumns days hours minutes seconds micro, column.Fits) ∧
          DateTime.spanMicros days hours minutes seconds micro = micros.toNat)) := by
  refine ⟨fun start stop hwidth => ⟨fun hdigits => ?_, fun before c after hfield => ?_⟩,
    ⟨fun n hn => ?_, fun start n hn => ?_, fun n hn => ?_⟩,
    ⟨parseChars_eq text, fun total => parts_of_parseChars⟩, ⟨interval?_eq micros, ?_⟩,
    renderInterval_eq micros, ?_⟩
  · obtain ⟨n, hn, hvalue⟩ := readField_of_digits hwidth hdigits
    exact ⟨hvalue ▸ Nat.le_sub_one_of_lt n.toNat_lt, n, hn, hvalue⟩
  · rw [readField, hfield]
    exact readDigits_of_not_digit start 0
  · exact toInt_toInt32 (toNat_lt_of_readField (by decide) hn)
  · have hlt := toNat_lt_of_readField (by omega) hn
    rw [Nat.add_sub_cancel_left] at hlt
    exact toNat_toUInt8 hlt
  · have hlt : n.toNat < 1000 := toNat_lt_of_readField (by decide) hn
    exact ⟨toInt_toInt16 hlt, toInt_neg_toInt16 hlt⟩
  · rw [interval?_eq]
    exact exists_interval?_iff
  · rw [renderInterval_eq]
    exact parts_of_render

/-- The longest interval, as it is read and as it is written. -/
theorem arithmetic_exact_longest :
    let text := "99999999235959.999999:000".toList
    let micros : UInt64 := 8639999999999999999
    ((∃ n, readField text 0 8 = .ok n ∧ n.toNat = 99999999) ∧
      ∃ days hours minutes seconds micro,
        ReadFrom text 0 (spanColumns days hours minutes seconds micro) ∧
          8639999999999999999 = DateTime.spanMicros days hours minutes seconds micro) ∧
      (∃ d, interval? micros = .ok d) ∧ ∃ days hours minutes seconds micro,
        renderInterval micros = written (spanColumns days hours minutes seconds micro) ∧
          DateTime.spanMicros days hours minutes seconds micro = 8639999999999999999 := by
  intro text micros
  obtain ⟨hfields, -, ⟨-, hinterval⟩, ⟨-, hbuilt⟩, -, hwritten⟩ := arithmetic_exact text micros
  have hdigits : ∀ c ∈ (text.drop 0).take (8 - 0), c.isDigit = true :=
    List.all_eq_true.1 (by decide +kernel)
  have hparse : DateTime.parseChars text = .ok (.interval 8639999999999999999) := by
    decide +kernel
  have hle : micros.toNat ≤ 8639999999999999999 := Nat.le_refl _
  obtain ⟨days, hours, minutes, seconds, micro, hrender, -, hsum⟩ := hwritten hle
  exact ⟨⟨((hfields 0 8 (by decide)).1 hdigits).2, (hinterval _ hparse).2⟩, hbuilt.2 hle,
    days, hours, minutes, seconds, micro, hrender, hsum⟩

end Words

end InstanceFilter.DateTime
