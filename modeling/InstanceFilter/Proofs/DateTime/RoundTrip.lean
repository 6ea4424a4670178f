/-
The text form of date-times, both ways. A date-time within the limits of its constructor is written
in 25 columns of ASCII and read back from them, without what it has that is finer than a
microsecond; and a text that reads is the text of what was read, but for the sign of an offset of no
minutes, which may be a minus in what is read and is a plus in what is written.

Both directions go through the columns: the reader reads exactly the texts made of the columns of
some date-time, and the printer writes those columns.
-/
import InstanceFilter.Proofs.DateTime.Columns
import InstanceFilter.Proofs.DateTime.Precision

namespace InstanceFilter.DateTime

/-! ## Valid date-times -/

/-- A date-time that its constructor accepts; the reading of a timestamp exists in the calendar. -/
def Valid : DateTime → Prop
  | .timestamp wall offset => wall.Exists ∧ timestamp? wall offset = .ok (.timestamp wall offset)
  | .interval micros => interval? micros = .ok (.interval micros)

theorem valid_timestamp_iff {wall : LocalTime} {offset : Int} :
    (timestamp wall offset).Valid ↔
      wall.Exists ∧ (0 ≤ wall.year ∧ wall.year ≤ 9999) ∧ offset.natAbs ≤ 999 := by
  rw [Valid, timestamp?, check_eq_ok_iff, check_eq_ok_iff, Decidable.not_not, Nat.not_lt]
  exact and_congr_right fun _ => and_congr_right fun _ => and_iff_left rfl

theorem valid_interval_iff {micros : Nat} :
    (interval micros).Valid ↔ micros / microsPerDay ≤ 99999999 := by
  rw [Valid, interval?, check_eq_ok_iff, Nat.not_lt]
  exact and_iff_left rfl

theorem valid_cut {d : DateTime} (h : d.Valid) : d.cut.Valid := by
  cases d with
  | timestamp wall offset =>
    obtain ⟨hexists, hlimits⟩ := valid_timestamp_iff.1 h
    exact valid_timestamp_iff.2 ⟨LocalTime.exists_cut hexists, hlimits⟩
  | interval micros => exact h

/-! ## The columns of a date-time -/

def signMark (negative : Bool) : Char := if negative then '-' else '+'

def wallColumns (t : LocalTime) : List Column :=
  [.number 4 t.year.toNat, .number 2 t.month, .number 2 t.day, .number 2 t.hour,
    .number 2 t.minute, .number 2 t.second, .mark '.', .number 6 t.micro]

def stampColumns (t : LocalTime) (negative : Bool) (minutes : Nat) : List Column :=
  wallColumns t ++ [.mark (signMark negative), .number 3 minutes]

def partColumns (days hours minutes seconds micro : Nat) : List Column :=
  [.number 8 days, .number 2 hours, .number 2 minutes, .number 2 seconds, .mark '.',
    .number 6 micro]

def spanColumns (days hours minutes seconds micro : Nat) : List Column :=
  partColumns days hours minutes seconds micro ++ [.mark ':', .mark '0', .mark '0', .mark '0']

/-- The text of columns side by side. -/
def written (columns : List Column) : List Char := columns.flatMap Column.text

theorem render_timestamp (t : LocalTime) (offset : Int) :
    (timestamp t offset).render = written (stampColumns t (offset < 0) offset.natAbs) := by
  simp [render, written, stampColumns, wallColumns, Column.text, signMark]

theorem render_interval (micros : Nat) :
    (interval micros).render =
      written (spanColumns (micros / microsPerDay) (micros % microsPerDay / microsPerHour)
        (micros % microsPerHour / microsPerMinute) (micros % microsPerMinute / microsPerSecond)
        (micros % microsPerSecond)) := by
  simp [render, written, spanColumns, partColumns, Column.text]

/-! ## What the reader reads -/

theorem readBounded_eq_ok_iff {text : List Char} {field : Field} {start stop greatest n : Nat} :
    readBounded text field start stop greatest = .ok n ↔
      readField text start stop = .ok n ∧ n ≤ greatest := by
  rw [readBounded, bind_eq_ok_iff]
  simp only [check_eq_ok_iff, Nat.not_lt]
  constructor
  · rintro ⟨m, hm, hle, heq⟩
    cases heq
    exact ⟨hm, hle⟩
  · rintro ⟨hn, hle⟩
    exact ⟨n, hn, hle, rfl⟩

/-- A date of the calendar has one of twelve months and at most 31 days before its end. -/
theorem bounds_of_isDate {year : Int} {month day : Nat}
    (h : Calendar.isDate year month day = true) : month ≤ 12 ∧ day ≤ 31 := by
  simp only [Calendar.isDate, Bool.and_eq_true, decide_eq_true_eq] at h
  obtain ⟨hpos, hle⟩ := h
  unfold Calendar.daysInMonth at hle
  split at hle
  · split at hle <;> omega
  split at hle
  · next hmonth =>
    simp only [List.mem_cons, List.not_mem_nil, or_false] at hmonth
    omega
  split at hle
  · next hmonth =>
    simp only [List.mem_cons, List.not_mem_nil, or_false] at hmonth
    omega
  · omega

/-- The minutes of an offset under its sign. -/
def signedMinutes (negative : Bool) (minutes : Nat) : Int := if negative then -minutes else minutes

theorem readFrom_stampColumns {text : List Char} {t : LocalTime} {negative : Bool} {minutes : Nat} :
    ReadFrom text 0 (stampColumns t negative minutes) ↔
      readField text 0 4 = .ok t.year.toNat ∧ readField text 4 6 = .ok t.month ∧
        readField text 6 8 = .ok t.day ∧ readField text 8 10 = .ok t.hour ∧
        readField text 10 12 = .ok t.minute ∧ readField text 12 14 = .ok t.second ∧
        text[14]? = some '.' ∧ readField text 15 21 = .ok t.micro ∧
        text[21]? = some (signMark negative) ∧ readField text 22 25 = .ok minutes := by
  simp [stampColumns, wallColumns, ReadFrom, Column.ReadAt, Column.width]

theorem readFrom_spanColumns {text : List Char} {days hours minutes seconds micro : Nat} :
    ReadFrom text 0 (spanColumns days hours minutes seconds micro) ↔
      readField text 0 8 = .ok days ∧ readField text 8 10 = .ok hours ∧
        readField text 10 12 = .ok minutes ∧ readField text 12 14 = .ok seconds ∧
        text[14]? = some '.' ∧ readField text 15 21 = .ok micro ∧ text[21]? = some ':' ∧
        text[22]? = some '0' ∧ text[23]? = some '0' ∧ text[24]? = some '0' := by
  simp [spanColumns, partColumns, ReadFrom, Column.ReadAt, Column.width]

theorem readTimestamp_eq_ok_iff {text : List Char} {micro : Nat} {negative : Bool} {d : DateTime}
    (hpoint : text[14]? = some '.') (hmicro : readField text 15 21 = .ok micro)
    (hlt : micro < 1000000) (hsign : text[21]? = some (signMark negative)) :
    readTimestamp text micro negative = .ok d ↔
      ∃ t minutes, ReadFrom text 0 (stampColumns t negative minutes) ∧ 0 ≤ t.year ∧ t.Exists ∧
        t.InMicros ∧ d = .timestamp t (signedMinutes negative minutes) := by
  simp only [readTimestamp, readBounded_eq_ok_iff, bind_eq_ok_iff, error_bind, check_eq_ok_iff,
    pure_eq_ok_iff, Decidable.not_not, readFrom_stampColumns]
  constructor
  · rintro ⟨year, hyear, month, ⟨hmonth, -⟩, day, ⟨hday, -⟩, hour, ⟨hhour, hh⟩, minute,
      ⟨hminute, hm⟩, second, ⟨hsecond, hs⟩, hdate, offset, hoffset, rfl⟩
    let t : LocalTime := ⟨year, month, day, hour, minute, second, micro * 1000⟩
    have hwhole : t.micro = micro := Nat.mul_div_cancel micro (by decide)
    exact ⟨t, offset, ⟨hyear, hmonth, hday, hhour, hminute, hsecond, hpoint, hwhole ▸ hmicro, hsign,
      hoffset⟩, Int.natCast_nonneg year, ⟨hdate, Nat.lt_succ_of_le hh, Nat.lt_succ_of_le hm,
        Nat.lt_succ_of_le hs, Nat.mul_lt_mul_of_pos_right hlt (by decide)⟩,
      Nat.mul_mod_left micro 1000, rfl⟩
  · rintro ⟨⟨year, month, day, hour, minute, second, nano⟩, offset,
      ⟨hyear, hmonth, hday, hhour, hminute, hsecond, -, hmicro', -, hoffset⟩, hnonneg,
      ⟨hdate, hh, hm, hs, -⟩, hwhole, rfl⟩
    obtain rfl : micro = nano / 1000 := Except.ok.inj (hmicro.symm.trans hmicro')
    have hnano : nano / 1000 * 1000 = nano := Nat.div_mul_cancel (Nat.dvd_of_mod_eq_zero hwhole)
    have hcast : (year.toNat : Int) = year := Int.toNat_of_nonneg hnonneg
    obtain ⟨hm12, hd31⟩ := bounds_of_isDate hdate
    refine ⟨_, hyear, _, ⟨hmonth, hm12⟩, _, ⟨hday, hd31⟩, _, ⟨hhour, ?_⟩, _, ⟨hminute, ?_⟩, _,
      ⟨hsecond, ?_⟩, by rwa [hcast], _, hoffset, by rw [hcast, hnano]; rfl⟩
    all_goals omega

theorem drop_eq_zeros_iff {text : List Char} (hlen : text.length = 25) :
    text.drop 22 = ['0', '0', '0'] ↔
      text[22]? = some '0' ∧ text[23]? = some '0' ∧ text[24]? = some '0' := by
  have hdrop : text.drop 22 = [text[22], text[23], text[24]] := by
    rw [List.drop_eq_getElem_cons (by omega), List.drop_eq_getElem_cons (by omega),
      List.drop_eq_getElem_cons (by omega), List.drop_eq_nil_of_le (by omega)]
  simp [hdrop, hlen]

/-- The microseconds of an interval by its parts. -/
def spanMicros (days hours minutes seconds micro : Nat) : Nat :=
  days * microsPerDay + hours * microsPerHour + minutes * microsPerMinute +
    seconds * microsPerSecond + micro

theorem readInterval_eq_ok_iff {text : List Char} {micro : Nat} {d : DateTime}
    (hlen : text.length = 25) (hpoint : text[14]? = some '.')
    (hmicro : readField text 15 21 = .ok micro) (hcolon : text[21]? = some ':') :
    readInterval text micro = .ok d ↔
      ∃ days hours minutes seconds micro,
        ReadFrom text 0 (spanColumns days hours minutes seconds micro) ∧
          hours < 24 ∧ minutes < 60 ∧ seconds < 60 ∧
          d = .interval (spanMicros days hours minutes seconds micro) := by
  simp only [readInterval, readBounded_eq_ok_iff, bind_eq_ok_iff, error_bind, check_eq_ok_iff,
    pure_eq_ok_iff, ne_eq, Decidable.not_not, readFrom_spanColumns, drop_eq_zeros_iff hlen]
  constructor
  · rintro ⟨⟨h22, h23, h24⟩, days, hdays, hours, ⟨hhours, hh⟩, minutes, ⟨hminutes, hm⟩, seconds,
      ⟨hseconds, hs⟩, rfl⟩
    exact ⟨days, hours, minutes, seconds, micro,
      ⟨hdays, hhours, hminutes, hseconds, hpoint, hmicro, hcolon, h22, h23, h24⟩,
      Nat.lt_succ_of_le hh, Nat.lt_succ_of_le hm, Nat.lt_succ_of_le hs, rfl⟩
  · rintro ⟨days, hours, minutes, seconds, micro',
      ⟨hdays, hhours, hminutes, hseconds, -, hmicro', -, h22, h23, h24⟩, hh, hm, hs, rfl⟩
    obtain rfl : micro = micro' := Except.ok.inj (hmicro.symm.trans hmicro')
    exact ⟨⟨h22, h23, h24⟩, days, hdays, hours, ⟨hhours, by omega⟩, minutes,
      ⟨hminutes, by omega⟩, seconds, ⟨hseconds, by omega⟩, rfl⟩

/-- The text is made of the columns of a timestamp or of an interval. -/
inductive Spells (text : List Char) : DateTime → Prop
  | stamp {t : LocalTime} {negative : Bool} {minutes : Nat} :
      ReadFrom text 0 (stampColumns t negative minutes) → 0 ≤ t.year → t.Exists → t.InMicros →
        Spells text (.timestamp t (signedMinutes negative minutes))
  | span {days hours minutes seconds micro : Nat} :
      ReadFrom text 0 (spanColumns days hours minutes seconds micro) →
        hours < 24 → minutes < 60 → seconds < 60 →
        Spells text (.interval (spanMicros days hours minutes seconds micro))

theorem parseChars_eq_ok_iff {text : List Char} {d : DateTime} :
    parseChars text = .ok d ↔
      text.length = 25 ∧ (∀ c ∈ text, c.toNat < 128) ∧ Spells text d := by
  simp only [parseChars, bind_eq_ok_iff, error_bind, check_eq_ok_iff, ne_eq, Decidable.not_not,
    List.all_eq_true, decide_eq_true_eq]
  constructor
  · rintro ⟨⟨hlen, hascii⟩, hpoint, micro, hmicro, h⟩
    refine ⟨hlen, hascii, ?_⟩
    have hwidth : 15 + 6 ≤ text.length := by omega
    have hlt : micro < 1000000 := ((readField_eq_ok_iff (by decide) hwidth).1 hmicro).1
    split at h
    · next hcolon =>
      obtain ⟨days, hours, minutes, seconds, micro, hread, hh, hm, hs, rfl⟩ :=
        (readInterval_eq_ok_iff hlen hpoint hmicro hcolon).1 h
      exact .span hread hh hm hs
    · next hplus =>
      have hsign : text[21]? = some (signMark false) := hplus
      obtain ⟨t, minutes, hread, hyear, hexists, hwhole, rfl⟩ :=
        (readTimestamp_eq_ok_iff hpoint hmicro hlt hsign).1 h
      exact .stamp hread hyear hexists hwhole
    · next hminus =>
      have hsign : text[21]? = some (signMark true) := hminus
      obtain ⟨t, minutes, hread, hyear, hexists, hwhole, rfl⟩ :=
        (readTimestamp_eq_ok_iff hpoint hmicro hlt hsign).1 h
      exact .stamp hread hyear hexists hwhole
    · cases h
    · cases h
  · rintro ⟨hlen, hascii, h⟩
    refine ⟨⟨hlen, hascii⟩, ?_⟩
    cases h with
    | @stamp t negative minutes hread hyear hexists hwhole =>
      obtain ⟨-, -, -, -, -, -, hpoint, hmicro, hsign, -⟩ := readFrom_stampColumns.1 hread
      refine ⟨hpoint, t.micro, hmicro, ?_⟩
      have h := (readTimestamp_eq_ok_iff hpoint hmicro (LocalTime.micro_lt hexists) hsign).2
        ⟨t, minutes, hread, hyear, hexists, hwhole, rfl⟩
      cases negative with
      | false => rw [hsign]; exact h
      | true => rw [hsign]; exact h
    | @span days hours minutes seconds micro hread hh hm hs =>
      obtain ⟨-, -, -, -, hpoint, hmicro, hcolon, -⟩ := readFrom_spanColumns.1 hread
      refine ⟨hpoint, micro, hmicro, ?_⟩
      rw [hcolon]
      exact (readInterval_eq_ok_iff hlen hpoint hmicro hcolon).2
        ⟨days, hours, minutes, seconds, micro, hread, hh, hm, hs, rfl⟩

/-! ## What the printer writes -/

theorem totalWidth_stampColumns (t : LocalTime) (negative : Bool) (minutes : Nat) :
    totalWidth (stampColumns t negative minutes) = 25 := rfl

theorem totalWidth_spanColumns (days hours minutes seconds micro : Nat) :
    totalWidth (spanColumns days hours minutes seconds micro) = 25 := rfl

theorem length_written {columns : List Column} (h : ∀ column ∈ columns, column.Fits) :
    (written columns).length = totalWidth columns := by
  induction columns with
  | nil => rfl
  | cons column rest ih =>
    obtain ⟨hcolumn, hrest⟩ := List.forall_mem_cons.1 h
    have := ih hrest
    simp only [written, totalWidth, List.flatMap_cons, List.length_append, List.map_cons,
      List.sum_cons, Column.length_text hcolumn] at *
    omega

/-- A text of 25 characters reads as 25 columns exactly when it is made of them. -/
theorem readFrom_zero_iff {text : List Char} {columns : List Column}
    (hw : ∀ column ∈ columns, 0 < column.width) (htotal : totalWidth columns = 25) :
    text.length = 25 ∧ ReadFrom text 0 columns ↔
      (∀ column ∈ columns, column.Fits) ∧ text = written columns := by
  constructor
  · rintro ⟨hlen, hread⟩
    exact (readFrom_iff hw (by omega)).1 hread
  · rintro ⟨hfits, rfl⟩
    have hlen := (length_written hfits).trans htotal
    exact ⟨hlen, (readFrom_iff hw (by omega)).2 ⟨hfits, rfl⟩⟩

/-- The digits of a number are ASCII, and so is a column with an ASCII mark. -/
def Column.Ascii : Column → Prop
  | .number .. => True
  | .mark c => c.toNat < 128

theorem ascii_written {columns : List Column} (h : ∀ column ∈ columns, column.Ascii) {c : Char}
    (hc : c ∈ written columns) : c.toNat < 128 := by
  obtain ⟨column, hmem, hc⟩ := List.mem_flatMap.1 hc
  cases column with
  | number width n =>
    have h9 : '9'.toNat < 128 := by decide
    have := (Char.isDigit_iff_toNat.1 (isDigit_of_mem_padded hc)).2
    omega
  | mark d =>
    rw [List.mem_singleton.1 hc]
    exact h _ hmem

theorem width_pos_stampColumns (t : LocalTime) (negative : Bool) (minutes : Nat) :
    ∀ column ∈ stampColumns t negative minutes, 0 < column.width := by
  simp [stampColumns, wallColumns, Column.width]

theorem width_pos_spanColumns (days hours minutes seconds micro : Nat) :
    ∀ column ∈ spanColumns days hours minutes seconds micro, 0 < column.width := by
  simp [spanColumns, partColumns, Column.width]

theorem ascii_stampColumns (t : LocalTime) (negative : Bool) (minutes : Nat) :
    ∀ column ∈ stampColumns t negative minutes, column.Ascii := by
  cases negative <;> simp [stampColumns, wallColumns, Column.Ascii, signMark]

theorem ascii_spanColumns (days hours minutes seconds micro : Nat) :
    ∀ column ∈ spanColumns days hours minutes seconds micro, column.Ascii := by
  simp [spanColumns, partColumns, Column.Ascii]

theorem fits_stampColumns_iff {t : LocalTime} (hexists : t.Exists) (hnonneg : 0 ≤ t.year)
    {negative : Bool} {minutes : Nat} :
    (∀ column ∈ stampColumns t negative minutes, column.Fits) ↔
      t.year ≤ 9999 ∧ minutes ≤ 999 := by
  have hmicro := LocalTime.micro_lt hexists
  obtain ⟨hdate, hh, hm, hs, -⟩ := hexists
  obtain ⟨hm12, hd31⟩ := bounds_of_isDate hdate
  simp only [stampColumns, wallColumns, List.cons_append, List.nil_append, List.forall_mem_cons,
    Column.Fits, List.not_mem_nil, false_implies, implies_true, true_and, and_true]
  omega

theorem fits_spanColumns_iff {days hours minutes seconds micro : Nat} (hh : hours < 24)
    (hm : minutes < 60) (hs : seconds < 60) :
    (∀ column ∈ spanColumns days hours minutes seconds micro, column.Fits) ↔
      days ≤ 99999999 ∧ micro ≤ 999999 := by
  simp only [spanColumns, partColumns, List.cons_append, List.nil_append, List.forall_mem_cons,
    Column.Fits, List.not_mem_nil, false_implies, implies_true, true_and, and_true]
  omega

/-! ## The parts of an interval -/

theorem spanMicros_div_mod (micros : Nat) :
    spanMicros (micros / microsPerDay) (micros % microsPerDay / microsPerHour)
      (micros % microsPerHour / microsPerMinute) (micros % microsPerMinute / microsPerSecond)
      (micros % microsPerSecond) = micros := by
  simp only [spanMicros, microsPerDay, microsPerHour, microsPerMinute, microsPerSecond]
  omega

theorem parts_lt (micros : Nat) :
    micros % microsPerDay / microsPerHour < 24 ∧ micros % microsPerHour / microsPerMinute < 60 ∧
      micros % microsPerMinute / microsPerSecond < 60 ∧ micros % microsPerSecond ≤ 999999 := by
  simp only [microsPerDay, microsPerHour, microsPerMinute, microsPerSecond]
  omega

theorem parts_of_spanMicros {days hours minutes seconds micro : Nat} (hh : hours < 24)
    (hm : minutes < 60) (hs : seconds < 60) (hmicro : micro ≤ 999999) :
    let micros := spanMicros days hours minutes seconds micro
    micros / microsPerDay = days ∧ micros % microsPerDay / microsPerHour = hours ∧
      micros % microsPerHour / microsPerMinute = minutes ∧
      micros % microsPerMinute / microsPerSecond = seconds ∧ micros % microsPerSecond = micro := by
  simp only [spanMicros, microsPerDay, microsPerHour, microsPerMinute, microsPerSecond]
  omega

/-! ## Both ways -/

/-- What is written reads as the columns that were written. -/
theorem parseChars_written {columns : List Column} {d : DateTime}
    (hw : ∀ column ∈ columns, 0 < column.width) (htotal : totalWidth columns = 25)
    (hascii : ∀ column ∈ columns, column.Ascii) (hfits : ∀ column ∈ columns, column.Fits)
    (h : ReadFrom (written columns) 0 columns → Spells (written columns) d) :
    parseChars (written columns) = .ok d := by
  obtain ⟨hlen, hread⟩ := (readFrom_zero_iff hw htotal).2 ⟨hfits, rfl⟩
  exact parseChars_eq_ok_iff.2 ⟨hlen, fun c => ascii_written hascii, h hread⟩

theorem parseChars_stamp {t : LocalTime} (hexists : t.Exists) (hwhole : t.InMicros)
    (hyear : 0 ≤ t.year ∧ t.year ≤ 9999) (negative : Bool) {minutes : Nat} (hm : minutes ≤ 999) :
    parseChars (written (stampColumns t negative minutes)) =
      .ok (.timestamp t (signedMinutes negative minutes)) := by
  refine parseChars_written (width_pos_stampColumns t negative minutes)
    (totalWidth_stampColumns t negative minutes) (ascii_stampColumns t negative minutes) ?_ ?_
  · exact (fits_stampColumns_iff hexists hyear.1).2 ⟨hyear.2, hm⟩
  · exact fun hread => .stamp hread hyear.1 hexists hwhole

theorem signedMinutes_natAbs (offset : Int) :
    signedMinutes (decide (offset < 0)) offset.natAbs = offset := by
  unfold signedMinutes
  split
  · next h =>
    have := of_decide_eq_true h
    omega
  · next h =>
    have := of_decide_eq_false (Bool.eq_false_iff.2 h)
    omega

/-- A valid date-time of whole microseconds is read back from its text. -/
theorem parseChars_render {d : DateTime} (h : d.Valid) (hwhole : d.InMicros) :
    parseChars d.render = .ok d := by
  cases d with
  | timestamp t offset =>
    obtain ⟨hexists, hyear, hoffset⟩ := valid_timestamp_iff.1 h
    rw [render_timestamp, parseChars_stamp hexists hwhole hyear _ hoffset, signedMinutes_natAbs]
  | interval micros =>
    have hdays := valid_interval_iff.1 h
    rw [render_interval]
    obtain ⟨hh, hm, hs, hmicro⟩ := parts_lt micros
    refine parseChars_written (width_pos_spanColumns _ _ _ _ _) (totalWidth_spanColumns _ _ _ _ _)
      (ascii_spanColumns _ _ _ _ _) ((fits_spanColumns_iff hh hm hs).2 ⟨hdays, hmicro⟩)
      fun hread => ?_
    have hspan := Spells.span hread hh hm hs
    rwa [spanMicros_div_mod] at hspan

/-- A valid date-time is read back from its text without what is finer than a microsecond. -/
theorem parseChars_render_cut {d : DateTime} (h : d.Valid) : parseChars d.render = .ok d.cut := by
  rw [← render_cut, parseChars_render (valid_cut h) d.inMicros_cut]

/-- The text up to the sign of the offset. -/
def stem (t : LocalTime) : List Char := written (wallColumns t)

theorem written_stampColumns (t : LocalTime) (negative : Bool) (minutes : Nat) :
    written (stampColumns t negative minutes) =
      stem t ++ signMark negative :: padded 3 minutes := by
  simp [written, stem, stampColumns, Column.text]

theorem written_spanColumns (days hours minutes seconds micro : Nat) :
    written (spanColumns days hours minutes seconds micro) =
      written (partColumns days hours minutes seconds micro) ++ [':', '0', '0', '0'] := by
  simp [written, spanColumns, Column.text]

/-- What was read is valid and of whole microseconds, and is written as it was read but for a minus
before no minutes. -/
theorem valid_of_parseChars {text : List Char} {d : DateTime} (h : parseChars text = .ok d) :
    d.Valid ∧ d.InMicros ∧ (text = d.render ∨
      ∃ t, d = .timestamp t 0 ∧ text = stem t ++ ['-', '0', '0', '0']) := by
  obtain ⟨hlen, -, hspells⟩ := parseChars_eq_ok_iff.1 h
  cases hspells with
  | @stamp t negative minutes hread hyear hexists hwhole =>
    obtain ⟨hfits, rfl⟩ := (readFrom_zero_iff (width_pos_stampColumns t negative minutes)
      (totalWidth_stampColumns t negative minutes)).1 ⟨hlen, hread⟩
    obtain ⟨hle, hminutes⟩ := (fits_stampColumns_iff hexists hyear).1 hfits
    have hvalid (hoffset : (signedMinutes negative minutes).natAbs = minutes) :
        (timestamp t (signedMinutes negative minutes)).Valid :=
      valid_timestamp_iff.2 ⟨hexists, ⟨hyear, hle⟩, by omega⟩
    cases negative with
    | false =>
      refine ⟨hvalid (Int.natAbs_natCast minutes), hwhole, .inl ?_⟩
      rw [render_timestamp]
      rfl
    | true =>
      refine ⟨hvalid ((Int.natAbs_neg _).trans (Int.natAbs_natCast minutes)), hwhole, ?_⟩
      rcases Nat.eq_zero_or_pos minutes with rfl | hpos
      · exact .inr ⟨t, rfl, written_stampColumns t true 0⟩
      · refine .inl ?_
        have hneg : signedMinutes true minutes < 0 := by
          simp only [signedMinutes, if_true]
          omega
        have habs : (signedMinutes true minutes).natAbs = minutes :=
          (Int.natAbs_neg _).trans (Int.natAbs_natCast minutes)
        rw [render_timestamp, habs, decide_eq_true hneg]
  | @span days hours minutes seconds micro hread hh hm hs =>
    obtain ⟨hfits, rfl⟩ := (readFrom_zero_iff (width_pos_spanColumns _ _ _ _ _)
      (totalWidth_spanColumns _ _ _ _ _)).1 ⟨hlen, hread⟩
    obtain ⟨hdays, hmicro⟩ := (fits_spanColumns_iff hh hm hs).1 hfits
    obtain ⟨h1, h2, h3, h4, h5⟩ := @parts_of_spanMicros days _ _ _ _ hh hm hs hmicro
    refine ⟨valid_interval_iff.2 (by rw [h1]; exact hdays), trivial, .inl ?_⟩
    rw [render_interval, h1, h2, h3, h4, h5]

/-- The minus before no minutes of offset reads as the plus that is written. -/
theorem parseChars_minus {stem : List Char} {d : DateTime} (hd : d.Valid) (hwhole : d.InMicros)
    (h : d.render = stem ++ ['+', '0', '0', '0']) :
    parseChars (stem ++ ['-', '0', '0', '0']) = .ok d := by
  cases d with
  | timestamp t offset =>
    obtain ⟨hexists, hyear, hoffset⟩ := valid_timestamp_iff.1 hd
    rw [render_timestamp, written_stampColumns] at h
    have hlen : (padded 3 offset.natAbs).length = 3 := length_padded (by decide) (by omega)
    obtain ⟨rfl, hend⟩ := List.append_inj' h (by rw [List.length_cons, hlen]; rfl)
    have hminutes := congrArg (Nat.ofDigitChars 10 · 0) (List.cons.inj hend).2
    simp only [ofDigitChars_padded] at hminutes
    have hzero : offset = 0 := Int.natAbs_eq_zero.1 hminutes
    have hback := parseChars_stamp hexists hwhole hyear true (Nat.zero_le 999)
    rw [written_stampColumns] at hback
    rw [hzero]
    exact hback
  | interval micros =>
    rw [render_interval, written_spanColumns] at h
    obtain ⟨-, hend⟩ := List.append_inj' h rfl
    cases hend

theorem length_render {d : DateTime} (h : d.Valid) :
    d.render.length = 25 ∧ ∀ c ∈ d.render, c.toNat < 128 := by
  obtain ⟨hlen, hascii, -⟩ := parseChars_eq_ok_iff.1 (parseChars_render_cut h)
  exact ⟨hlen, hascii⟩

/-- A text reads as a date-time exactly when the date-time is valid, of whole microseconds, and the
text is its own, or differs from that in the minus before no minutes of offset. The text of a valid
date-time has 25 characters, all of ASCII, and reads as it without what is finer than a
microsecond. -/
theorem parse_eq_ok_iff (text : String) (d : DateTime) :
    (parse text = .ok d ↔
      d.Valid ∧ d.InMicros ∧ (text = d.toText ∨
        ∃ stem, text = stem ++ "-000" ∧ d.toText = stem ++ "+000")) ∧
      (d.Valid → (d.toText.length = 25 ∧ ∀ c ∈ d.toText.toList, c.toNat < 128) ∧
        parse d.toText = .ok d.cut) := by
  have htext : d.toText.toList = d.render := String.toList_ofList
  refine ⟨⟨fun h => ?_, ?_⟩, fun hd => ⟨?_, ?_⟩⟩
  · obtain ⟨hd, hwhole, hown | ⟨t, rfl, hminus⟩⟩ := valid_of_parseChars h
    · exact ⟨hd, hwhole, .inl (String.toList_inj.1 (hown.trans htext.symm))⟩
    · refine ⟨hd, hwhole, .inr ⟨String.ofList (stem t), ?_, ?_⟩⟩
      · rw [← String.toList_inj, String.toList_append, String.toList_ofList]
        exact hminus
      · rw [← String.toList_inj, String.toList_append, String.toList_ofList, htext,
          render_timestamp]
        exact written_stampColumns t false 0
  · rintro ⟨hd, hwhole, rfl | ⟨stem, rfl, hplus⟩⟩
    · rw [parse, htext]
      exact parseChars_render hd hwhole
    · rw [parse, String.toList_append]
      refine parseChars_minus hd hwhole ?_
      rw [← htext, hplus, String.toList_append]
      rfl
  · rw [← String.length_toList, htext]
    exact length_render hd
  · rw [parse, htext]
    exact parseChars_render_cut hd

/-- On a leap day with a minus before no minutes. -/
theorem parse_eq_ok_iff_leap_day :
    let d : DateTime := .timestamp ⟨2024, 2, 29, 23, 59, 59, 999999000⟩ 0
    d.Valid ∧ parse "20240229235959.999999-000" = .ok d ∧ d.toText.length = 25 ∧
      parse d.toText = .ok d.cut := by
  intro d
  have hd : d.Valid := valid_timestamp_iff.2 (by decide)
  have hwhole : d.InMicros := rfl
  obtain ⟨hread, htext⟩ := parse_eq_ok_iff "20240229235959.999999-000" d
  obtain ⟨⟨hlength, -⟩, hown⟩ := htext hd
  exact ⟨hd, hread.2 ⟨hd, hwhole, .inr ⟨"20240229235959.999999", by decide, by decide⟩⟩, hlength,
    hown⟩

end InstanceFilter.DateTime
