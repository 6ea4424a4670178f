/-
What is finer than a microsecond. A reading may have it, and two counts of microseconds are taken of
such a reading: its text has the whole ones, and the order of date-times has its nanoseconds cut off
toward 1970. The two agree on readings of whole microseconds and on those that are not before 1970;
before it, the second is one more. So a date-time without what is finer is of the same text, and it
is at the same place in the order only where the two agree.
-/
import InstanceFilter.DateTime.Printer
import InstanceFilter.Proofs.DateTime.Calendar

namespace InstanceFilter

/-! ## Readings -/

namespace LocalTime

/-- The reading has nothing finer than a microsecond. -/
def InMicros (t : LocalTime) : Prop := t.nano % 1000 = 0

instance (t : LocalTime) : Decidable t.InMicros := inferInstanceAs (Decidable (_ = _))

/-- Cut off toward 1970, the reading loses what is finer than a microsecond and no more: it has
nothing finer, or is not before 1970. -/
def RoundsDown (t : LocalTime) : Prop := t.InMicros ∨ 0 ≤ t.toNanos

instance (t : LocalTime) : Decidable t.RoundsDown := inferInstanceAs (Decidable (_ ∨ _))

/-- The reading without what is finer than a microsecond. -/
def cut (t : LocalTime) : LocalTime := { t with nano := t.micro * 1000 }

@[simp] theorem micro_cut (t : LocalTime) : t.cut.micro = t.micro :=
  Nat.mul_div_cancel _ (by decide)

@[simp] theorem toMicros_cut (t : LocalTime) : t.cut.toMicros = t.toMicros := by
  unfold toMicros
  rw [micro_cut]
  rfl

theorem inMicros_cut (t : LocalTime) : t.cut.InMicros := Nat.mul_mod_left _ _

theorem cut_of_inMicros {t : LocalTime} (h : t.InMicros) : t.cut = t := by
  have hnano : t.micro * 1000 = t.nano := Nat.div_mul_cancel (Nat.dvd_of_mod_eq_zero h)
  rw [cut, hnano]

theorem exists_cut {t : LocalTime} (h : t.Exists) : t.cut.Exists := by
  obtain ⟨hdate, hh, hm, hs, hnano⟩ := h
  exact ⟨hdate, hh, hm, hs, Nat.lt_of_le_of_lt (Nat.div_mul_le_self _ _) hnano⟩

/-- Nanoseconds cut off toward 1970 are the whole microseconds, and one more where some are cut off
before 1970. -/
theorem tdiv_toNanos (t : LocalTime) :
    t.toNanos.tdiv 1000 = t.toMicros + if t.RoundsDown then 0 else 1 := by
  have hnanos := t.toNanos_eq
  have hlt := Nat.mod_lt t.nano (show 0 < 1000 by decide)
  have hdvd : (1000 : Int) ∣ t.toNanos ↔ t.InMicros := by
    unfold InMicros
    omega
  rw [Int.tdiv_eq_ediv]
  simp only [hdvd, RoundsDown, or_comm]
  congr 1
  omega

end LocalTime

/-! ## Date-times -/

namespace DateTime

/-- The reading of a timestamp has nothing finer than a microsecond; an interval never has. -/
def InMicros : DateTime → Prop
  | .timestamp wall _ => wall.InMicros
  | .interval _ => True

instance : (d : DateTime) → Decidable d.InMicros
  | .timestamp wall _ => inferInstanceAs (Decidable wall.InMicros)
  | .interval _ => inferInstanceAs (Decidable True)

/-- As of the reading of a timestamp; an interval has nothing to cut off. -/
def RoundsDown : DateTime → Prop
  | .timestamp wall _ => wall.RoundsDown
  | .interval _ => True

instance : (d : DateTime) → Decidable d.RoundsDown
  | .timestamp wall _ => inferInstanceAs (Decidable wall.RoundsDown)
  | .interval _ => inferInstanceAs (Decidable True)

/-- The date-time without what is finer than a microsecond. -/
def cut : DateTime → DateTime
  | .timestamp wall offset => .timestamp wall.cut offset
  | .interval micros => .interval micros

theorem inMicros_cut (d : DateTime) : d.cut.InMicros := by
  cases d with
  | timestamp wall offset => exact wall.inMicros_cut
  | interval micros => trivial

theorem cut_of_inMicros {d : DateTime} (h : d.InMicros) : d.cut = d := by
  cases d with
  | timestamp wall offset => rw [cut, LocalTime.cut_of_inMicros h]
  | interval micros => rfl

theorem isInterval_cut (d : DateTime) : d.cut.isInterval = d.isInterval := by
  cases d <;> rfl

/-- What is finer than a microsecond is not written. -/
theorem render_cut (d : DateTime) : d.cut.render = d.render := by
  cases d with
  | timestamp wall offset =>
    simp only [cut, render, LocalTime.micro_cut]
    rfl
  | interval micros => rfl

theorem normalized_timestamp (t : LocalTime) (offset : Int) : (timestamp t offset).normalized =
    t.toMicros + (if t.RoundsDown then 0 else 1) - offset * microsPerMinute := by
  rw [normalized, LocalTime.tdiv_toNanos]

theorem normalized_of_inMicros {t : LocalTime} (h : t.InMicros) (offset : Int) :
    (timestamp t offset).normalized = t.toMicros - offset * microsPerMinute := by
  rw [normalized_timestamp, if_pos (.inl h), Int.add_zero]

/-- The two counts of microseconds agree where cutting off toward 1970 is rounding down. -/
theorem normalized_cut_iff {d : DateTime} : d.cut.normalized = d.normalized ↔ d.RoundsDown := by
  cases d with
  | timestamp wall offset =>
    show _ ↔ wall.RoundsDown
    rw [cut, normalized_of_inMicros wall.inMicros_cut, normalized_timestamp,
      LocalTime.toMicros_cut]
    split
    · next h => exact iff_of_true (by omega) h
    · next h => exact iff_of_false (by omega) h
  | interval micros => exact iff_of_true rfl trivial

end DateTime

end InstanceFilter
