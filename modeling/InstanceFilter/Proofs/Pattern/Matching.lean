/-
What it is for an expression to match the stretch of a text between two places, said without sets of
places, and that the places which `ends` computes are the ones where such a match ends. The two
shortcuts of the computation need an argument: a round that changes nothing ends the least rounds of
a repetition, and the rounds after those are cut off at the length of the text, since a round that
does not move can be left out.
-/
import InstanceFilter.Pattern.Expr

namespace InstanceFilter.Pattern

/-! ## Rounds of a relation -/

/-- A number of steps of a relation between places, one after the other. -/
def Rounds (R : Nat → Nat → Prop) : Nat → Nat → Nat → Prop
  | 0, i, j => i = j
  | n + 1, i, j => ∃ k, R i k ∧ Rounds R n k j

namespace Rounds

variable {R : Nat → Nat → Prop}

theorem add_iff {m n i j : Nat} :
    Rounds R (m + n) i j ↔ ∃ k, Rounds R m i k ∧ Rounds R n k j := by
  induction m generalizing i with
  | zero => simp [Rounds]
  | succ m ih =>
    rw [Nat.succ_add]
    constructor
    · rintro ⟨k, hk, h⟩
      obtain ⟨l, hl, h⟩ := ih.1 h
      exact ⟨l, ⟨k, hk, hl⟩, h⟩
    · rintro ⟨l, ⟨k, hk, hl⟩, h⟩
      exact ⟨k, hk, ih.2 ⟨l, hl, h⟩⟩

theorem le (hR : ∀ i j, R i j → i ≤ j) {n i j : Nat} (h : Rounds R n i j) : i ≤ j := by
  induction n generalizing i with
  | zero => exact Nat.le_of_eq h
  | succ n ih =>
    obtain ⟨k, hk, h⟩ := h
    exact Nat.le_trans (hR i k hk) (ih h)

/-- Rounds that do not move can be left out, so there need be no more rounds than places passed. -/
theorem shorten (hR : ∀ i j, R i j → i ≤ j) {n i j : Nat} (h : Rounds R n i j) :
    ∃ m, m ≤ n ∧ m ≤ j - i ∧ Rounds R m i j := by
  induction n generalizing i with
  | zero => exact ⟨0, Nat.le_refl 0, Nat.zero_le _, h⟩
  | succ n ih =>
    obtain ⟨k, hk, h⟩ := h
    obtain ⟨m, hmn, hm, hrounds⟩ := ih h
    obtain rfl | hlt := Nat.eq_or_lt_of_le (hR i k hk)
    · exact ⟨m, Nat.le_succ_of_le hmn, hm, hrounds⟩
    · have hkj := le hR hrounds
      exact ⟨m + 1, Nat.succ_le_succ hmn, by omega, k, hk, hrounds⟩

end Rounds

/-! ## Sets of places -/

theorem mem_mergePlaces {as bs : Places} {x : Nat} : x ∈ mergePlaces as bs ↔ x ∈ as ∨ x ∈ bs := by
  fun_induction mergePlaces as bs with
  | case1 bs => simp
  | case2 as h => simp
  | case3 a as b bs hlt ih => simp only [List.mem_cons, ih, or_assoc]
  | case4 a as b bs hle hlt ih =>
    simp only [List.mem_cons, ih]
    grind
  | case5 a as b bs hle hge ih =>
    have heq : a = b := by omega
    simp only [List.mem_cons, ih, heq]
    grind

theorem mem_of_mem_withoutPlaces {as bs : Places} {x : Nat} (h : x ∈ withoutPlaces as bs) :
    x ∈ as := by
  fun_induction withoutPlaces as bs with
  | case1 bs => exact h
  | case2 as hne => exact h
  | case3 a as b bs hlt ih =>
    obtain rfl | h := List.mem_cons.1 h
    · exact List.mem_cons_self
    · exact List.mem_cons_of_mem a (ih h)
  | case4 a as b bs hle hlt ih => exact ih h
  | case5 a as b bs hle hge ih => exact List.mem_cons_of_mem a (ih h)

/-- Nothing is taken out of a set but what the other one holds. -/
theorem mem_withoutPlaces_or {as bs : Places} {x : Nat} (h : x ∈ as) :
    x ∈ withoutPlaces as bs ∨ x ∈ bs := by
  fun_induction withoutPlaces as bs with
  | case1 bs => cases h
  | case2 as hne => exact .inl h
  | case3 a as b bs hlt ih =>
    obtain rfl | h := List.mem_cons.1 h
    · exact .inl List.mem_cons_self
    · exact (ih h).imp_left (List.mem_cons_of_mem a)
  | case4 a as b bs hle hlt ih => exact (ih h).imp_right (List.mem_cons_of_mem b)
  | case5 a as b bs hle hge ih =>
    have heq : a = b := by omega
    obtain rfl | h := List.mem_cons.1 h
    · exact .inr (heq ▸ List.mem_cons_self)
    · exact (ih h).imp_right (List.mem_cons_of_mem b)

/-! ## Repeating -/

section

variable {R : Nat → Nat → Prop} {step : Places → Places}
  (hstep : ∀ places x, x ∈ step places ↔ ∃ i ∈ places, R i x)

include hstep

theorem mem_iterate (n : Nat) {places : Places} {x : Nat} :
    x ∈ iterate step n places ↔ ∃ i ∈ places, Rounds R n i x := by
  induction n generalizing places with
  | zero => simp [iterate, Rounds]
  | succ n ih =>
    have hround : (∃ i ∈ step places, Rounds R n i x) ↔ ∃ i ∈ places, Rounds R (n + 1) i x := by
      constructor
      · rintro ⟨k, hk, h⟩
        obtain ⟨i, hi, hik⟩ := (hstep places k).1 hk
        exact ⟨i, hi, k, hik, h⟩
      · rintro ⟨i, hi, k, hik, h⟩
        exact ⟨k, (hstep places k).2 ⟨i, hi, hik⟩, h⟩
    rw [iterate]
    split
    · next hfix =>
      -- A set that one round leaves as it is, any number of rounds leaves as it is.
      have hstay (m : Nat) : iterate step m places = places := by
        cases m <;> simp [iterate, hfix]
      rw [← hround, hfix, ← ih, hstay]
    · rw [ih, hround]

/-- The places seen hold the newest, and nothing new is reached from the others: what `spread` adds
is reached from the places seen, and all that is reached from them in so many rounds is added. -/
theorem mem_spread (n : Nat) {seen newest : Places} {x : Nat} (hnewest : ∀ i ∈ newest, i ∈ seen)
    (hclosed : ∀ i ∈ seen, i ∉ newest → ∀ j, R i j → j ∈ seen) :
    x ∈ spread step n seen newest ↔ ∃ k ≤ n, ∃ i ∈ seen, Rounds R k i x := by
  -- By induction on the rounds left; only the newest places can lead out of those seen.
  induction n generalizing seen newest with
  | zero => simp [spread, Rounds]
  | succ n ih =>
    cases newest with
    | nil =>
      -- Without new places no round leads out of those seen.
      have hstay {k i : Nat} (hi : i ∈ seen) (h : Rounds R k i x) : x ∈ seen := by
        induction k generalizing i with
        | zero => exact h ▸ hi
        | succ k ih =>
          obtain ⟨j, hij, h⟩ := h
          exact ih (hclosed i hi List.not_mem_nil j hij) h
      rw [spread]
      exact ⟨fun hx => ⟨0, Nat.zero_le _, x, hx, rfl⟩, fun ⟨k, _, i, hi, h⟩ => hstay hi h⟩
    | cons first rest =>
      generalize hplaces : first :: rest = places at hnewest hclosed ⊢
      have hround : spread step (n + 1) seen places =
          spread step n (mergePlaces seen (withoutPlaces (step places) seen))
            (withoutPlaces (step places) seen) := by
        rw [← hplaces]
        rfl
      rw [hround]
      have hreached : ∀ i ∈ seen, ∀ j, R i j →
          j ∈ mergePlaces seen (withoutPlaces (step places) seen) := by
        intro i hi j hij
        rw [mem_mergePlaces]
        by_cases hnew : i ∈ places
        · exact (mem_withoutPlaces_or ((hstep places j).2 ⟨i, hnew, hij⟩)).symm
        · exact .inl (hclosed i hi hnew j hij)
      rw [ih (fun i hi => mem_mergePlaces.2 (.inr hi))]
      · constructor
        · rintro ⟨k, hk, i, hi, h⟩
          obtain hi | hi := mem_mergePlaces.1 hi
          · exact ⟨k, Nat.le_succ_of_le hk, i, hi, h⟩
          · obtain ⟨i', hi', hii'⟩ := (hstep places i).1 (mem_of_mem_withoutPlaces hi)
            exact ⟨k + 1, Nat.succ_le_succ hk, i', hnewest i' hi', i, hii', h⟩
        · rintro ⟨k, hk, i, hi, h⟩
          cases k with
          | zero => exact ⟨0, Nat.zero_le n, i, mem_mergePlaces.2 (.inl hi), h⟩
          | succ k =>
            obtain ⟨j, hij, h⟩ := h
            exact ⟨k, Nat.le_of_succ_le_succ hk, j, hreached i hi j hij, h⟩
      · intro i hi hold j hij
        obtain hi | hi := mem_mergePlaces.1 hi
        · exact hreached i hi j hij
        · exact absurd hi hold

end

/-! ## Matches -/

namespace Expr

/-- An expression matches the stretch of a text from one place to another. A greatest number of
rounds below the least number counts as the least number. -/
def Matches (text : Array Char) : Expr → Nat → Nat → Prop
  | .empty, i, j => i = j
  | .set s, i, j => ∃ c, text[i]? = some c ∧ s.contains c = true ∧ j = i + 1
  | .look l, i, j => l.holdsAt text i = true ∧ i = j
  | .cat a b, i, j => ∃ k, a.Matches text i k ∧ b.Matches text k j
  | .alt a b, i, j => a.Matches text i j ∨ b.Matches text i j
  | .repeat a least most _, i, j =>
    ∃ n, least ≤ n ∧ (∀ m ∈ most, n ≤ max least m) ∧ Rounds (a.Matches text) n i j
  | .group _ a, i, j => a.Matches text i j

variable {text : Array Char}

/-- A match goes forward, and not beyond the end of the text. -/
theorem Matches.bounds {e : Expr} {i j : Nat} (h : e.Matches text i j) :
    i ≤ j ∧ j ≤ max i text.size := by
  induction e generalizing i j with
  | empty =>
    obtain rfl : i = j := h
    exact ⟨Nat.le_refl i, Nat.le_max_left ..⟩
  | set s =>
    obtain ⟨c, hc, -, rfl⟩ := h
    have hi : i < text.size := (Array.getElem?_eq_some_iff.1 hc).1
    exact ⟨Nat.le_succ i, Nat.le_trans hi (Nat.le_max_right ..)⟩
  | look l =>
    obtain ⟨-, rfl⟩ := h
    exact ⟨Nat.le_refl i, Nat.le_max_left ..⟩
  | cat a b iha ihb =>
    obtain ⟨k, ha, hb⟩ := h
    have hak := iha ha
    have hkb := ihb hb
    omega
  | alt a b iha ihb => exact h.elim iha ihb
  | «repeat» a least most lazy iha =>
    obtain ⟨n, -, -, h⟩ := h
    clear least most
    induction n generalizing i with
    | zero =>
      obtain rfl : i = j := h
      exact ⟨Nat.le_refl i, Nat.le_max_left ..⟩
    | succ n ih =>
      obtain ⟨k, hik, h⟩ := h
      have hk := iha hik
      have hj := ih h
      omega
  | group captures a iha => exact iha h

/-- The rounds after the least number, cut off at the length of the text, reach as far as all that
the greatest number allows. -/
theorem rounds_cut_iff {a : Expr} {least : Nat} {most : Option Nat} {i j : Nat} :
    (∃ k ≤ (match most with
        | some m => Nat.min (m - least) (text.size + 1)
        | none => text.size + 1), ∃ place, Rounds (a.Matches text) least i place ∧
          Rounds (a.Matches text) k place j) ↔
      ∃ n, least ≤ n ∧ (∀ m ∈ most, n ≤ max least m) ∧ Rounds (a.Matches text) n i j := by
  have hforward : ∀ i j, a.Matches text i j → i ≤ j := fun i j h => h.bounds.1
  have hspan {k i j : Nat} (h : Rounds (a.Matches text) k i j) : j - i ≤ text.size := by
    have hmatch : (Expr.repeat a k (some k) false).Matches text i j :=
      ⟨k, Nat.le_refl k, fun m hm => by cases hm; exact Nat.le_max_left .., h⟩
    have := hmatch.bounds
    omega
  constructor
  · rintro ⟨k, hk, place, hplace, h⟩
    refine ⟨least + k, Nat.le_add_right least k, fun m hm => ?_,
      Rounds.add_iff.2 ⟨place, hplace, h⟩⟩
    cases hm
    have hk : k ≤ min (m - least) (text.size + 1) := hk
    omega
  · rintro ⟨n, hleast, hmost, h⟩
    obtain ⟨extra, rfl⟩ := Nat.exists_eq_add_of_le hleast
    obtain ⟨place, hplace, h⟩ := Rounds.add_iff.1 h
    obtain ⟨k, hk, hfew, hshort⟩ := h.shorten hforward
    have hwithin := hspan h
    refine ⟨k, ?_, place, hplace, hshort⟩
    cases most with
    | none => exact Nat.le_succ_of_le (Nat.le_trans hfew hwithin)
    | some m =>
      have := hmost m rfl
      change k ≤ min (m - least) (text.size + 1)
      omega

/-- The places computed are those where a match ends that starts at one of the given places. -/
theorem mem_ends_iff {e : Expr} {starts : Places} {j : Nat} :
    j ∈ e.ends text starts ↔ ∃ i ∈ starts, e.Matches text i j := by
  induction e generalizing starts j with
  | empty => simp [ends, Matches]
  | set s =>
    simp only [ends, List.mem_filterMap, Matches]
    refine exists_congr fun i => and_congr_right fun hi => ?_
    cases text[i]? with
    | none => simp
    | some c => simp [@eq_comm _ j]
  | look l =>
    simp only [ends, List.mem_filter, Matches]
    exact ⟨fun ⟨hj, hl⟩ => ⟨j, hj, hl, rfl⟩, fun ⟨i, hi, hl, hij⟩ => hij ▸ ⟨hi, hl⟩⟩
  | cat a b iha ihb =>
    simp only [ends, ihb, iha, Matches]
    constructor
    · rintro ⟨k, ⟨i, hi, ha⟩, hb⟩
      exact ⟨i, hi, k, ha, hb⟩
    · rintro ⟨i, hi, k, ha, hb⟩
      exact ⟨k, ⟨i, hi, ha⟩, hb⟩
  | alt a b iha ihb =>
    simp only [ends, mem_mergePlaces, iha, ihb, Matches, ← exists_or, and_or_left]
  | «repeat» a least most lazy iha =>
    have hstep : ∀ places x, x ∈ a.ends text places ↔ ∃ i ∈ places, a.Matches text i x :=
      fun places x => iha
    simp only [ends, Matches]
    rw [mem_spread hstep _ (fun i hi => hi) (fun i hi hold => absurd hi hold)]
    simp only [mem_iterate hstep, ← rounds_cut_iff]
    constructor
    · rintro ⟨k, hk, place, ⟨i, hi, hplace⟩, h⟩
      exact ⟨i, hi, k, hk, place, hplace, h⟩
    · rintro ⟨i, hi, k, hk, place, hplace, h⟩
      exact ⟨k, hk, place, ⟨i, hi, hplace⟩, h⟩
  | group captures a iha => exact iha

/-! ## Matching a text as a whole -/

/-- An expression between the two ends of the text. -/
def whole (e : Expr) : Expr := .cats [.look .start, .group false e, .look .finish]

theorem holdsAt_start {i : Nat} (hi : i ≤ text.size) :
    Look.start.holdsAt text i = true ↔ i = 0 := by
  by_cases h : i = 0
  · simp [Look.holdsAt, Look.holds, h]
  · simp [Look.holdsAt, Look.holds, h]
    omega

theorem holdsAt_finish {i : Nat} : Look.finish.holdsAt text i = true ↔ text.size ≤ i := by
  simp [Look.holdsAt, Look.holds]

/-- What stands between the two ends occurs in a text if it matches all of the text. -/
theorem occursIn_whole (e : Expr) : e.whole.occursIn text = true ↔ e.Matches text 0 text.size := by
  have hoccurs : e.whole.occursIn text = true ↔
      ∃ i ≤ text.size, ∃ j, e.whole.Matches text i j := by
    rw [occursIn, Bool.not_eq_true', List.isEmpty_eq_false_iff_exists_mem]
    simp only [mem_ends_iff, List.mem_range, Nat.lt_succ_iff]
    exact ⟨fun ⟨j, i, hi, h⟩ => ⟨i, hi, j, h⟩, fun ⟨i, hi, j, h⟩ => ⟨j, i, hi, h⟩⟩
  rw [hoccurs]
  constructor
  · rintro ⟨i, hi, j, i', ⟨hstart, rfl⟩, k, he, k', ⟨hfinish, rfl⟩, rfl⟩
    obtain rfl := (holdsAt_start hi).1 hstart
    obtain rfl : k = text.size := by
      have hk : e.Matches text 0 k := he
      have := hk.bounds
      have := holdsAt_finish.1 hfinish
      omega
    exact he
  · intro h
    exact ⟨0, Nat.zero_le _, text.size, 0, ⟨(holdsAt_start (Nat.zero_le _)).2 rfl, rfl⟩,
      text.size, h, text.size, ⟨holdsAt_finish.2 (Nat.le_refl _), rfl⟩, rfl⟩

end Expr

end InstanceFilter.Pattern
