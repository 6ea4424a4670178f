/-
Texts in double quotes are read in one way only. Between the quotes no text of a character is the
beginning of another, and none begins with a quote, so where a quoted text ends is seen from the
text itself, whatever stands after it.
-/
import Mathlib.Data.List.Basic
import InstanceFilter.Text.Quoted

namespace InstanceFilter.Text

variable {c d : Char} {a b s t u v : List Char} {m n : Nat}

/-- Texts without a stop are told apart by where the first stop stands. -/
theorem append_inj_of_stop (stop : Char → Prop) (hu : ∀ c ∈ u, ¬ stop c) (hv : ∀ c ∈ v, ¬ stop c)
    (hc : stop c) (hd : stop d) (h : u ++ c :: s = v ++ d :: t) : u = v ∧ c :: s = d :: t := by
  induction u generalizing v with
  | nil =>
    cases v with
    | nil => exact ⟨rfl, h⟩
    | cons e v => exact absurd (List.head_eq_of_cons_eq h ▸ hc) (hv e List.mem_cons_self)
  | cons e u ih =>
    cases v with
    | nil => exact absurd (List.head_eq_of_cons_eq h ▸ hd) (hu e List.mem_cons_self)
    | cons e' v =>
      obtain ⟨rfl, hrest⟩ := List.cons.inj h
      obtain ⟨rfl, hend⟩ := ih (List.forall_mem_of_forall_mem_cons hu)
        (List.forall_mem_of_forall_mem_cons hv) hrest
      exact ⟨rfl, hend⟩

/-! ## Hexadecimal digits -/

theorem digitChar_inj (hm : m < 16) (hn : n < 16) (h : m.digitChar = n.digitChar) : m = n := by
  have hall : ∀ m < 16, ∀ n < 16, m.digitChar = n.digitChar → m = n := by decide
  exact hall m hm n hn h

theorem hex_inj (h : Nat.toDigits 16 m = Nat.toDigits 16 n) : m = n := by
  -- a number of one digit is not one of several, which end in their last and begin with the others
  have hshort {m n : Nat} : [m.digitChar] ≠ Nat.toDigits 16 (n / 16) ++ [(n % 16).digitChar] := by
    intro h
    have hlength := congrArg List.length h
    have := @Nat.length_toDigits_pos 16 (n / 16)
    simp only [List.length_append, List.length_singleton] at hlength
    omega
  induction m using Nat.strongRecOn generalizing n with
  | ind m ih =>
    rw [Nat.toDigits_eq_if (by decide), Nat.toDigits_eq_if (n := n) (by decide)] at h
    split at h
    · next hm =>
      split at h
      · next hn => exact digitChar_inj hm hn (List.head_eq_of_cons_eq h)
      · exact absurd h hshort
    · next hm =>
      split at h
      · exact absurd h.symm hshort
      · obtain ⟨hinit, hlast⟩ := List.append_inj' h rfl
        have hdiv : m / 16 = n / 16 := ih (m / 16) (by omega) hinit
        have hmod : m % 16 = n % 16 :=
          digitChar_inj (Nat.mod_lt _ (by decide)) (Nat.mod_lt _ (by decide))
            (List.head_eq_of_cons_eq hlast)
        omega

theorem exists_digitChar_of_mem_toDigits (h : c ∈ Nat.toDigits 16 n) : 
    ∃ d : Nat, d.digitChar = c := by
  induction n using Nat.strongRecOn with
  | ind n ih =>
    rw [Nat.toDigits_eq_if (by decide)] at h
    split at h
    · exact ⟨n, (List.mem_singleton.1 h).symm⟩
    · rcases List.mem_append.1 h with h | h
      · exact ih (n / 16) (by omega) h
      · exact ⟨n % 16, (List.mem_singleton.1 h).symm⟩

/-- The brace that ends a code point is no digit of it. -/
theorem ne_brace_of_mem_hex (n : Nat) : ∀ c ∈ Nat.toDigits 16 n, c ≠ '\x7d' := by
  rintro _ h rfl
  obtain ⟨d, hd⟩ := exists_digitChar_of_mem_toDigits h
  exact Nat.digitChar_ne '\x7d' rfl hd

/-! ## One character -/

/-- What a mark stands for after a backslash. -/
def marked? : Char → Option Char
  | '"' => some '"'
  | '\\' => some '\\'
  | 'n' => some '\n'
  | 'r' => some '\r'
  | 't' => some '\t'
  | '0' => some '\x00'
  | _ => none

/-- The forms that a character can have between quotes. -/
inductive Escapes : Char → List Char → Prop where
  | plain {c : Char} (hquote : c ≠ '"') (hslash : c ≠ '\\') : Escapes c [c]
  | marked {c mark : Char} (h : marked? mark = some c) : Escapes c ['\\', mark]
  | coded (c : Char) : Escapes c ('\\' :: 'u' :: '\x7b' :: (Nat.toDigits 16 c.toNat ++ ['\x7d']))

theorem escapes_escapeChar (c : Char) : Escapes c (escapeChar c) := by
  unfold escapeChar
  split_ifs with hquote hslash hline hreturn htab hzero hinkless
  · exact .marked (congrArg some hquote.symm)
  · exact .marked (congrArg some hslash.symm)
  · exact .marked (congrArg some hline.symm)
  · exact .marked (congrArg some hreturn.symm)
  · exact .marked (congrArg some htab.symm)
  · exact .marked (congrArg some hzero.symm)
  · exact .coded c
  · exact .plain hquote hslash

/-- A character begins with no quote, so it is not taken for the end of the text. -/
theorem Escapes.ne_quote (h : Escapes c u) : u ++ s ≠ '"' :: t := by
  cases h with
  | plain hquote hslash => exact fun heq => hquote (List.head_eq_of_cons_eq heq)
  | marked h => exact fun heq => absurd (List.head_eq_of_cons_eq heq) (by decide)
  | coded => exact fun heq => absurd (List.head_eq_of_cons_eq heq) (by decide)

/-- Two texts that begin with a character each begin with the same one. -/
theorem Escapes.append_inj (hc : Escapes c u) (hd : Escapes d v) (h : u ++ s = v ++ t) :
    c = d ∧ s = t := by
  cases hc with
  | plain hquote hslash =>
    cases hd with
    | plain =>
      cases h
      exact ⟨rfl, rfl⟩
    | marked | coded => exact absurd (List.head_eq_of_cons_eq h) hslash
  | @marked mark hmark =>
    cases hd with
    | plain hquote hslash => exact absurd (List.head_eq_of_cons_eq h).symm hslash
    | marked hmark' =>
      cases h
      exact ⟨Option.some.inj (hmark.symm.trans hmark'), rfl⟩
    | coded =>
      have hu : mark = 'u' := List.head_eq_of_cons_eq (List.tail_eq_of_cons_eq h)
      rw [hu] at hmark
      cases hmark
  | coded =>
    cases hd with
    | plain hquote hslash => exact absurd (List.head_eq_of_cons_eq h).symm hslash
    | @marked mark hmark =>
      have hu : 'u' = mark := List.head_eq_of_cons_eq (List.tail_eq_of_cons_eq h)
      rw [← hu] at hmark
      cases hmark
    | coded =>
      simp only [List.cons_append, List.append_assoc, List.cons.injEq, true_and,
        List.nil_append] at h
      obtain ⟨hdigits, hrest⟩ := append_inj_of_stop (· = '\x7d')
        (ne_brace_of_mem_hex _) (ne_brace_of_mem_hex _) rfl rfl h
      exact ⟨Char.toNat_inj.1 (hex_inj hdigits), List.tail_eq_of_cons_eq hrest⟩

/-! ## The whole text -/

theorem flatMap_escapeChar_inj
    (h : a.flatMap escapeChar ++ '"' :: s = b.flatMap escapeChar ++ '"' :: t) : a = b ∧ s = t := by
  induction a generalizing b with
  | nil =>
    cases b with
    | nil => exact ⟨rfl, List.tail_eq_of_cons_eq h⟩
    | cons d b =>
      rw [List.flatMap_cons, List.append_assoc] at h
      exact absurd h.symm (escapes_escapeChar d).ne_quote
  | cons c a ih =>
    rw [List.flatMap_cons, List.append_assoc] at h
    cases b with
    | nil => exact absurd h (escapes_escapeChar c).ne_quote
    | cons d b =>
      rw [List.flatMap_cons, List.append_assoc] at h
      obtain ⟨rfl, hrest⟩ := (escapes_escapeChar c).append_inj (escapes_escapeChar d) h
      obtain ⟨rfl, hend⟩ := ih hrest
      exact ⟨rfl, hend⟩

theorem quote_append_inj (h : quote a ++ s = quote b ++ t) : a = b ∧ s = t := by
  simp only [quote, List.cons_append, List.append_assoc, List.nil_append, List.cons.injEq,
    true_and] at h
  exact flatMap_escapeChar_inj h

end InstanceFilter.Text
