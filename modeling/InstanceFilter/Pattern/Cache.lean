/-
Patterns that have been compiled, each under its text. A cache holds nothing but what its patterns
compile to under its limits, so a text is like a pattern by the cache exactly when it is like the
pattern compiled afresh.
-/
import InstanceFilter.Pattern.Like

namespace InstanceFilter.Pattern

/-- Compiled patterns under one size limit and one treatment of case. -/
structure Cache (limit : Nat) (caseInsensitive : Bool) where
  entries : List (String × Expr)
  compiled : ∀ entry ∈ entries,
    compileWithin? limit caseInsensitive entry.1.toList = some entry.2

namespace Cache

variable {limit : Nat} {caseInsensitive : Bool}

def empty : Cache limit caseInsensitive := ⟨[], by simp⟩

def find? (cache : Cache limit caseInsensitive) (pattern : String) : Option Expr :=
  (cache.entries.find? (·.1 == pattern)).map (·.2)

def insert (cache : Cache limit caseInsensitive) (pattern : String) (e : Expr)
    (h : compileWithin? limit caseInsensitive pattern.toList = some e) :
    Cache limit caseInsensitive :=
  ⟨(pattern, e) :: cache.entries, List.forall_mem_cons.2 ⟨h, cache.compiled⟩⟩

/-- Whether a text is like a pattern, and the cache with that pattern in it; nothing if the pattern
cannot be compiled. -/
def like? (cache : Cache limit caseInsensitive) (pattern text : String) :
    Option (Bool × Cache limit caseInsensitive) :=
  match cache.find? pattern with
  | some e => some (e.occursIn text.toList.toArray, cache)
  | none =>
    match h : compileWithin? limit caseInsensitive pattern.toList with
    | some e => some (e.occursIn text.toList.toArray, cache.insert pattern e h)
    | none => none

theorem compileWithin?_of_find? {cache : Cache limit caseInsensitive} {pattern : String} {e : Expr}
    (h : cache.find? pattern = some e) :
    compileWithin? limit caseInsensitive pattern.toList = some e := by
  unfold find? at h
  obtain ⟨entry, hentry, rfl⟩ := Option.map_eq_some_iff.1 h
  have hname : entry.1 = pattern := by simpa using List.find?_some hentry
  rw [← hname]
  exact cache.compiled entry (List.mem_of_find?_eq_some hentry)

/-- A cache answers as a pattern compiled afresh does. -/
theorem map_like? (cache : Cache limit caseInsensitive) (pattern text : String) :
    (cache.like? pattern text).map Prod.fst = Pattern.like? limit caseInsensitive pattern text := by
  unfold like? Pattern.like?
  split
  · next e he => rw [compileWithin?_of_find? he]; rfl
  · split
    · next e he => simp only [he, Option.map_some]
    · next he => simp only [he, Option.map_none]

end Cache

end InstanceFilter.Pattern
