/-
Reading the parts of a text. A separator is found where it stands when the text before it does not
hold it, and where it is found nothing before it was one. So a host is read up to a slash, a
namespace up to a colon that no point precedes, and the bindings one after the other.
-/
import InstanceFilter.Proofs.ObjectPath.Nesting
import InstanceFilter.Proofs.ObjectPath.Values

namespace InstanceFilter.ObjectPath

/-! ## The first separator -/

theorem splitFirst?_append {c : Char} {before : List Char} (h : c ∉ before) (text : List Char) :
    splitFirst? c (before ++ text) =
      (splitFirst? c text).map fun r => (before ++ r.1, r.2) := by
  induction before with
  | nil => simp
  | cons d before ih =>
    obtain ⟨hd, hb⟩ := not_or.1 (mt List.mem_cons.2 h)
    rw [List.cons_append, splitFirst?, if_neg (Ne.symm hd), ih hb, Option.map_map]
    rfl

theorem splitFirst?_cons_self (c : Char) (text : List Char) :
    splitFirst? c (c :: text) = some ([], text) :=
  if_pos rfl

/-- A separator that a text does not hold is found where it stands after that text. -/
theorem splitFirst?_at {c : Char} {before : List Char} (h : c ∉ before) (after : List Char) :
    splitFirst? c (before ++ c :: after) = some (before, after) := by
  rw [splitFirst?_append h, splitFirst?_cons_self, Option.map_some, List.append_nil]

theorem splitFirst?_of_not_mem {c : Char} {text : List Char} (h : c ∉ text) :
    splitFirst? c text = none := by
  have := splitFirst?_append h []
  rwa [List.append_nil] at this

theorem eq_of_splitFirst? {c : Char} {text before after : List Char}
    (h : splitFirst? c text = some (before, after)) :
    text = before ++ c :: after ∧ c ∉ before := by
  fun_induction splitFirst? c text generalizing before after with
  | case1 => cases h
  | case2 rest =>
    cases h
    exact ⟨rfl, List.not_mem_nil⟩
  | case3 x rest hx ih =>
    obtain ⟨⟨before', after'⟩, hr, heq⟩ := Option.map_eq_some_iff.1 h
    cases heq
    obtain ⟨rfl, hmem⟩ := ih hr
    refine ⟨rfl, fun hc => ?_⟩
    rcases List.mem_cons.1 hc with hc | hc
    · exact hx hc.symm
    · exact hmem hc

/-! ## Bindings -/

theorem readBindings_last {text : List Char} {b : RawBinding}
    (h : readBinding text = .ok (b, [])) : readBindings text = .ok [b] := by
  rw [readBindings]
  split
  · next he => rw [h] at he; cases he
  · next he => rw [h] at he; cases he; rfl
  · next he => rw [h] at he; cases he

theorem readBindings_comma {text rest : List Char} {b : RawBinding}
    (h : readBinding text = .ok (b, ',' :: rest)) :
    readBindings text = (readBindings rest).map (b :: ·) := by
  rw [readBindings]
  split
  · next he => rw [h] at he; cases he
  · next he => rw [h] at he; cases he
  · next he =>
    rw [h] at he
    cases he
    exact if_pos rfl

/-! ## The parts before the bindings -/

def hostText : Option String → List Char
  | some host => '/' :: '/' :: (host.toList ++ ['/'])
  | none => []

theorem readHost_hostText {host : String} (h : '/' ∉ host.toList) (rest : List Char) :
    readHost (hostText (some host) ++ rest) = .ok (some host, rest) := by
  have hsplit := splitFirst?_at h rest
  simp [hostText, readHost, hsplit]

theorem namespace?_of_unrooted {space : String} (hne : space.toList ≠ [])
    (h : space.toList.head? ≠ some '/') : namespace? space = some space := by
  unfold namespace?
  obtain ⟨c, rest, hspace⟩ := List.exists_cons_of_ne_nil hne
  have hc : c ≠ '/' := fun hc => h (by rw [hspace, hc]; rfl)
  have hdrop : space.toList.dropWhile (· == '/') = c :: rest := by simp [hspace, hc]
  rw [hdrop]
  show some (String.ofList (c :: rest)) = some space
  rw [← hspace, String.ofList_toList]

/-- A namespace is what is left of a text without its leading slashes, if anything is. -/
theorem of_namespace? {text : List Char} {space : String}
    (h : namespace? (String.ofList text) = some space) :
    space.toList ≠ [] ∧ space.toList.head? ≠ some '/' ∧ space.toList <:+ text := by
  unfold namespace? at h
  rw [String.toList_ofList] at h
  split at h
  · cases h
  · next hne =>
    cases h
    rw [String.toList_ofList]
    refine ⟨hne, fun hhead => ?_, List.dropWhile_suffix _⟩
    have := List.head?_dropWhile_not (· == '/') text
    rw [hhead] at this
    exact absurd this (by decide)

/-- A namespace is read where it ends, whatever comes after its colon. -/
theorem readNamespace_at {space : List Char} (hcolon : ':' ∉ space) (hpoint : '.' ∉ space)
    (rest : List Char) :
    readNamespace (space ++ ':' :: rest) = (namespace? (String.ofList space), rest) := by
  simp [readNamespace, splitFirst?_at hcolon, hpoint]

/-- A point before the first colon leaves no namespace. -/
theorem readNamespace_of_point {before : List Char} (h : ':' ∉ before) (after : List Char) :
    readNamespace (before ++ '.' :: after) = (none, before ++ '.' :: after) := by
  -- the colon found, if there is one, stands behind the point: what is before it holds the point
  have hbefore : ':' ∉ before ++ ['.'] := by simp [h]
  have hsplit := splitFirst?_append hbefore after
  rw [List.append_assoc, List.singleton_append] at hsplit
  unfold readNamespace
  rw [hsplit]
  cases splitFirst? ':' after <;> simp

theorem readNamespace_of_not_mem {text : List Char} (h : ':' ∉ text) :
    readNamespace text = (none, text) := by
  rw [readNamespace, splitFirst?_of_not_mem h]

theorem readOutline_of_ends {text : List Char} (hne : text ≠ [])
    (hhead : ∀ c ∈ text.head?, Text.isBlank c = false)
    (hlast : ∀ c ∈ text.getLast?, Text.isBlank c = false) :
    readOutline text = (readHost text).bind fun (host, rest) => readAfterHost host rest := by
  unfold readOutline
  rw [Text.trim_of_ends hhead hlast]
  split
  · exact absurd rfl hne
  · rfl

end InstanceFilter.ObjectPath
