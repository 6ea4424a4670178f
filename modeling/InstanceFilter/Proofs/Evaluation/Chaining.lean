/-
Chains of links, spelled out. The links of a chain may have chains of their own, and a reference is
printed with all of them in one row; but only the links that stand in its own chain are walked. So a
reference leads where its printed path does exactly when no link of its chain has a chain: then on
every source, and otherwise there is an instance in which the printed path leads to a value and the
reference to none.

The induction is over how a chain spells out its path. An instance is made for each path that has
nothing in it but what the path leads through, so that every shorter path ends at an object there.
-/
import InstanceFilter.Evaluation.Resolution
import InstanceFilter.Source.Instance
import InstanceFilter.Proofs.Value.Rendering
import Mathlib

namespace InstanceFilter

/-! ## Paths of links -/

/-- One link of a path: the name of a property and, for one of many, an index. -/
structure Link where
  name : String
  index : Option UInt64

def PropertyRef.link (ref : PropertyRef) : Link := ⟨ref.name, ref.index⟩

def Link.render (link : Link) : List Char := PropertyRef.render ⟨link.name, link.index, []⟩

/-- The value at the end of a path: each link but the last leads to an embedded object, and the last
is read there. -/
def readPath {σ : Type} [PropertySource σ] (source : σ) : List Link → Option Value
  | [] => none
  | [last] => lookUp source last.name last.index
  | link :: next :: rest => do
    let inner ← PropertySource.embedded? source link.name (link.index.map (·.toNat))
    readPath inner (next :: rest)

/-- A chain of references spells out a path: each link, and after it what its own chain spells. -/
inductive Spells : List Value → List Link → Prop
  | nil : Spells [] []
  | cons {ref : PropertyRef} {rest : List Value} {inner outer : List Link}
    (hinner : Spells ref.chain inner) (houter : Spells rest outer) :
    Spells (.property ref :: rest) (ref.link :: (inner ++ outer))

/-- The links that stand in a chain itself, without the chains that they have. -/
def ownLinks (chain : List Value) : List Link :=
  chain.filterMap fun link => link.property?.map PropertyRef.link

/-- No link of the chain has a chain of its own. -/
def Flat (chain : List Value) : Prop := ∀ ref, .property ref ∈ chain → ref.chain = []

variable {chain : List Value} {path : List Link}

/-! ## What is printed -/

theorem PropertyRef.render_eq (ref : PropertyRef) :
    ref.render = ref.link.render ++ renderChain ref.chain := by
  obtain ⟨name, index, chain⟩ := ref
  simp [PropertyRef.render, Link.render, link, renderChain]

theorem Spells.renderChain_eq (h : Spells chain path) :
    renderChain chain = (path.map Link.render).flatMap (['.'] ++ ·) := by
  induction h with
  | nil => rfl
  | cons _ _ ihinner ihouter =>
    rw [renderChain, PropertyRef.render_eq, ihinner, ihouter]
    simp

/-! ## What is walked -/

section Walk

variable {σ : Type} [PropertySource σ]

theorem Spells.walk_eq (h : Spells chain path) (source : σ) (head : PropertyRef) :
    walk source head chain = readPath source (head.link :: ownLinks chain) := by
  induction h generalizing source head with
  | nil => rfl
  | @cons ref rest _ _ _ _ _ ih =>
    have hown : ownLinks (.property ref :: rest) = ref.link :: ownLinks rest := rfl
    rw [hown, readPath]
    show (follow source head).bind (fun inner => walk inner ref rest) = _
    congr 1
    funext inner
    exact ih inner ref

end Walk

/-! ## Chains of chains -/

theorem Spells.ownLinks_eq (h : Spells chain path) (hflat : Flat chain) :
    ownLinks chain = path := by
  induction h with
  | nil => rfl
  | @cons ref rest inner outer hinner _ _ ih =>
    have hchain : ref.chain = [] := hflat ref List.mem_cons_self
    have hnone : inner = [] := by
      rw [hchain] at hinner
      cases hinner
      rfl
    have hrest := ih fun other hother => hflat other (List.mem_cons_of_mem _ hother)
    rw [hnone, List.nil_append, ← hrest]
    rfl

theorem Spells.length_ownLinks (h : Spells chain path) :
    (ownLinks chain).length = chain.length := by
  induction h with
  | nil => rfl
  | @cons ref rest _ _ _ _ _ ih => exact congrArg (· + 1) ih

theorem Spells.length_le (h : Spells chain path) : chain.length ≤ path.length := by
  induction h with
  | nil => exact Nat.le_refl 0
  | cons _ _ _ ih =>
    simp only [List.length_cons, List.length_append]
    omega

/-- A link with a chain of its own makes the path longer than the chain. -/
theorem Spells.length_lt (h : Spells chain path) (hflat : ¬ Flat chain) :
    chain.length < path.length := by
  induction h with
  | nil => exact absurd nofun hflat
  | @cons ref rest inner outer hinner houter _ ih =>
    simp only [List.length_cons, List.length_append]
    by_cases hrest : Flat rest
    · have hchain : ref.chain ≠ [] := fun hchain => hflat fun other hother => by
        rcases List.mem_cons.1 hother with hother | hother
        · cases hother
          exact hchain
        · exact hrest other hother
      have hpos := List.length_pos_of_ne_nil hchain
      have hinner := hinner.length_le
      have houter := houter.length_le
      omega
    · have := ih hrest
      omega

/-! ## An instance for a path -/

/-- The property that a link finds a content under: alone, or as the last of as many as its index
asks for. -/
def Link.holding (link : Link) (object : Instance) : Property :=
  match link.index with
  | none => .embedded object
  | some index => .embeddedArray (List.replicate (index.toNat + 1) object)

/-- An instance that has nothing but what a path leads through, and zeros at its end. -/
def instanceAlong : List Link → Instance
  | [] => .ofClass ""
  | [last] => ⟨"", [(last.name, .value <| match last.index with
    | none => .integer 0
    | some index => .array (.integer (List.replicate (index.toNat + 1) 0)))]⟩
  | link :: next :: rest => ⟨"", [(link.name, link.holding (instanceAlong (next :: rest)))]⟩

theorem find?_instanceAlong (link next : Link) (rest : List Link) (name : String) :
    (instanceAlong (link :: next :: rest)).find? name =
      if Text.sameName link.name name then some (link.holding (instanceAlong (next :: rest)))
      else none := by
  simp only [instanceAlong, Instance.find?, List.find?]
  cases Text.sameName link.name name <;> rfl

/-- What is embedded in the instance is the one for the rest of the path. -/
theorem embedded?_instanceAlong {link next : Link} {rest : List Link} {name : String}
    {index : Option Nat} {inner : Instance}
    (h : (instanceAlong (link :: next :: rest)).embedded? name index = some inner) :
    inner = instanceAlong (next :: rest) := by
  unfold Instance.embedded? at h
  rw [find?_instanceAlong, Link.holding] at h
  cases hname : Text.sameName link.name name with
  | false => simp [hname] at h
  | true =>
    cases hlink : link.index <;> cases index <;> simp [hname, hlink] at h
    · exact h.symm
    · exact (List.eq_of_mem_replicate (List.mem_of_getElem? h))

theorem embedded?_instanceAlong_self (link next : Link) (rest : List Link) :
    (instanceAlong (link :: next :: rest)).embedded? link.name (link.index.map (·.toNat)) =
      some (instanceAlong (next :: rest)) := by
  unfold Instance.embedded?
  rw [find?_instanceAlong, if_pos (Text.sameName_self _), Link.holding]
  cases link.index <;> simp

/-- The path leads to a value. -/
theorem readPath_instanceAlong (link : Link) (rest : List Link) :
    readPath (instanceAlong (link :: rest)) (link :: rest) = some (.integer 0) := by
  induction rest generalizing link with
  | nil =>
    obtain ⟨name, index⟩ := link
    cases index <;> simp [readPath, instanceAlong, lookUp, PropertySource.value?, Instance.value?,
      Instance.find?, Value.element, ArrayValue.get?, ArrayValue.elements, Except.toOption]
  | cons next rest ih =>
    rw [readPath]
    show ((instanceAlong (link :: next :: rest)).embedded? link.name _).bind _ = _
    rw [embedded?_instanceAlong_self]
    exact ih next

/-- A shorter path ends at an object, if anywhere, and leads to no value. -/
theorem readPath_instanceAlong_of_length_lt {path' : List Link} (h : path'.length < path.length) :
    readPath (instanceAlong path) path' = none := by
  induction path generalizing path' with
  | nil => cases h
  | cons link rest ih =>
    match rest, path', h with
    | _, [], _ => rfl
    | next :: rest, [last], _ =>
      have hvalue : (instanceAlong (link :: next :: rest)).value? last.name = none := by
        unfold Instance.value?
        rw [find?_instanceAlong, Link.holding]
        cases Text.sameName link.name last.name <;> cases link.index <;> rfl
      rw [readPath, lookUp]
      show ((instanceAlong (link :: next :: rest)).value? last.name).bind _ = none
      rw [hvalue]
      rfl
    | next :: rest, link' :: next' :: rest', h =>
      rw [readPath]
      show ((instanceAlong (link :: next :: rest)).embedded? link'.name _).bind _ = none
      cases hinner : (instanceAlong (link :: next :: rest)).embedded? link'.name
          (link'.index.map (·.toNat)) with
      | none => rfl
      | some inner =>
        rw [embedded?_instanceAlong hinner]
        exact ih (Nat.lt_of_succ_lt_succ h)

/-! ## References -/

theorem resolve_eq_readPath {σ : Type} [PropertySource σ] (source : σ) {ref : PropertyRef}
    (h : Spells ref.chain path) : (Value.property ref).resolve source =
      (readPath source (ref.link :: ownLinks ref.chain)).getD .null := by
  rw [← h.walk_eq]
  rfl

/-- Where a reference leads. It is printed as the path that it spells out, and it leads along the
links of its own chain, so references with the same of those lead to the same on every source. That
is along the printed path on every source if no link of the chain has a chain; if one has, the
printed path is longer, and some instance tells the two apart. -/
theorem resolve_spelled (ref : PropertyRef) (h : Spells ref.chain path) :
    ref.render = ['.'].intercalate ((ref.link :: path).map Link.render) ∧
    (∀ (σ : Type) [PropertySource σ] (source : σ), (Value.property ref).resolve source =
      (readPath source (ref.link :: ownLinks ref.chain)).getD .null) ∧
    (∀ (other : PropertyRef) (path' : List Link), Spells other.chain path' →
      other.link = ref.link → ownLinks other.chain = ownLinks ref.chain →
      ∀ (σ : Type) [PropertySource σ] (source : σ),
        (Value.property other).resolve source = (Value.property ref).resolve source) ∧
    (Flat ref.chain → ∀ (σ : Type) [PropertySource σ] (source : σ),
      (Value.property ref).resolve source = (readPath source (ref.link :: path)).getD .null) ∧
    (¬ Flat ref.chain → ∃ object : Instance,
      (Value.property ref).resolve object ≠ (readPath object (ref.link :: path)).getD .null) := by
  refine ⟨?_, fun σ _ source => resolve_eq_readPath source h, ?_, ?_, ?_⟩
  · rw [List.map_cons, intercalate_cons, ← h.renderChain_eq, PropertyRef.render_eq]
  · intro other path' h' hlink hown σ _ source
    rw [resolve_eq_readPath source h', resolve_eq_readPath source h, hlink, hown]
  · intro hflat σ _ source
    rw [resolve_eq_readPath source h, h.ownLinks_eq hflat]
  · intro hflat
    have hshorter : (ref.link :: ownLinks ref.chain).length < (ref.link :: path).length := by
      simpa [h.length_ownLinks] using h.length_lt hflat
    refine ⟨instanceAlong (ref.link :: path), ?_⟩
    rw [resolve_eq_readPath _ h, readPath_instanceAlong_of_length_lt hshorter,
      readPath_instanceAlong]
    exact nofun

/-- The second of two items, by its index. -/
theorem resolve_spelled_item :
    let items := [Instance.ofClass "Item", ⟨"Item", [("Id", .value (.integer 2))]⟩]
    let host : Instance := ⟨"Host", [("Items", .embeddedArray items)]⟩
    let ref : PropertyRef := ⟨"items", some 1, [.property (.ofName "id")]⟩
    Spells ref.chain [⟨"id", none⟩] ∧ Flat ref.chain ∧
      (Value.property ref).resolve host = .integer 2 ∧ ref.toText = "items[1].id" := by
  intro items host ref
  have hspells : Spells ref.chain [⟨"id", none⟩] := @Spells.cons (.ofName "id") [] [] [] .nil .nil
  have hflat : Flat ref.chain := fun link hlink => by
    cases List.mem_singleton.1 hlink
    rfl
  obtain ⟨hrender, -, -, hresolve, -⟩ := resolve_spelled ref hspells
  refine ⟨hspells, hflat, (hresolve hflat Instance host).trans (by cbv), ?_⟩
  rw [PropertyRef.toText, hrender]
  decide +kernel

/-- A link with a chain: the path that is printed leads to a value, and so does a reference with
the same links in one chain, but the reference leads to none. -/
theorem resolve_nested :
    let object : Instance :=
      ⟨"", [("a", .embedded ⟨"", [("b", .embedded ⟨"", [("c", .value (.integer 7))]⟩)]⟩)]⟩
    let nested : PropertyRef := ⟨"a", none, [.property ⟨"b", none, [.property (.ofName "c")]⟩]⟩
    let flat : PropertyRef := ⟨"a", none, [.property (.ofName "b"), .property (.ofName "c")]⟩
    let path : List Link := [⟨"b", none⟩, ⟨"c", none⟩]
    Spells nested.chain path ∧ Spells flat.chain path ∧
      readPath object (nested.link :: path) = some (.integer 7) ∧
      (Value.property flat).resolve object = .integer 7 ∧
      (Value.property nested).resolve object = .null := by
  intro object nested flat path
  have hlast : Spells [.property (.ofName "c")] [⟨"c", none⟩] :=
    @Spells.cons (.ofName "c") [] [] [] .nil .nil
  have hnested : Spells nested.chain path :=
    @Spells.cons ⟨"b", none, [.property (.ofName "c")]⟩ [] _ [] hlast .nil
  have hflat : Spells flat.chain path := @Spells.cons (.ofName "b") _ [] _ .nil hlast
  exact ⟨hnested, hflat, by cbv, by cbv, by cbv⟩

end InstanceFilter
