/-
# Closing a set under links

Nodes have links to other nodes. Some of the nodes do not exist: they have no links, and a link
may go to one of them. A worklist takes nodes from a set that is still to be checked, puts those
that exist into the set of the found ones, and adds what they link to to the first set if it has not
been found yet.

`close` runs it to its end. The nodes to be checked have not been found (a field of `Worklist`), so
every round finds a new node or leaves fewer to be checked. `mem_close` says what is found: the
existing nodes at the end of a path of links from one of the first.
-/
import FunPvp.Lib.OrderedSet

namespace FunPvp.Lib

/-! ## 1. Links -/

/-- The links of the nodes that exist, of which there are finitely many. -/
structure Links (α : Type*) where
  links : α → Option (List α)
  nodes : Finset α
  mem_nodes : ∀ x l, links x = some l → x ∈ nodes

namespace Links

variable {α : Type*} (g : Links α)

/-- There is a link from `x` to `y`. -/
def Linked (x y : α) : Prop := ∃ l, g.links x = some l ∧ y ∈ l

/-- The node exists, and a path goes to it from one with `P`. -/
def Reached (P : α → Prop) (x : α) : Prop :=
  (∃ l, g.links x = some l) ∧ ∃ a, P a ∧ Relation.ReflTransGen g.Linked a x

/-- A set with the existing nodes of `P` that has every existing node that one of its own links to
has all that are reached. -/
theorem Reached.mem_of_closed {g : Links α} {P Q : α → Prop} {x : α} (h : g.Reached P x)
    (hstart : ∀ a l, P a → g.links a = some l → Q a)
    (hclosed : ∀ a b l, Q a → g.Linked a b → g.links b = some l → Q b) : Q x := by
  obtain ⟨⟨l, hl⟩, a, ha, hpath⟩ := h
  induction hpath generalizing l with
  | refl => exact hstart a l ha hl
  | tail _ hlink ih =>
    obtain ⟨k, hk, hmem⟩ := hlink
    exact hclosed _ _ l (ih k hk) ⟨k, hk, hmem⟩ hl

end Links

/-! ## 2. The worklist -/

variable {α : Type*} [LinearOrder α]

/-- The nodes that are still to be checked, and the ones found so far. -/
structure Worklist (α : Type*) [LinearOrder α] where
  toCheck : OrderedSet α
  found : OrderedSet α
  fresh : ∀ x ∈ toCheck, x ∉ found

namespace Worklist

def start (s : OrderedSet α) : Worklist α := ⟨s, .empty, fun x _ => OrderedSet.not_mem_empty x⟩

/-- What a node links to, if it has not been found, is to be checked. -/
def addLinks (found toCheck : OrderedSet α) (links : List α) : OrderedSet α :=
  links.foldl (fun toCheck y => if y ∈ found then toCheck else toCheck.insert y) toCheck

@[simp] theorem mem_addLinks {found toCheck : OrderedSet α} {links : List α} {z : α} :
    z ∈ addLinks found toCheck links ↔ z ∈ toCheck ∨ z ∈ links ∧ z ∉ found := by
  induction links generalizing toCheck with
  | nil => simp [addLinks]
  | cons y links ih =>
    rw [addLinks, List.foldl_cons]
    refine ih.trans ?_
    by_cases hy : y ∈ found
    · rw [if_pos hy, List.mem_cons]
      constructor
      · rintro (h | ⟨h, hnot⟩)
        · exact Or.inl h
        · exact Or.inr ⟨Or.inr h, hnot⟩
      · rintro (h | ⟨rfl | h, hnot⟩)
        · exact Or.inl h
        · exact absurd hy hnot
        · exact Or.inr ⟨h, hnot⟩
    · rw [if_neg hy, OrderedSet.mem_insert, List.mem_cons]
      constructor
      · rintro ((rfl | h) | ⟨h, hnot⟩)
        · exact Or.inr ⟨Or.inl rfl, hy⟩
        · exact Or.inl h
        · exact Or.inr ⟨Or.inr h, hnot⟩
      · rintro (h | ⟨rfl | h, hnot⟩)
        · exact Or.inl (Or.inr h)
        · exact Or.inl (Or.inl rfl)
        · exact Or.inr ⟨h, hnot⟩

/-- The round of a node that does not exist. -/
def skip (w : Worklist α) (x : α) : Worklist α where
  toCheck := w.toCheck.erase x
  found := w.found
  fresh z hz := w.fresh z (OrderedSet.mem_of_mem_erase hz)

def take (w : Worklist α) (x : α) (links : List α) : Worklist α where
  toCheck := addLinks (w.found.insert x) (w.toCheck.erase x) links
  found := w.found.insert x
  fresh z hz := by
    rcases mem_addLinks.mp hz with hz | hz
    · obtain ⟨hne, hz⟩ := OrderedSet.mem_erase.mp hz
      intro hmem
      rcases OrderedSet.mem_insert.mp hmem with heq | hmem
      · exact hne heq
      · exact w.fresh z hz hmem
    · exact hz.2

/-- The existing nodes that have not been found. -/
def unfound (w : Worklist α) (g : Links α) : Finset α := g.nodes.filter (· ∉ w.found)

theorem unfound_take_lt {w : Worklist α} {g : Links α} {x : α} {l rest : List α}
    (h : w.toCheck.elems = x :: rest) (hl : g.links x = some l) :
    ((w.take x l).unfound g).card < (w.unfound g).card := by
  have hnot : x ∉ w.found := w.fresh x (OrderedSet.head_mem h)
  have hx : x ∈ w.unfound g := Finset.mem_filter.mpr ⟨g.mem_nodes x l hl, hnot⟩
  refine Finset.card_lt_card ((Finset.ssubset_iff_of_subset fun z hz => ?_).mpr ⟨x, hx, ?_⟩)
  · obtain ⟨hnode, hz⟩ := Finset.mem_filter.mp hz
    exact Finset.mem_filter.mpr
      ⟨hnode, fun hmem => hz (OrderedSet.mem_insert.mpr (Or.inr hmem))⟩
  · intro hmem
    exact (Finset.mem_filter.mp hmem).2 (OrderedSet.mem_insert.mpr (Or.inl rfl))

theorem size_skip_lt {w : Worklist α} {x : α} {rest : List α}
    (h : w.toCheck.elems = x :: rest) : (w.skip x).toCheck.size < w.toCheck.size := by
  have hmem := OrderedSet.head_mem h
  have hpos := OrderedSet.size_ne_zero hmem
  have hsize := OrderedSet.size_erase_of_mem hmem
  exact (congrArg (· < w.toCheck.size) hsize).mpr (Nat.sub_one_lt hpos)

/-- The rounds, until nothing is to be checked. -/
def close (g : Links α) (w : Worklist α) : OrderedSet α :=
  match _h : w.toCheck.elems with
  | [] => w.found
  | x :: _ =>
    match _hl : g.links x with
    | none => close g (w.skip x)
    | some l => close g (w.take x l)
termination_by ((w.unfound g).card, w.toCheck.size)
decreasing_by
  · exact Prod.Lex.right _ (size_skip_lt _h)
  · exact Prod.Lex.left _ _ (unfound_take_lt _h _hl)

/-! ## 3. What is found -/

/-- What holds in every round of the closing of the nodes with `P`. -/
structure Closes (g : Links α) (P : α → Prop) (w : Worklist α) : Prop where
  reached : ∀ x ∈ w.found, g.Reached P x
  paths : ∀ x ∈ w.toCheck, ∃ a, P a ∧ Relation.ReflTransGen g.Linked a x
  starts : ∀ x l, P x → g.links x = some l → x ∈ w.found ∨ x ∈ w.toCheck
  closed : ∀ x ∈ w.found, ∀ y l, g.Linked x y → g.links y = some l →
    y ∈ w.found ∨ y ∈ w.toCheck

variable {g : Links α} {P : α → Prop} {w : Worklist α} {x : α} {l rest : List α}

theorem start_closes (g : Links α) (s : OrderedSet α) : Closes g (· ∈ s) (start s) where
  reached x hx := absurd hx (OrderedSet.not_mem_empty x)
  paths x hx := ⟨x, hx, .refl⟩
  starts _ _ hx _ := Or.inr hx
  closed x hx := absurd hx (OrderedSet.not_mem_empty x)

theorem Closes.skip (hw : Closes g P w) (hx : g.links x = none) : Closes g P (w.skip x) := by
  have hkeeps (z : α) (k : List α) (hk : g.links z = some k)
      (hz : z ∈ w.found ∨ z ∈ w.toCheck) : z ∈ w.found ∨ z ∈ w.toCheck.erase x := by
    refine hz.imp_right fun hz => OrderedSet.mem_erase.mpr ⟨?_, hz⟩
    rintro rfl
    rw [hx] at hk
    cases hk
  exact
    { reached := hw.reached
      paths := fun z hz => hw.paths z (OrderedSet.mem_of_mem_erase hz)
      starts := fun z k hz hk => hkeeps z k hk (hw.starts z k hz hk)
      closed := fun z hz y k hy hk => hkeeps y k hk (hw.closed z hz y k hy hk) }

theorem Closes.take (hw : Closes g P w) (hmem : x ∈ w.toCheck) (hx : g.links x = some l) :
    Closes g P (w.take x l) := by
  obtain ⟨a, ha, hpath⟩ := hw.paths x hmem
  have hkeeps (z : α) (hz : z ∈ w.found ∨ z ∈ w.toCheck) :
      z ∈ w.found.insert x ∨ z ∈ addLinks (w.found.insert x) (w.toCheck.erase x) l := by
    by_cases hzx : z = x
    · exact Or.inl (OrderedSet.mem_insert.mpr (Or.inl hzx))
    · rcases hz with hz | hz
      · exact Or.inl (OrderedSet.mem_insert.mpr (Or.inr hz))
      · exact Or.inr (mem_addLinks.mpr (Or.inl (OrderedSet.mem_erase.mpr ⟨hzx, hz⟩)))
  constructor
  · intro z hz
    rcases OrderedSet.mem_insert.mp hz with rfl | hz
    · exact ⟨⟨l, hx⟩, a, ha, hpath⟩
    · exact hw.reached z hz
  · intro z hz
    rcases mem_addLinks.mp hz with hz | ⟨hz, _⟩
    · exact hw.paths z (OrderedSet.mem_of_mem_erase hz)
    · exact ⟨a, ha, hpath.tail ⟨l, hx, hz⟩⟩
  · intro z k hz hk
    exact hkeeps z (hw.starts z k hz hk)
  · intro z hz y k hlink hk
    rcases OrderedSet.mem_insert.mp hz with rfl | hz
    · obtain ⟨l', hl', hy⟩ := hlink
      obtain rfl : l = l' := Option.some.inj (hx.symm.trans hl')
      by_cases hfound : y ∈ w.found.insert z
      · exact Or.inl hfound
      · exact Or.inr (mem_addLinks.mpr (Or.inr ⟨hy, hfound⟩))
    · exact hkeeps y (hw.closed z hz y k hlink hk)

theorem Closes.mem_close (hw : Closes g P w) (z : α) : z ∈ close g w ↔ g.Reached P z := by
  fun_induction close g w with
  | case1 w h =>
    have hnone (y : α) (hy : y ∈ w.found ∨ y ∈ w.toCheck) : y ∈ w.found := by
      rcases hy with hy | hy
      · exact hy
      · rw [OrderedSet.mem_def, h] at hy
        cases hy
    refine ⟨hw.reached z, fun hz => hz.mem_of_closed ?_ ?_⟩
    · intro a l ha hl
      exact hnone a (hw.starts a l ha hl)
    · intro a b l ha hlink hl
      exact hnone b (hw.closed a ha b l hlink hl)
  | case2 w x rest h hl ih => exact ih (hw.skip hl)
  | case3 w x rest h l hl ih => exact ih (hw.take (OrderedSet.head_mem h) hl)

/-- **What is found**: the existing nodes at the end of a path from one of the first. -/
theorem mem_close (g : Links α) (s : OrderedSet α) (z : α) :
    z ∈ close g (start s) ↔ g.Reached (· ∈ s) z :=
  (start_closes g s).mem_close z

end Worklist

end FunPvp.Lib
