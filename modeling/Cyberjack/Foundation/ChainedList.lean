import Cyberjack.Foundation.Heap
import Mathlib.Data.Finset.Card
import Mathlib.Data.Finset.Range

namespace Cyberjack.Foundation

/-! # Chained lists

Objects that point to the next one of a list.  A segment of such a list ends with
a pointer; it is whole where that is NULL.  The loops over a list get as many
passes as there have been objects, and that is enough.
-/

variable {α A : Type}

structure Link (α : Type) where
  item : α
  next : Pointer
deriving Repr, DecidableEq

namespace Chain

/-- The pointer to a segment. -/
def first : List (Nat × α) → Pointer → Pointer
  | [], tail => tail
  | (place, _) :: _, _ => some place

def segment : List (Nat × α) → Pointer → List (Nat × Link α)
  | [], _ => []
  | (place, item) :: rest, tail => (place, ⟨item, first rest tail⟩) :: segment rest tail

theorem first_append (left right : List (Nat × α)) (tail : Pointer) :
    first (left ++ right) tail = first left (first right tail) := by
  cases left with
  | nil => rfl
  | cons head rest => rfl

theorem segment_append (left right : List (Nat × α)) (tail : Pointer) :
    segment (left ++ right) tail = segment left (first right tail) ++ segment right tail := by
  induction left with
  | nil => rfl
  | cons head rest ih => simp [segment, ih, first_append]

theorem length_segment (list : List (Nat × α)) (tail : Pointer) :
    (segment list tail).length = list.length := by
  induction list with
  | nil => rfl
  | cons head rest ih => simp [segment, ih]

theorem places_segment (list : List (Nat × α)) (tail : Pointer) :
    (segment list tail).map Prod.fst = list.map Prod.fst := by
  induction list with
  | nil => rfl
  | cons head rest ih => simp [segment, ih]

/-- Where the last object of a segment points. -/
theorem segment_concat (list : List (Nat × α)) (place : Nat) (item : α) (tail : Pointer) :
    segment (list ++ [(place, item)]) tail = segment list (some place) ++ [(place, ⟨item, tail⟩)] := by
  rw [segment_append]
  rfl

end Chain

/-! ## Loops -/

/-- More passes than there are objects. -/
def HeapM.passes {V : Type} : HeapM V Nat := fun heap => .ok (heap.next + 1, heap)

theorem Heap.Holds.length_le {V : Type} {heap : Heap V} {cells : List (Nat × V)} (holds : heap.Holds cells) :
    cells.length ≤ heap.next := by
  have inside : (cells.map Prod.fst).toFinset ⊆ Finset.range heap.next := by
    intro place member
    obtain ⟨cell, among, rfl⟩ := List.mem_map.mp (List.mem_toFinset.mp member)
    exact Finset.mem_range.mpr (holds.bounded cell among)
  have counted := Finset.card_le_card inside
  rwa [List.toFinset_card_of_nodup holds.distinct, Finset.card_range, List.length_map] at counted

theorem Triple.passes {V : Type} {cells : List (Nat × V)} :
    Triple cells HeapM.passes fun count left => left = cells ∧ cells.length < count := by
  intro frame heap start
  have enough := start.length_le
  rw [List.length_append] at enough
  exact ⟨heap.next + 1, heap, cells, rfl, start, rfl, by omega⟩

/-- No two objects of a program have one place. -/
theorem Returns.distinct {V A : Type} {before after : List (Nat × V)} {program : HeapM V A} {result : A}
    (runs : (before.map Prod.fst).Nodup → Returns before program result after) :
    Returns before program result after := by
  intro frame heap start
  have apart := start.distinct
  rw [List.map_append] at apart
  exact runs apart.of_append_left frame heap start

/-- A loop that gets enough passes. -/
theorem Returns.looped {V A : Type} {before after : List (Nat × V)} {loop : Nat → HeapM V A} {result : A}
    (runs : ∀ passes, before.length < passes → Returns before (loop passes) result after) :
    Returns before (HeapM.passes >>= loop) result after := by
  apply Triple.bind Triple.passes
  rintro passes left ⟨rfl, enough⟩
  exact runs passes enough

namespace Chain

/-- `while(!stop(p->next)) p=p->next;` -/
def walk (stop : Pointer → Bool) : Nat → Pointer → HeapM (Link α) Pointer
  | 0, _ => throw .endless
  | passes + 1, place => do
      let link ← HeapM.load place
      if stop link.next = true then pure place else walk stop passes link.next

/-- `while(p) { if (leave(p)) break; p=p->next; }`, where `leave` is told the number of the pass. -/
def search (leave : Nat → α → Bool) : Nat → Nat → Pointer → HeapM (Link α) Pointer
  | 0, _, _ => throw .endless
  | _ + 1, _, none => pure none
  | passes + 1, count, some place => do
      let link ← HeapM.load (some place)
      if leave count link.item = true then pure (some place) else search leave passes (count + 1) link.next

/-- `while(p) { next=p->next; free(p); p=next; }` -/
def free : Nat → Pointer → HeapM (Link α) Unit
  | 0, _ => throw .endless
  | _ + 1, none => pure ()
  | passes + 1, some place => do
      let link ← HeapM.load (some place)
      HeapM.delete (some place)
      free passes link.next

/-- The objects in front of the one that is found, that one, and those behind it. -/
def split (leave : Nat → α → Bool) : Nat → List (Nat × α) → Option (List (Nat × α) × (Nat × α) × List (Nat × α))
  | _, [] => none
  | count, head :: rest =>
      if leave count head.2 = true then some ([], head, rest)
      else (split leave (count + 1) rest).map fun (front, found, back) => (head :: front, found, back)

variable {list front back : List (Nat × α)} {place : Nat} {item : α} {tail : Pointer}
  {cells : List (Nat × Link α)}

theorem split_eq_some {leave : Nat → α → Bool} {found : Nat × α} : ∀ {list front : List (Nat × α)} {count : Nat},
    split leave count list = some (front, found, back) → list = front ++ found :: back := by
  intro list
  induction list with
  | nil =>
      intro front count here
      cases here
  | cons head rest ih =>
      intro front count here
      simp only [split] at here
      split at here
      · cases here
        rfl
      · obtain ⟨⟨before, other, behind⟩, there, same⟩ := Option.map_eq_some_iff.mp here
        cases same
        rw [ih there]
        rfl

/-- What is found, by the items alone. -/
def chosen (leave : Nat → α → Bool) : Nat → List α → Option α
  | _, [] => none
  | count, item :: rest => if leave count item = true then some item else chosen leave (count + 1) rest

theorem split_eq_none {leave : Nat → α → Bool} : ∀ {list : List (Nat × α)} {count : Nat},
    split leave count list = none → chosen leave count (list.map Prod.snd) = none := by
  intro list
  induction list with
  | nil =>
      intro count absent
      rfl
  | cons head rest ih =>
      intro count absent
      simp only [split] at absent
      split at absent
      · cases absent
      · rename_i other
        simp [chosen, other, ih (Option.map_eq_none_iff.mp absent)]

theorem chosen_of_split {leave : Nat → α → Bool} {found : Nat × α} : ∀ {list front : List (Nat × α)} {count : Nat},
    split leave count list = some (front, found, back) →
    chosen leave count (list.map Prod.snd) = some found.2 := by
  intro list
  induction list with
  | nil =>
      intro front count here
      cases here
  | cons head rest ih =>
      intro front count here
      simp only [split] at here
      split at here
      · rename_i leaves
        cases here
        simp [chosen, leaves]
      · rename_i other
        obtain ⟨⟨before, last, behind⟩, there, same⟩ := Option.map_eq_some_iff.mp here
        cases same
        simp [chosen, other, ih there]

theorem chosen_by {test : α → Bool} (count : Nat) (items : List α) :
    chosen (fun _ => test) count items = items.find? test := by
  induction items generalizing count with
  | nil => rfl
  | cons item rest ih => cases here : test item <;> simp [chosen, here, ih]

/-- A walk stops at the first object that points to where it is to stop. -/
theorem walk_returns {stop : Pointer → Bool} (stops : stop tail = true) : ∀ {front : List (Nat × α)} {passes : Nat},
    (∀ other ∈ (front ++ [(place, item)]).tail, stop (some other.1) = false) → front.length < passes →
    segment (front ++ [(place, item)]) tail ⊆ cells →
    Returns cells (walk stop passes (first (front ++ [(place, item)]) tail)) (some place) cells := by
  intro front
  induction front with
  | nil =>
      intro passes passing enough among
      cases passes with
      | zero => cases enough
      | succ passes =>
          refine Returns.bind (Returns.load (among (.head _))) ?_
          simp only [first, stops, if_true]
          exact Returns.pure
  | cons head rest ih =>
      intro passes passing enough among
      cases passes with
      | zero => cases enough
      | succ passes =>
          have goesOn : stop (first (rest ++ [(place, item)]) tail) = false := by
            cases rest with
            | nil => exact passing (place, item) (.head _)
            | cons next others => exact passing next (.head _)
          refine Returns.bind (Returns.load (among (.head _))) ?_
          change Returns cells (if stop (first (rest ++ [(place, item)]) tail) = true then _ else _) _ _
          rw [goesOn]
          apply ih
          · intro other member
            exact passing other (List.mem_of_mem_tail member)
          · exact Nat.lt_of_succ_lt_succ enough
          · intro cell member
            exact among (.tail _ member)

/-- A search that finds nothing ends at the end of the list. -/
theorem search_returns {leave : Nat → α → Bool} : ∀ {list : List (Nat × α)} {passes count : Nat},
    list.length < passes → segment list none ⊆ cells →
    Returns cells (search leave passes count (first list none))
      ((split leave count list).map fun parts => parts.2.1.1) cells := by
  intro list
  induction list with
  | nil =>
      intro passes count enough among
      cases passes with
      | zero => cases enough
      | succ passes => exact Returns.pure
  | cons head rest ih =>
      intro passes count enough among
      cases passes with
      | zero => cases enough
      | succ passes =>
          refine Returns.bind (Returns.load (among (.head _))) ?_
          simp only [split]
          split
          · exact Returns.pure
          · rw [Option.map_map]
            exact ih (Nat.lt_of_succ_lt_succ enough) fun cell member => among (.tail _ member)

/-- Every object of a list is freed, once. -/
theorem free_returns : ∀ {list : List (Nat × α)} {passes : Nat}, list.length < passes →
    Returns (segment list none) (free passes (first list none)) () [] := by
  intro list
  induction list with
  | nil =>
      intro passes enough
      cases passes with
      | zero => cases enough
      | succ passes => exact Returns.pure
  | cons head rest ih =>
      intro passes enough
      cases passes with
      | zero => cases enough
      | succ passes =>
          exact Returns.bind (Returns.load (.head _))
            (Returns.bind Returns.delete (ih (Nat.lt_of_succ_lt_succ enough)))

def find (leave : Nat → α → Bool) (head : Pointer) : HeapM (Link α) Pointer := do
  let passes ← HeapM.passes
  search leave passes 0 head

def freeAll (head : Pointer) : HeapM (Link α) Unit := do
  let passes ← HeapM.passes
  free passes head

theorem find_returns {leave : Nat → α → Bool} :
    Returns (segment list none) (find leave (first list none))
      ((split leave 0 list).map fun parts => parts.2.1.1) (segment list none) := by
  apply Returns.looped
  intro passes enough
  rw [length_segment] at enough
  exact search_returns enough (List.Subset.refl _)

theorem freeAll_returns : Returns (segment list none) (freeAll (first list none)) () [] := by
  apply Returns.looped
  intro passes enough
  rw [length_segment] at enough
  exact free_returns enough

/-! ## Adding and removing -/

/-- An object is put at the end of a list. -/
def append (head new : Pointer) : HeapM (Link α) Pointer :=
  match head with
  | none => pure new
  | some _ => do
      let passes ← HeapM.passes
      let last ← walk (fun next => next = none) passes head
      let link ← HeapM.load last
      HeapM.store last { link with next := new }
      pure head

/-- The list is led past an object. -/
def pass (head gone : Pointer) : HeapM (Link α) Pointer :=
  if head = none then pure none
  else if head = gone then do
    let link ← HeapM.load head
    pure link.next
  else do
    let passes ← HeapM.passes
    let before ← walk (fun next => next = gone) passes head
    let link ← HeapM.load before
    let target ← HeapM.load gone
    HeapM.store before { link with next := target.next }
    pure head

/-- An object is taken out of a list, and points nowhere. -/
def unlink (head gone : Pointer) : HeapM (Link α) Pointer := do
  let rest ← pass head gone
  let link ← HeapM.load gone
  HeapM.store gone { link with next := none }
  pure rest

theorem first_concat (front : List (Nat × α)) (last : Nat × α) :
    ∃ start ∈ (front ++ [last]).map Prod.fst, ∀ back tail, first (front ++ last :: back) tail = some start := by
  cases front with
  | nil => exact ⟨last.1, .head _, fun _ _ => rfl⟩
  | cons head rest => exact ⟨head.1, .head _, fun _ _ => rfl⟩

/-- The new object stands behind all others. -/
theorem append_returns :
    Returns ((place, ⟨item, none⟩) :: segment list none) (append (first list none) (some place))
      (first (list ++ [(place, item)]) none) (segment (list ++ [(place, item)]) none) := by
  cases List.eq_nil_or_concat' list with
  | inl empty =>
      subst empty
      exact Returns.pure
  | inr ends =>
      obtain ⟨front, ⟨q, other⟩, rfl⟩ := ends
      obtain ⟨start, -, starts⟩ := first_concat front (q, other)
      have cells : segment (front ++ [(q, other)] ++ [(place, item)]) none =
          segment front (some q) ++ [(q, ⟨other, some place⟩), (place, ⟨item, none⟩)] := by
        rw [List.append_assoc, segment_append]
        rfl
      have same : first (front ++ [(q, other)] ++ [(place, item)]) none = some start := by
        rw [List.append_assoc]
        exact starts _ none
      rw [same, cells, segment_concat, starts, append]
      apply Returns.looped
      intro passes enough
      have walked : Returns ((place, ⟨item, none⟩) :: (segment front (some q) ++ [(q, ⟨other, none⟩)]))
          (walk (fun next => next = none) passes (some start)) (some q)
          ((place, ⟨item, none⟩) :: (segment front (some q) ++ [(q, ⟨other, none⟩)])) := by
        rw [← starts [] none]
        apply walk_returns
        · rfl
        · intro earlier member
          rfl
        · simp only [List.length_cons, List.length_append, length_segment] at enough
          omega
        · rw [segment_concat]
          exact List.subset_cons_self _ _
      apply walked.bind
      apply (Returns.load (List.mem_cons_of_mem _ List.mem_concat_self)).bind
      apply (Returns.stored (List.perm_append_singleton _ (_ :: segment front (some q)))).bind
      apply Returns.ordered
      exact @List.perm_append_comm _ [_, _] _

theorem pass_returns :
    Returns (segment (front ++ (place, item) :: back) none)
      (pass (first (front ++ (place, item) :: back) none) (some place)) (first (front ++ back) none)
      ((place, ⟨item, first back none⟩) :: segment (front ++ back) none) := by
  apply Returns.distinct
  intro apart
  cases List.eq_nil_or_concat' front with
  | inl empty =>
      subst empty
      rw [List.nil_append, List.nil_append, pass, first, if_neg (Option.some_ne_none place), if_pos rfl]
      exact (Returns.load (.head _)).bind Returns.pure
  | inr ends =>
      obtain ⟨earlier, ⟨q, other⟩, rfl⟩ := ends
      obtain ⟨start, among, starts⟩ := first_concat earlier (q, other)
      have others : ∀ before ∈ (earlier ++ [(q, other)]).map Prod.fst, before ≠ place := by
        rw [places_segment, List.map_append, List.nodup_append] at apart
        intro before member
        exact apart.2.2 before member place (.head _)
      have cells : segment (earlier ++ [(q, other)] ++ (place, item) :: back) none =
          segment earlier (some q) ++ (q, ⟨other, some place⟩) :: (place, ⟨item, first back none⟩) ::
            segment back none := by
        rw [List.append_assoc, segment_append]
        rfl
      have left : segment (earlier ++ [(q, other)] ++ back) none =
          segment earlier (some q) ++ (q, ⟨other, first back none⟩) :: segment back none := by
        rw [List.append_assoc, segment_append]
        rfl
      rw [cells, left, List.append_assoc, List.append_assoc, List.singleton_append, List.singleton_append,
        starts, starts, pass, if_neg (Option.some_ne_none start),
        if_neg fun same => others start among (Option.some.inj same)]
      apply Returns.looped
      intro passes enough
      have walked : Returns (segment earlier (some q) ++ (q, ⟨other, some place⟩) ::
            (place, ⟨item, first back none⟩) :: segment back none)
          (walk (fun next => next = some place) passes (some start)) (some q)
          (segment earlier (some q) ++ (q, ⟨other, some place⟩) ::
            (place, ⟨item, first back none⟩) :: segment back none) := by
        rw [← starts [] (some place)]
        apply walk_returns
        · exact decide_eq_true rfl
        · intro before member
          apply decide_eq_false
          intro same
          exact others before.1 (List.mem_map_of_mem (List.mem_of_mem_tail member)) (Option.some.inj same)
        · simp only [List.length_append, List.length_cons, length_segment] at enough
          omega
        · rw [segment_concat]
          intro cell member
          simp only [List.mem_append, List.mem_singleton] at member
          simp only [List.mem_append, List.mem_cons]
          tauto
      apply walked.bind
      apply (Returns.load (List.mem_append_right _ (.head _))).bind
      apply (Returns.load (List.mem_append_right _ (.tail _ (.head _)))).bind
      apply (Returns.stored List.perm_middle).bind
      apply Returns.ordered
      exact (List.perm_middle.cons _).trans ((List.Perm.swap _ _ _).trans (List.perm_middle.symm.cons _))

/-- Every other object stays in the list. -/
theorem unlink_returns :
    Returns (segment (front ++ (place, item) :: back) none)
      (unlink (first (front ++ (place, item) :: back) none) (some place)) (first (front ++ back) none)
      ((place, ⟨item, none⟩) :: segment (front ++ back) none) := by
  apply pass_returns.bind
  apply (Returns.load (.head _)).bind
  exact Returns.store.bind Returns.pure

end Chain

end Cyberjack.Foundation
