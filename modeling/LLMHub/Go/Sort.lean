import Mathlib.Data.List.Sort
import Mathlib.Data.List.TakeWhile

namespace Go

variable {α : Type*} {less : α → α → Bool}

/-- `sort.SliceStable`. -/
def sortStable (less : α → α → Bool) (l : List α) : List α := l.insertionSort fun a b => !less b a

/-- A comparison that orders the entries of a list consistently. -/
structure StrictWeakOn (less : α → α → Bool) (l : List α) : Prop where
  irrefl : ∀ a ∈ l, less a a = false
  trans : ∀ a ∈ l, ∀ b ∈ l, ∀ c ∈ l, less a b = true → less b c = true → less a c = true
  incomparable_trans : ∀ a ∈ l, ∀ b ∈ l, ∀ c ∈ l, less a b = false → less b a = false → less b c = false →
    less c b = false → less a c = false ∧ less c a = false

theorem StrictWeakOn.of_subset {l part : List α} (weak : StrictWeakOn less l) (sub : part ⊆ l) : StrictWeakOn less part where
  irrefl a inside := weak.irrefl a (sub inside)
  trans a one b two c three := weak.trans a (sub one) b (sub two) c (sub three)
  incomparable_trans a one b two c three := weak.incomparable_trans a (sub one) b (sub two) c (sub three)

/-- What precedes one of two incomparable entries precedes the other. -/
theorem StrictWeakOn.less_iff {l : List α} (weak : StrictWeakOn less l) {a b c : α} (one : a ∈ l) (two : b ∈ l)
    (three : c ∈ l) (first : less a b = false) (second : less b a = false) : less c a = less c b := by
  have below : ∀ {x y : α}, x ∈ l → y ∈ l → less x y = false → less y x = false → less c x = true → less c y = true := by
    intro x y inside inside' xy yx cx
    by_contra cy
    rw [Bool.not_eq_true] at cy
    cases yc : less y c with
    | true => exact absurd (weak.trans y inside' c three x inside yc cx) (by simp [yx])
    | false =>
      have apart := (weak.incomparable_trans c three y inside' x inside cy yc yx xy).1
      exact absurd cx (by simp [apart])
  rw [Bool.eq_iff_iff]
  exact ⟨below one two first second, below two one second first⟩

theorem takeWhile_congr {p q : α → Bool} {l : List α} (same : ∀ a ∈ l, p a = q a) : l.takeWhile p = l.takeWhile q := by
  induction l with
  | nil => rfl
  | cons a l ih =>
    obtain ⟨first, rest⟩ := List.forall_mem_cons.mp same
    rw [List.takeWhile_cons, List.takeWhile_cons, first, ih rest]

theorem sortStable_perm (l : List α) : (sortStable less l).Perm l := List.perm_insertionSort _ l

/-- Of two incomparable entries the one that is loaded first comes first. -/
theorem sortStable_incomparable {a b : α} {l : List α} (weak : StrictWeakOn less (a :: b :: l))
    (first : less a b = false) (second : less b a = false) :
    sortStable less (a :: b :: l) = (sortStable less l).takeWhile (less · a) ++
      a :: b :: (sortStable less l).dropWhile (less · b) := by
  have inside : ∀ c ∈ sortStable less l, c ∈ a :: b :: l := fun c member =>
    List.mem_cons_of_mem _ (List.mem_cons_of_mem _ ((sortStable_perm l).subset member))
  have same : ∀ c ∈ sortStable less l, less c a = less c b := fun c member =>
    weak.less_iff List.mem_cons_self (List.mem_cons_of_mem _ List.mem_cons_self) (inside c member) first second
  have inserted : ∀ (c : α) (rest : List α), rest.orderedInsert (fun a b => !less b a) c =
      rest.takeWhile (less · c) ++ c :: rest.dropWhile (less · c) := by
    intro c rest
    rw [List.orderedInsert_eq_take_drop]
    simp
  have before : ∀ c ∈ (sortStable less l).takeWhile (less · b), less c a = true := fun c member => by
    rw [same c (List.takeWhile_sublist _ |>.subset member)]
    exact List.mem_takeWhile_imp (p := (less · b)) member
  have agree : (sortStable less l).takeWhile (less · b) = (sortStable less l).takeWhile (less · a) :=
    takeWhile_congr fun c member => (same c member).symm
  change ((sortStable less l).orderedInsert (fun a b => !less b a) b).orderedInsert (fun a b => !less b a) a = _
  rw [inserted b, inserted a, List.takeWhile_append_of_pos before, List.dropWhile_append_of_pos before,
    List.takeWhile_cons_of_neg (by simp [second]), List.dropWhile_cons_of_neg (by simp [second]), List.append_nil, agree]

/-- The sorted entries are in order. -/
theorem sortStable_pairwise {l : List α} (weak : StrictWeakOn less l) :
    (sortStable less l).Pairwise fun a b => less b a = false := by
  let order (a b : { a // a ∈ l }) : Prop := (!less b a) = true
  have total : Std.Total order := ⟨fun a b => by
    by_contra both
    simp only [order, not_or, Bool.not_eq_true', Bool.not_eq_false] at both
    exact absurd (weak.trans b b.2 a a.2 b b.2 both.1 both.2) (by simp [weak.irrefl b b.2])⟩
  have trans : IsTrans { a // a ∈ l } order := ⟨fun a b c ab bc => by
    simp only [order, Bool.not_eq_true'] at ab bc ⊢
    by_contra ca
    rw [Bool.not_eq_false] at ca
    cases cb : less b c with
    | true => exact absurd (weak.trans b b.2 c c.2 a a.2 cb ca) (by simp [ab])
    | false =>
      cases ba : less a b with
      | true => exact absurd (weak.trans c c.2 a a.2 b b.2 ca ba) (by simp [bc])
      | false => exact absurd ca (by simp [(weak.incomparable_trans a a.2 b b.2 c c.2 ba ab cb bc).2])⟩
  have sorted := List.pairwise_insertionSort order l.attach
  have same : (l.attach.insertionSort order).map Subtype.val = sortStable less l := by
    rw [sortStable, List.map_insertionSort order (fun a b => (!less b a) = true) _ _ fun a _ b _ => Iff.rfl,
      List.attach_map_subtype_val]
  rw [← same, List.pairwise_map]
  exact sorted.imp fun inOrder => by simpa [order] using inOrder

/-- A stable sort forgets the order in which the entries were loaded iff it can
tell any two of them apart. -/
theorem sortStable_invariant_iff {l : List α} (weak : StrictWeakOn less l) :
    (∀ loaded, loaded.Perm l → sortStable less loaded = sortStable less l) ↔
      ∀ a ∈ l, ∀ b ∈ l, a ≠ b → less a b = true ∨ less b a = true := by
  constructor
  · intro invariant a one b two different
    by_contra apart
    rw [not_or, Bool.not_eq_true, Bool.not_eq_true] at apart
    obtain ⟨front, back, rfl⟩ := List.mem_iff_append.mp one
    have remaining : b ∈ front ++ back := by
      rw [List.mem_append, List.mem_cons] at two
      rw [List.mem_append]
      exact two.imp_right fun later => later.resolve_left (Ne.symm different)
    obtain ⟨start, rest, split⟩ := List.mem_iff_append.mp remaining
    have middle : (a :: b :: (start ++ rest)).Perm (front ++ a :: back) := by
      refine List.Perm.trans ?_ List.perm_middle.symm
      rw [split]
      exact List.perm_middle.symm.cons a
    have swapped : (b :: a :: (start ++ rest)).Perm (front ++ a :: back) := (List.Perm.swap a b _).trans middle
    have same := (invariant _ middle).trans (invariant _ swapped).symm
    have rested : ∀ c ∈ sortStable less (start ++ rest), c ∈ front ++ a :: back := fun c member =>
      middle.subset (List.mem_cons_of_mem _ (List.mem_cons_of_mem _ ((sortStable_perm _).subset member)))
    rw [sortStable_incomparable (weak.of_subset middle.subset) apart.1 apart.2,
      sortStable_incomparable (weak.of_subset swapped.subset) apart.2 apart.1,
      takeWhile_congr fun c member => weak.less_iff one two (rested c member) apart.1 apart.2] at same
    exact different (List.head_eq_of_cons_eq (List.append_cancel_left same))
  · intro apart loaded order
    have here := sortStable_pairwise (weak.of_subset order.subset)
    have there := sortStable_pairwise weak
    refine ((sortStable_perm loaded).trans (order.trans (sortStable_perm l).symm)).eq_of_pairwise ?_ here there
    intro a b first second ab ba
    by_contra different
    have inside := order.subset ((sortStable_perm loaded).subset first)
    rcases apart a inside b ((sortStable_perm l).subset second) different with less | less
    · exact absurd less (by simp [ba])
    · exact absurd less (by simp [ab])

end Go
