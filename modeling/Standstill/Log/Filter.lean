import Standstill.Log.Directive

/-!
# Which lines of a log are kept

A filter is a list of directives. Of those that speak of an event's origin,
the one that singles out most decides, and of equals the last; without one
nothing is kept. A filter is written as its directives with commas between
them.

Results:
* `mem_of_decisive`, `speaksOf_of_decisive`, `weight_le_of_decisive`: the
  directive that decides belongs to the filter, speaks of the origin, and none
  that does outweighs it.
* `keeps_of_rank_le`: a filter keeps a line that is at least as severe as one
  it keeps of the same origin.
* `keeps_usual`: the usual filter looks at the level alone.
-/
namespace Standstill

structure LogFilter where
  directives : List Directive
deriving Repr, DecidableEq

/-- The directive with the most weight, and of equals the last. -/
def heaviest? : List Directive → Option Directive
  | [] => none
  | d :: later =>
    match heaviest? later with
    | none => some d
    | some e => some (if e.weight < d.weight then d else e)

theorem mem_of_heaviest {ds : List Directive} {d : Directive} (h : heaviest? ds = some d) :
    d ∈ ds := by
  induction ds generalizing d with
  | nil => cases h
  | cons a later ih =>
    simp only [heaviest?] at h
    split at h
    · cases h; exact List.mem_cons_self ..
    case h_2 e he =>
      cases h
      split
      · exact List.mem_cons_self ..
      · exact List.mem_cons_of_mem _ (ih he)

theorem heaviest_eq_none_iff {ds : List Directive} : heaviest? ds = none ↔ ds = [] := by
  cases ds with
  | nil => simp [heaviest?]
  | cons a later => simp only [heaviest?]; split <;> simp

theorem weight_le_of_heaviest {ds : List Directive} {d : Directive} (h : heaviest? ds = some d) :
    ∀ e ∈ ds, e.weight ≤ d.weight := by
  induction ds generalizing d with
  | nil => cases h
  | cons a later ih =>
    simp only [heaviest?] at h
    split at h
    case h_1 hn =>
      cases h
      simp [heaviest_eq_none_iff.1 hn]
    case h_2 f hf =>
      have hl := ih hf
      cases h
      intro e he
      rcases List.mem_cons.1 he with rfl | he
      · split <;> omega
      · have := hl e he
        split <;> omega

namespace LogFilter

/-- The directive that decides about the lines of an origin. -/
def decisive? (f : LogFilter) (o : Origin) : Option Directive :=
  heaviest? (f.directives.filter (·.speaksOf o))

/-- Whether a line of a level is kept. -/
def keeps (f : LogFilter) (o : Origin) (level : Level) : Bool :=
  match f.decisive? o with
  | none => false
  | some d => d.threshold.admits level

/-- The filter that is used unless another one is asked for. -/
def usual (debug : Bool) : LogFilter :=
  ⟨[⟨[], .every, .least (if debug then .debug else .info)⟩]⟩

/-- The filter that a text stands for, unless a part of it is no directive. -/
def ofText (s : String) : Except Directive.Fault LogFilter :=
  (((s.splitOn ",").filter (· ≠ "")).mapM fun part => Directive.ofText part.toList).map mk

theorem mem_of_decisive {f : LogFilter} {o : Origin} {d : Directive}
    (h : f.decisive? o = some d) : d ∈ f.directives :=
  (List.mem_filter.1 (mem_of_heaviest h)).1

theorem speaksOf_of_decisive {f : LogFilter} {o : Origin} {d : Directive}
    (h : f.decisive? o = some d) : d.speaksOf o = true :=
  (List.mem_filter.1 (mem_of_heaviest h)).2

theorem weight_le_of_decisive {f : LogFilter} {o : Origin} {d e : Directive}
    (h : f.decisive? o = some d) (he : e ∈ f.directives) (ho : e.speaksOf o = true) :
    e.weight ≤ d.weight :=
  weight_le_of_heaviest h e (List.mem_filter.2 ⟨he, ho⟩)

theorem keeps_of_rank_le {f : LogFilter} {o : Origin} {k l : Level} (h : f.keeps o k = true)
    (hr : k.rank ≤ l.rank) : f.keeps o l = true := by
  unfold keeps at h ⊢
  split at h
  · cases h
  · exact Threshold.admits_of_rank_le h hr

theorem keeps_usual (debug : Bool) (o : Origin) (l : Level) :
    (usual debug).keeps o l = (Threshold.least (if debug then .debug else .info)).admits l := rfl

end LogFilter

end Standstill
