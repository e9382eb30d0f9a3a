/-!
# Assignments

Values given to names one after the other. A name that is assigned again keeps its place and takes
the later value, so that every name occurs once.

## Main definitions

* `Assignments α` — values of type `α` under names, in order of first assignment.
* `Assignments.put` — assigns a value to a name.
* `Assignments.putAll`, `Assignments.ofList` — the assignments of a list, made in order.
-/

namespace NominalCheck

/-- Values under names, in order of first assignment. -/
abbrev Assignments (α : Type) := List (String × α)

namespace Assignments

variable {α : Type}

/-- Assigns a value to a name: one already there keeps its place. -/
def put (name : String) (a : α) : Assignments α → Assignments α
  | [] => [(name, a)]
  | (n, b) :: rest => if n = name then (n, a) :: rest else (n, b) :: put name a rest

/-- Assigns the values of a list in order. -/
def putAll (l : Assignments α) (pairs : List (String × α)) : Assignments α :=
  pairs.foldl (fun assigned p => put p.1 p.2 assigned) l

/-- The assignments of a list, made in order. -/
def ofList (pairs : List (String × α)) : Assignments α := putAll [] pairs

@[simp] theorem put_nil (name : String) (a : α) : put name a [] = [(name, a)] := rfl

@[simp] theorem ofList_nil : ofList ([] : List (String × α)) = [] := rfl

/-- A new name is put at the end. -/
theorem put_of_notMem {name : String} {a : α} {l : Assignments α} (h : name ∉ l.map (·.1)) :
    put name a l = l ++ [(name, a)] := by
  induction l with
  | nil => rfl
  | cons p l ih =>
    obtain ⟨n, b⟩ := p
    rw [List.map_cons, List.mem_cons, not_or] at h
    rw [put, if_neg (Ne.symm h.1), ih h.2, List.cons_append]

@[simp] theorem putAll_cons (l : Assignments α) (p : String × α) (pairs : List (String × α)) :
    l.putAll (p :: pairs) = (put p.1 p.2 l).putAll pairs := rfl

/-- Names that occur once are put at the end, in order. -/
theorem putAll_of_nodup {l : Assignments α} {pairs : List (String × α)}
    (h : ((l ++ pairs).map (·.1)).Nodup) : l.putAll pairs = l ++ pairs := by
  induction pairs generalizing l with
  | nil => simp [putAll]
  | cons p pairs ih =>
    have hp : p.1 ∉ l.map (·.1) := by
      rw [List.map_append, List.nodup_append] at h
      intro hm
      exact h.2.2 _ hm _ (by simp) rfl
    rw [putAll_cons, put_of_notMem hp, ih (by simpa using h), List.append_assoc]
    rfl

/-- A list without repeated names is its own list of assignments. -/
theorem ofList_of_nodup {pairs : List (String × α)} (h : (pairs.map (·.1)).Nodup) :
    ofList pairs = pairs := putAll_of_nodup h

end Assignments

end NominalCheck
