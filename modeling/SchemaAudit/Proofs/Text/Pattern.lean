import SchemaAudit.Proofs.Text.Blank

/-! # Patterns

A pattern matches the start of a text in several ways, which are tried in order of preference: a repetition that takes
as much as there is also takes less if nothing else can be gone on with, one that takes as little as possible also takes
more, and a part that may be missing is left out only then. A search takes the first way at the first place that has one.

A search is compared with a plain reading through what follows a pattern (`Pattern.follow`). A repetition of a class
whose characters nothing can go on with takes all there is (`Pattern.follow_most`), so that no second way counts. -/

namespace SchemaAudit

theorem findSome?_flatMap {α β γ : Type} (f : β → Option γ) (g : α → List β) (l : List α) :
    (l.flatMap g).findSome? f = l.findSome? fun a => (g a).findSome? f := by
  induction l with
  | nil => rfl
  | cons a l ih =>
    rw [List.flatMap_cons, List.findSome?_append, ih, List.findSome?_cons]
    cases (g a).findSome? f <;> rfl

theorem findSome?_some_eq {α β : Type} (f : α → β) (l : List α) : (l.findSome? fun a => some (f a)) = l.head?.map f := by
  cases l <;> rfl

namespace Text

/-- A pattern for the start of a text. -/
inductive Pattern where
  /-- One character of each class. -/
  | each (classes : List (Char → Bool))
  /-- Characters of a class, rather more of them. -/
  | most (cls : Char → Bool)
  /-- Characters of a class, rather fewer of them. -/
  | least (cls : Char → Bool)
  /-- A pattern and another one behind it. -/
  | both (p q : Pattern)
  /-- A pattern, or rather that than nothing. -/
  | perhaps (p : Pattern)

namespace Pattern

/-- What a pattern matches, and the rest of the text. -/
abbrev Way := List Char × List Char

/-- A way with one more character matched before it. -/
def Way.after (c : Char) (w : Way) : Way := (c :: w.1, w.2)

def eachWays : List (Char → Bool) → List Char → List Way
  | [], s => [([], s)]
  | _ :: _, [] => []
  | cls :: classes, c :: s => if cls c then (eachWays classes s).map (Way.after c) else []

def mostWays (cls : Char → Bool) : List Char → List Way
  | [] => [([], [])]
  | c :: s => (if cls c then (mostWays cls s).map (Way.after c) else []) ++ [([], c :: s)]

def leastWays (cls : Char → Bool) : List Char → List Way
  | [] => [([], [])]
  | c :: s => ([], c :: s) :: if cls c then (leastWays cls s).map (Way.after c) else []

/-- The ways to match the start of a text, in order of preference. -/
def ways : Pattern → List Char → List Way
  | each classes, s => eachWays classes s
  | most cls, s => mostWays cls s
  | least cls, s => leastWays cls s
  | both p q, s => (p.ways s).flatMap fun w => (q.ways w.2).map fun v => (w.1 ++ v.1, v.2)
  | perhaps p, s => p.ways s ++ [([], s)]

/-- What is found behind a pattern: behind the first way behind which something is found. -/
def follow {α : Type} (p : Pattern) (k : List Char → Option α) (s : List Char) : Option α :=
  (p.ways s).findSome? fun w => k w.2

/-- A text itself. -/
def literal (text : List Char) : Pattern := each (text.map fun c d => d = c)

variable {α : Type} {p q : Pattern} {k : List Char → Option α} {cls : Char → Bool} {c : Char} {s : List Char}

theorem follow_both (p q : Pattern) (k : List Char → Option α) (s : List Char) :
    (both p q).follow k s = p.follow (q.follow k) s := by
  rw [follow, ways, findSome?_flatMap]
  refine congrArg (List.findSome? · (p.ways s)) (funext fun w => ?_)
  rw [List.findSome?_map]
  rfl

theorem follow_perhaps (p : Pattern) (k : List Char → Option α) (s : List Char) :
    (perhaps p).follow k s = (p.follow k s).or (k s) := by
  rw [follow, ways, List.findSome?_append]
  simp [follow]

theorem follow_each_cons (cls : Char → Bool) (classes : List (Char → Bool)) (k : List Char → Option α) (c : Char)
    (s : List Char) :
    (each (cls :: classes)).follow k (c :: s) = if cls c then (each classes).follow k s else none := by
  rw [follow, ways, eachWays]
  split
  · rw [List.findSome?_map]
    rfl
  · rfl

theorem follow_most_cons (cls : Char → Bool) (k : List Char → Option α) (c : Char) (s : List Char) :
    (most cls).follow k (c :: s) = (if cls c then (most cls).follow k s else none).or (k (c :: s)) := by
  rw [follow, ways, mostWays, List.findSome?_append]
  split
  · rw [List.findSome?_map]
    simp [follow, ways, Function.comp_def, Way.after]
  · simp

/-- All characters of a class are taken if what is behind cannot begin with one. -/
theorem follow_most (h : ∀ c s, cls c = true → k (c :: s) = none) (s : List Char) :
    (most cls).follow k s = k (s.dropWhile cls) := by
  induction s with
  | nil => simp [follow, ways, mostWays]
  | cons c s ih =>
    rw [follow_most_cons]
    cases hc : cls c with
    | true => rw [if_pos rfl, ih, h c s hc, Option.or_none, List.dropWhile_cons_of_pos hc]
    | false => rw [if_neg Bool.false_ne_true, Option.none_or, List.dropWhile_cons_of_neg (by simp [hc])]

theorem head?_mostWays (cls : Char → Bool) (s : List Char) :
    (mostWays cls s).head? = some (s.takeWhile cls, s.dropWhile cls) := by
  induction s with
  | nil => rfl
  | cons c s ih =>
    rw [mostWays]
    cases hc : cls c with
    | true => simp [ih, hc, Way.after]
    | false => simp [hc]

/-- One character of a class and rather more of them are all there are at the start of a text. -/
theorem head?_someWays (cls : Char → Bool) (s : List Char) : ((both (each [cls]) (most cls)).ways s).head? =
    if s.takeWhile cls = [] then none else some (s.takeWhile cls, s.dropWhile cls) := by
  cases s with
  | nil => rfl
  | cons c s =>
    cases hc : cls c with
    | true => simp [ways, eachWays, Way.after, hc, head?_mostWays]
    | false => simp [ways, eachWays, hc]

theorem follow_literal (text : List Char) (k : List Char → Option α) (s : List Char) :
    (literal text).follow k s = if text.isPrefixOf s then k (s.drop text.length) else none := by
  induction text generalizing s with
  | nil => simp [follow, literal, ways, eachWays]
  | cons d text ih =>
    cases s with
    | nil => rfl
    | cons c s =>
      have hrest : (each (text.map fun c d => decide (d = c))).follow k s = _ := ih s
      rw [literal, List.map_cons, follow_each_cons, hrest]
      by_cases hd : c = d
      · simp [List.isPrefixOf, hd]
      · simp [List.isPrefixOf, hd, Ne.symm hd]

end Pattern

/-- A pattern with a part of it that is asked for. -/
structure Search where
  before : Pattern
  asked : Pattern
  after : Pattern

namespace Search

/-- What the part matches in the first way at the start of a text. -/
def here? (p : Search) (s : List Char) : Option (List Char) :=
  p.before.follow (fun s => (p.asked.ways s).findSome? fun w => p.after.follow (fun _ => some w.1) w.2) s

/-- What the part matches at the first place in a text where the pattern matches. -/
def find? (p : Search) : List Char → Option (List Char)
  | [] => p.here? []
  | c :: s => (p.here? (c :: s)).or (p.find? s)

end Search

end Text

end SchemaAudit
