/-!
Names for the members of a set of languages. A display name that only one language has is its
name; languages that share one are told apart by a letter suffix, and a suffix is passed over
where it would give a name that is taken.
-/

namespace Typology.Alias

/-- The letter for a number below 26. -/
def letter (n : Nat) : Char := Char.ofNat ('A'.toNat + n % 26)

/-- The suffix with number `n`: `A` to `Z`, then `AA`, `AB` and so on. -/
def suffixChars (n : Nat) : List Char :=
  if n < 26 then [letter n] else suffixChars (n / 26 - 1) ++ [letter n]
termination_by n
decreasing_by omega

/-- The suffix with number `n`, as text. -/
def suffix (n : Nat) : String := String.ofList (suffixChars n)

/-- A display name with the suffix of number `n`. -/
def label (name : String) (n : Nat) : String := name ++ " " ++ suffix n

/-- Names of a set, each with the position it stands for. -/
abbrev Index := List (String × Nat)

/-- The positions at which a display name stands. -/
def positionsOf (names : List String) (name : String) : List Nat :=
  (names.zipIdx.filter (·.1 == name)).map (·.2)

/-- The positions of each display name, in the order in which the names are first met. -/
def groups (names : List String) : List (String × List Nat) :=
  names.eraseDups.map fun name => (name, positionsOf names name)

/-- The first number from `start` on whose label is not taken. Different numbers give different
labels, so one of the next `taken.length + 1` numbers will do. -/
def freeNumber (taken : Index) (name : String) (start : Nat) : Nat :=
  ((List.range' start (taken.length + 1)).find? fun n =>
    !taken.any fun entry => entry.1 == label name n).getD start

/-- Adds labels for the positions that share a display name; each takes the first free suffix
after the one before it. -/
def addShared (name : String) : Nat → List Nat → Index → Index
  | _, [], index => index
  | start, position :: rest, index =>
    let n := freeNumber index name start
    addShared name (n + 1) rest (index ++ [(label name n, position)])

/-- Adds labels for a group of positions with one display name, if there are several. -/
def addGroup (index : Index) (group : String × List Nat) : Index :=
  if group.2.length = 1 then index else addShared group.1 0 group.2 index

/-- The names that are the only position of their group. -/
def unshared (all : List (String × List Nat)) : Index :=
  all.filterMap fun (name, positions) =>
    match positions with
    | [position] => some (name, position)
    | _ => none

/-- The index of a list of display names: names that are not shared first, then the groups of
shared names in the order in which they are first met. -/
def index (names : List String) : Index :=
  let all := groups names
  all.foldl addGroup (unshared all)

/-- The display names that several positions share, with their number, in the order in which they
are first met. -/
def shared (names : List String) : List (String × Nat) :=
  (groups names).filterMap fun (name, positions) =>
    if positions.length = 1 then none else some (name, positions.length)

end Typology.Alias
