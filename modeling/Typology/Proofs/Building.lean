import Typology.Registry
import Typology.Proofs.Chain
import Mathlib.Data.List.Forall2

/-!
# What tokens build

A query is built of all its tokens or not at all. Each token stands for one step, except for a
first one that only names the dataset, and the first token that stands for nothing is the error.
-/

namespace Typology.Registry

/-- A token stands for the directive of its key, or for what the constructor of its key makes of its
value: the text as it is sent, and the value that this stands for under the delimiter. -/
inductive StandsFor (r : Registry) (token : Token) : Step → Prop where
  | directive {d : Directive} : r.entries.get? token.key = some (.directive d) →
      StandsFor r token (.directive d)
  | transformation {make : Constructor} {t : Transformation} :
      r.entries.get? token.key = some (.transformation make) →
      make ⟨token.value, .coerce token.value r.listDelimiter⟩ = .ok t →
      StandsFor r token (.transform t)

/-- A first token that names the dataset, where its key has no other meaning. -/
def NamesDataset (r : Registry) (position : Nat) (token : Token) : Prop :=
  position = 0 ∧ token.key = Token.datasetKey ∧ r.contains token.key = false

/-- A token at a position is one that a query can be built of. -/
def Accepts (r : Registry) (position : Nat) (token : Token) : Prop :=
  r.NamesDataset position token ∨ ∃ s, r.StandsFor token s

/-- The same of every token of a list, the first of which stands at a position. -/
def AcceptsAll (r : Registry) (position : Nat) (tokens : List Token) : Prop :=
  ∀ i token, tokens[i]? = some token → r.Accepts (position + i) token

/-- How a token at a position is refused: its key has no meaning, or the constructor of its key
rejects its value. -/
inductive Refuses (r : Registry) (position : Nat) (token : Token) : RequestError → Prop where
  | unknown : r.contains token.key = false → ¬(position = 0 ∧ token.key = Token.datasetKey) →
      Refuses r position token (.unknownToken position token)
  | rejected {make : Constructor} {source : TransformError} :
      r.entries.get? token.key = some (.transformation make) →
      make ⟨token.value, .coerce token.value r.listDelimiter⟩ = .error source →
      Refuses r position token (.invalidValue position token source)

/-- The tokens that are to stand for steps: all but a first one that names the dataset. -/
def asking (r : Registry) : List Token → List Token
  | [] => []
  | token :: rest =>
    if token.key = Token.datasetKey ∧ r.contains token.key = false then rest else token :: rest

variable {r : Registry} {position : Nat} {token : Token} {tokens rest : List Token}
variable {s : Step} {steps : List Step} {error : RequestError}

/-! ## One token -/

theorem contains_eq_false_iff {key : String} :
    r.contains key = false ↔ r.entries.get? key = none := by
  simp [contains, Dictionary.contains]

theorem stepOf_eq_none_iff :
    r.stepOf position token = .ok none ↔ r.NamesDataset position token := by
  rw [NamesDataset, contains_eq_false_iff, stepOf]
  split
  · simp [*]
  · split <;> simp [*]
  · split <;> simp_all

theorem stepOf_eq_some_iff : r.stepOf position token = .ok (some s) ↔ r.StandsFor token s := by
  constructor
  · intro h
    unfold stepOf at h
    split at h
    · rename_i d hget
      cases h
      exact .directive hget
    · rename_i make hget
      split at h
      · rename_i t hmake
        cases h
        exact .transformation hget hmake
      · cases h
    · split at h <;> cases h
  · rintro (hget | ⟨hget, hmake⟩)
    · simp only [stepOf, hget]
    · simp only [stepOf, Argument.ofText, hget, hmake]

theorem stepOf_eq_error_iff :
    r.stepOf position token = .error error ↔ r.Refuses position token error := by
  constructor
  · intro h
    unfold stepOf at h
    split at h
    · cases h
    · rename_i make hget
      split at h
      · cases h
      · rename_i source hmake
        cases h
        exact .rejected hget hmake
    · rename_i hget
      split at h
      · cases h
      · rename_i hfirst
        cases h
        exact .unknown (contains_eq_false_iff.2 hget) hfirst
  · rintro (⟨hkey, hfirst⟩ | ⟨hget, hmake⟩)
    · simp only [stepOf, contains_eq_false_iff.1 hkey, if_neg hfirst]
    · simp only [stepOf, Argument.ofText, hget, hmake]

theorem not_namesDataset_succ : ¬r.NamesDataset (position + 1) token :=
  fun h => Nat.succ_ne_zero position h.1

theorem accepts_iff : r.Accepts position token ↔ ∃ o, r.stepOf position token = .ok o := by
  constructor
  · rintro (hname | ⟨s, hs⟩)
    · exact ⟨none, stepOf_eq_none_iff.2 hname⟩
    · exact ⟨some s, stepOf_eq_some_iff.2 hs⟩
  · rintro ⟨_ | s, h⟩
    · exact .inl (stepOf_eq_none_iff.1 h)
    · exact .inr ⟨s, stepOf_eq_some_iff.1 h⟩

/-! ## All tokens -/

theorem stepsOf_cons_eq_ok_iff :
    r.stepsOf position (token :: rest) = .ok steps ↔
      ∃ o others, r.stepOf position token = .ok o ∧ r.stepsOf (position + 1) rest = .ok others ∧
        steps = o.toList ++ others := by
  rw [stepsOf]
  constructor
  · intro h
    obtain ⟨o, ho, hrest⟩ := bind_eq_ok h
    obtain ⟨others, hothers, hlast⟩ := bind_eq_ok hrest
    cases hlast
    exact ⟨o, others, ho, hothers, rfl⟩
  · rintro ⟨o, others, ho, hothers, rfl⟩
    rw [ho, hothers]
    rfl

theorem stepsOf_cons_eq_error_iff :
    r.stepsOf position (token :: rest) = .error error ↔
      r.stepOf position token = .error error ∨
        (∃ o, r.stepOf position token = .ok o) ∧ r.stepsOf (position + 1) rest = .error error := by
  rw [stepsOf]
  constructor
  · intro h
    obtain hfirst | ⟨o, ho, hrest⟩ := bind_eq_error h
    · exact .inl hfirst
    · obtain hothers | ⟨others, -, hlast⟩ := bind_eq_error hrest
      · exact .inr ⟨⟨o, ho⟩, hothers⟩
      · cases hlast
  · rintro (hfirst | ⟨⟨o, ho⟩, hothers⟩)
    · rw [hfirst]
      rfl
    · rw [ho, hothers]
      rfl

theorem acceptsAll_nil : r.AcceptsAll position [] := by
  intro i token h
  cases h

theorem acceptsAll_cons :
    r.AcceptsAll position (token :: rest) ↔
      r.Accepts position token ∧ r.AcceptsAll (position + 1) rest := by
  constructor
  · intro h
    refine ⟨h 0 token rfl, fun i other hi => ?_⟩
    rw [Nat.add_right_comm]
    exact h (i + 1) other hi
  · rintro ⟨htoken, hrest⟩ i other hi
    cases i with
    | zero =>
        cases hi
        exact htoken
    | succ i =>
        rw [Nat.add_comm i, ← Nat.add_assoc]
        exact hrest i other hi

theorem exists_stepsOf_iff :
    (∃ steps, r.stepsOf position tokens = .ok steps) ↔ r.AcceptsAll position tokens := by
  induction tokens generalizing position with
  | nil => exact iff_of_true ⟨[], rfl⟩ acceptsAll_nil
  | cons token rest ih =>
      rw [acceptsAll_cons, accepts_iff, ← ih]
      constructor
      · rintro ⟨steps, h⟩
        obtain ⟨o, others, ho, hothers, -⟩ := stepsOf_cons_eq_ok_iff.1 h
        exact ⟨⟨o, ho⟩, others, hothers⟩
      · rintro ⟨⟨o, ho⟩, others, hothers⟩
        exact ⟨_, stepsOf_cons_eq_ok_iff.2 ⟨o, others, ho, hothers, rfl⟩⟩

/-- The error is that of the first token that is refused. -/
theorem stepsOf_eq_error_iff :
    r.stepsOf position tokens = .error error ↔
      ∃ before token after, tokens = before ++ token :: after ∧ r.AcceptsAll position before ∧
        r.Refuses (position + before.length) token error := by
  induction tokens generalizing position with
  | nil => simp [stepsOf]
  | cons first rest ih =>
      rw [stepsOf_cons_eq_error_iff, ← accepts_iff, stepOf_eq_error_iff, ih]
      constructor
      · rintro (hfirst | ⟨hfirst, before, token, after, rfl, hbefore, htoken⟩)
        · exact ⟨[], first, rest, rfl, acceptsAll_nil, hfirst⟩
        · refine ⟨first :: before, token, after, rfl, acceptsAll_cons.2 ⟨hfirst, hbefore⟩, ?_⟩
          rwa [List.length_cons, ← Nat.add_assoc, Nat.add_right_comm]
      · rintro ⟨before, token, after, htokens, hbefore, htoken⟩
        cases before with
        | nil =>
            cases htokens
            exact .inl htoken
        | cons _ before =>
            cases htokens
            obtain ⟨hfirst, hbefore⟩ := acceptsAll_cons.1 hbefore
            rw [List.length_cons, ← Nat.add_assoc, Nat.add_right_comm] at htoken
            exact .inr ⟨hfirst, before, token, after, rfl, hbefore, htoken⟩

/-- Where the first token does not name the dataset there is one step for each. -/
theorem stepsOf_eq_ok_iff (h : ∀ token ∈ tokens.head?, ¬r.NamesDataset position token) :
    r.stepsOf position tokens = .ok steps ↔ List.Forall₂ r.StandsFor tokens steps := by
  induction tokens generalizing position steps with
  | nil => cases steps <;> simp [stepsOf]
  | cons token rest ih =>
      -- of the other tokens none can name the dataset, for they do not come first
      have hrest : ∀ token ∈ rest.head?, ¬r.NamesDataset (position + 1) token :=
        fun _ _ => not_namesDataset_succ
      rw [stepsOf_cons_eq_ok_iff]
      constructor
      · rintro ⟨o, others, ho, hothers, rfl⟩
        cases o with
        | none => exact absurd (stepOf_eq_none_iff.1 ho) (h token rfl)
        | some s => exact .cons (stepOf_eq_some_iff.1 ho) ((ih hrest).1 hothers)
      · intro hall
        obtain _ | ⟨hs, hothers⟩ := hall
        exact ⟨some _, _, stepOf_eq_some_iff.2 hs, (ih hrest).2 hothers, rfl⟩

theorem stepsOf_zero_eq_ok_iff :
    r.stepsOf 0 tokens = .ok steps ↔ List.Forall₂ r.StandsFor (r.asking tokens) steps := by
  cases tokens with
  | nil => exact stepsOf_eq_ok_iff (by simp)
  | cons token rest =>
      rw [asking]
      split
      · rename_i hname
        have hfirst : r.stepOf 0 token = .ok none := stepOf_eq_none_iff.2 ⟨rfl, hname⟩
        have hothers : ∀ token ∈ rest.head?, ¬r.NamesDataset 1 token :=
          fun _ _ => not_namesDataset_succ
        rw [← stepsOf_eq_ok_iff hothers, stepsOf_cons_eq_ok_iff, hfirst]
        simp
      · rename_i hname
        refine stepsOf_eq_ok_iff ?_
        rintro _ ⟨⟩ hfirst
        exact hname hfirst.2

/-! ## The query -/

theorem buildQuery_eq_ok_iff {q : Query} :
    r.buildQuery tokens = .ok q ↔ q.quorum = .half ∧ r.stepsOf 0 tokens = .ok q.steps := by
  obtain ⟨steps, quorum⟩ := q
  rw [buildQuery]
  cases r.stepsOf 0 tokens with
  | error error => simp [Except.map]
  | ok read => simp [Except.map, Query.empty, and_comm, eq_comm]

theorem buildQuery_eq_error_iff :
    r.buildQuery tokens = .error error ↔ r.stepsOf 0 tokens = .error error := by
  rw [buildQuery]
  cases r.stepsOf 0 tokens <;> simp [Except.map]

/-- A query can be built of tokens if and only if each of them is accepted. It has the steps that
these stand for, one after another; and if there is none, the first token that is refused is the
error. -/
theorem buildQuery_allOrNothing (r : Registry) (tokens : List Token) :
    ((∃ q, r.buildQuery tokens = .ok q) ↔ r.AcceptsAll 0 tokens) ∧
    (∀ q, r.buildQuery tokens = .ok q ↔
      q.quorum = .half ∧ List.Forall₂ r.StandsFor (r.asking tokens) q.steps) ∧
    ∀ error, r.buildQuery tokens = .error error ↔
      ∃ before token after, tokens = before ++ token :: after ∧ r.AcceptsAll 0 before ∧
        r.Refuses before.length token error := by
  refine ⟨?_, fun q => ?_, fun error => ?_⟩
  · rw [← exists_stepsOf_iff]
    constructor
    · rintro ⟨q, hq⟩
      exact ⟨q.steps, (buildQuery_eq_ok_iff.1 hq).2⟩
    · rintro ⟨steps, hsteps⟩
      exact ⟨⟨steps, .half⟩, buildQuery_eq_ok_iff.2 ⟨rfl, hsteps⟩⟩
  · rw [buildQuery_eq_ok_iff, stepsOf_zero_eq_ok_iff]
  · rw [buildQuery_eq_error_iff, stepsOf_eq_error_iff]
    simp only [Nat.zero_add]

/-- Where the key `Dataset` has a meaning, it has it in every place. -/
example : (empty.registerDirective "Dataset" .filter).buildQuery
    [⟨"Dataset", "A"⟩, ⟨"Dataset", "B"⟩] = .ok ⟨[.directive .filter, .directive .filter], .half⟩ :=
  rfl

end Typology.Registry
