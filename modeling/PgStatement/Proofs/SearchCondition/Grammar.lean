import PgStatement.Proofs.SearchCondition.Token

/-!
# The grammar of search conditions

The grammar is that of SQL for the operators at hand. A condition is one or more terms with OR
between, a term is one or more factors with AND between, and a factor is a predicate, a negated
factor or a condition in parentheses; so AND binds tighter than OR, and NOT tighter than both. The
AND of a range belongs to its predicate. A truth value, and a column that holds one, is a predicate
by itself.

The rules say what a list of tokens *may* be read as, and not how it is read. That nothing may be
read in two ways is a theorem (`Reads.unique`), and it is shown as for every grammar of the kind:
what stands behind a phrase is told apart from what could go the phrase on (`Ends`), and behind the
bound of a range AND is no such thing.
-/

namespace PgStatement

/-- The tokens of an operator. -/
def Operator.tokens : Operator → List SearchCondition.Token
  | .eq => [.sign "="]
  | .ne => [.sign "!="]
  | .gt => [.sign ">"]
  | .ge => [.sign ">="]
  | .lt => [.sign "<"]
  | .le => [.sign "<="]
  | .between => [.keyword .between]
  | .notBetween => [.keyword .not, .keyword .between]
  | .oneOf => [.keyword .oneOf]
  | .noneOf => [.keyword .not, .keyword .oneOf]
  | .isNull => [.keyword .is, .keyword .null]
  | .isNotNull => [.keyword .is, .keyword .not, .keyword .null]
  | .like => [.keyword .like]
  | .notLike => [.keyword .not, .keyword .like]
  | .ilike => [.keyword .ilike]
  | .notIlike => [.keyword .not, .keyword .ilike]

/-- The token of a connector. -/
def Connector.token : Connector → SearchCondition.Token
  | .and => .keyword .and
  | .or => .keyword .or

namespace SearchCondition

/-- What is compared: a column, a bound value or a truth value. -/
inductive Scalar where
  | column (name : String)
  | placeholder (number : Nat)
  | truth (value : Bool)
  deriving DecidableEq

/-- The token of a scalar. -/
def Scalar.token : Scalar → Token
  | .column name => .name name
  | .placeholder number => .placeholder number
  | .truth true => .keyword .true
  | .truth false => .keyword .false

/-- **What a search condition says.** -/
inductive Formula where
  /-- A scalar is true. -/
  | scalar (s : Scalar)
  /-- A scalar stands in a relation to others. -/
  | predicate (subject : Scalar) (operator : Operator) (operands : List Scalar)
  /-- Something is not so. -/
  | not (f : Formula)
  /-- All of some formulas hold, or at least one of them does. -/
  | joined (connector : Connector) (parts : List Formula)

/-- The right-hand side of a predicate. -/
inductive Operands : OperandShape → List Scalar → List Token → Prop where
  | nothing : Operands .nothing [] []
  | single (x : Scalar) : Operands .single [x] [x.token]
  | pair (low high : Scalar) :
    Operands .pair [low, high] [low.token, .keyword .and, high.token]
  | list (x : Scalar) (more : List Scalar) :
    Operands .list (x :: more)
      (.leftParenthesis :: x.token :: more.flatMap (fun y => [.comma, y.token])
        ++ [.rightParenthesis])

/-- The levels of the grammar. -/
inductive Level where
  /-- What NOT may stand before. -/
  | factor
  /-- What is joined by a connector. -/
  | joined (connector : Connector)

/-- What a connector joins. -/
def Level.below : Connector → Level
  | .and => .factor
  | .or => .joined .and

/-- **What tokens may be read as** at a level. -/
inductive Reads : Level → Formula → List Token → Prop where
  | scalar (x : Scalar) : Reads .factor (.scalar x) [x.token]
  | predicate (x : Scalar) (operator : Operator) {operands : List Scalar} {ts : List Token}
    (h : Operands operator.shape operands ts) :
    Reads .factor (.predicate x operator operands) (x.token :: (operator.tokens ++ ts))
  | not {f : Formula} {ts : List Token} (h : Reads .factor f ts) :
    Reads .factor (.not f) (.keyword .not :: ts)
  | group {f : Formula} {ts : List Token} (h : Reads (.joined .or) f ts) :
    Reads .factor f (.leftParenthesis :: ts ++ [.rightParenthesis])
  | one {connector : Connector} {f : Formula} {ts : List Token}
    (h : Reads (Level.below connector) f ts) :
    Reads (.joined connector) (.joined connector [f]) ts
  | more {connector : Connector} {f : Formula} {fs : List Formula} {ss ts : List Token}
    (hf : Reads (Level.below connector) f ss)
    (hfs : Reads (.joined connector) (.joined connector fs) ts) :
    Reads (.joined connector) (.joined connector (f :: fs)) (ss ++ connector.token :: ts)

/-- **A text denotes a formula** if it may be read as one. -/
def Denotes (text : String) (f : Formula) : Prop :=
  ∃ ts, tokens? text.toList = some ts ∧ Reads (.joined .or) f ts

/-! ## Nothing may be read in two ways -/

namespace Level

/-- The tokens that may stand behind a phrase of a level. -/
def follow : Level → List Token
  | .factor => [.keyword .and, .keyword .or, .rightParenthesis]
  | .joined .and => [.keyword .or, .rightParenthesis]
  | .joined .or => [.rightParenthesis]

/-- A phrase of a level ends before these tokens. -/
def Ends (l : Level) (ts : List Token) : Prop := ∀ t ∈ ts.head?, t ∈ l.follow

variable {connector : Connector} {ts : List Token}

theorem ends_nil (l : Level) : l.Ends [] := fun _ h => nomatch h

theorem ends_cons_iff {l : Level} {t : Token} : l.Ends (t :: ts) ↔ t ∈ l.follow :=
  ⟨fun h => h t rfl, fun h _ ht => Option.some.inj ht ▸ h⟩

/-- What ends before tokens ends its last part there. -/
theorem Ends.below (h : (Level.joined connector).Ends ts) : (below connector).Ends ts := by
  have hsubset : (Level.joined connector).follow ⊆ (Level.below connector).follow := by
    cases connector <;> exact List.subset_cons_self _ _
  exact fun t ht => hsubset (h t ht)

/-- A part ends before the connector, and what is joined does not. -/
theorem ends_token : (below connector).Ends (connector.token :: ts) := by
  rw [ends_cons_iff]
  cases connector <;> decide

theorem not_ends_token : ¬(Level.joined connector).Ends (connector.token :: ts) := by
  rw [ends_cons_iff]
  cases connector <;> decide

/-- **A factor does not end before an operator**, not even before one that starts with NOT. -/
theorem not_ends_operator (operator : Operator) : ¬factor.Ends (operator.tokens ++ ts) := by
  intro h
  cases operator <;> exact absurd (ends_cons_iff.mp h) (by decide)

end Level

namespace Scalar

/-- A scalar is its token. -/
theorem token_inj {x y : Scalar} (h : x.token = y.token) : x = y := by
  rcases x with _ | _ | _ | _ <;> rcases y with _ | _ | _ | _ <;> cases h <;> rfl

theorem token_ne_not (x : Scalar) : x.token ≠ .keyword .not := by
  rcases x with _ | _ | _ | _ <;> exact nofun

theorem token_ne_leftParenthesis (x : Scalar) : x.token ≠ .leftParenthesis := by
  rcases x with _ | _ | _ | _ <;> exact nofun

end Scalar

/-- The operator that tokens start with, and what stands behind it. -/
def operator? : List Token → Option (Operator × List Token)
  | .sign text :: ts =>
    [Operator.eq, .ne, .gt, .ge, .lt, .le].find? (·.sql == text) |>.map (·, ts)
  | .keyword .between :: ts => some (.between, ts)
  | .keyword .oneOf :: ts => some (.oneOf, ts)
  | .keyword .like :: ts => some (.like, ts)
  | .keyword .ilike :: ts => some (.ilike, ts)
  | .keyword .not :: .keyword .between :: ts => some (.notBetween, ts)
  | .keyword .not :: .keyword .oneOf :: ts => some (.noneOf, ts)
  | .keyword .not :: .keyword .like :: ts => some (.notLike, ts)
  | .keyword .not :: .keyword .ilike :: ts => some (.notIlike, ts)
  | .keyword .is :: .keyword .null :: ts => some (.isNull, ts)
  | .keyword .is :: .keyword .not :: .keyword .null :: ts => some (.isNotNull, ts)
  | _ => none

theorem operator?_append (operator : Operator) (ts : List Token) :
    operator? (operator.tokens ++ ts) = some (operator, ts) := by
  cases operator <;> rfl

/-- **No operator starts another one**, although several start with the same word. -/
theorem operator_unique {a b : Operator} {ss ts : List Token}
    (h : a.tokens ++ ss = b.tokens ++ ts) : a = b ∧ ss = ts := by
  have hread := operator?_append a ss
  rw [h, operator?_append b ts] at hread
  cases hread
  exact ⟨rfl, rfl⟩

/-- Scalars with commas between are told apart by the parenthesis behind them. -/
theorem scalars_unique {xs ys : List Scalar} {us vs : List Token}
    (h : xs.flatMap (fun y => [.comma, y.token]) ++ .rightParenthesis :: us
      = ys.flatMap (fun y => [.comma, y.token]) ++ .rightParenthesis :: vs) :
    xs = ys ∧ us = vs := by
  induction xs generalizing ys with
  | nil =>
    cases ys with
    | nil => exact ⟨rfl, (List.cons.inj h).2⟩
    | cons y ys => cases h
  | cons x xs ih =>
    cases ys with
    | nil => cases h
    | cons y ys =>
      obtain ⟨hx, h⟩ := List.cons.inj (List.cons.inj h).2
      obtain ⟨rfl, rfl⟩ := ih h
      exact ⟨congrArg (· :: xs) (Scalar.token_inj hx), rfl⟩

/-- **The right-hand side of a predicate is known from where it starts.** -/
theorem Operands.unique {shape : OperandShape} {xs ys : List Scalar} {ss ts us vs : List Token}
    (hx : Operands shape xs ss) (hy : Operands shape ys ts) (h : ss ++ us = ts ++ vs) :
    xs = ys ∧ us = vs := by
  cases hx with
  | nothing =>
    cases hy
    exact ⟨rfl, h⟩
  | single x =>
    cases hy with
    | single y =>
      obtain ⟨hxy, rfl⟩ := List.cons.inj h
      exact ⟨congrArg ([·]) (Scalar.token_inj hxy), rfl⟩
  | pair low high =>
    cases hy with
    | pair low' high' =>
      obtain ⟨hlow, h⟩ := List.cons.inj h
      obtain ⟨hhigh, rfl⟩ := List.cons.inj (List.cons.inj h).2
      rw [Scalar.token_inj hlow, Scalar.token_inj hhigh]
      exact ⟨rfl, rfl⟩
  | list x xs =>
    cases hy with
    | list y ys =>
      simp only [List.cons_append, List.append_assoc, List.nil_append] at h
      obtain ⟨hxy, h⟩ := List.cons.inj (List.cons.inj h).2
      obtain ⟨rfl, rfl⟩ := scalars_unique h
      rw [Scalar.token_inj hxy]
      exact ⟨rfl, rfl⟩

/-- **Nothing may be read in two ways.** Of two phrases of a level with which the same tokens start,
and which both end where they do, one is the other. -/
theorem Reads.unique {l : Level} {f g : Formula} {ss ts us vs : List Token} (hf : Reads l f ss)
    (hg : Reads l g ts) (h : ss ++ us = ts ++ vs) (hu : l.Ends us) (hv : l.Ends vs) :
    f = g ∧ us = vs := by
  induction hf generalizing g ts us vs with
  | scalar x =>
    cases hg with
    | scalar y =>
      obtain ⟨hxy, rfl⟩ := List.cons.inj h
      exact ⟨congrArg _ (Scalar.token_inj hxy), rfl⟩
    | predicate y operator =>
      -- the scalar by itself would end before the operator
      simp only [List.cons_append, List.append_assoc, List.nil_append] at h
      obtain ⟨-, rfl⟩ := List.cons.inj h
      exact absurd hu (Level.not_ends_operator operator)
    | not => exact absurd (List.cons.inj h).1 x.token_ne_not
    | group => exact absurd (List.cons.inj h).1 x.token_ne_leftParenthesis
  | predicate x operator hoperands =>
    cases hg with
    | scalar y =>
      simp only [List.cons_append, List.append_assoc, List.nil_append] at h
      obtain ⟨-, rfl⟩ := List.cons.inj h
      exact absurd hv (Level.not_ends_operator operator)
    | predicate y operator' hoperands' =>
      simp only [List.cons_append, List.append_assoc] at h
      obtain ⟨hxy, h⟩ := List.cons.inj h
      obtain ⟨rfl, hrest⟩ := operator_unique h
      obtain ⟨rfl, rfl⟩ := hoperands.unique hoperands' hrest
      rw [Scalar.token_inj hxy]
      exact ⟨rfl, rfl⟩
    | not => exact absurd (List.cons.inj h).1 x.token_ne_not
    | group => exact absurd (List.cons.inj h).1 x.token_ne_leftParenthesis
  | not _ ih =>
    cases hg with
    | scalar y => exact absurd (List.cons.inj h).1.symm y.token_ne_not
    | predicate y => exact absurd (List.cons.inj h).1.symm y.token_ne_not
    | not hg =>
      obtain ⟨rfl, rfl⟩ := ih hg (List.cons.inj h).2 hu hv
      exact ⟨rfl, rfl⟩
    | group => cases (List.cons.inj h).1
  | group _ ih =>
    cases hg with
    | scalar y => exact absurd (List.cons.inj h).1.symm y.token_ne_leftParenthesis
    | predicate y => exact absurd (List.cons.inj h).1.symm y.token_ne_leftParenthesis
    | not => cases (List.cons.inj h).1
    | group hg =>
      rw [List.append_assoc, List.append_assoc] at h
      have hparenthesis {ws : List Token} : (Level.joined .or).Ends (.rightParenthesis :: ws) :=
        Level.ends_cons_iff.mpr List.mem_cons_self
      obtain ⟨rfl, h⟩ := ih hg (List.cons.inj h).2 hparenthesis hparenthesis
      exact ⟨rfl, (List.cons.inj h).2⟩
  | one _ ih =>
    cases hg with
    | one hg =>
      obtain ⟨rfl, rfl⟩ := ih hg h hu.below hv.below
      exact ⟨rfl, rfl⟩
    | more hg =>
      -- the first parts are one, and a connector stands behind it
      rw [List.append_assoc] at h
      obtain ⟨-, rfl⟩ := ih hg h hu.below Level.ends_token
      exact absurd hu Level.not_ends_token
  | more _ _ ih ihs =>
    rw [List.append_assoc] at h
    cases hg with
    | one hg =>
      obtain ⟨-, rfl⟩ := ih hg h Level.ends_token hv.below
      exact absurd hv Level.not_ends_token
    | more hg hgs =>
      rw [List.append_assoc] at h
      obtain ⟨rfl, h⟩ := ih hg h Level.ends_token Level.ends_token
      obtain ⟨heq, rfl⟩ := ihs hgs (List.cons.inj h).2 hu hv
      cases heq
      exact ⟨rfl, rfl⟩

/-- **A text denotes one formula at most.** -/
theorem Denotes.unique {text : String} {f g : Formula} (hf : Denotes text f)
    (hg : Denotes text g) : f = g := by
  obtain ⟨ss, hss, hf⟩ := hf
  obtain ⟨ts, hts, hg⟩ := hg
  obtain rfl : ss = ts := Option.some.inj (hss.symm.trans hts)
  exact (hf.unique hg rfl (Level.ends_nil _) (Level.ends_nil _)).1

end SearchCondition

end PgStatement
