import PgStatement.Proofs.Numbering
import PgStatement.Proofs.SearchCondition.Grammar

/-!
# What a WHERE clause means

A list of conditions is written without parentheses, and what it means is left to SQL: the
conditions fall into runs, a new one beginning with each condition that is joined by OR, and the
clause holds if all conditions of one run do (`Where.formula`). That this is what a clause is read
as, and that it is read as nothing else, takes the whole way from the text to its tokens and from
these to the grammar (`Where.denotes_of_render`).

A clause can thus be read back. Two lists with the same clause and the same parameters say the same,
up to what is not written at all: the first connector, the operand of an operator that needs none,
and the field that is looked for in an empty list.
-/

namespace PgStatement

open SearchCondition

/-! ## Formulas of conditions -/

/-- The placeholders of so many values, after those that are bound before. -/
def SearchCondition.placeholders (bound count : Nat) : List Scalar :=
  (List.range' (bound + 1) count).map .placeholder

/-- **What a condition says** when so many values are bound before: its field stands in a relation
to its values. Nothing is in an empty list. -/
def Condition.leaf (bound : Nat) (c : Condition) : Formula :=
  match c.operator, c.operand with
  | .oneOf, .list [] => .scalar (.truth false)
  | .noneOf, .list [] => .scalar (.truth true)
  | operator, _ => .predicate (.column c.field) operator (placeholders bound c.values.length)

/-- **Conditions that are written alike**: they are the same up to an operand that is not needed and
the field that is looked for in an empty list. -/
inductive Condition.WrittenAlike (c d : Condition) : Prop where
  | same (hoperator : c.operator = d.operator) (hfield : c.field = d.field)
    (hoperand : c.operand = d.operand)
  | noOperand (hoperator : c.operator = d.operator) (hfield : c.field = d.field)
    (hshape : c.operator.shape = .nothing)
  | emptyList (hoperator : c.operator = d.operator) (hshape : c.operator.shape = .list)
    (hc : c.operand = .list []) (hd : d.operand = .list [])

namespace Where

/-- What conditions say, each of them numbered after the ones before it and with its connector. -/
def leaves (bound : Nat) : List Condition → List (Connector × Formula)
  | [] => []
  | c :: rest => (c.connector, c.leaf bound) :: leaves (bound + c.values.length) rest

/-- **The runs of formulas**, a new one beginning with each formula that is joined by OR. -/
def runs (first : Formula) : List (Connector × Formula) → List (List Formula)
  | [] => [[first]]
  | (.or, f) :: rest => [first] :: runs f rest
  | (.and, f) :: rest => (runs f rest).modifyHead (first :: ·)

/-- **What a list of conditions says**: in one of its runs all conditions hold. -/
def formula (bound : Nat) : List Condition → Formula
  | [] => .joined .or []
  | first :: rest =>
    .joined .or ((runs (first.leaf bound) (leaves (bound + first.values.length) rest)).map
      (.joined .and))

end Where

/-! ## Texts of fragments -/

namespace Fragment

theorem toList_text_nil (bound : Nat) : (text bound []).toList = [] := rfl

theorem toList_text_raw (bound : Nat) (t : String) (f : Fragment) :
    (text bound (.raw t :: f)).toList = t.toList ++ (text bound f).toList := by
  rw [text, spell, String.join_cons, String.toList_append, text]

theorem toList_text_value (bound : Nat) (v : Value) (f : Fragment) :
    (text bound (.value v :: f)).toList
      = (placeholder (bound + 1)).toList ++ (text (bound + 1) f).toList := by
  rw [text, spell, String.join_cons, String.toList_append, text]

end Fragment

/-! ## Conditions -/

namespace Condition

variable {c : Condition} {f : Fragment}

theorem lexes_operator (operator : Operator) :
    Lexes operator.sql.toList operator.tokens := by
  cases operator with
  | eq | ne | gt | ge | lt | le => exact lexes_sign rfl (List.all_eq_true.mp rfl)
  | between => exact lexes_keyword .between
  | notBetween => exact (lexes_keyword .not).blank (lexes_keyword .between)
  | oneOf => exact lexes_keyword .oneOf
  | noneOf => exact (lexes_keyword .not).blank (lexes_keyword .oneOf)
  | isNull => exact (lexes_keyword .is).blank (lexes_keyword .null)
  | isNotNull => exact (lexes_keyword .is).blank ((lexes_keyword .not).blank (lexes_keyword .null))
  | like => exact lexes_keyword .like
  | notLike => exact (lexes_keyword .not).blank (lexes_keyword .like)
  | ilike => exact lexes_keyword .ilike
  | notIlike => exact (lexes_keyword .not).blank (lexes_keyword .ilike)

/-- What stands before an operand is the field and the operator. -/
theorem lexes_left (hcolumn : IsColumn c.field) :
    Lexes c.left.toList (.name c.field :: c.operator.tokens) := by
  have hleft := (lexes_column hcolumn).blank (lexes_operator c.operator)
  rw [left, String.toList_append, String.toList_append, List.append_assoc]
  exact hleft

/-- The values of a list, with the parenthesis behind them. -/
theorem lexes_values (bound : Nat) (v : Value) (vs : List Value) :
    Lexes ((Fragment.text bound (Fragment.join ", " ((v :: vs).map fun v => [.value v]))).toList
        ++ [')'])
      (.placeholder (bound + 1) :: ((placeholders (bound + 1) vs.length).flatMap
        (fun x => [.comma, x.token]) ++ [.rightParenthesis])) := by
  induction vs generalizing bound v with
  | nil =>
    have hend : Lexes [')'] [.rightParenthesis] := lexes_nil.mark rfl rfl
    exact (lexes_placeholder (bound + 1)).append hend rfl
  | cons w ws ih =>
    have hrest := (lexes_placeholder (bound + 1)).append
      (((ih (bound + 1) w).indent).mark rfl rfl : Lexes (',' :: _) (.comma :: _)) rfl
    rw [List.map_cons, List.map_cons, Fragment.join]
    · show Lexes ((Fragment.text bound (.value v :: .raw ", " :: _)).toList ++ [')']) _
      rw [Fragment.toList_text_value, Fragment.toList_text_raw, List.append_assoc,
        List.append_assoc]
      exact hrest
    · exact List.cons_ne_nil _ _

/-- An empty list is written as a truth value. -/
theorem eq_of_emptyList (h : c.fragment = .ok f) (hshape : c.operator.shape = .list)
    (hoperand : c.operand = .list []) : f = [.raw (emptyListSql c.operator)] := by
  simp only [fragment, hshape, hoperand] at h
  split at h
  · cases h
  · exact (Except.ok.inj h).symm

/-- What a condition says is a truth value or a predicate. -/
theorem leaf_cases (c : Condition) (bound : Nat) :
    (c.operator.shape = .list ∧ c.operand = .list []
        ∧ c.leaf bound = .scalar (.truth (c.operator == .noneOf)))
      ∨ c.leaf bound
        = .predicate (.column c.field) c.operator (placeholders bound c.values.length) := by
  unfold leaf
  split
  · rename_i hoperator hoperand
    exact .inl ⟨by rw [hoperator]; rfl, hoperand, by rw [hoperator]; rfl⟩
  · rename_i hoperator hoperand
    exact .inl ⟨by rw [hoperator]; rfl, hoperand, by rw [hoperator]; rfl⟩
  · exact .inr rfl

/-- **A condition is read as what it says.** -/
theorem reads_of_fragment (h : c.fragment = .ok f) (hcolumn : IsColumn c.field) (bound : Nat) :
    ∃ ts, Lexes (f.text bound).toList ts ∧ Reads .factor (c.leaf bound) ts := by
  have hleft := lexes_left hcolumn
  have hpredicate {ts : List Token} (hlist : ¬(c.operator.shape = .list ∧ c.operand = .list []))
      (hoperands : Operands c.operator.shape (placeholders bound c.values.length) ts) :
      Reads .factor (c.leaf bound) (.name c.field :: (c.operator.tokens ++ ts)) := by
    rw [(c.leaf_cases bound).resolve_left fun h => hlist ⟨h.1, h.2.1⟩]
    exact .predicate (.column c.field) c.operator hoperands
  cases form_of_fragment h with
  | nothing hshape =>
    have hoperands : Operands c.operator.shape (placeholders bound c.values.length) [] := by
      rw [values, hshape]
      exact .nothing
    refine ⟨_, ?_, hpredicate (by simp [hshape]) hoperands⟩
    rw [Fragment.toList_text_raw, Fragment.toList_text_nil, List.append_nil, List.append_nil]
    exact hleft
  | single v hshape hoperand =>
    have hoperands : Operands c.operator.shape (placeholders bound c.values.length)
        [.placeholder (bound + 1)] := by
      rw [values, hshape, hoperand]
      exact .single (.placeholder (bound + 1))
    refine ⟨_, ?_, hpredicate (by simp [hshape]) hoperands⟩
    rw [Fragment.toList_text_raw, Fragment.toList_text_value, Fragment.toList_text_nil,
      List.append_nil, String.toList_append, List.append_assoc]
    exact hleft.blank (lexes_placeholder _)
  | pair low high hshape hoperand =>
    have hoperands : Operands c.operator.shape (placeholders bound c.values.length)
        [.placeholder (bound + 1), .keyword .and, .placeholder (bound + 2)] := by
      rw [values, hshape, hoperand]
      exact .pair (.placeholder (bound + 1)) (.placeholder (bound + 2))
    refine ⟨_, ?_, hpredicate (by simp [hshape]) hoperands⟩
    rw [Fragment.toList_text_raw, Fragment.toList_text_value, Fragment.toList_text_raw,
      Fragment.toList_text_value, Fragment.toList_text_nil, List.append_nil, String.toList_append,
      List.append_assoc]
    exact hleft.blank ((lexes_placeholder _).blank
      ((lexes_keyword .and).blank (lexes_placeholder _)))
  | emptyList hshape hoperand =>
    have htruth (k : Keyword) : Lexes (Fragment.text bound [.raw k.text]).toList [.keyword k] := by
      rw [Fragment.toList_text_raw, Fragment.toList_text_nil, List.append_nil]
      exact lexes_keyword k
    unfold leaf
    rw [hoperand]
    cases hoperator : c.operator with
    | oneOf => exact ⟨_, htruth .false, .scalar (.truth false)⟩
    | noneOf => exact ⟨_, htruth .true, .scalar (.truth true)⟩
    | _ => rw [hoperator] at hshape; cases hshape
  | list vs hshape hoperand =>
    cases vs with
    | nil => cases (List.cons.inj (eq_of_emptyList h hshape hoperand)).2
    | cons v vs =>
      have hoperands : Operands c.operator.shape (placeholders bound c.values.length)
          (.leftParenthesis :: .placeholder (bound + 1) ::
            ((placeholders (bound + 1) vs.length).flatMap (fun x => [.comma, x.token])
              ++ [.rightParenthesis])) := by
        rw [values, hshape, hoperand]
        exact .list (.placeholder (bound + 1)) (placeholders (bound + 1) vs.length)
      have hlist : Lexes ('(' :: _) (.leftParenthesis :: _) :=
        (lexes_values bound v vs).mark rfl rfl
      refine ⟨_, ?_, hpredicate (by simp [hoperand]) hoperands⟩
      rw [Fragment.toList_text_raw, String.toList_append, List.append_assoc, Fragment.tuple,
        List.cons_append, Fragment.toList_text_raw, Fragment.text_append, String.toList_append,
        Fragment.toList_text_raw, Fragment.toList_text_nil, List.append_nil]
      exact hleft.blank hlist

end Condition

/-! ## Clauses -/

namespace Where

/-- The first run begins with the first formula. -/
theorem exists_runs (first : Formula) (rest : List (Connector × Formula)) :
    ∃ run others, runs first rest = (first :: run) :: others := by
  induction rest generalizing first with
  | nil => exact ⟨[], [], rfl⟩
  | cons item rest ih =>
    obtain ⟨connector, f⟩ := item
    cases connector with
    | or => exact ⟨[], runs f rest, rfl⟩
    | and =>
      obtain ⟨run, others, hruns⟩ := ih f
      exact ⟨f :: run, others, by rw [runs, hruns]; rfl⟩

/-- A factor with AND behind it belongs to the first term. -/
theorem reads_and {f : Formula} {run : List Formula} {terms : List Formula} {ss ts : List Token}
    (hf : Reads .factor f ss)
    (h : Reads (.joined .or) (.joined .or (.joined .and run :: terms)) ts) :
    Reads (.joined .or) (.joined .or (.joined .and (f :: run) :: terms))
      (ss ++ .keyword .and :: ts) := by
  cases h with
  | one hrun => exact .one (.more hf hrun)
  | @more _ _ _ us vs hrun hterms =>
    have hterm : Reads (.joined .and) (.joined .and (f :: run)) (ss ++ .keyword .and :: us) :=
      .more hf hrun
    have hall : Reads (.joined .or) (.joined .or (.joined .and (f :: run) :: terms))
        ((ss ++ .keyword .and :: us) ++ .keyword .or :: vs) := .more hterm hterms
    rwa [List.append_assoc] at hall

/-- **A list of conditions is read as its runs.** The induction is along the conditions behind a
factor that was read already. -/
theorem reads_runs {rest : List Condition} {fs : List Fragment}
    (h : List.Forall₂ Further rest fs) (hcolumns : ∀ c ∈ rest, IsColumn c.field) (bound : Nat)
    {first : Formula} {cs : List Char} {ss : List Token} (hlexes : Lexes cs ss)
    (hfirst : Reads .factor first ss) :
    ∃ ts, Lexes (cs ++ (Fragment.text bound fs.flatten).toList) ts
      ∧ Reads (.joined .or)
        (.joined .or ((runs first (leaves bound rest)).map (.joined .and))) ts := by
  induction h generalizing bound first cs ss with
  | nil =>
    refine ⟨ss, ?_, .one (.one hfirst)⟩
    rw [List.flatten_nil, Fragment.toList_text_nil, List.append_nil]
    exact hlexes
  | @cons c f rest fs hf _ ih =>
    obtain ⟨g, hg, rfl⟩ := hf
    rw [List.forall_mem_cons] at hcolumns
    obtain ⟨us, hus, hc⟩ := Condition.reads_of_fragment hg hcolumns.1 bound
    obtain ⟨ts, hts, hrest⟩ := ih hcolumns.2 (bound + c.values.length) hus hc
    have hconnector : Lexes c.connector.sql.toList [c.connector.token] := by
      cases c.connector with
      | and => exact lexes_keyword .and
      | or => exact lexes_keyword .or
    have hlexes := hlexes.blank (hconnector.blank hts)
    refine ⟨ss ++ ([c.connector.token] ++ ts), ?_, ?_⟩
    · have hvalues := Condition.values_of_form (Condition.form_of_fragment hg)
      rw [List.flatten_cons, List.cons_append, Fragment.toList_text_raw, Fragment.text_append,
        hvalues]
      simpa using hlexes
    · rw [leaves]
      cases c.connector with
      | or => exact .more (.one hfirst) hrest
      | and =>
        obtain ⟨run, others, hruns⟩ :=
          exists_runs (c.leaf bound) (leaves (bound + c.values.length) rest)
        rw [hruns] at hrest
        rw [runs, hruns]
        exact reads_and hfirst hrest

/-- A clause that is rendered is written, against the values that were bound before. -/
theorem clause?_of_render {conditions : List Condition} {p q : ParamList} {clause : Option String}
    (h : render conditions p = (.ok clause, q)) :
    ∃ f, clause? conditions = .ok f ∧ clause = f.map (Fragment.text p.size)
      ∧ q.values = p.values ++ conditions.flatMap Condition.values := by
  cases hclause : clause? conditions with
  | error e =>
    obtain ⟨r, hr⟩ := render_of_clause?_error hclause p
    cases h.symm.trans hr
  | ok f =>
    rw [render_of_clause? hclause] at h
    obtain ⟨htext, rfl⟩ := Prod.mk.inj h
    refine ⟨f, rfl, (Except.ok.inj htext).symm, ?_⟩
    rw [← values_of_clause? hclause]
    rfl

/-- **A clause means what its conditions say**, wherever its values are numbered from. -/
theorem denotes_of_clause? {conditions : List Condition} {written : Fragment}
    (hcolumns : ∀ c ∈ conditions, IsColumn c.field)
    (h : clause? conditions = .ok (some written)) (bound : Nat) :
    ∃ body, written.text bound = "WHERE " ++ body
      ∧ Denotes body (formula bound conditions) := by
  rcases eq_of_clause? h with ⟨-, hnone⟩ | ⟨first, rest, f, fs, rfl, hf, hfs, hsome⟩
  · cases hnone
  · obtain rfl := Option.some.inj hsome
    rw [List.forall_mem_cons] at hcolumns
    obtain ⟨ss, hss, hfirst⟩ := Condition.reads_of_fragment hf hcolumns.1 bound
    obtain ⟨ts, hts, hrest⟩ :=
      reads_runs hfs hcolumns.2 (bound + first.values.length) hss hfirst
    have hvalues := Condition.values_of_form (Condition.form_of_fragment hf)
    refine ⟨Fragment.text bound (f ++ fs.flatten), ?_, ts, ?_, hrest⟩
    · show Fragment.text bound (.raw "WHERE " :: (f ++ fs.flatten)) = _
      rw [Fragment.text, Fragment.spell, String.join_cons]
      rfl
    · rw [Fragment.text_append, String.toList_append, hvalues]
      exact hts.tokens?

theorem denotes_formula {conditions : List Condition} {p q : ParamList} {clause : Option String}
    (hcolumns : ∀ c ∈ conditions, IsColumn c.field) (hne : conditions ≠ [])
    (h : render conditions p = (.ok clause, q)) :
    ∃ body, clause = some ("WHERE " ++ body) ∧ Denotes body (formula p.size conditions) := by
  obtain ⟨clause, hclause, rfl, -⟩ := clause?_of_render h
  cases clause with
  | none =>
    rcases eq_of_clause? hclause with ⟨hnil, -⟩ | ⟨_, _, _, _, _, _, _, hsome⟩
    · exact absurd hnil hne
    · cases hsome
  | some written =>
    obtain ⟨body, hbody, hdenotes⟩ := denotes_of_clause? hcolumns hclause p.size
    exact ⟨body, congrArg some hbody, hdenotes⟩

/-! ## Reading conditions back -/

/-- **Runs are told apart** by their formulas and by where they begin. -/
theorem runs_inj {f g : Formula} {as bs : List (Connector × Formula)}
    (h : runs f as = runs g bs) : f = g ∧ as = bs := by
  induction as generalizing f g bs with
  | nil =>
    cases bs with
    | nil => exact ⟨List.cons.inj (List.cons.inj h).1 |>.1, rfl⟩
    | cons b bs =>
      obtain ⟨connector, b⟩ := b
      obtain ⟨run, others, hb⟩ := exists_runs b bs
      cases connector <;> simp [runs, hb] at h
  | cons a as ih =>
    obtain ⟨connector, a⟩ := a
    obtain ⟨run, others, ha⟩ := exists_runs a as
    cases bs with
    | nil => cases connector <;> simp [runs, ha] at h
    | cons b bs =>
      obtain ⟨connector', b⟩ := b
      obtain ⟨run', others', hb⟩ := exists_runs b bs
      have hrest : (connector = connector' ∧ f = g) ∧ runs a as = runs b bs := by
        cases connector <;> cases connector' <;> simp_all [runs]
      obtain ⟨rfl, rfl⟩ := ih hrest.2
      obtain ⟨rfl, rfl⟩ := hrest.1
      exact ⟨rfl, rfl⟩

/-- Conditions that say the same with the same connectors, wherever they are numbered from. -/
theorem forall₂_of_leaves {m n : Nat} {conditions others : List Condition}
    (h : leaves m conditions = leaves n others) :
    conditions.map Condition.connector = others.map Condition.connector
      ∧ List.Forall₂ (fun c d => ∃ m n, c.leaf m = d.leaf n) conditions others := by
  induction conditions generalizing m n others with
  | nil =>
    cases others with
    | nil => exact ⟨rfl, .nil⟩
    | cons d others => cases h
  | cons c conditions ih =>
    cases others with
    | nil => cases h
    | cons d others =>
      obtain ⟨hcd, hrest⟩ := List.cons.inj h
      obtain ⟨hconnectors, hleaves⟩ := ih hrest
      obtain ⟨hconnector, hleaf⟩ := Prod.mk.inj hcd
      exact ⟨by rw [List.map_cons, List.map_cons, hconnector, hconnectors],
        .cons ⟨m, n, hleaf⟩ hleaves⟩

/-- **A formula tells its conditions apart**, and their connectors but for the first. -/
theorem forall₂_of_formula {m n : Nat} {conditions others : List Condition}
    (h : formula m conditions = formula n others) :
    conditions.tail.map Condition.connector = others.tail.map Condition.connector
      ∧ List.Forall₂ (fun c d => ∃ m n, c.leaf m = d.leaf n) conditions others := by
  have hne (f : Formula) (rest : List (Connector × Formula)) :
      (runs f rest).map (Formula.joined .and) ≠ [] := by
    obtain ⟨run, others, hruns⟩ := exists_runs f rest
    rw [hruns]
    exact List.cons_ne_nil _ _
  cases conditions with
  | nil =>
    cases others with
    | nil => exact ⟨rfl, .nil⟩
    | cons d others => exact absurd (Formula.joined.inj h).2.symm (hne _ _)
  | cons c conditions =>
    cases others with
    | nil => exact absurd (Formula.joined.inj h).2 (hne _ _)
    | cons d others =>
      have hjoined : Function.Injective (Formula.joined .and) :=
        fun _ _ h => (Formula.joined.inj h).2
      obtain ⟨hleaf, hrest⟩ :=
        runs_inj (List.map_injective_iff.mpr hjoined (Formula.joined.inj h).2)
      obtain ⟨hconnectors, hleaves⟩ := forall₂_of_leaves hrest
      exact ⟨hconnectors, .cons ⟨_, _, hleaf⟩ hleaves⟩

end Where

namespace Condition

/-- The operand that is written as values. -/
def operandOf : OperandShape → List Value → Operand
  | .single, [v] => .single v
  | .pair, [low, high] => .pair low high
  | .list, values => .list values
  | _, _ => .none

theorem operand_eq_of_form {c : Condition} {f : Fragment} (h : c.Form f)
    (hshape : c.operator.shape ≠ .nothing) : c.operand = operandOf c.operator.shape c.values := by
  cases h with
  | nothing h => exact absurd h hshape
  | single v h hoperand => rw [values, h, hoperand]; rfl
  | pair low high h hoperand => rw [values, h, hoperand]; rfl
  | emptyList h hoperand => rw [values, h, hoperand]; rfl
  | list vs h hoperand => rw [values, h, hoperand]; rfl

/-- Conditions that say the same have as many values. -/
theorem length_values_of_leaf {c d : Condition} {m n : Nat} (h : c.leaf m = d.leaf n) :
    c.values.length = d.values.length := by
  rcases c.leaf_cases m with ⟨hshape, hoperand, hc⟩ | hc <;>
    rcases d.leaf_cases n with ⟨hshape', hoperand', hd⟩ | hd <;> rw [hc, hd] at h
  · rw [values, values, hshape, hshape', hoperand, hoperand']
  · cases h
  · cases h
  · have hlength := congrArg List.length (Formula.predicate.inj h).2.2
    rwa [placeholders, placeholders, List.length_map, List.length_map, List.length_range',
      List.length_range'] at hlength

/-- **Conditions that say the same of the same values are written alike.** -/
theorem writtenAlike_of_leaf {c d : Condition} {f g : Fragment} {m n : Nat} (hc : c.Form f)
    (hd : d.Form g) (h : c.leaf m = d.leaf n) (hvalues : c.values = d.values) :
    c.WrittenAlike d := by
  rcases c.leaf_cases m with ⟨hshape, hoperand, hleaf⟩ | hleaf <;>
    rcases d.leaf_cases n with ⟨hshape', hoperand', hleaf'⟩ | hleaf' <;> rw [hleaf, hleaf'] at h
  · have htruth := Scalar.truth.inj (Formula.scalar.inj h)
    refine .emptyList ?_ hshape hoperand hoperand'
    cases hop : c.operator <;> cases hop' : d.operator <;> simp_all [Operator.shape]
  · cases h
  · cases h
  · obtain ⟨hfield, hoperator, -⟩ := Formula.predicate.inj h
    have hfield := Scalar.column.inj hfield
    by_cases hshape : c.operator.shape = .nothing
    · exact .noOperand hoperator hfield hshape
    · refine .same hoperator hfield ?_
      rw [operand_eq_of_form hc hshape, operand_eq_of_form hd (hoperator ▸ hshape), hoperator,
        hvalues]

end Condition

namespace Where

/-- The conditions of a written clause have forms. -/
theorem form_of_clause? {conditions : List Condition} {clause : Option Fragment}
    (h : clause? conditions = .ok clause) {c : Condition} (hc : c ∈ conditions) :
    ∃ f, c.Form f := by
  rcases eq_of_clause? h with ⟨rfl, -⟩ | ⟨first, rest, f, fs, rfl, hf, hfs, -⟩
  · cases hc
  · rcases List.mem_cons.mp hc with rfl | hc
    · exact ⟨f, Condition.form_of_fragment hf⟩
    · obtain ⟨_, -, g, hg, -⟩ := exists_of_forall₂_right hfs.flip hc
      exact ⟨g, Condition.form_of_fragment hg⟩

theorem length_flatMap_values {conditions others : List Condition}
    (h : List.Forall₂ (fun c d => ∃ m n, c.leaf m = d.leaf n) conditions others) :
    (conditions.flatMap Condition.values).length = (others.flatMap Condition.values).length := by
  induction h with
  | nil => rfl
  | cons hleaf _ ih =>
    obtain ⟨m, n, hleaf⟩ := hleaf
    rw [List.flatMap_cons, List.flatMap_cons, List.length_append, List.length_append, ih,
      Condition.length_values_of_leaf hleaf]

/-- **Lists that say the same of the same values are written alike.** -/
theorem forall₂_writtenAlike {conditions others : List Condition}
    (h : List.Forall₂ (fun c d => ∃ m n, c.leaf m = d.leaf n) conditions others)
    (hforms : ∀ c ∈ conditions, ∃ f, c.Form f) (hforms' : ∀ d ∈ others, ∃ f, d.Form f)
    (hvalues : conditions.flatMap Condition.values = others.flatMap Condition.values) :
    List.Forall₂ Condition.WrittenAlike conditions others := by
  induction h with
  | nil => exact .nil
  | cons hleaf _ ih =>
    rw [List.forall_mem_cons] at hforms hforms'
    obtain ⟨m, n, hleaf⟩ := hleaf
    obtain ⟨⟨f, hf⟩, hforms⟩ := hforms
    obtain ⟨⟨g, hg⟩, hforms'⟩ := hforms'
    obtain ⟨hfirst, hrest⟩ := List.append_inj hvalues (Condition.length_values_of_leaf hleaf)
    exact .cons (Condition.writtenAlike_of_leaf hf hg hleaf hfirst) (ih hforms hforms' hrest)

/-- **A WHERE clause means its conditions.** The text behind WHERE denotes one formula and no other:
in one of the runs of conditions, cut before each one but the first that is joined by OR, all
conditions hold, each of them with placeholders of its own for its values, or a truth value in the
place of an empty list. Two lists with the same clause and the same parameters are therefore written
alike, with the same connectors but for the first. -/
theorem denotes_of_render {conditions : List Condition} {p q : ParamList} {clause : Option String}
    (hcolumns : ∀ c ∈ conditions, IsColumn c.field) (hne : conditions ≠ [])
    (h : render conditions p = (.ok clause, q)) :
    (∃ body, clause = some ("WHERE " ++ body)
        ∧ ∀ f, Denotes body f ↔ f = formula p.size conditions)
      ∧ q.values = p.values ++ conditions.flatMap Condition.values
      ∧ ∀ (others : List Condition) (p' : ParamList), (∀ c ∈ others, IsColumn c.field) →
        render others p' = (.ok clause, q) →
        List.Forall₂ Condition.WrittenAlike conditions others
          ∧ conditions.tail.map Condition.connector = others.tail.map Condition.connector := by
  obtain ⟨body, hbody, hdenotes⟩ := denotes_formula hcolumns hne h
  obtain ⟨written, hwritten, -, hvalues⟩ := clause?_of_render h
  refine ⟨⟨body, hbody, fun f => ⟨fun hf => hf.unique hdenotes, ?_⟩⟩, hvalues, ?_⟩
  · rintro rfl
    exact hdenotes
  · intro others p' hcolumns' h'
    obtain ⟨written', hwritten', hclause', hvalues'⟩ := clause?_of_render h'
    have hne' : others ≠ [] := by
      rintro rfl
      cases hwritten'
      rw [hbody] at hclause'
      cases hclause'
    obtain ⟨body', hbody', hdenotes'⟩ := denotes_formula hcolumns' hne' h'
    obtain rfl : body = body' := by
      have htext := Option.some.inj (hbody.symm.trans hbody')
      exact String.append_right_inj _ |>.mp htext
    obtain ⟨hconnectors, hleaves⟩ := forall₂_of_formula (hdenotes.unique hdenotes')
    obtain ⟨-, hsame⟩ :=
      List.append_inj' (hvalues.symm.trans hvalues') (length_flatMap_values hleaves)
    exact ⟨forall₂_writtenAlike hleaves (fun _ => form_of_clause? hwritten)
      (fun _ => form_of_clause? hwritten') hsame, hconnectors⟩

/-- A range with AND behind it, and lists that are empty. -/
def ranges : List Condition :=
  [⟨"price", .notBetween, .pair (.int 5) (.int 10), .or⟩, ⟨"color", .oneOf, .list [], .and⟩,
    ⟨"s.name", .isNotNull, .none, .or⟩, ⟨"size", .noneOf, .list [], .and⟩]

theorem denotes_of_render_ranges :
    (∃ q, render ranges ⟨[.bool true]⟩ = (.ok (some ("WHERE "
        ++ "price NOT BETWEEN $2 AND $3 AND FALSE OR s.name IS NOT NULL AND TRUE")), q))
      ∧ ∀ f, Denotes "price NOT BETWEEN $2 AND $3 AND FALSE OR s.name IS NOT NULL AND TRUE" f
        ↔ f = .joined .or
          [.joined .and [.predicate (.column "price") .notBetween [.placeholder 2, .placeholder 3],
            .scalar (.truth false)],
          .joined .and [.predicate (.column "s.name") .isNotNull [], .scalar (.truth true)]] := by
  have hcolumns : ∀ c ∈ ranges, IsColumn c.field := by
    simp only [ranges, List.forall_mem_cons, List.not_mem_nil, false_imp_iff, implies_true,
      and_true]
    exact ⟨⟨⟨"column", rfl⟩, rfl⟩, ⟨⟨"column", rfl⟩, rfl⟩, ⟨⟨"column", rfl⟩, rfl⟩,
      ⟨"column", rfl⟩, rfl⟩
  have hrender : render ranges ⟨[.bool true]⟩ = (.ok (some ("WHERE "
      ++ "price NOT BETWEEN $2 AND $3 AND FALSE OR s.name IS NOT NULL AND TRUE")), _) := rfl
  obtain ⟨⟨body, hbody, hdenotes⟩, -⟩ := denotes_of_render hcolumns (List.cons_ne_nil _ _) hrender
  obtain rfl := String.append_right_inj _ |>.mp (Option.some.inj hbody)
  exact ⟨⟨_, hrender⟩, hdenotes⟩

end Where

end PgStatement
