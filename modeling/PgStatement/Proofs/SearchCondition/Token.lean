import PgStatement.Condition.Basic
import PgStatement.Proofs.Digits
import PgStatement.Proofs.Identifier

/-!
# Tokens of search conditions

What stands behind WHERE is text, and what the server makes of it begins with its tokens. They are
found from left to right, each of them as long as it can be: a name goes on for as long as
characters of names follow, so that a keyword is one only if it stands alone, in whatever case it is
written. Names with points in them are single tokens here.

Whether two texts may be written one after the other is a question of their neighbouring characters.
Every word, placeholder and sign of comparison that a clause has is followed by a blank, a comma, a
parenthesis or nothing, and none of these can go on a token. `Lexes` says what a text gives in front
of all such neighbours, and is all that is used of the tokens elsewhere.
-/

namespace PgStatement.SearchCondition

/-- The words of clauses that name nothing. -/
inductive Keyword where
  | clause | and | or | not | between | oneOf | is | null | like | ilike | true | false
  deriving DecidableEq

namespace Keyword

/-- The keyword in SQL. -/
def text : Keyword → String
  | .clause => "WHERE"
  | .and => "AND"
  | .or => "OR"
  | .not => "NOT"
  | .between => "BETWEEN"
  | .oneOf => "IN"
  | .is => "IS"
  | .null => "NULL"
  | .like => "LIKE"
  | .ilike => "ILIKE"
  | .true => "TRUE"
  | .false => "FALSE"

/-- The keywords. -/
def all : List Keyword :=
  [.clause, .and, .or, .not, .between, .oneOf, .is, .null, .like, .ilike, .true, .false]

/-- The keyword that a word is, in whatever case it is written. -/
def ofWord? (word : List Char) : Option Keyword :=
  all.find? fun k => word.map Char.toUpper = k.text.toList

end Keyword

/-- **A token.** -/
inductive Token where
  /-- A keyword. -/
  | keyword (k : Keyword)
  /-- A name, with or without points in it. -/
  | name (text : String)
  /-- A placeholder. -/
  | placeholder (number : Nat)
  /-- A sign of comparison. -/
  | sign (text : String)
  | leftParenthesis | rightParenthesis | comma
  deriving DecidableEq

/-- The kinds of tokens, which first characters tell apart. -/
inductive Lexeme where
  | word | placeholder | sign | mark

/-- A character that signs of comparison are made of. -/
def isSign (c : Char) : Bool := c == '=' || c == '!' || c == '<' || c == '>'

/-- A character that is a token by itself. -/
def isMark (c : Char) : Bool := c == '(' || c == ')' || c == ','

namespace Lexeme

/-- The kind of token that a character starts. -/
def of? (c : Char) : Option Lexeme :=
  if Identifier.isStart c then some .word
  else if c == '$' then some .placeholder
  else if isSign c then some .sign
  else if isMark c then some .mark
  else none

/-- Whether a character goes on a token of a kind. -/
def goesOn : Lexeme → Char → Bool
  | .word, c => Identifier.isFollowing c || c == '.'
  | .placeholder, c => Text.isDecimalDigit c
  | .sign, c => isSign c
  | .mark, _ => false

/-- The token of a kind that is spelled so: a first character and those that go on. -/
def token? (first : Char) (more : List Char) : Lexeme → Option Token
  | .word =>
    match Keyword.ofWord? (first :: more) with
    | some k => some (.keyword k)
    | none => some (.name (String.ofList (first :: more)))
  | .placeholder =>
    if more.isEmpty then none else some (.placeholder (Text.ofDecimalChars more))
  | .sign => some (.sign (String.ofList (first :: more)))
  | .mark =>
    if first == '(' then some .leftParenthesis
    else if first == ')' then some .rightParenthesis
    else some .comma

end Lexeme

/-- **The tokens of a text**; none if something in it is no token. -/
def tokens? : List Char → Option (List Token)
  | [] => some []
  | c :: cs =>
    if c.isWhitespace then tokens? cs
    else do
      let kind ← Lexeme.of? c
      let token ← kind.token? c (cs.takeWhile kind.goesOn)
      let tokens ← tokens? (cs.dropWhile kind.goesOn)
      return token :: tokens
termination_by cs => cs.length
decreasing_by
  · exact Nat.lt_succ_self _
  · exact Nat.lt_succ_of_le (List.dropWhile_sublist _).length_le

/-- **A name that is no keyword**, and that may therefore stand for a column. -/
def IsColumn (field : String) : Prop :=
  (∃ role, Identifier.check role field = .ok ()) ∧ Keyword.ofWord? field.toList = none

/-! ## Neighbours -/

/-- A character that can go on no token. -/
def isBreak (c : Char) : Bool := c == ' ' || isMark c

/-- What may stand behind any token. -/
def Apart (rest : List Char) : Prop := ∀ c ∈ rest.head?, isBreak c = true

/-- **A text has these tokens**, in front of whatever may stand behind a token. -/
def Lexes (cs : List Char) (ts : List Token) : Prop :=
  ∀ rest, Apart rest → tokens? (cs ++ rest) = (ts ++ ·) <$> tokens? rest

theorem goesOn_eq_false_of_isBreak (kind : Lexeme) {c : Char} (h : isBreak c = true) :
    kind.goesOn c = false := by
  simp only [isBreak, isMark, Bool.or_eq_true, beq_iff_eq] at h
  rcases h with rfl | (rfl | rfl) | rfl <;> cases kind <;> decide

theorem tokens?_nil : tokens? [] = some [] := by rw [tokens?]

/-- Blanks between tokens do not matter. -/
theorem tokens?_blank (cs : List Char) : tokens? (' ' :: cs) = tokens? cs := by
  rw [tokens?, if_pos (by decide)]

/-- No token starts with a blank. -/
theorem isWhitespace_of_lexeme {c : Char} {kind : Lexeme} (h : Lexeme.of? c = some kind) :
    c.isWhitespace = false := by
  refine Bool.eq_false_iff.mpr fun hblank => ?_
  simp only [Char.isWhitespace, Bool.or_eq_true, decide_eq_true_eq] at hblank
  rcases hblank with ((rfl | rfl) | rfl) | rfl <;> cases h

/-- **A token is as long as it can be.** -/
theorem tokens?_token {kind : Lexeme} {first : Char} {more rest : List Char} {token : Token}
    (hfirst : Lexeme.of? first = some kind) (hmore : ∀ c ∈ more, kind.goesOn c = true)
    (hrest : ∀ c ∈ rest.head?, kind.goesOn c = false)
    (htoken : kind.token? first more = some token) :
    tokens? (first :: (more ++ rest)) = (token :: ·) <$> tokens? rest := by
  obtain ⟨htake, hdrop⟩ := Text.span_append hmore hrest
  rw [tokens?, isWhitespace_of_lexeme hfirst, hfirst, if_neg Bool.false_ne_true]
  show (kind.token? first ((more ++ rest).takeWhile kind.goesOn) >>= fun token =>
    tokens? ((more ++ rest).dropWhile kind.goesOn) >>= fun tokens => some (token :: tokens)) = _
  rw [htake, hdrop, htoken]
  cases tokens? rest <;> rfl

/-- A token may stand before whatever cannot go it on. -/
theorem lexes_token {kind : Lexeme} {first : Char} {more : List Char} {token : Token}
    (hfirst : Lexeme.of? first = some kind) (hmore : ∀ c ∈ more, kind.goesOn c = true)
    (htoken : kind.token? first more = some token) : Lexes (first :: more) [token] :=
  fun _ hrest => tokens?_token hfirst hmore
    (fun c hc => goesOn_eq_false_of_isBreak kind (hrest c hc)) htoken

/-! ## Texts that are put together -/

/-- Texts may be written one after the other if the second one starts with a break. -/
theorem Lexes.append {as bs : List Char} {ss ts : List Token} {c : Char} (ha : Lexes as ss)
    (hb : Lexes (c :: bs) ts) (hc : isBreak c = true) : Lexes (as ++ c :: bs) (ss ++ ts) := by
  intro rest hrest
  have hapart : Apart (c :: bs ++ rest) := fun d hd => Option.some.inj hd ▸ hc
  rw [List.append_assoc, ha _ hapart, hb rest hrest]
  cases tokens? rest with
  | none => rfl
  | some us => exact congrArg some (List.append_assoc ss ts us).symm

/-- A blank may stand before anything. -/
theorem Lexes.indent {cs : List Char} {ts : List Token} (h : Lexes cs ts) :
    Lexes (' ' :: cs) ts := by
  intro rest hrest
  rw [List.cons_append, tokens?_blank, h rest hrest]

/-- **Texts with a blank between** have the tokens of both. -/
theorem Lexes.blank {as bs : List Char} {ss ts : List Token} (ha : Lexes as ss)
    (hb : Lexes bs ts) : Lexes (as ++ ' ' :: bs) (ss ++ ts) :=
  ha.append hb.indent rfl

/-- A parenthesis or a comma may stand before anything. -/
theorem Lexes.mark {c : Char} {token : Token} {cs : List Char} {ts : List Token}
    (h : Lexes cs ts) (hmark : Lexeme.of? c = some .mark)
    (htoken : Lexeme.mark.token? c [] = some token) : Lexes (c :: cs) (token :: ts) := by
  intro rest hrest
  have hfirst : SearchCondition.tokens? (c :: ([] ++ (cs ++ rest))) = _ :=
    tokens?_token hmark (fun _ hd => absurd hd List.not_mem_nil) (fun _ _ => rfl) htoken
  rw [List.nil_append, h rest hrest] at hfirst
  rw [List.cons_append, hfirst]
  cases SearchCondition.tokens? rest <;> rfl

theorem lexes_nil : Lexes [] [] := by
  intro rest _
  rw [List.nil_append]
  cases tokens? rest <;> rfl

/-- The tokens of a text that nothing follows. -/
theorem Lexes.tokens? {cs : List Char} {ts : List Token} (h : Lexes cs ts) :
    tokens? cs = some ts := by
  have hend := h [] nofun
  rw [List.append_nil, tokens?_nil] at hend
  exact hend.trans (congrArg some (List.append_nil ts))

/-! ## Words, placeholders and signs -/

/-- A keyword is itself. -/
theorem lexes_keyword (k : Keyword) : Lexes k.text.toList [.keyword k] := by
  cases k <;> exact lexes_token (rfl : _ = some Lexeme.word) (List.all_eq_true.mp rfl) rfl

/-- **A column is a name.** -/
theorem lexes_column {field : String} (h : IsColumn field) :
    Lexes field.toList [.name field] := by
  obtain ⟨⟨role, hcheck⟩, hword⟩ := h
  obtain ⟨c, cs, hfield, hstart, hfollowing⟩ :=
    Identifier.exists_cons_of_isIdentifier (Identifier.check_eq_ok_iff.mp hcheck)
  have hmore : ∀ d ∈ cs, Lexeme.word.goesOn d = true := fun d hd => by
    rw [Lexeme.goesOn, Bool.or_eq_true, beq_iff_eq]
    exact hfollowing d hd
  rw [hfield] at hword ⊢
  refine lexes_token (if_pos hstart) hmore ?_
  rw [Lexeme.token?, hword, ← hfield, String.ofList_toList]

/-- **A placeholder is a placeholder.** -/
theorem lexes_placeholder (n : Nat) : Lexes (placeholder n).toList [.placeholder n] := by
  rw [placeholder, String.toList_append, Text.toList_decimal]
  refine lexes_token (rfl : _ = some Lexeme.placeholder)
    (fun c hc => Text.isDecimalDigit_of_mem_decimalChars hc) ?_
  show (if (Text.decimalChars n).isEmpty = true then none
    else some (Token.placeholder (Text.ofDecimalChars (Text.decimalChars n)))) = _
  rw [if_neg (by simpa using Text.decimalChars_ne_nil n), Text.ofDecimalChars_decimalChars]

/-- A sign of comparison is itself. -/
theorem lexes_sign {first : Char} {more : List Char} (hfirst : Lexeme.of? first = some .sign)
    (hmore : ∀ c ∈ more, isSign c = true) :
    Lexes (first :: more) [.sign (String.ofList (first :: more))] :=
  lexes_token hfirst hmore rfl

end PgStatement.SearchCondition
