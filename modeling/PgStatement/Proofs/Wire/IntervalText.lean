import PgStatement.Proofs.Result
import PgStatement.Proofs.Wire.Clock

/-!
# Intervals are read back

The text of an interval is a row of words: years, months and days, each a number and the word for
what it counts, and at the end a time. Parts that are zero are left out, and a part has a sign if it
needs one. Here is the reader of such texts (`Interval.fields?`). It takes the words two by two and
looks up the second one among the components that may still come, so that it accepts them in their
order only; a single word at the end is a time. What the parts say is put together by
`Interval.ofFields`.

The writer goes through the components with the number that it wrote last, since that decides about
the sign of the next one. `fieldsAfter` is what it writes, part by part, and the text is taken apart
into it in two steps: the writer's parts are those of the components that are not zero (`parts_eq`),
and the words of such a row are read as the row (`fieldsIn?_words`). Then everything is known about
the text from the row, which parts are in it and which signs they have
(`Interval.readable_from_text`).
-/

namespace PgStatement.Wire.Interval

open Text

/-! ## The reader -/

/-- **What a part of an interval counts.** -/
inductive Component where
  | years | months | days | time
  deriving DecidableEq

/-- The sign of a number as it is written. -/
inductive WrittenSign where
  | unsigned | minus | plus
  deriving DecidableEq

/-- **A part of an interval** as it is written. -/
structure Field where
  /-- What it counts. -/
  component : Component
  /-- The sign in front. -/
  sign : WrittenSign
  /-- The number without its sign; microseconds, if it is a time. -/
  magnitude : Nat
  deriving DecidableEq

/-- The number with its sign. -/
def Field.value (f : Field) : Int := if f.sign = .minus then -f.magnitude else f.magnitude

/-- The word for a component; a time has none. -/
def Component.word : Component → List Char
  | .years => ['y', 'e', 'a', 'r']
  | .months => ['m', 'o', 'n']
  | .days => ['d', 'a', 'y']
  | .time => []

/-- Whether a word stands for a component, in the singular or in the plural. -/
def Component.isNamed (c : Component) (word : List Char) : Bool :=
  word == c.word || word == c.word ++ ['s']

/-- A sign or none, and what follows it. -/
def splitSign : List Char → WrittenSign × List Char
  | '-' :: cs => (.minus, cs)
  | '+' :: cs => (.plus, cs)
  | cs => (.unsigned, cs)

/-- A part with its sign, if what follows the sign can be read. -/
def field? (c : Component) (read : List Char → Option Nat) (cs : List Char) : Option Field :=
  (read (splitSign cs).2).map (⟨c, (splitSign cs).1, ·⟩)

/-- The parts in a row of words, of the components that may still come. A number is followed by the
word for what it counts; a single word at the end is a time. -/
def fieldsIn? : List Component → List (List Char) → Option (List Field)
  | _, [] => some []
  | _, [time] => (field? .time Clock.micros? time).map ([·])
  | coming, number :: word :: words =>
    match coming.dropWhile (!·.isNamed word) with
    | [] => none
    | c :: coming => do
      let field ← field? c number? number
      let fields ← fieldsIn? coming words
      return field :: fields

/-- **The parts of an interval** from its text. -/
def fields? (text : String) : Option (List Field) :=
  fieldsIn? [.years, .months, .days] (text.toList.splitOn ' ')

/-- How many of a component there are: none, if it is not written. -/
def amount (fields : List Field) (c : Component) : Int :=
  ((fields.find? (·.component = c)).map Field.value).getD 0

/-- **The interval that is written** in parts, a year being twelve months. -/
def ofFields (fields : List Field) : Interval where
  micros := amount fields .time
  days := amount fields .days
  months := 12 * amount fields .years + amount fields .months

/-! ## What is written -/

/-- The components of an interval. Months are divided toward zero, so that years and months have the
same sign. -/
def component (i : Interval) : Component → Int
  | .years => i.months.tdiv 12
  | .months => i.months.tmod 12
  | .days => i.days
  | .time => i.micros

/-- All components in the order in which they are written. -/
def Component.all : List Component := [.years, .months, .days, .time]

/-- **A component is written** if it is not zero, and the time also if there is nothing else. -/
def IsWritten (i : Interval) (c : Component) : Prop :=
  i.component c ≠ 0 ∨ c = .time ∧ i = ⟨0, 0, 0⟩

instance (i : Interval) (c : Component) : Decidable (i.IsWritten c) :=
  inferInstanceAs (Decidable (_ ∨ _))

/-- **Signs as they are needed**: a minus for a part below zero, and a plus for one above zero
directly behind one below. -/
def HasSigns (fields : List Field) : Prop :=
  ∀ front f back, fields = front ++ f :: back →
    (f.sign = .minus ↔ f.value < 0)
      ∧ (f.sign = .plus ↔ 0 < f.value ∧ ∃ g ∈ front.getLast?, g.value < 0)

variable {v : Component → Int} {before : Int} {c : Component} {cs coming : List Component}

/-- The sign that a number needs behind another one. -/
def signAfter (before value : Int) : WrittenSign :=
  if value < 0 then .minus else if 0 < value ∧ before < 0 then .plus else .unsigned

/-- A component with its number, behind another number. -/
def fieldAfter (v : Component → Int) (before : Int) (c : Component) : Field where
  component := c
  sign := signAfter before (v c)
  magnitude := (v c).natAbs

/-- Components with their numbers, one after the other. -/
def fieldsAfter (v : Component → Int) (before : Int) : List Component → List Field
  | [] => []
  | c :: cs => fieldAfter v before c :: fieldsAfter v (v c) cs

/-- The last number, if there is one. -/
def lastAfter (v : Component → Int) (before : Int) : List Component → Int
  | [] => before
  | c :: cs => lastAfter v (v c) cs

theorem signAfter_eq_minus_iff {before value : Int} :
    signAfter before value = .minus ↔ value < 0 := by
  unfold signAfter
  split
  · rename_i h
    exact iff_of_true rfl h
  · rename_i h
    refine iff_of_false ?_ h
    split
    · exact nofun
    · exact nofun

theorem signAfter_eq_plus_iff {before value : Int} :
    signAfter before value = .plus ↔ 0 < value ∧ before < 0 := by
  unfold signAfter
  split
  · exact iff_of_false nofun (by omega)
  · split
    · rename_i h
      exact iff_of_true rfl h
    · rename_i h
      exact iff_of_false nofun h

theorem value_fieldAfter (v : Component → Int) (before : Int) (c : Component) :
    (fieldAfter v before c).value = v c := by
  have hsign : (fieldAfter v before c).sign = .minus ↔ v c < 0 := signAfter_eq_minus_iff
  have hmagnitude : ((fieldAfter v before c).magnitude : Int) = (v c).natAbs := rfl
  rw [Field.value, hmagnitude]
  simp only [hsign]
  split
  · omega
  · omega

theorem map_component_fieldsAfter (cs : List Component) :
    (fieldsAfter v before cs).map Field.component = cs := by
  induction cs generalizing before with
  | nil => rfl
  | cons c cs ih => exact congrArg (c :: ·) ih

theorem fieldsAfter_concat (v : Component → Int) (before : Int) (cs : List Component)
    (c : Component) :
    fieldsAfter v before (cs ++ [c])
      = fieldsAfter v before cs ++ [fieldAfter v (lastAfter v before cs) c] := by
  induction cs generalizing before with
  | nil => rfl
  | cons d cs ih => exact congrArg (fieldAfter v before d :: ·) (ih (v d))

theorem value_of_mem_fieldsAfter {f : Field} (h : f ∈ fieldsAfter v before cs) :
    f.value = v f.component := by
  induction cs generalizing before with
  | nil => cases h
  | cons c cs ih =>
    obtain rfl | h := List.mem_cons.mp h
    · exact value_fieldAfter v before c
    · exact ih h

/-- A component is read with its number, and without one if it is not written. -/
theorem amount_fieldsAfter (cs : List Component) (c : Component) :
    amount (fieldsAfter v before cs) c = if c ∈ cs then v c else 0 := by
  induction cs generalizing before with
  | nil => rfl
  | cons d cs ih =>
    by_cases h : d = c
    · subst h
      have hfound : decide ((fieldAfter v before d).component = d) = true := decide_eq_true rfl
      rw [if_pos List.mem_cons_self, amount, fieldsAfter,
        List.find?_cons_of_pos (p := fun f : Field => decide (f.component = d)) hfound]
      exact value_fieldAfter v before d
    · have hmem : c ∈ d :: cs ↔ c ∈ cs := List.mem_cons.trans (or_iff_right (Ne.symm h))
      have hother : ¬decide ((fieldAfter v before d).component = c) = true :=
        fun hfound => h (of_decide_eq_true hfound)
      rw [amount, fieldsAfter,
        List.find?_cons_of_neg (p := fun f : Field => decide (f.component = c)) hother]
      simp only [hmem]
      exact ih

/-- The parts of a row have the signs that they need. The induction moves the number that stands
before the row into it. -/
theorem sign_of_fieldsAfter {front back : List Field} {f : Field}
    (h : fieldsAfter v before cs = front ++ f :: back) :
    (f.sign = .minus ↔ f.value < 0)
      ∧ (f.sign = .plus ↔ 0 < f.value ∧ (front.getLast?.map Field.value).getD before < 0) := by
  induction cs generalizing before front with
  | nil => cases front <;> cases h
  | cons c cs ih =>
    cases front with
    | nil =>
      obtain ⟨rfl, -⟩ := List.cons.inj h
      rw [value_fieldAfter]
      exact ⟨signAfter_eq_minus_iff, signAfter_eq_plus_iff⟩
    | cons g front =>
      obtain ⟨rfl, hrest⟩ := List.cons.inj h
      obtain ⟨hminus, hplus⟩ := ih hrest
      refine ⟨hminus, hplus.trans ?_⟩
      cases front with
      | nil =>
        rw [List.getLast?_singleton, Option.map_some, value_fieldAfter]
        rfl
      | cons g front =>
        rw [List.getLast?_cons_cons, List.getLast?_cons, Option.map_some, Option.getD_some,
          Option.getD_some]

theorem hasSigns_fieldsAfter (v : Component → Int) (cs : List Component) :
    HasSigns (fieldsAfter v 0 cs) := by
  intro front f back h
  obtain ⟨hminus, hplus⟩ := sign_of_fieldsAfter h
  refine ⟨hminus, hplus.trans (and_congr_right fun _ => ?_)⟩
  cases front.getLast? with
  | none => exact iff_of_false (Int.lt_irrefl 0) nofun
  | some g => exact ⟨fun hg => ⟨g, rfl, hg⟩, fun ⟨_, hmem, hg⟩ => Option.some.inj hmem ▸ hg⟩

/-! ## The words of a text -/

/-- The characters of a sign. -/
def WrittenSign.chars : WrittenSign → List Char
  | .unsigned => []
  | .minus => ['-']
  | .plus => ['+']

/-- The words of a part: a number and what it counts, or a time. -/
def Field.words (f : Field) : List (List Char) :=
  if f.component = .time then [f.sign.chars ++ timeChars f.magnitude]
  else [f.sign.chars ++ decimalChars f.magnitude,
    f.component.word ++ if f.value = 1 then [] else ['s']]

theorem chars_signAfter (before value : Int) :
    (signAfter before value).chars
      = (if decide (before < 0) && 0 < value then ['+'] else [])
        ++ if value < 0 then ['-'] else [] := by
  unfold signAfter
  by_cases hvalue : value < 0
  · have hpositive : ¬0 < value := by omega
    simp [hvalue, hpositive, WrittenSign.chars]
  · by_cases hplus : 0 < value ∧ before < 0
    · simp [hvalue, hplus, WrittenSign.chars]
    · have hnone : ¬(before < 0 ∧ 0 < value) := fun h => hplus h.symm
      simp [hvalue, hplus, hnone, WrittenSign.chars]

/-- A part of a date is its two words. -/
theorem partChars_eq (hc : c ≠ .time) :
    partChars (decide (before < 0)) (v c) c.word
      = [' '].intercalate (fieldAfter v before c).words := by
  have hcomponent : (fieldAfter v before c).component = c := rfl
  rw [Field.words, hcomponent, if_neg hc, value_fieldAfter, List.intercalate_cons_cons,
    List.intercalate_singleton, fieldAfter, chars_signAfter, partChars]
  simp only [List.append_assoc, List.cons_append, List.nil_append]

/-- **The parts of a date** are those that are not zero. -/
theorem partsChars_eq (hdates : ∀ c ∈ cs, c ≠ .time) :
    partsChars (decide (before < 0)) (cs.map fun c => (v c, c.word))
      = ((fieldsAfter v before (cs.filter (v · ≠ 0))).map fun f => [' '].intercalate f.words,
        decide (lastAfter v before (cs.filter (v · ≠ 0)) < 0)) := by
  induction cs generalizing before with
  | nil => rfl
  | cons c cs ih =>
    rw [List.forall_mem_cons] at hdates
    rw [List.map_cons, partsChars]
    by_cases hzero : v c = 0
    · rw [if_pos hzero, ih hdates.2, List.filter_cons_of_neg (by simpa using hzero)]
    · rw [if_neg hzero, ih hdates.2, List.filter_cons_of_pos (by simpa using hzero),
        partChars_eq hdates.1]
      rfl

/-- The components of a date, in the order in which they are written. -/
def Component.dates : List Component := [.years, .months, .days]

theorem ne_time_of_mem_dates (h : c ∈ Component.dates) : c ≠ .time := by
  rintro rfl
  exact absurd h (by decide)

/-- The components that are written. -/
def written (i : Interval) : List Component := Component.all.filter (i.IsWritten ·)

theorem months_eq_zero_iff (i : Interval) :
    i.component .years = 0 ∧ i.component .months = 0 ↔ i.months = 0 := by
  have hsplit : 12 * i.component .years + i.component .months = i.months :=
    Int.mul_tdiv_add_tmod i.months 12
  constructor
  · rintro ⟨hyears, hmonths⟩
    rw [hyears, hmonths] at hsplit
    exact hsplit.symm
  · intro h
    unfold component
    rw [h]
    exact ⟨rfl, rfl⟩

theorem filter_dates_of_zero {i : Interval} (h : i = ⟨0, 0, 0⟩) :
    Component.dates.filter (i.component · ≠ 0) = [] := by
  subst h
  rfl

theorem eq_zero_of_filter_dates {i : Interval} (hmicros : i.micros = 0)
    (h : Component.dates.filter (i.component · ≠ 0) = []) : i = ⟨0, 0, 0⟩ := by
  have hzero : ∀ c ∈ Component.dates, i.component c = 0 := by
    simpa using List.filter_eq_nil_iff.mp h
  have hmonths : i.months = 0 :=
    (months_eq_zero_iff i).mp ⟨hzero .years (by decide), hzero .months (by decide)⟩
  have hdays : i.days = 0 := hzero .days (by decide)
  obtain ⟨micros, days, months⟩ := i
  rw [Interval.mk.injEq]
  exact ⟨hmicros, hdays, hmonths⟩

/-- The time, if there is one or no date is written. -/
def timeIfNeeded (i : Interval) : List Component :=
  if i.micros ≠ 0 ∨ Component.dates.filter (i.component · ≠ 0) = [] then [.time] else []

theorem timeIfNeeded_cases (i : Interval) : i.timeIfNeeded = [] ∨ i.timeIfNeeded = [.time] := by
  unfold timeIfNeeded
  split
  · exact .inr rfl
  · exact .inl rfl

/-- A date is written if there is one, and a time if there is one or no date. -/
theorem written_eq (i : Interval) :
    i.written = Component.dates.filter (i.component · ≠ 0) ++ i.timeIfNeeded := by
  have hdates :
      Component.dates.filter (i.IsWritten ·) = Component.dates.filter (i.component · ≠ 0) := by
    refine List.filter_congr fun c hc => decide_eq_decide.mpr ?_
    exact or_iff_left fun h => ne_time_of_mem_dates hc h.1
  have htime : i.IsWritten .time
      ↔ i.micros ≠ 0 ∨ Component.dates.filter (i.component · ≠ 0) = [] := by
    refine or_congr_right' fun hmicros => ?_
    exact ⟨fun h => filter_dates_of_zero h.2, fun h =>
      ⟨rfl, eq_zero_of_filter_dates (not_not.mp hmicros) h⟩⟩
  have hall : Component.all = Component.dates ++ [.time] := rfl
  rw [written, hall, List.filter_append, hdates, timeIfNeeded]
  simp only [List.filter_cons, List.filter_nil, decide_eq_true_eq, htime]

/-- Something is always written. -/
theorem written_ne_nil (i : Interval) : i.written ≠ [] := by
  rw [written_eq]
  by_cases h : Component.dates.filter (i.component · ≠ 0) = []
  · rw [timeIfNeeded, if_pos (.inr h)]
    exact List.append_ne_nil_of_right_ne_nil _ (List.cons_ne_nil _ _)
  · exact List.append_ne_nil_of_left_ne_nil h _

theorem isEmpty_fieldsAfter : (fieldsAfter v before cs).isEmpty = cs.isEmpty := by
  cases cs with
  | nil => rfl
  | cons => rfl

/-- A time is a single word. It is only zero if no date is before it. -/
theorem timeChars_eq {i : Interval} {cs : List Component} (h : i.micros ≠ 0 ∨ cs = []) :
    [' '].intercalate (fieldAfter i.component (lastAfter i.component 0 cs) .time).words
      = (if i.micros < 0 then ['-'] else if lastAfter i.component 0 cs < 0 then ['+'] else [])
        ++ timeChars i.micros.natAbs := by
  have htime : i.component .time = i.micros := rfl
  have hcomponent :
      (fieldAfter i.component (lastAfter i.component 0 cs) .time).component = .time := rfl
  rw [Field.words, if_pos hcomponent, List.intercalate_singleton, fieldAfter, htime]
  congr 1
  unfold signAfter
  by_cases hnegative : i.micros < 0
  · rw [if_pos hnegative, if_pos hnegative]
    rfl
  · rw [if_neg hnegative, if_neg hnegative]
    by_cases hlast : lastAfter i.component 0 cs < 0
    · have hpositive : 0 < i.micros := by
        obtain h | rfl := h
        · omega
        · exact absurd hlast (Int.lt_irrefl 0)
      rw [if_pos ⟨hpositive, hlast⟩, if_pos hlast]
      rfl
    · rw [if_neg fun h => hlast h.2, if_neg hlast]
      rfl

/-- **The parts of a text** are those of the components that are written. -/
theorem parts_eq (i : Interval) :
    i.parts = (fieldsAfter i.component 0 i.written).map fun f => [' '].intercalate f.words := by
  have hdates : partsChars false i.units
      = ((fieldsAfter i.component 0 (Component.dates.filter (i.component · ≠ 0))).map fun f =>
          [' '].intercalate f.words,
        decide (lastAfter i.component 0 (Component.dates.filter (i.component · ≠ 0)) < 0)) :=
    @partsChars_eq i.component 0 Component.dates fun _ => ne_time_of_mem_dates
  rw [parts, written_eq, timeIfNeeded, hdates]
  simp only [List.isEmpty_map, isEmpty_fieldsAfter, Bool.or_eq_true, decide_eq_true_eq,
    List.isEmpty_iff]
  split
  · rename_i h
    rw [fieldsAfter_concat, List.map_append, List.map_singleton, timeChars_eq h]
  · rw [List.append_nil]

/-! ## Words are read as they were written -/

/-- The ending of a word for more than one. -/
def endings : List (List Char) := [[], ['s']]

theorem mem_endings (f : Field) : (if f.value = 1 then [] else ['s']) ∈ endings := by
  split
  · exact List.mem_cons_self
  · exact List.mem_cons_of_mem _ List.mem_cons_self

theorem isNamed_word :
    ∀ c ∈ Component.dates, ∀ ending ∈ endings, c.isNamed (c.word ++ ending) = true := by
  decide

/-- No word stands for two components. -/
theorem isNamed_other : ∀ c ∈ Component.dates, ∀ d ∈ Component.dates, c ≠ d → ∀ ending ∈ endings,
    c.isNamed (d.word ++ ending) = false := by
  decide

/-- A sign is told from what follows it. -/
theorem splitSign_append (s : WrittenSign) {text : List Char} (h : ∀ x ∈ text, x ≠ '-' ∧ x ≠ '+') :
    splitSign (s.chars ++ text) = (s, text) := by
  cases s with
  | minus => rfl
  | plus => rfl
  | unsigned =>
    cases text with
    | nil => rfl
    | cons x text =>
      obtain ⟨hminus, hplus⟩ := h x List.mem_cons_self
      show splitSign (x :: text) = _
      unfold splitSign
      split
      · rename_i hx
        exact absurd (List.cons.inj hx).1 hminus
      · rename_i hx
        exact absurd (List.cons.inj hx).1 hplus
      · rfl

theorem ne_sign_of_isDecimalDigit {x : Char} (h : isDecimalDigit x = true) : x ≠ '-' ∧ x ≠ '+' := by
  refine ⟨?_, ?_⟩
  · rintro rfl
    cases h
  · rintro rfl
    cases h

/-- A number is read as the part that it was written from. -/
theorem field?_number (v : Component → Int) (before : Int) (c : Component) :
    field? c number?
    ((fieldAfter v before c).sign.chars ++ decimalChars (fieldAfter v before c).magnitude)
      = some (fieldAfter v before c) := by
  rw [field?, splitSign_append _ fun x hx =>
    ne_sign_of_isDecimalDigit (isDecimalDigit_of_mem_decimalChars hx), Clock.number?_decimalChars]
  rfl

/-- A time is read as the part that it was written from. -/
theorem field?_time (v : Component → Int) (before : Int) :
    field? .time Clock.micros?
        ((fieldAfter v before .time).sign.chars ++ timeChars (fieldAfter v before .time).magnitude)
      = some (fieldAfter v before .time) := by
  have hsign : ∀ x ∈ timeChars (fieldAfter v before .time).magnitude, x ≠ '-' ∧ x ≠ '+' := by
    intro x hx
    obtain h | rfl | rfl := Clock.mem_timeChars hx
    · exact ne_sign_of_isDecimalDigit h
    · decide
    · decide
  rw [field?, splitSign_append _ hsign, Clock.micros?_timeChars]
  rfl

/-- The words of a part of a date. -/
theorem words_of_mem_dates (hc : c ∈ Component.dates) (v : Component → Int) (before : Int) :
    ∃ ending ∈ endings, (fieldAfter v before c).words
      = [(fieldAfter v before c).sign.chars ++ decimalChars (fieldAfter v before c).magnitude,
        c.word ++ ending] :=
  ⟨_, mem_endings (fieldAfter v before c), if_neg (ne_time_of_mem_dates hc)⟩

theorem words_time (v : Component → Int) (before : Int) :
    (fieldAfter v before .time).words
      = [(fieldAfter v before .time).sign.chars
        ++ timeChars (fieldAfter v before .time).magnitude] :=
  if_pos rfl

/-- A component that is not written is passed over. -/
theorem fieldsIn?_skip (hc : c ∈ Component.dates) (hcs : ∀ d ∈ cs, d ∈ Component.dates ∧ c ≠ d)
    {last : List Component} (hlast : last = [] ∨ last = [.time]) :
    fieldsIn? (c :: coming) ((fieldsAfter v before (cs ++ last)).flatMap Field.words)
      = fieldsIn? coming ((fieldsAfter v before (cs ++ last)).flatMap Field.words) := by
  cases cs with
  | nil =>
    obtain rfl | rfl := hlast
    · rfl
    · rfl
  | cons d cs =>
    obtain ⟨hd, hne⟩ := hcs d List.mem_cons_self
    obtain ⟨ending, hending, hwords⟩ := words_of_mem_dates hd v before
    have hother := isNamed_other c hc d hd hne ending hending
    rw [List.cons_append, fieldsAfter, List.flatMap_cons, hwords, List.cons_append,
      List.cons_append, fieldsIn?, fieldsIn?, List.dropWhile_cons_of_pos (by rw [hother]; rfl)]

/-- **Parts are read as they were written**, whatever components could still come. -/
theorem fieldsIn?_words (hcs : cs.Sublist coming) (hcoming : ∀ c ∈ coming, c ∈ Component.dates)
    (hnodup : coming.Nodup) {last : List Component} (hlast : last = [] ∨ last = [.time]) :
    fieldsIn? coming ((fieldsAfter v before (cs ++ last)).flatMap Field.words)
      = some (fieldsAfter v before (cs ++ last)) := by
  induction hcs generalizing before with
  | slnil =>
    obtain rfl | rfl := hlast
    · rfl
    · rw [List.nil_append, fieldsAfter, fieldsAfter, List.flatMap_singleton, words_time, fieldsIn?,
        field?_time]
      rfl
  | cons c hsub ih =>
    -- The component may come but is not written, and the next word stands for another one.
    rw [List.forall_mem_cons] at hcoming
    rw [List.nodup_cons] at hnodup
    rw [fieldsIn?_skip hcoming.1 (fun d hd => ?_) hlast, ih hcoming.2 hnodup.2]
    have hmem := hsub.subset hd
    exact ⟨hcoming.2 d hmem, fun h => hnodup.1 (h ▸ hmem)⟩
  | cons_cons c hsub ih =>
    -- The component is written, so its two words are taken and the others may follow.
    rw [List.forall_mem_cons] at hcoming
    rw [List.nodup_cons] at hnodup
    obtain ⟨ending, hending, hwords⟩ := words_of_mem_dates hcoming.1 v before
    have hnamed := isNamed_word c hcoming.1 ending hending
    rw [List.cons_append, fieldsAfter, List.flatMap_cons, hwords, List.cons_append,
      List.cons_append, List.nil_append, fieldsIn?,
      List.dropWhile_cons_of_neg (by rw [hnamed]; nofun)]
    simp only [field?_number, ih hcoming.2 hnodup.2]
    rfl

/-! ## Words are split at the blanks -/

theorem intercalate_append {sep : List Char} {front back : List (List Char)} (hfront : front ≠ [])
    (hback : back ≠ []) :
    sep.intercalate (front ++ back) = sep.intercalate front ++ sep ++ sep.intercalate back := by
  induction front with
  | nil => exact absurd rfl hfront
  | cons word front ih =>
    cases front with
    | nil =>
        rw [List.singleton_append, List.intercalate_cons_of_ne_nil hback,
          List.intercalate_singleton]
    | cons next front =>
      rw [List.cons_append, List.cons_append, List.intercalate_cons_cons, ← List.cons_append,
        ih (List.cons_ne_nil next front), List.intercalate_cons_cons]
      simp only [List.append_assoc]

/-- Rows that are joined by themselves and then with each other are joined at once. -/
theorem intercalate_map_intercalate {sep : List Char} {rows : List (List (List Char))}
    (hne : ∀ row ∈ rows, row ≠ []) :
    sep.intercalate (rows.map sep.intercalate) = sep.intercalate rows.flatten := by
  induction rows with
  | nil => rfl
  | cons row rows ih =>
    rw [List.forall_mem_cons] at hne
    rw [List.map_cons, List.flatten_cons]
    cases rows with
    | nil => rw [List.map_nil, List.flatten_nil, List.append_nil, List.intercalate_singleton]
    | cons next rows =>
      have hflatten : (next :: rows).flatten ≠ [] := by
        rw [List.flatten_cons]
        exact List.append_ne_nil_of_left_ne_nil (hne.2 next List.mem_cons_self) _
      have hmap : (next :: rows).map sep.intercalate ≠ [] := List.cons_ne_nil _ _
      rw [intercalate_append hne.1 hflatten, List.intercalate_cons_of_ne_nil hmap, ih hne.2]

theorem words_ne_nil (f : Field) : f.words ≠ [] := by
  unfold Field.words
  split
  · exact List.cons_ne_nil _ _
  · exact List.cons_ne_nil _ _

/-- No word has a blank in it. -/
theorem blank_not_mem_words (f : Field) : ∀ word ∈ f.words, ' ' ∉ word := by
  have hsign : ' ' ∉ f.sign.chars := by
    cases f.sign with
    | unsigned | minus | plus => decide
  have hword : ' ' ∉ f.component.word := by
    cases f.component with
    | years | months | days | time => decide
  have hending : ∀ ending ∈ endings, ' ' ∉ ending := by decide
  unfold Field.words
  split
  · refine List.forall_mem_singleton.mpr fun h => ?_
    obtain h | h := List.mem_append.mp h
    · exact hsign h
    · obtain h | h | h := Clock.mem_timeChars h <;> cases h
  · refine List.forall_mem_cons.mpr ⟨fun h => ?_, List.forall_mem_singleton.mpr fun h => ?_⟩
    · obtain h | h := List.mem_append.mp h
      · exact hsign h
      · cases isDecimalDigit_of_mem_decimalChars h
    · obtain h | h := List.mem_append.mp h
      · exact hword h
      · exact hending _ (mem_endings f) h

/-- **An interval is read as it was written.** -/
theorem fields?_text (i : Interval) :
    fields? i.text = some (fieldsAfter i.component 0 i.written) := by
  have hparts :
      i.parts = ((fieldsAfter i.component 0 i.written).map Field.words).map [' '].intercalate := by
    rw [parts_eq, List.map_map]
    rfl
  have hnonempty : ∀ words ∈ (fieldsAfter i.component 0 i.written).map Field.words, words ≠ [] :=
    List.forall_mem_map.mpr fun f _ => words_ne_nil f
  have hblank : ∀ word ∈ ((fieldsAfter i.component 0 i.written).map Field.words).flatten,
      ' ' ∉ word := by
    intro word hword
    obtain ⟨f, -, hf⟩ := List.mem_flatMap.mp hword
    exact blank_not_mem_words f word hf
  have hsome : ((fieldsAfter i.component 0 i.written).map Field.words).flatten ≠ [] := by
    obtain ⟨c, cs, hcs⟩ := List.exists_cons_of_ne_nil (written_ne_nil i)
    rw [hcs, fieldsAfter, List.map_cons, List.flatten_cons]
    exact List.append_ne_nil_of_left_ne_nil (words_ne_nil _) _
  have hsplit :
      i.text.toList.splitOn ' ' = (fieldsAfter i.component 0 i.written).flatMap Field.words := by
    rw [text, String.toList_ofList, hparts, intercalate_map_intercalate hnonempty,
      List.splitOn_intercalate ' ' hblank hsome]
    rfl
  rw [fields?, hsplit, written_eq]
  exact fieldsIn?_words List.filter_sublist (fun _ hc => hc) (by decide) (timeIfNeeded_cases i)

/-! ## Nothing is lost -/

/-- Components that are not written are zero. -/
theorem amount_written (i : Interval) (c : Component) :
    amount (fieldsAfter i.component 0 i.written) c = i.component c := by
  rw [amount_fieldsAfter]
  split
  · rfl
  · rename_i hnot
    have hall : c ∈ Component.all := by
      cases c <;> decide
    have hwritten : ¬i.IsWritten c := fun h => hnot (List.mem_filter.mpr ⟨hall, decide_eq_true h⟩)
    exact (not_not.mp fun h => hwritten (.inl h)).symm

/-- **An interval is what its parts say.** -/
theorem ofFields_written (i : Interval) : ofFields (fieldsAfter i.component 0 i.written) = i := by
  have hmonths : 12 * i.component .years + i.component .months = i.months :=
    Int.mul_tdiv_add_tmod i.months 12
  unfold ofFields
  rw [amount_written, amount_written, amount_written, amount_written, hmonths]
  rfl

/-- The bytes of an interval. -/
def bytes (micros : Int64) (days months : Int32) : Bytes :=
  BigEndian.ofInt 8 micros.toInt ++ BigEndian.ofInt 4 days.toInt ++ BigEndian.ofInt 4 months.toInt

theorem decode_bytes (micros : Int64) (days months : Int32) :
    decode (bytes micros days months) = .ok ⟨micros.toInt, days.toInt, months.toInt⟩ := by
  have hlength : (bytes micros days months).length = 16 := by
    simp only [bytes, List.length_append, BigEndian.length_ofInt]
  rw [decode, if_pos hlength, bytes, List.append_assoc,
    List.take_left' (BigEndian.length_ofInt 8 _), List.drop_left' (BigEndian.length_ofInt 8 _),
    List.take_left' (BigEndian.length_ofInt 4 _), ← List.append_assoc,
    List.drop_left' (by simp only [List.length_append, BigEndian.length_ofInt]),
    BigEndian.toInt_ofInt_int64, BigEndian.toInt_ofInt_int32, BigEndian.toInt_ofInt_int32]

/-- Bytes that are read are those of the interval. -/
theorem eq_of_decode {raw : Bytes} {i : Interval} (h : decode raw = .ok i) :
    raw
      = BigEndian.ofInt 8 i.micros ++ (BigEndian.ofInt 4 i.days ++ BigEndian.ofInt 4 i.months) := by
  unfold decode at h
  split at h
  · rename_i hlength
    obtain rfl := Except.ok.inj h
    have hmicros : (raw.take 8).length = 8 := by
      rw [List.length_take, hlength]
      rfl
    have hdays : ((raw.drop 8).take 4).length = 4 := by
      rw [List.length_take, List.length_drop, hlength]
      rfl
    have hmonths : (raw.drop 12).length = 4 := by
      rw [List.length_drop, hlength]
    have hdrop : raw.drop 12 = (raw.drop 8).drop 4 := by rw [List.drop_drop]
    rw [BigEndian.ofInt_toInt_of_length hmicros, BigEndian.ofInt_toInt_of_length hdays,
      BigEndian.ofInt_toInt_of_length hmonths, hdrop, List.take_append_drop, List.take_append_drop]
  · cases h

/-- **The text of an interval loses nothing.** Every interval is read back from its text, part by
part: the components that are not zero, in their order, and the time also if there is nothing else;
with a minus for a part below zero and a plus only for one above zero directly behind one below. So
different bytes are never read as the same text. Bytes are read if there are sixteen of them. -/
theorem readable_from_text :
    (∀ (micros : Int64) (days months : Int32), ∃ (text : String) (fields : List Field),
        Interval.text <$> decode (bytes micros days months) = .ok text
          ∧ fields? text = some fields
          ∧ ofFields fields = ⟨micros.toInt, days.toInt, months.toInt⟩
          ∧ fields.map Field.component
            = Component.all.filter (IsWritten ⟨micros.toInt, days.toInt, months.toInt⟩ ·)
          ∧ (∀ f ∈ fields,
            f.value = component ⟨micros.toInt, days.toInt, months.toInt⟩ f.component)
          ∧ HasSigns fields)
      ∧ (∀ (raw other : Bytes) (text : String), Interval.text <$> decode raw = .ok text →
        Interval.text <$> decode other = .ok text → raw = other)
      ∧ ∀ raw : Bytes, (∃ text, Interval.text <$> decode raw = .ok text) ↔ raw.length = 16 := by
  refine ⟨fun micros days months => ?_, fun raw other text hraw hother => ?_,
    fun _ => exists_map_ite_iff⟩
  · refine ⟨_, _, map_eq_ok_iff.mpr ⟨_, decode_bytes micros days months, rfl⟩, fields?_text _,
      ofFields_written _, map_component_fieldsAfter _, fun f hf => ?_, hasSigns_fieldsAfter _ _⟩
    exact value_of_mem_fieldsAfter hf
  · obtain ⟨i, hi, htext⟩ := map_eq_ok_iff.mp hraw
    obtain ⟨j, hj, rfl⟩ := map_eq_ok_iff.mp hother
    have hfields := congrArg fields? htext
    rw [fields?_text, fields?_text, Option.some.injEq] at hfields
    have hij := congrArg ofFields hfields
    rw [ofFields_written, ofFields_written] at hij
    rw [eq_of_decode hi, eq_of_decode hj, hij]

/-- The outermost interval: all parts are there, and the time is below zero. -/
theorem readable_from_text_outermost :
    Interval.text <$> decode (bytes Int64.minValue Int32.minValue Int32.maxValue)
        = .ok "178956970 years 7 mons -2147483648 days -2562047788:00:54.775808"
      ∧ bytes Int64.minValue Int32.minValue Int32.maxValue
        = [0x80, 0, 0, 0, 0, 0, 0, 0, 0x80, 0, 0, 0, 0x7f, 0xff, 0xff, 0xff] := by
  have htext : Interval.text <$> decode (bytes Int64.minValue Int32.minValue Int32.maxValue)
      = .ok "178956970 years 7 mons -2147483648 days -2562047788:00:54.775808" := by decide
  exact ⟨htext, readable_from_text.2.1 _ _ _ htext (by decide)⟩

end PgStatement.Wire.Interval
