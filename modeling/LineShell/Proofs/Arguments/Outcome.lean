import LineShell.Proofs.Arguments.Claims

/-! # What becomes of each parameter

Where a parameter stands among those that take a position, what it claims and what is left
unclaimed are told from the line alone, and so is what becomes of it. Binding gives just these
values, in the order of the parameters, or else the failure of the first parameter that has one.
-/
namespace LineShell.Binding

/-- The number of parameters before the one at a place that take a position. -/
def position (parameters : List Parameter) (place : Nat) : Nat :=
  (parameters.take place).countP (·.role.isIndexed)

/-- The token that a valued parameter reads: its claim, or else the unclaimed token at its
position. -/
def source? (parameters : List Parameter) (tokens : List String) (place : Nat) (p : Parameter) :
    Option Placed :=
  match claim? tokens p with
  | some t => some t
  | none => (unclaimed parameters tokens)[position parameters place]?

def textOf (tokens : List String) (p : Parameter) (t : Placed) : String :=
  if claim? tokens p = some t then afterLead p.name t.1 else t.1

def read? (parameters : List Parameter) (tokens : List String) (place : Nat) (p : Parameter) :
    Option String :=
  (source? parameters tokens place p).map (textOf tokens p)

def rest (parameters : List Parameter) (tokens : List String) (place : Nat) : List Placed :=
  (unclaimed parameters tokens).drop (position parameters place)

def readFor (p : Parameter) (lenient : Bool) (text : String) :
    Except Conversion.Refusal Value :=
  Conversion.read (p.type.getD .text) { nullable := p.nullable, lenient } text

def outcome (parameters : List Parameter) (tokens flags : List String) (caller : Value)
    (lenient : Bool) (place : Nat) (p : Parameter) : Except Failure Value :=
  match p.role with
  | .flags => .ok (.tuple (flags.map .text))
  | .caller => .ok caller
  | .variadic => .ok (.tuple ((rest parameters tokens place).map fun t => Conversion.infer t.1))
  | .positional | .named => match source? parameters tokens place p with
    | some t => (readFor p lenient (textOf tokens p t)).mapError .refused
    | none => match p.default with
      | some v => .ok v
      | none => .error (.missing (position parameters place) p.name)

/-- Why a valued parameter gets no value: its token is refused, or it has neither a token nor a
default. -/
inductive Fails (parameters : List Parameter) (tokens : List String) (lenient : Bool)
    (place : Nat) (p : Parameter) : Failure → Prop
  | refused {t : Placed} {r : Conversion.Refusal} (valued : p.isValued = true)
      (source : source? parameters tokens place p = some t)
      (read : readFor p lenient (textOf tokens p t) = .error r) :
      Fails parameters tokens lenient place p (.refused r)
  | missing (valued : p.isValued = true) (source : source? parameters tokens place p = none)
      (default : p.default = none) :
      Fails parameters tokens lenient place p (.missing (position parameters place) p.name)

def Failure.TellsConversion (f : Failure) (token : String) (type : ValueType) : Prop :=
  ∃ fault, f.failure = .fault fault ∧ fault.kind = .conversion ∧
    fault.option? "input" = some (.text token) ∧
    fault.option? "type" = some (.type (.ofValueType type))

/-- The failure is a fault of binding that carries a position, counted from one, and a name. -/
def Failure.TellsMissing (f : Failure) (position : Nat) (name : String) : Prop :=
  ∃ fault, f.failure = .fault fault ∧ fault.kind = .bind ∧
    fault.option? "index" = some (.int position) ∧ fault.option? "input" = some (.text name)

theorem Failure.tellsConversion_uncastable (token : String) (type : ValueType)
    (reason : Conversion.Reason) :
    (refused (.uncastable token type reason)).TellsConversion token type :=
  ⟨_, rfl, rfl, rfl, rfl⟩

theorem Failure.tellsMissing_missing (index : Nat) (name : String) :
    (missing index name).TellsMissing (index + 1) name :=
  ⟨_, rfl, rfl, rfl, rfl⟩

section
variable {parameters : List Parameter} {tokens flags : List String} {caller : Value}
  {lenient : Bool} {place : Nat} {p : Parameter} {f : Failure}

@[simp] theorem position_zero : position parameters 0 = 0 := rfl

@[simp] theorem position_cons_succ :
    position (p :: parameters) (place + 1) =
      position parameters place + if p.role.isIndexed then 1 else 0 := by
  simp [position, List.countP_cons]

theorem next_eq (index : Nat) : Offer.next p index = index + if p.role.isIndexed then 1 else 0 := by
  unfold Offer.next
  split <;> rfl

theorem read?_eq : read? parameters tokens place p = match claim? tokens p with
    | some t => some (afterLead p.name t.1)
    | none => ((unclaimed parameters tokens).map Prod.fst)[position parameters place]? := by
  unfold read? source? textOf
  cases claim? tokens p <;> simp

theorem read?_of_unnamed
    (unnamed : ∀ text ∈ tokens, ∀ p ∈ parameters, p.isValued = true → ¬ Names p.name text)
    (mem : p ∈ parameters) :
    read? parameters tokens place p = tokens[position parameters place]? := by
  rw [read?_eq, claim?_of_unnamed unnamed mem, unclaimed_of_unnamed unnamed, List.zipIdx_map_fst]

theorem outcome_of_valued (valued : p.isValued = true) :
    outcome parameters tokens flags caller lenient place p =
      match source? parameters tokens place p with
      | some t => (readFor p lenient (textOf tokens p t)).mapError .refused
      | none => match p.default with
        | some v => .ok v
        | none => .error (.missing (position parameters place) p.name) := by
  rcases isValued_iff.mp valued with hrole | hrole <;> simp [outcome, hrole]

theorem exists_outcome_of_special (special : p.isValued = false) :
    ∃ v, outcome parameters tokens flags caller lenient place p = .ok v := by
  rcases isValued_eq_false_iff.mp special with hrole | hrole | hrole <;> simp [outcome, hrole]

theorem outcome_eq_error_iff : outcome parameters tokens flags caller lenient place p = .error f ↔
    Fails parameters tokens lenient place p f := by
  constructor
  · intro h
    cases hvalued : p.isValued with
    | false =>
      obtain ⟨v, hv⟩ : ∃ v, outcome parameters tokens flags caller lenient place p = .ok v :=
        exists_outcome_of_special hvalued
      rw [hv] at h
      cases h
    | true =>
      rw [outcome_of_valued hvalued] at h
      cases hs : source? parameters tokens place p with
      | some t =>
        cases hr : readFor p lenient (textOf tokens p t) with
        | ok v => simp [hs, hr, Except.mapError] at h
        | error r =>
          obtain rfl : .refused r = f := by simpa [hs, hr, Except.mapError] using h
          exact .refused hvalued hs hr
      | none =>
        cases hd : p.default with
        | some v => simp [hs, hd] at h
        | none =>
          obtain rfl : .missing (position parameters place) p.name = f := by
            simpa [hs, hd] using h
          exact .missing hvalued hs hd
  · intro h
    cases h with
    | refused hvalued hs hr => simp [outcome_of_valued hvalued, hs, hr, Except.mapError]
    | missing hvalued hs hd => simp [outcome_of_valued hvalued, hs, hd]

/-- What a failing parameter tells: its token and its type, unless the bounds of the type cannot be
told; or its position and its name. -/
theorem Fails.tells (h : Fails parameters tokens lenient place p f) :
    (∃ t, source? parameters tokens place p = some t ∧
      (f.TellsConversion (textOf tokens p t) (p.type.getD .text) ∨
        (p.type.getD .text).tellsBounds = false ∧ ∃ m, f.failure = .misuse m)) ∨
    source? parameters tokens place p = none ∧ p.default = none ∧
      f.TellsMissing (position parameters place + 1) p.name := by
  cases h with
  | @refused t r hvalued hs hr =>
    refine Or.inl ⟨t, hs, ?_⟩
    rcases Conversion.refusal_of_read hr with ⟨reason, rfl⟩ | ⟨htells, m, rfl⟩
    · exact Or.inl (Failure.tellsConversion_uncastable _ _ reason)
    · exact Or.inr ⟨htells, m, rfl⟩
  | missing hvalued hs hd => exact Or.inr ⟨hs, hd, Failure.tellsMissing_missing _ _⟩

end

/-! ### The first failure of a list of results -/

section
variable {ε α : Type} {results : List (Except ε α)} {values : List α} {e : ε}

theorem mapM_id_eq_ok_iff : results.mapM id = .ok values ↔ results = values.map .ok := by
  induction results generalizing values with
  | nil => cases values <;> simp [pure, Except.pure]
  | cons result results ih =>
    rw [List.mapM_cons]
    cases values with
    | nil =>
      cases result <;> cases results.mapM id <;> simp [Bind.bind, Except.bind, pure, Except.pure]
    | cons v vs =>
      rw [List.map_cons, List.cons.injEq, ← ih]
      cases result <;> cases results.mapM id <;> simp [Bind.bind, Except.bind, pure, Except.pure]

theorem mapM_id_eq_error_iff : results.mapM id = .error e ↔
    ∃ (values : List α) (rest : List (Except ε α)),
      results = values.map .ok ++ .error e :: rest := by
  induction results with
  | nil => simp [pure, Except.pure]
  | cons result results ih =>
    rw [List.mapM_cons]
    cases result with
    | error d =>
      constructor
      · rintro ⟨⟩
        exact ⟨[], results, rfl⟩
      · rintro ⟨values, rest, h⟩
        cases values <;> simp at h
        simp [h, Bind.bind, Except.bind]
    | ok v =>
      have hrest : (id (Except.ok v) >>= fun v => results.mapM id >>= fun vs => pure (v :: vs)) =
          Except.error e ↔ results.mapM id = Except.error e := by
        cases results.mapM id <;> simp [Bind.bind, Except.bind, pure, Except.pure]
      rw [hrest, ih]
      constructor
      · rintro ⟨values, rest, rfl⟩
        exact ⟨v :: values, rest, rfl⟩
      · rintro ⟨values, rest, h⟩
        cases values with
        | nil => simp at h
        | cons w values => exact ⟨values, rest, (List.cons.inj h).2⟩

end

section
variable {parameters : List Parameter} {tokens flags : List String} {caller : Value}
  {lenient : Bool} {place : Nat} {p : Parameter} {f : Failure} {values : List Value}

theorem Offer.values_eq_mapM (o : Offer) (index : Nat) (parameters : List Parameter) :
    o.values index parameters =
      (parameters.mapIdx fun place p => o.value p (index + position parameters place)).mapM id := by
  induction parameters generalizing index with
  | nil => rfl
  | cons p rest ih =>
    have hshift : ∀ place q, o.value q (index + position (p :: rest) (place + 1)) =
        o.value q (next p index + position rest place) := by
      intro place q
      rw [position_cons_succ, next_eq]
      congr 1
      omega
    rw [List.mapIdx_cons, List.mapM_cons]
    simp only [hshift, position_zero, Nat.add_zero, ← ih]
    rfl

theorem token?_eq_read? (distinct : (parameters.map (·.name)).Nodup)
    (at_place : parameters[place]? = some p) :
    Offer.token? ⟨.ofParameters parameters tokens, flags, caller, lenient⟩ p
        (position parameters place) = read? parameters tokens place p := by
  have htext : (Claims.ofParameters parameters tokens).text? p.name = _ :=
    text?_ofParameters distinct (List.mem_of_getElem? at_place)
  rw [Offer.token?, htext, remaining_ofParameters distinct, read?_eq]
  cases claim? tokens p <;> rfl

theorem value_eq_outcome (distinct : (parameters.map (·.name)).Nodup)
    (at_place : parameters[place]? = some p) :
    Offer.value ⟨.ofParameters parameters tokens, flags, caller, lenient⟩ p
        (position parameters place) =
      outcome parameters tokens flags caller lenient place p := by
  have hresolve : Offer.resolve ⟨.ofParameters parameters tokens, flags, caller, lenient⟩ p
        (position parameters place) = match source? parameters tokens place p with
      | some t => (readFor p lenient (textOf tokens p t)).mapError .refused
      | none => match p.default with
        | some v => .ok v
        | none => .error (.missing (position parameters place) p.name) := by
    rw [Offer.resolve, token?_eq_read? distinct at_place, read?]
    cases source? parameters tokens place p <;> rfl
  unfold Offer.value outcome rest
  cases p.role <;>
    simp [hresolve, remaining_ofParameters distinct, List.map_drop, Function.comp_def]

/-- Binding goes through what becomes of the parameters, one after the other. -/
theorem bind_eq_mapM (distinct : (parameters.map (·.name)).Nodup) :
    bind parameters tokens flags caller lenient =
      (parameters.mapIdx (outcome parameters tokens flags caller lenient)).mapM id := by
  rw [bind, Offer.values_eq_mapM]
  congr 1
  rw [List.mapIdx_eq_mapIdx_iff]
  intro place hplace
  rw [Nat.zero_add]
  exact value_eq_outcome distinct (List.getElem?_eq_getElem hplace)

theorem outcome_of_bind (distinct : (parameters.map (·.name)).Nodup)
    (bound : bind parameters tokens flags caller lenient = .ok values) {v : Value}
    (at_place : parameters[place]? = some p) (value : values[place]? = some v) :
    outcome parameters tokens flags caller lenient place p = .ok v := by
  rw [bind_eq_mapM distinct, mapM_id_eq_ok_iff] at bound
  have hplace := congrArg (·[place]?) bound
  simpa only [List.getElem?_mapIdx, List.getElem?_map, at_place, value, Option.map_some,
    Option.some.injEq] using hplace

theorem exists_fails_of_bind (distinct : (parameters.map (·.name)).Nodup)
    (failed : bind parameters tokens flags caller lenient = .error f) :
    ∃ place p, parameters[place]? = some p ∧ Fails parameters tokens lenient place p f := by
  rw [bind_eq_mapM distinct] at failed
  obtain ⟨values, others, hvalues⟩ := mapM_id_eq_error_iff.mp failed
  have hplace := congrArg (·[values.length]?) hvalues
  simp only [List.getElem?_mapIdx, List.length_map, List.getElem?_append_right, le_refl,
    Nat.sub_self, List.getElem?_cons_zero, Option.map_eq_some_iff] at hplace
  obtain ⟨p, hp, hf⟩ := hplace
  exact ⟨values.length, p, hp, outcome_eq_error_iff.mp hf⟩

theorem exists_bind_eq_error_iff (distinct : (parameters.map (·.name)).Nodup) :
    (∃ f, bind parameters tokens flags caller lenient = .error f) ↔
      ∃ place p f, parameters[place]? = some p ∧ Fails parameters tokens lenient place p f := by
  constructor
  · rintro ⟨f, hfailed⟩
    obtain ⟨place, p, hp, hfails⟩ := exists_fails_of_bind distinct hfailed
    exact ⟨place, p, f, hp, hfails⟩
  · rintro ⟨place, p, f, hp, hfails⟩
    rw [bind_eq_mapM distinct]
    cases h : (parameters.mapIdx (outcome parameters tokens flags caller lenient)).mapM id with
    | error g => exact ⟨g, rfl⟩
    | ok values =>
      have hplace := congrArg (·[place]?) (mapM_id_eq_ok_iff.mp h)
      simp only [List.getElem?_mapIdx, hp, Option.map_some, outcome_eq_error_iff.mpr hfails,
        List.getElem?_map] at hplace
      obtain ⟨v, _, hv⟩ := Option.map_eq_some_iff.mp hplace.symm
      cases hv

/-- Binding follows the line. No two parameters claim the same token. The values are those that
become of the parameters, in their order; there are none exactly if a parameter has no value, and
then the first such parameter is told: with the token and the type if the token is refused, unless
the type has bounds that cannot be told, and with the position and the name if there is neither a
token nor a default. -/
theorem bind_follows_line (distinct : (parameters.map (·.name)).Nodup) :
    (parameters.Pairwise fun p q => ∀ t, claim? tokens p = some t → claim? tokens q ≠ some t) ∧
    (∀ values, bind parameters tokens flags caller lenient = .ok values ↔
      parameters.mapIdx (outcome parameters tokens flags caller lenient) = values.map .ok) ∧
    (∀ f, bind parameters tokens flags caller lenient = .error f ↔
      ∃ (values : List Value) (others : List (Except Failure Value)),
        parameters.mapIdx (outcome parameters tokens flags caller lenient) =
          values.map .ok ++ .error f :: others) ∧
    ((∃ f, bind parameters tokens flags caller lenient = .error f) ↔
      ∃ place p f, parameters[place]? = some p ∧ Fails parameters tokens lenient place p f) ∧
    (∀ place p f, outcome parameters tokens flags caller lenient place p = .error f ↔
      Fails parameters tokens lenient place p f) ∧
    ∀ place p f, Fails parameters tokens lenient place p f →
      (∃ t, source? parameters tokens place p = some t ∧
        (f.TellsConversion (textOf tokens p t) (p.type.getD .text) ∨
          (p.type.getD .text).tellsBounds = false ∧ ∃ m, f.failure = .misuse m)) ∨
      source? parameters tokens place p = none ∧ p.default = none ∧
        f.TellsMissing (position parameters place + 1) p.name := by
  refine ⟨?_, ?_, ?_, exists_bind_eq_error_iff distinct, fun _ _ _ => outcome_eq_error_iff,
    fun _ _ _ => Fails.tells⟩
  · refine (List.pairwise_map.mp distinct).imp ?_
    intro p q hname t hp hq
    exact hname (name_eq_of_claim hp hq)
  · intro values
    rw [bind_eq_mapM distinct, mapM_id_eq_ok_iff]
  · intro f
    rw [bind_eq_mapM distinct, mapM_id_eq_error_iff]

end

def simple (name : String) (identifier : Text.isIdentifier name.toList = true) (type : ValueType)
    (default : Option Value) : Parameter where
  name := name
  role := if default.isSome then .named else .positional
  type := some type
  nullable := false
  default := default
  descr := none
  name_identifier := identifier
  type_isSome := by cases default <;> rfl
  default_of_positional := by cases default <;> simp
  default_of_named := by cases default <;> simp

def leftover : Parameter where
  name := "leftover"
  role := .variadic
  type := none
  nullable := false
  default := some (.tuple [])
  descr := none
  name_identifier := by decide
  type_isSome := by decide
  default_of_positional := fun h => nomatch h
  default_of_named := fun h => nomatch h

/-- Two numbers and what is left, on a line that gives the second number by name: the token at the
position of that number is nobody's. -/
theorem bind_follows_line_second :
    ([simple "x" (by decide) .int none, simple "y" (by decide) .int (some (.int 0)), leftover].map
      (·.name)).Nodup ∧
    bind [simple "x" (by decide) .int none, simple "y" (by decide) .int (some (.int 0)), leftover]
      ["y=4", "3", "8", "true"] [] .none false = .ok [.int 3, .int 4, .tuple [.bool true]] := by
  refine ⟨by decide, ?_⟩
  refine ((bind_follows_line (by decide)).2.1 _).mpr ?_
  rfl

def wide : FixedWidth := { name := "wide", bits := 20000, signed := false, serial := 1 }

theorem readFixed_wide : Conversion.readFixed wide "-1" = .error (.misuse .tooManyDigits) := by
  have hint : Literal.int? "-1".toList = some (-1) := by decide
  have hbounds : wide.bounds = .ok (wide.lower, wide.upper) :=
    FixedWidth.bounds_eq_ok (by decide) (by decide +kernel)
  have hbelow : ¬ (wide.lower ≤ -1 ∧ (-1 : Int) ≤ wide.upper) := by
    rintro ⟨hlower, -⟩
    exact absurd hlower (by decide)
  have huntold : Number.hasText wide.upper = false := by decide +kernel
  rw [Conversion.readFixed, hint]
  simp [hbounds, hbelow, Conversion.outOfRange, huntold]

/-- A number out of bounds that cannot be told is refused without its token and its type. -/
theorem exists_refusal_untold : ∃ f,
    bind [simple "n" (by decide) (.fixed wide) none] ["-1"] [] .none false = .error f ∧
    f.failure = .misuse .tooManyDigits ∧ ¬ f.TellsConversion "-1" (.fixed wide) := by
  have hvalue : (Offer.value ⟨{ remaining := ["-1"] }, [], .none, false⟩
      (simple "n" (by decide) (.fixed wide) none) 0) =
      .error (.refused (.misuse .tooManyDigits)) := by
    change (Conversion.readFixed wide "-1").mapError Failure.refused = _
    rw [readFixed_wide]
    rfl
  refine ⟨.refused (.misuse .tooManyDigits), ?_, rfl, ?_⟩
  · change Offer.values ⟨{ remaining := ["-1"] }, [], .none, false⟩ 0 [_] = _
    rw [Offer.values_cons, hvalue]
  · rintro ⟨fault, h, -⟩
    cases h

end LineShell.Binding
