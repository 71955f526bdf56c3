import LineShell.Command
import LineShell.Proofs.Arguments.Delivery

/-! # What the number of tokens settles

A line with fewer tokens than there are positional parameters is turned away, and rightly so: each
positional parameter that is bound receives a token of its own, in whatever way, so that such a line
could not be bound. Positions are counted over positional and named parameters alike, though, and
these may be declared in any order. So the number of tokens settles that a positional parameter
finds its token where no named one is declared before it; after a named one, it does not.
-/
namespace LineShell.Binding

/-- A named parameter is declared before the place. -/
def NamedBefore (parameters : List Parameter) (place : Nat) : Prop :=
  ∃ q ∈ parameters.take place, q.role = .named

section
variable (s : Signature) {tokens flags : List String} {caller : Value} {lenient : Bool}
  {place : Nat} {p : Parameter} {f : Failure}

theorem positional_of_default (valued : p.isValued = true) (default : p.default = none) :
    p.role = .positional := by
  refine (isValued_iff.mp valued).resolve_right fun hnamed => ?_
  have hsome := p.default_of_named hnamed
  rw [default] at hsome
  cases hsome

/-- If each parameter that counts receives something, no more of them count than is received. -/
theorem countP_le_length_flatten {α β : Type} {as : List α} {counts : α → Bool}
    {receives : Nat → α → List β}
    (filled : ∀ place a, as[place]? = some a → counts a = true → receives place a ≠ []) :
    as.countP counts ≤ (as.mapIdx receives).flatten.length := by
  induction as generalizing receives with
  | nil => simp
  | cons a as ih =>
    have hrest : as.countP counts ≤ (as.mapIdx fun place => receives (place + 1)).flatten.length :=
      ih fun place b hb => filled (place + 1) b (by simpa using hb)
    rw [List.countP_cons, List.mapIdx_cons, List.flatten_cons, List.length_append]
    by_cases ha : counts a = true
    · have hfirst : 0 < (receives 0 a).length := List.length_pos_iff.mpr (filled 0 a rfl ha)
      rw [if_pos ha]
      omega
    · rw [if_neg ha]
      omega

theorem received_ne_nil {v : Value} (positional : p.role = .positional)
    (bound : outcome s.parameters tokens flags caller lenient place p = .ok v) :
    received s.parameters tokens place p ≠ [] := by
  have hmade := madeOf_of_outcome bound
  intro hnone
  rw [hnone] at hmade
  cases hmade with
  | default _ hdefault =>
    rw [p.default_of_positional positional] at hdefault
    cases hdefault
  | variadic hrole =>
    rw [positional] at hrole
    cases hrole
  | apart hrole =>
    rw [positional] at hrole
    cases hrole

/-- What is bound has a token for each positional parameter. -/
theorem required_le_of_bind {values : List Value}
    (bound : bind s.parameters tokens flags caller lenient = .ok values) :
    s.required ≤ tokens.length := by
  have hfilled : ∀ place p, s.parameters[place]? = some p → p.isRequired = true →
      received s.parameters tokens place p ≠ [] := by
    intro place p hp hrequired
    have hlt : place < values.length := by
      rw [length_bind bound]
      exact (List.getElem?_eq_some_iff.mp hp).1
    refine received_ne_nil s (by simpa [Parameter.isRequired] using hrequired)
      (outcome_of_bind s.nodup_names bound hp (List.getElem?_eq_getElem hlt))
  calc s.required ≤ (delivered s.parameters tokens).length := countP_le_length_flatten hfilled
    _ ≤ tokens.length := length_delivered_le s

theorem position_eq_required_before (at_place : s.parameters[place]? = some p)
    (alone : ¬ NamedBefore s.parameters place) :
    position s.parameters place = (s.parameters.take place).countP (·.isRequired) := by
  apply List.countP_congr
  intro q hq
  obtain ⟨i, hi, rfl⟩ := List.mem_take_iff_getElem.mp hq
  have hvariadic : s.parameters[i].role ≠ .variadic :=
    s.role_ne_of_lt (by omega) (List.getElem?_eq_getElem _) at_place
  have hnamed : s.parameters[i].role ≠ .named := fun hrole => alone ⟨_, hq, hrole⟩
  unfold Parameter.isRequired
  cases hrole : s.parameters[i].role <;> simp [hrole, Role.isIndexed] at hvariadic hnamed ⊢

/-- A positional parameter without a named one before it stands below the number of tokens that a
line must give. -/
theorem position_lt_required (at_place : s.parameters[place]? = some p)
    (positional : p.role = .positional) (alone : ¬ NamedBefore s.parameters place) :
    position s.parameters place < s.required := by
  have hmem : p ∈ s.parameters.drop place := by
    rw [List.mem_iff_getElem?]
    exact ⟨0, by rw [List.getElem?_drop, Nat.add_zero]; exact at_place⟩
  have hself : 0 < (s.parameters.drop place).countP (·.isRequired) :=
    List.countP_pos_iff.mpr ⟨p, hmem, by simp [Parameter.isRequired, positional]⟩
  have hsplit : s.required = (s.parameters.take place).countP (·.isRequired) +
      (s.parameters.drop place).countP (·.isRequired) := by
    rw [← List.countP_append, List.take_append_drop]
    rfl
  rw [position_eq_required_before s at_place alone]
  omega

variable
  (enough : s.required ≤ tokens.length)
  (unnamed : ∀ text ∈ tokens, ∀ p ∈ s.parameters, p.isValued = true → ¬ Names p.name text)

include unnamed in
theorem source?_eq_none_iff (at_place : s.parameters[place]? = some p) :
    source? s.parameters tokens place p = none ↔
      tokens.length ≤ position s.parameters place := by
  have hread : read? s.parameters tokens place p = tokens[position s.parameters place]? :=
    read?_of_unnamed unnamed (List.mem_of_getElem? at_place)
  rw [← List.getElem?_eq_none_iff, ← hread, read?, Option.map_eq_none_iff]

include enough unnamed in
theorem refused_or_missing
    (failed : bind s.parameters tokens flags caller lenient = .error f) :
    (∃ place p token r, s.parameters[place]? = some p ∧
      tokens[position s.parameters place]? = some token ∧
      readFor p lenient token = .error r ∧ f = .refused r) ∨
    ∃ place p, s.parameters[place]? = some p ∧ p.role = .positional ∧
      tokens.length ≤ position s.parameters place ∧ NamedBefore s.parameters place ∧
      f = .missing (position s.parameters place) p.name := by
  obtain ⟨place, p, hp, hfails⟩ := exists_fails_of_bind s.nodup_names failed
  cases hfails with
  | @refused t r hvalued hs hr =>
    have hread : read? s.parameters tokens place p = tokens[position s.parameters place]? :=
      read?_of_unnamed unnamed (List.mem_of_getElem? hp)
    rw [read?, hs, Option.map_some] at hread
    exact Or.inl ⟨place, p, _, r, hp, hread.symm, hr, rfl⟩
  | missing hvalued hs hd =>
    have hpositional := positional_of_default hvalued hd
    have hbeyond := (source?_eq_none_iff s unnamed hp).mp hs
    refine Or.inr ⟨place, p, hp, hpositional, hbeyond, ?_, rfl⟩
    by_contra halone
    have hlt := position_lt_required s hp hpositional halone
    omega

end

/-- What can go wrong after a line is found to have enough tokens, none of them by name. A token is
refused, and told with its type if the bounds of the type can be told; or a positional parameter has
no token, and then a named one is declared before it. Where positional parameters come before the
named ones none is without a token, and a positional one whose position is not among the tokens
always makes binding fail. -/
theorem bind_after_count {c : Command} {tokens flags : List String} {caller : Value}
    {lenient : Bool}
    (enough : c.required ≤ tokens.length)
    (unnamed : ∀ text ∈ tokens, ∀ p ∈ c.signature.parameters, p.isValued = true →
      ¬ Names p.name text) :
    (∀ f, bind c.signature.parameters tokens flags caller lenient = .error f →
      (∃ place p token r, c.signature.parameters[place]? = some p ∧
        tokens[position c.signature.parameters place]? = some token ∧
        readFor p lenient token = .error r ∧ f = .refused r ∧
        ((p.type.getD .text).tellsBounds = true →
          f.TellsConversion token (p.type.getD .text))) ∨
      ∃ place p, c.signature.parameters[place]? = some p ∧ p.role = .positional ∧
        tokens.length ≤ position c.signature.parameters place ∧
        NamedBefore c.signature.parameters place ∧
        f = .missing (position c.signature.parameters place) p.name) ∧
    ((∀ place p, c.signature.parameters[place]? = some p → p.role = .positional →
        ¬ NamedBefore c.signature.parameters place) →
      ∀ index name, bind c.signature.parameters tokens flags caller lenient ≠
        .error (.missing index name)) ∧
    ∀ place p, c.signature.parameters[place]? = some p → p.role = .positional →
      tokens.length ≤ position c.signature.parameters place →
      ∃ f, bind c.signature.parameters tokens flags caller lenient = .error f := by
  refine ⟨?_, ?_, ?_⟩
  · intro f hfailed
    rcases refused_or_missing c.signature enough unnamed hfailed with
      ⟨place, p, token, r, hp, htoken, hr, rfl⟩ | hmissing
    · refine Or.inl ⟨place, p, token, r, hp, htoken, hr, rfl, fun htold => ?_⟩
      rcases Conversion.refusal_of_read hr with ⟨reason, rfl⟩ | ⟨huntold, _⟩
      · exact Failure.tellsConversion_uncastable _ _ reason
      · rw [htold] at huntold
        cases huntold
    · exact Or.inr hmissing
  · intro ordered index name hfailed
    rcases refused_or_missing c.signature enough unnamed hfailed with
      ⟨_, _, _, _, _, _, _, hf⟩ | ⟨place, p, hp, hpositional, _, hnamed, _⟩
    · cases hf
    · exact ordered place p hp hpositional hnamed
  · intro place p hp hpositional hbeyond
    have hdefault := p.default_of_positional hpositional
    have hsource := (source?_eq_none_iff c.signature unnamed hp).mpr hbeyond
    exact (exists_bind_eq_error_iff c.signature.nodup_names).mpr
      ⟨place, p, _, hp, .missing (isValued_iff.mpr (Or.inl hpositional)) hsource hdefault⟩

def pairing (first second : Parameter)
    (legal : Signature.firstBreach? [] [.parameter first, .parameter second] = none) : Command where
  name := "pair"
  handler := {
    label := some "pair", name := .text "pair", qualifiedName := some "pair", shows := "pair"
    arity := { required := 2, optional := 0, rest := false }
    behaviour := fun _ => .finish .none }
  signature := { parameters := [first, second], legal }
  descr := none
  name_ne := by decide
  name_single := by decide
  accepts_values := rfl

/-- The number that must be given comes before the one that need not. -/
def early : Command :=
  pairing (simple "b" (by decide) .int none) (simple "a" (by decide) .int (some (.int 7)))
    (by decide)

/-- The number that must be given comes after the one that need not. -/
def late : Command :=
  pairing (simple "a" (by decide) .int (some (.int 7))) (simple "b" (by decide) .int none)
    (by decide)

/-- One token for the number that must be given, and it is no number. -/
theorem bind_after_count_early :
    early.required ≤ ["x"].length ∧
    (∃ f, bind early.signature.parameters ["x"] [] .none false = .error f ∧
      f.TellsConversion "x" .int) ∧
    ∀ index name, bind early.signature.parameters ["x"] [] .none false ≠
      .error (.missing index name) := by
  have enough : early.required ≤ ["x"].length := by decide
  have ordered : ∀ place p, early.signature.parameters[place]? = some p → p.role = .positional →
      ¬ NamedBefore early.signature.parameters place := by
    rintro (_ | _ | place) p hp hpositional
    · simp [NamedBefore]
    · cases hp
      cases hpositional
    · cases hp
  refine ⟨enough, ⟨_, rfl, Failure.tellsConversion_uncastable _ _ _⟩, ?_⟩
  exact (bind_after_count enough (by decide)).2.1 ordered

/-- As many tokens as must be given, and yet the number that must be given has none. -/
theorem exists_missing_after_count :
    late.required ≤ ["1"].length ∧
    (∀ text ∈ ["1"], ∀ p ∈ late.signature.parameters, p.isValued = true → ¬ Names p.name text) ∧
    bind late.signature.parameters ["1"] [] .none false = .error (.missing 1 "b") := by
  refine ⟨?_, ?_, rfl⟩
  · decide
  · decide

end LineShell.Binding
