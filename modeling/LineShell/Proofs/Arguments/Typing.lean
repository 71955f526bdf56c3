import Mathlib.Algebra.Ring.Int.Defs
import LineShell.Proofs.Arguments.Outcome

/-! # What kind of value each parameter gets

A handler trusts the types of its parameters. A value that is read from a token is one of the type
that was declared, and nothing is read as nothing but an unknown name where that is allowed. A
default is only taken where no token reaches the parameter, be it by name or by position.
-/
namespace LineShell

/-- The number can be held by the bits of the type, in two's complement if it is signed. -/
def FixedWidth.Holds (w : FixedWidth) (n : Int) : Prop :=
  if w.signed then -2 ^ (w.bits.toNat - 1) ≤ n ∧ n < 2 ^ (w.bits.toNat - 1)
  else 0 ≤ n ∧ n < 2 ^ w.bits.toNat

theorem FixedWidth.holds_iff {w : FixedWidth} {n : Int} :
    w.Holds n ↔ w.lower ≤ n ∧ n ≤ w.upper := by
  have hpower : ∀ m : Int, (Number.power 2 m : Int) = 2 ^ m.toNat := fun m => by
    simp [Number.power]
  have hbits : (w.bits - 1).toNat = w.bits.toNat - 1 := by omega
  unfold Holds lower upper magnitude
  cases w.signed <;> simp only [hpower, hbits, if_true, if_false, Bool.false_eq_true] <;> omega

theorem FixedWidth.eq_of_bounds {w : FixedWidth} {lower upper : Int}
    (h : w.bounds = .ok (lower, upper)) : lower = w.lower ∧ upper = w.upper := by
  unfold bounds at h
  split at h
  · cases h
  · split at h
    · cases h
    · split at h
      · cases h
      · cases h
        exact ⟨rfl, rfl⟩

inductive ValueType.HasValue : ValueType → Value → Prop
  | text (s : String) : HasValue .text (.text s)
  | bool (b : Bool) : HasValue .bool (.bool b)
  | int (n : Int) : HasValue .int (.int n)
  | real (x : Float) : HasValue .real (.real x)
  | decimal (negative : Bool) (coefficient : Nat) (exponent : Int) :
    HasValue .decimal (.decimal (.finite negative coefficient exponent))
  | fixed {w : FixedWidth} {n : Int} (holds : w.Holds n) : HasValue (.fixed w) (.int n)
  | member {e : Enumeration} {m : Member} (name : String) (named : e.member? name = some m) :
    HasValue (.enumeration e) (.member m)

def Value.isPlain : Value → Bool
  | bool _ | int _ | real _ | text _ => true
  | _ => false

/-- The declared type is the value type, alone or in a union with nothing. -/
inductive TypeExpr.Declares : TypeExpr → ValueType → Bool → Prop
  | alone (type : ValueType) : Declares (.atom (.value type)) type false
  | orNothing (ofClasses : Bool) (type : ValueType) :
    Declares (.union ofClasses [.value type, .absent]) type true
  | nothingOr (ofClasses : Bool) (type : ValueType) :
    Declares (.union ofClasses [.absent, .value type]) type true

namespace Conversion
variable {type : ValueType} {leniency : Leniency} {token : String} {v : Value}

theorem readLiteral_eq_ok {read : Option Value} (h : readLiteral type token read = .ok v) :
    read = some v := by
  cases read with
  | none => cases h
  | some w =>
    cases h
    rfl

theorem decimal?_finite {cs : List Char} {d : Number.Decimal} (h : Literal.decimal? cs = some d) :
    ∃ negative coefficient exponent, d = .finite negative coefficient exponent := by
  obtain ⟨r, _, hr⟩ := Option.bind_eq_some_iff.mp h
  unfold Literal.Real.toDecimal? at hr
  dsimp only at hr
  split at hr
  · cases hr
    exact ⟨_, _, _, rfl⟩
  · cases hr

/-- What is read is a value of the type, or the nothing that an unknown name stands for. -/
theorem hasValue_of_read (h : read type leniency token = .ok v) :
    type.HasValue v ∨ v = .none ∧ leniency.nullable = true ∧ leniency.lenient = true ∧
      ∃ e, type = .enumeration e ∧ e.member? token = none := by
  cases type with
  | text =>
    cases h
    exact Or.inl (.text token)
  | bool =>
    obtain ⟨b, _, rfl⟩ := Option.map_eq_some_iff.mp (readLiteral_eq_ok h)
    exact Or.inl (.bool b)
  | int =>
    obtain ⟨n, _, rfl⟩ := Option.map_eq_some_iff.mp (readLiteral_eq_ok h)
    exact Or.inl (.int n)
  | real =>
    obtain ⟨x, _, rfl⟩ := Option.map_eq_some_iff.mp (readLiteral_eq_ok h)
    exact Or.inl (.real x)
  | decimal =>
    obtain ⟨d, hd, rfl⟩ := Option.map_eq_some_iff.mp (readLiteral_eq_ok h)
    obtain ⟨negative, coefficient, exponent, rfl⟩ := decimal?_finite hd
    exact Or.inl (.decimal negative coefficient exponent)
  | fixed w =>
    change readFixed w token = .ok v at h
    unfold readFixed at h
    cases hn : Literal.int? token.toList with
    | none => simp [hn] at h
    | some n =>
      cases hbounds : w.bounds with
      | error m => simp [hn, hbounds] at h
      | ok bounds =>
        obtain ⟨lower, upper⟩ := bounds
        have hexact : lower = w.lower ∧ upper = w.upper := FixedWidth.eq_of_bounds hbounds
        simp only [hn, hbounds, hexact] at h
        split at h
        · rename_i hrange
          cases h
          exact Or.inl (.fixed (FixedWidth.holds_iff.mpr hrange))
        · cases h
  | enumeration e =>
    change readMember e leniency token = .ok v at h
    unfold readMember at h
    cases hm : e.member? token with
    | some m =>
      simp only [hm, Except.ok.injEq] at h
      subst h
      exact Or.inl (.member token hm)
    | none =>
      simp only [hm] at h
      split at h
      · rename_i hallowed
        cases h
        simp only [Bool.and_eq_true] at hallowed
        exact Or.inr ⟨rfl, hallowed.2, hallowed.1, e, rfl, hm⟩
      · cases h

theorem isPlain_infer (token : String) : (infer token).isPlain = true := by
  unfold infer
  split
  · rfl
  · split
    · rfl
    · split <;> rfl

end Conversion

theorem TypeExpr.declares_of_target {expr : TypeExpr} {type : ValueType} {nullable : Bool}
    (h : expr.target? = some (type, nullable)) : expr.Declares type nullable := by
  unfold target? unwrap at h
  split at h
  · rename_i inner wrapped hunwrap
    cases h
    split at hunwrap
    · cases hunwrap
      exact .orNothing _ _
    · cases hunwrap
      exact .nothingOr _ _
    · cases hunwrap
      exact .alone _
  · cases h

namespace Parameter

/-- A parameter that reads tokens reads them as the type that it was declared with, nothing being
allowed if it was declared to be, and has the default that it was declared with. -/
theorem declares_of_declare {d : Draft} {p : Parameter} (declared : declare d = .ok p)
    (valued : p.isValued = true) :
    ∃ expr type, d.type = .type expr ∧ p.type = some type ∧ expr.Declares type p.nullable ∧
      p.default = kept d.default := by
  revert declared
  fun_cases declare d with
  | case3 name _ _ role _ _ special =>
    rintro ⟨⟩
    simp [isValued, special] at valued
  | case7 name _ _ role _ _ _ type nullable target =>
    rintro ⟨⟩
    split at target
    · exact ⟨_, type, ‹_›, rfl, TypeExpr.declares_of_target target, rfl⟩
    · cases target
  | case1 | case2 | case4 | case5 | case6 | case8 | case9 => rintro ⟨⟩

theorem role_of_declare_default {d : Draft} {e : Error} (refused : declare d = .error e)
    (name : String) :
    (e = .positionalDefault name → d.role = some .positional ∧ d.default.isUnset = false) ∧
    (e = .namedWithoutDefault name → d.role = some .named ∧ d.default.isUnset = true) := by
  revert refused
  fun_cases declare d with
  | case5 _ _ _ role hrole _ _ _ _ _ positional =>
    rintro ⟨⟩
    exact ⟨fun _ => ⟨positional.1 ▸ hrole, positional.2⟩, by rintro ⟨⟩⟩
  | case6 _ _ _ role hrole _ _ _ _ _ _ named =>
    rintro ⟨⟩
    exact ⟨by rintro ⟨⟩, fun _ => ⟨named.1 ▸ hrole, named.2⟩⟩
  | case4 name =>
    rintro ⟨⟩
    unfold Error.ofType
    split <;> exact ⟨by rintro ⟨⟩, by rintro ⟨⟩⟩
  | case1 | case2 | case3 | case7 | case8 | case9 =>
    rintro ⟨⟩ <;> exact ⟨by rintro ⟨⟩, by rintro ⟨⟩⟩

end Parameter

namespace Binding

/-- What a parameter may be given: its default where no token reaches it by name or by position, a
value of its type where one does, and nothing where an unknown name stands for it; or else what its
special role brings. -/
inductive Fits (parameters : List Parameter) (tokens flags : List String) (caller : Value)
    (lenient : Bool) (place : Nat) (p : Parameter) : Value → Prop
  | default {v : Value} (valued : p.isValued = true)
    (unnamed : ∀ token ∈ tokens, ¬ Names p.name token)
    (beyond : (unclaimed parameters tokens).length ≤ position parameters place)
    (default : p.default = some v) : Fits parameters tokens flags caller lenient place p v
  | typed {type : ValueType} {t : Placed} {v : Value} (declared : p.type = some type)
    (source : source? parameters tokens place p = some t) (value : type.HasValue v) :
    Fits parameters tokens flags caller lenient place p v
  | nothing {e : Enumeration} {t : Placed} (declared : p.type = some (.enumeration e))
    (nullable : p.nullable = true) (allowed : lenient = true)
    (source : source? parameters tokens place p = some t)
    (unknown : e.member? (textOf tokens p t) = none) :
    Fits parameters tokens flags caller lenient place p .none
  | flagged (role : p.role = .flags) :
    Fits parameters tokens flags caller lenient place p (.tuple (flags.map .text))
  | handle (role : p.role = .caller) : Fits parameters tokens flags caller lenient place p caller
  | variadic {vs : List Value} (role : p.role = .variadic) (plain : ∀ v ∈ vs, v.isPlain = true) :
    Fits parameters tokens flags caller lenient place p (.tuple vs)

section
variable {parameters : List Parameter} {tokens flags : List String} {caller : Value}
  {lenient : Bool} {place : Nat} {p : Parameter}

theorem exists_type_of_valued (valued : p.isValued = true) : ∃ type, p.type = some type := by
  have hsome := p.type_isSome
  unfold Parameter.isValued at valued
  rw [valued] at hsome
  exact Option.isSome_iff_exists.mp hsome

theorem unreached_of_source? (valued : p.isValued = true)
    (source : source? parameters tokens place p = none) :
    (∀ token ∈ tokens, ¬ Names p.name token) ∧
      (unclaimed parameters tokens).length ≤ position parameters place := by
  unfold source? at source
  cases hclaim : claim? tokens p with
  | some t => simp [hclaim] at source
  | none =>
    rw [hclaim] at source
    refine ⟨?_, List.getElem?_eq_none_iff.mp source⟩
    intro token hmem hnames
    rw [claim?, if_pos valued, List.find?_eq_none] at hclaim
    obtain ⟨index, hindex⟩ := List.mem_iff_getElem?.mp hmem
    refine hclaim (token, index) (List.mem_zipIdx_iff_getElem?.mpr hindex) ?_
    simpa using hnames

theorem fits_of_outcome {v : Value}
    (h : outcome parameters tokens flags caller lenient place p = .ok v) :
    Fits parameters tokens flags caller lenient place p v := by
  cases hvalued : p.isValued with
  | false =>
    unfold outcome at h
    rcases isValued_eq_false_iff.mp hvalued with hrole | hrole | hrole
    · rw [hrole] at h
      cases h
      exact .flagged hrole
    · rw [hrole] at h
      cases h
      exact .handle hrole
    · rw [hrole] at h
      cases h
      refine .variadic hrole ?_
      intro v hv
      obtain ⟨t, _, rfl⟩ := List.mem_map.mp hv
      exact Conversion.isPlain_infer t.1
  | true =>
    rw [outcome_of_valued hvalued] at h
    cases hs : source? parameters tokens place p with
    | some t =>
      obtain ⟨type, htype⟩ := exists_type_of_valued hvalued
      cases hr : readFor p lenient (textOf tokens p t) with
      | error r => simp [hs, hr, Except.mapError] at h
      | ok w =>
        obtain rfl : w = v := by simpa [hs, hr, Except.mapError] using h
        rw [readFor, htype] at hr
        rcases Conversion.hasValue_of_read hr with
          hvalue | ⟨rfl, hnullable, hlenient, e, rfl, hunknown⟩
        · exact .typed htype hs hvalue
        · exact .nothing htype hnullable hlenient hs hunknown
    | none =>
      obtain ⟨hunnamed, hbeyond⟩ := unreached_of_source? hvalued hs
      cases hd : p.default with
      | none => simp [hs, hd] at h
      | some w =>
        obtain rfl : w = v := by simpa [hs, hd] using h
        exact .default hvalued hunnamed hbeyond hd

end

/-- What is bound fits. Binding gives one value to each parameter, in their order: to one that reads
tokens a value of the type that it was declared with, unless no token reaches it and it has its
default, or an unknown name stands for nothing; to the others what their roles bring. -/
theorem bind_fits {parameters : List Parameter} {tokens flags : List String} {caller : Value}
    {lenient : Bool} {values : List Value} (distinct : (parameters.map (·.name)).Nodup)
    (bound : bind parameters tokens flags caller lenient = .ok values) :
    values.length = parameters.length ∧
    (∀ place p v, parameters[place]? = some p → values[place]? = some v →
      Fits parameters tokens flags caller lenient place p v) ∧
    ∀ (d : Parameter.Draft) (p : Parameter), Parameter.declare d = .ok p → p.isValued = true →
      ∃ expr type, d.type = .type expr ∧ p.type = some type ∧ expr.Declares type p.nullable ∧
        p.default = Parameter.kept d.default := by
  refine ⟨length_bind bound, ?_, fun _ _ => Parameter.declares_of_declare⟩
  intro place p v hp hv
  exact fits_of_outcome (outcome_of_bind distinct bound hp hv)

/-- The least number of eight bits, and an optional number that no token reaches. -/
theorem bind_fits_least :
    ([simple "x" (by decide) (.fixed .int8) none, simple "y" (by decide) .int (some (.int 0))].map
      (·.name)).Nodup ∧
    bind [simple "x" (by decide) (.fixed .int8) none, simple "y" (by decide) .int (some (.int 0))]
      ["x=-128"] [] .none false = .ok [.int (-128), .int 0] ∧
    Fits [simple "x" (by decide) (.fixed .int8) none, simple "y" (by decide) .int (some (.int 0))]
      ["x=-128"] [] .none false 0 (simple "x" (by decide) (.fixed .int8) none) (.int (-128)) ∧
    Fits [simple "x" (by decide) (.fixed .int8) none, simple "y" (by decide) .int (some (.int 0))]
      ["x=-128"] [] .none false 1 (simple "y" (by decide) .int (some (.int 0))) (.int 0) := by
  have distinct : ([simple "x" (by decide) (.fixed .int8) none,
      simple "y" (by decide) .int (some (.int 0))].map (·.name)).Nodup := by decide
  have bound : bind [simple "x" (by decide) (.fixed .int8) none,
      simple "y" (by decide) .int (some (.int 0))] ["x=-128"] [] .none false =
      .ok [.int (-128), .int 0] := rfl
  have fits := (bind_fits distinct bound).2.1
  exact ⟨distinct, bound, fits 0 _ _ rfl rfl, fits 1 _ _ rfl rfl⟩

end Binding
end LineShell
