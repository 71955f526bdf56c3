import Mathlib.Data.Nat.Find
import LineShell.Proofs.Arguments.Members
import LineShell.Proofs.Arguments.Outcome

/-! # What leniency changes

An unknown name of a nullable enumeration stands for nothing if binding is lenient, and is refused
if it is strict. Nothing else depends on the leniency: of two runs on the same line, the strict one
stops at the first such name, unless both have stopped before.
-/
namespace LineShell.Binding

/-! ### The first error among results -/

section
variable {ε α : Type} {results : List (Except ε α)} {values : List α} {place other : Nat} {e d : ε}

/-- The results before the place are values, and the one at the place is the error. -/
structure FirstError (results : List (Except ε α)) (place : Nat) (e : ε) : Prop where
  before : ∀ earlier < place, ∃ a, results[earlier]? = some (.ok a)
  here : results[place]? = some (.error e)

theorem FirstError.le (h : FirstError results place e) (here : results[other]? = some (.error d)) :
    place ≤ other := by
  by_contra hlater
  obtain ⟨a, ha⟩ := h.before other (Nat.not_le.mp hlater)
  cases ha.symm.trans here

theorem exists_firstError (h : results.mapM id = .error e) :
    ∃ place, FirstError results place e := by
  obtain ⟨values, rest, rfl⟩ := mapM_id_eq_error_iff.mp h
  refine ⟨values.length, ?_, by simp⟩
  intro earlier hearlier
  refine ⟨values[earlier], ?_⟩
  rw [List.getElem?_append_left (by simpa using hearlier)]
  simp [hearlier]

theorem FirstError.mapM_eq (h : FirstError results place e) : results.mapM id = .error e := by
  cases hresults : results.mapM id with
  | ok values =>
    have hhere := h.here
    rw [mapM_id_eq_ok_iff.mp hresults, List.getElem?_map] at hhere
    obtain ⟨_, _, hvalue⟩ := Option.map_eq_some_iff.mp hhere
    cases hvalue
  | error d =>
    obtain ⟨other, hother⟩ := exists_firstError hresults
    have hplace : place = other := Nat.le_antisymm (h.le hother.here) (hother.le h.here)
    subst hplace
    cases h.here.symm.trans hother.here
    rfl

theorem getElem?_of_mapM (h : results.mapM id = .ok values) (place : Nat) :
    results[place]? = values[place]?.map .ok := by
  rw [mapM_id_eq_ok_iff.mp h, List.getElem?_map]

end

/-! ### Two runs on the same line -/

def results (parameters : List Parameter) (tokens flags : List String) (caller : Value)
    (lenient : Bool) : List (Except Failure Value) :=
  parameters.mapIdx fun place p =>
    Offer.value ⟨.ofParameters parameters tokens, flags, caller, lenient⟩ p
      (position parameters place)

/-- Binding fails at the parameter of a place, after all before it have received values. -/
structure FailsAt (parameters : List Parameter) (tokens flags : List String) (caller : Value)
    (lenient : Bool) (place : Nat) (f : Failure) : Prop where
  failed : bind parameters tokens flags caller lenient = .error f
  first : FirstError (results parameters tokens flags caller lenient) place f

/-- The token that a parameter reads: the one claimed by its name, or else the one that remains at
its position. -/
def given? (parameters : List Parameter) (tokens : List String) (place : Nat) (p : Parameter) :
    Option String :=
  Offer.token? ⟨.ofParameters parameters tokens, [], .none, false⟩ p (position parameters place)

/-- The parameter may receive nothing, its type is an enumeration, and its token names no member. -/
structure IsUnknown (parameters : List Parameter) (tokens : List String) (place : Nat)
    (p : Parameter) (e : Enumeration) (token : String) : Prop where
  at_place : parameters[place]? = some p
  type : p.type = some (.enumeration e)
  nullable : p.nullable = true
  given : given? parameters tokens place p = some token
  unknown : e.member? token = none

structure IsFirstUnknown (parameters : List Parameter) (tokens : List String) (place : Nat)
    (p : Parameter) (e : Enumeration) (token : String) : Prop
    extends IsUnknown parameters tokens place p e token where
  first : ∀ earlier < place, ∀ q d other, ¬ IsUnknown parameters tokens earlier q d other

def unknownName (e : Enumeration) (token : String) : Failure :=
  .refused (.uncastable token (.enumeration e) .name)

section
variable {parameters : List Parameter} {tokens flags : List String} {caller : Value}
  {lenient : Bool} {place : Nat} {p : Parameter} {e : Enumeration} {token : String} {f : Failure}
  {values : List Value}

theorem bind_eq_results (parameters : List Parameter) (tokens flags : List String) (caller : Value)
    (lenient : Bool) : bind parameters tokens flags caller lenient =
      (results parameters tokens flags caller lenient).mapM id := by
  unfold bind results
  rw [Offer.values_eq_mapM]
  simp only [Nat.zero_add]

theorem exists_failsAt (h : bind parameters tokens flags caller lenient = .error f) :
    ∃ place, FailsAt parameters tokens flags caller lenient place f := by
  have hresults := h
  rw [bind_eq_results] at hresults
  obtain ⟨place, hfirst⟩ := exists_firstError hresults
  exact ⟨place, h, hfirst⟩

theorem FirstError.failsAt
    (h : FirstError (results parameters tokens flags caller lenient) place f) :
    FailsAt parameters tokens flags caller lenient place f :=
  ⟨by rw [bind_eq_results, h.mapM_eq], h⟩

theorem getElem?_results (lenient : Bool) (at_place : parameters[place]? = some p) :
    (results parameters tokens flags caller lenient)[place]? =
      some (Offer.value ⟨.ofParameters parameters tokens, flags, caller, lenient⟩ p
        (position parameters place)) := by
  unfold results
  rw [List.getElem?_mapIdx, at_place]
  rfl

/-- Strictly or leniently, a token is read as the same, unless it is an unknown name. -/
theorem read_congr {type : ValueType} {nullable : Bool}
    (known : ∀ e, type = .enumeration e → nullable = true → e.member? token ≠ none) :
    Conversion.read type { nullable, lenient := false } token =
      Conversion.read type { nullable, lenient := true } token := by
  cases type with
  | enumeration e =>
    simp only [Conversion.read, Conversion.readMember]
    cases hmember : e.member? token with
    | some m => rfl
    | none =>
      cases nullable with
      | false => rfl
      | true => exact absurd hmember (known e rfl rfl)
  | text | bool | int | real | decimal | fixed => rfl

theorem results_congr (known : ∀ p e token, ¬ IsUnknown parameters tokens place p e token) :
    (results parameters tokens flags caller false)[place]? =
      (results parameters tokens flags caller true)[place]? := by
  cases hp : parameters[place]? with
  | none => simp [results, hp]
  | some p =>
    have hresolve : Offer.resolve ⟨.ofParameters parameters tokens, flags, caller, false⟩ p
        (position parameters place) =
          Offer.resolve ⟨.ofParameters parameters tokens, flags, caller, true⟩ p
            (position parameters place) := by
      unfold Offer.resolve
      have htoken : ∀ lenient,
          Offer.token? ⟨.ofParameters parameters tokens, flags, caller, lenient⟩ p
            (position parameters place) = given? parameters tokens place p := fun _ => rfl
      rw [htoken, htoken]
      cases hgiven : given? parameters tokens place p with
      | none => rfl
      | some token =>
        have hknown : ∀ e, p.type.getD .text = .enumeration e → p.nullable = true →
            e.member? token ≠ none := by
          intro e he hnullable hmember
          have htype : p.type = some (.enumeration e) := by
            cases ht : p.type with
            | none => simp [ht] at he
            | some type => simpa [ht] using he
          exact known p e token ⟨hp, htype, hnullable, hgiven, hmember⟩
        simp only [read_congr hknown]
    rw [getElem?_results false hp, getElem?_results true hp]
    unfold Offer.value
    cases p.role <;> simp [hresolve]

theorem results_of_isUnknown (h : IsUnknown parameters tokens place p e token) :
    (results parameters tokens flags caller false)[place]? = some (.error (unknownName e token)) ∧
      (results parameters tokens flags caller true)[place]? = some (.ok .none) := by
  have hvalued : p.role.isSpecial = false := by
    have hsome := p.type_isSome
    rw [h.type] at hsome
    simpa using hsome.symm
  have hvalue : ∀ lenient, Offer.value ⟨.ofParameters parameters tokens, flags, caller, lenient⟩ p
      (position parameters place) =
        if lenient then .ok .none else .error (unknownName e token) := by
    intro lenient
    have htoken : Offer.token? ⟨.ofParameters parameters tokens, flags, caller, lenient⟩ p
        (position parameters place) = some token := h.given
    have hresolve : Offer.resolve ⟨.ofParameters parameters tokens, flags, caller, lenient⟩ p
        (position parameters place) =
          if lenient then .ok .none else .error (unknownName e token) := by
      unfold Offer.resolve
      rw [htoken]
      simp only [h.type, h.nullable, Option.getD_some, Conversion.read, Conversion.readMember,
        h.unknown]
      cases lenient <;> rfl
    unfold Offer.value
    cases hrole : p.role <;> simp [hrole, Role.isSpecial] at hvalued ⊢ <;> exact hresolve
  rw [getElem?_results false h.at_place, getElem?_results true h.at_place, hvalue, hvalue]
  exact ⟨rfl, rfl⟩

theorem exists_isFirstUnknown (h : IsUnknown parameters tokens place p e token) :
    ∃ first ≤ place, ∃ p e token, IsFirstUnknown parameters tokens first p e token := by
  classical
  have hsome : ∃ place p e token, IsUnknown parameters tokens place p e token :=
    ⟨place, p, e, token, h⟩
  obtain ⟨q, d, other, hfirst⟩ := Nat.find_spec hsome
  refine ⟨Nat.find hsome, Nat.find_min' hsome ⟨p, e, token, h⟩, q, d, other, hfirst, ?_⟩
  intro earlier hearlier q d other hunknown
  exact Nat.find_min hsome hearlier ⟨q, d, other, hunknown⟩

/-- Where the lenient run gets to the first unknown name, the strict one ends there. -/
theorem IsFirstUnknown.failsAt (h : IsFirstUnknown parameters tokens place p e token)
    (reached : ∀ earlier < place, ∃ v,
      (results parameters tokens flags caller true)[earlier]? = some (.ok v)) :
    FailsAt parameters tokens flags caller false place (unknownName e token) := by
  refine FirstError.failsAt ⟨?_, (results_of_isUnknown h.toIsUnknown).1⟩
  intro earlier hearlier
  rw [results_congr (h.first earlier hearlier)]
  exact reached earlier hearlier

theorem bind_congr (known : ∀ place p e token, ¬ IsUnknown parameters tokens place p e token) :
    bind parameters tokens flags caller false = bind parameters tokens flags caller true := by
  rw [bind_eq_results, bind_eq_results]
  congr 1
  exact List.ext_getElem? fun place => results_congr (known place)

theorem bind_lenient_of_strict (h : bind parameters tokens flags caller false = .ok values) :
    bind parameters tokens flags caller true = .ok values := by
  have hresults := h
  rw [bind_eq_results] at hresults
  rw [← h, bind_congr]
  intro place p e token hunknown
  have hplace := getElem?_of_mapM hresults place
  rw [(results_of_isUnknown hunknown).1] at hplace
  obtain ⟨_, _, hvalue⟩ := Option.map_eq_some_iff.mp hplace.symm
  cases hvalue

theorem getElem?_of_isUnknown (bound : bind parameters tokens flags caller true = .ok values)
    (h : IsUnknown parameters tokens place p e token) : values[place]? = some .none := by
  rw [bind_eq_results] at bound
  have hplace := getElem?_of_mapM bound place
  rw [(results_of_isUnknown h).2] at hplace
  obtain ⟨v, hv, hvalue⟩ := Option.map_eq_some_iff.mp hplace.symm
  cases hvalue
  exact hv

theorem failsAt_of_lenient (bound : bind parameters tokens flags caller true = .ok values)
    (h : IsFirstUnknown parameters tokens place p e token) :
    FailsAt parameters tokens flags caller false place (unknownName e token) := by
  obtain ⟨hlength, _⟩ :=
    List.getElem?_eq_some_iff.mp (getElem?_of_isUnknown bound h.toIsUnknown)
  rw [bind_eq_results] at bound
  apply h.failsAt
  intro earlier hearlier
  have hvalue : earlier < values.length := Nat.lt_trans hearlier hlength
  refine ⟨values[earlier], ?_⟩
  rw [getElem?_of_mapM bound, List.getElem?_eq_getElem hvalue, Option.map_some]

/-- The strict run fails where the lenient one does, or before it at an unknown name. -/
theorem FailsAt.strict (h : FailsAt parameters tokens flags caller true place f) :
    FailsAt parameters tokens flags caller false place f ∨
      ∃ earlier < place, ∃ p e token, IsFirstUnknown parameters tokens earlier p e token ∧
        FailsAt parameters tokens flags caller false earlier (unknownName e token) := by
  by_cases hsome : ∃ earlier < place, ∃ p e token, IsUnknown parameters tokens earlier p e token
  · obtain ⟨earlier, hearlier, p, e, token, hunknown⟩ := hsome
    obtain ⟨first, hle, q, d, other, hfirst⟩ := exists_isFirstUnknown hunknown
    have hlt : first < place := Nat.lt_of_le_of_lt hle hearlier
    exact Or.inr ⟨first, hlt, q, d, other, hfirst, hfirst.failsAt fun before hbefore =>
      h.first.before before (Nat.lt_trans hbefore hlt)⟩
  · have hknown : ∀ earlier < place, ∀ p e token,
        ¬ IsUnknown parameters tokens earlier p e token := by
      intro earlier hearlier p e token hunknown
      exact hsome ⟨earlier, hearlier, p, e, token, hunknown⟩
    have hhere : ∀ p e token, ¬ IsUnknown parameters tokens place p e token := by
      intro p e token hunknown
      cases h.first.here.symm.trans (results_of_isUnknown hunknown).2
    refine Or.inl (FirstError.failsAt ⟨?_, ?_⟩)
    · intro earlier hearlier
      rw [results_congr (hknown earlier hearlier)]
      exact h.first.before earlier hearlier
    · rw [results_congr hhere]
      exact h.first.here

end

/-- Leniency only adds nothings. What is bound strictly is bound leniently to the same values. What
is bound leniently has nothing at each unknown name; strictly it is bound to the same values if
there is no unknown name, and otherwise it is refused at the first of them, with its token and its
enumeration. What is not bound leniently is not bound strictly: it fails at the same parameter with
the same failure, or else at the first unknown name, which stands before. -/
theorem bind_leniently (parameters : List Parameter) (tokens flags : List String) (caller : Value) :
    (∀ values, bind parameters tokens flags caller false = .ok values →
      bind parameters tokens flags caller true = .ok values) ∧
    (∀ values, bind parameters tokens flags caller true = .ok values →
      (∀ place p e token, IsUnknown parameters tokens place p e token →
        values[place]? = some .none) ∧
      ((∀ place p e token, ¬ IsUnknown parameters tokens place p e token) ∧
          bind parameters tokens flags caller false = .ok values ∨
        ∃ place p e token, IsFirstUnknown parameters tokens place p e token ∧
          FailsAt parameters tokens flags caller false place (unknownName e token))) ∧
    (∀ f, bind parameters tokens flags caller true = .error f →
      ∃ place, FailsAt parameters tokens flags caller true place f ∧
        (FailsAt parameters tokens flags caller false place f ∨
          ∃ earlier < place, ∃ p e token, IsFirstUnknown parameters tokens earlier p e token ∧
            FailsAt parameters tokens flags caller false earlier (unknownName e token))) ∧
    (∀ e token, (unknownName e token).TellsConversion token (.enumeration e)) ∧
    ∀ (e : Enumeration) (token : String), e.IsSound →
      (e.member? token = none ↔ token ∉ e.names) := by
  refine ⟨fun _ => bind_lenient_of_strict, ?_, ?_,
    fun _ _ => Failure.tellsConversion_uncastable _ _ _,
    fun _ _ sound => Enumeration.member?_eq_none_iff sound⟩
  · intro values hbound
    refine ⟨fun _ _ _ _ => getElem?_of_isUnknown hbound, ?_⟩
    by_cases hsome : ∃ place p e token, IsUnknown parameters tokens place p e token
    · obtain ⟨place, p, e, token, hunknown⟩ := hsome
      obtain ⟨first, _, q, d, other, hfirst⟩ := exists_isFirstUnknown hunknown
      exact Or.inr ⟨first, q, d, other, hfirst, failsAt_of_lenient hbound hfirst⟩
    · have hknown : ∀ place p e token, ¬ IsUnknown parameters tokens place p e token :=
        fun place p e token hunknown => hsome ⟨place, p, e, token, hunknown⟩
      exact Or.inl ⟨hknown, (bind_congr hknown).trans hbound⟩
  · intro f hfailed
    obtain ⟨place, hplace⟩ := exists_failsAt hfailed
    exact ⟨place, hplace, hplace.strict⟩

def moods : Enumeration where
  name := "Mood"
  home := "demo"
  entries := [{ name := "Calm", canonical := "Calm", datum := "1" }]

def mood (name : String) (identifier : Text.isIdentifier name.toList = true) : Parameter :=
  { simple name identifier (.enumeration moods) none with nullable := true }

/-- An unknown name that stands for nothing leniently and is refused strictly; and one before a word
that is no number, where the two runs fail at different parameters. -/
theorem bind_leniently_stormy :
    bind [mood "now" (by decide), mood "next" (by decide)] ["Calm", "Stormy"] [] .none true =
      .ok [.member ⟨moods, ⟨"Calm", "Calm", "1", none, none, true⟩⟩, .none] ∧
    (∃ place p e token, IsFirstUnknown [mood "now" (by decide), mood "next" (by decide)]
        ["Calm", "Stormy"] place p e token ∧
      FailsAt [mood "now" (by decide), mood "next" (by decide)] ["Calm", "Stormy"] [] .none false
        place (unknownName e token)) ∧
    bind [mood "now" (by decide), simple "count" (by decide) .int none] ["Stormy", "many"] [] .none
      true = .error (.refused (.uncastable "many" .int .literal)) ∧
    ∃ place earlier, earlier < place ∧
      FailsAt [mood "now" (by decide), simple "count" (by decide) .int none] ["Stormy", "many"] []
        .none true place (.refused (.uncastable "many" .int .literal)) ∧
      FailsAt [mood "now" (by decide), simple "count" (by decide) .int none] ["Stormy", "many"] []
        .none false earlier (unknownName moods "Stormy") := by
  have hbound : bind [mood "now" (by decide), mood "next" (by decide)] ["Calm", "Stormy"] [] .none
      true = .ok [.member ⟨moods, ⟨"Calm", "Calm", "1", none, none, true⟩⟩, .none] := rfl
  have hfailed : bind [mood "now" (by decide), simple "count" (by decide) .int none]
      ["Stormy", "many"] [] .none true = .error (.refused (.uncastable "many" .int .literal)) := rfl
  have hstrict : bind [mood "now" (by decide), simple "count" (by decide) .int none]
      ["Stormy", "many"] [] .none false = .error (unknownName moods "Stormy") := rfl
  refine ⟨hbound, ?_, hfailed, ?_⟩
  · refine (((bind_leniently _ _ _ _).2.1 _ hbound).2).resolve_left ?_
    rintro ⟨hknown, -⟩
    exact hknown 1 _ moods "Stormy" ⟨rfl, rfl, rfl, rfl, rfl⟩
  · obtain ⟨place, hplace, hsame | ⟨earlier, hearlier, _, e, token, _, hfirst⟩⟩ :=
      (bind_leniently _ _ _ _).2.2.1 _ hfailed
    · have hother := hstrict.symm.trans hsame.failed
      simp [unknownName] at hother
    · cases hstrict.symm.trans hfirst.failed
      exact ⟨place, earlier, hearlier, hplace, hfirst⟩

end LineShell.Binding
