import LineShell.Proofs.Arguments.Binding

/-! # What flags and the session do to the other parameters

The parameters that receive the flags or the running session take no token and no position. Without
them the others are bound as before: to the same values, or with the same failure. So no flag and no
session ever decides what another parameter receives, or whether there is anything to receive.
-/
namespace LineShell.Binding
variable {parameters : List Parameter} {tokens flags : List String} {caller : Value}
  {lenient : Bool} {p : Parameter} {v : Value} {vs : List Value} {index : Nat}

/-- The value does not come from the flags or from the running session. -/
def isBoundFromTokens (p : Parameter) : Bool := p.role ≠ .flags && p.role ≠ .caller

def fromTokens (parameters : List Parameter) : List Parameter := parameters.filter isBoundFromTokens

def valuesFromTokens (parameters : List Parameter) (values : List Value) : List Value :=
  ((parameters.zip values).filter fun a => isBoundFromTokens a.1).map Prod.snd

theorem isBoundFromTokens_eq_false_iff :
    isBoundFromTokens p = false ↔ p.role = .flags ∨ p.role = .caller := by
  unfold isBoundFromTokens
  cases p.role <;> simp

theorem valuesFromTokens_cons_of_true (h : isBoundFromTokens p = true) :
    valuesFromTokens (p :: parameters) (v :: vs) = v :: valuesFromTokens parameters vs := by
  simp [valuesFromTokens, h]

theorem valuesFromTokens_cons_of_false (h : isBoundFromTokens p = false) :
    valuesFromTokens (p :: parameters) (v :: vs) = valuesFromTokens parameters vs := by
  simp [valuesFromTokens, h]

theorem add_of_apart (c : Claims) (h : isBoundFromTokens p = false) : c.add p = c := by
  have hvalued : p.isValued = false := by
    unfold Parameter.isValued
    rcases isBoundFromTokens_eq_false_iff.mp h with hrole | hrole <;> rw [hrole] <;> rfl
  unfold Claims.add
  rw [hvalued, if_neg Bool.false_ne_true]

theorem claims_fromTokens (parameters : List Parameter) (tokens : List String) :
    Claims.ofParameters (fromTokens parameters) tokens = Claims.ofParameters parameters tokens := by
  unfold Claims.ofParameters fromTokens
  rw [List.foldl_filter]
  congr 1
  funext c p
  cases h : isBoundFromTokens p with
  | true => rfl
  | false => exact (add_of_apart c h).symm

namespace Offer

/-- A parameter that receives the flags or the session has a value, and the next parameter stands
where it would without it. -/
theorem value_of_apart (o : Offer) (index : Nat) (h : isBoundFromTokens p = false) :
    (∃ v, o.value p index = .ok v) ∧ next p index = index := by
  unfold value next
  rcases isBoundFromTokens_eq_false_iff.mp h with hrole | hrole
  · rw [hrole]
    exact ⟨⟨_, rfl⟩, rfl⟩
  · rw [hrole]
    exact ⟨⟨_, rfl⟩, rfl⟩

theorem value_congr (claims : Claims) (flags : List String) (caller : Value) (lenient : Bool)
    (index : Nat) (h : isBoundFromTokens p = true) :
    value ⟨claims, [], .none, lenient⟩ p index =
      value ⟨claims, flags, caller, lenient⟩ p index := by
  unfold value
  cases hrole : p.role with
  | flags => simp [isBoundFromTokens, hrole] at h
  | caller => simp [isBoundFromTokens, hrole] at h
  | positional | named | variadic => rfl

theorem values_fromTokens (claims : Claims) (flags : List String) (caller : Value) (lenient : Bool)
    (index : Nat) (parameters : List Parameter) :
    values ⟨claims, [], .none, lenient⟩ index (fromTokens parameters) =
      (values ⟨claims, flags, caller, lenient⟩ index parameters).map
        (valuesFromTokens parameters) := by
  induction parameters generalizing index with
  | nil => rfl
  | cons p rest ih =>
    have hrest : fromTokens (p :: rest) =
        if isBoundFromTokens p then p :: fromTokens rest else fromTokens rest := List.filter_cons
    rw [hrest]
    cases h : isBoundFromTokens p with
    | true =>
      rw [if_pos rfl, values_cons, values_cons, value_congr claims flags caller lenient index h, ih]
      cases value ⟨claims, flags, caller, lenient⟩ p index with
      | error f => rfl
      | ok v =>
        cases values ⟨claims, flags, caller, lenient⟩ (next p index) rest with
        | error f => rfl
        | ok vs => exact congrArg Except.ok (valuesFromTokens_cons_of_true h).symm
    | false =>
      obtain ⟨⟨v, hv⟩, hnext⟩ := value_of_apart ⟨claims, flags, caller, lenient⟩ index h
      rw [if_neg Bool.false_ne_true, values_cons, hv, hnext, ih]
      cases values ⟨claims, flags, caller, lenient⟩ index rest with
      | error f => rfl
      | ok vs => exact congrArg Except.ok (valuesFromTokens_cons_of_false h).symm

end Offer

theorem bind_fromTokens (parameters : List Parameter) (tokens flags : List String) (caller : Value)
    (lenient : Bool) : bind (fromTokens parameters) tokens [] .none lenient =
      (bind parameters tokens flags caller lenient).map (valuesFromTokens parameters) := by
  unfold bind
  rw [claims_fromTokens]
  exact Offer.values_fromTokens _ flags caller lenient 0 parameters

theorem map_eq_error_iff {ε α β : Type} {x : Except ε α} {g : α → β} {e : ε} :
    x.map g = .error e ↔ x = .error e := by
  cases x <;> simp [Except.map]

/-- Flags and the session are bound apart from everything else. Without the parameters that receive
them, without any flag and without a session, the same tokens are bound to the same values less
those of these parameters, and binding fails exactly if it failed before, with the same failure.
Therefore other flags and another session change neither the values of the other parameters nor the
failure. -/
theorem bind_apart (parameters : List Parameter) (tokens flags : List String) (caller : Value)
    (lenient : Bool) :
    bind (fromTokens parameters) tokens [] .none lenient =
      (bind parameters tokens flags caller lenient).map (valuesFromTokens parameters) ∧
    (∀ f, bind (fromTokens parameters) tokens [] .none lenient = .error f ↔
      bind parameters tokens flags caller lenient = .error f) ∧
    ∀ (otherFlags : List String) (otherCaller : Value),
      (bind parameters tokens flags caller lenient).map (valuesFromTokens parameters) =
        (bind parameters tokens otherFlags otherCaller lenient).map
          (valuesFromTokens parameters) ∧
      ∀ f, bind parameters tokens flags caller lenient = .error f ↔
        bind parameters tokens otherFlags otherCaller lenient = .error f := by
  have hfails : ∀ flags caller f, bind (fromTokens parameters) tokens [] .none lenient = .error f ↔
      bind parameters tokens flags caller lenient = .error f := by
    intro flags caller f
    rw [bind_fromTokens parameters tokens flags caller lenient, map_eq_error_iff]
  refine ⟨bind_fromTokens parameters tokens flags caller lenient, hfails flags caller, ?_⟩
  intro otherFlags otherCaller
  refine ⟨?_, fun f => (hfails flags caller f).symm.trans (hfails otherFlags otherCaller f)⟩
  rw [← bind_fromTokens, ← bind_fromTokens]

end LineShell.Binding
