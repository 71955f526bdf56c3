import Mathlib.Data.List.Infix
import LineShell.Binding
import LineShell.Proofs.Arguments.Conversion

/-! # Values bound to parameters

Binding gives one value to each parameter, or fails at one of them.
-/
namespace LineShell.Binding

namespace Offer
variable {o : Offer} {index : Nat} {p : Parameter} {rest : List Parameter}

theorem values_cons (o : Offer) (index : Nat) (p : Parameter) (rest : List Parameter) :
    o.values index (p :: rest) = match o.value p index with
      | .error f => .error f
      | .ok v => (o.values (next p index) rest).map (v :: ·) := by
  rw [values]
  cases o.value p index with
  | error f => rfl
  | ok v => cases o.values (next p index) rest <;> rfl

theorem values_cons_eq_ok {vs : List Value} (h : o.values index (p :: rest) = .ok vs) :
    ∃ v others, o.value p index = .ok v ∧ o.values (next p index) rest = .ok others ∧
      vs = v :: others := by
  rw [values_cons] at h
  cases hv : o.value p index with
  | error f =>
    rw [hv] at h
    cases h
  | ok v =>
    rw [hv] at h
    cases hr : o.values (next p index) rest with
    | error f =>
      rw [hr] at h
      cases h
    | ok others =>
      rw [hr] at h
      cases h
      exact ⟨v, others, rfl, rfl, rfl⟩

theorem exists_of_values_eq_error {parameters : List Parameter} {f : Failure}
    (h : o.values index parameters = .error f) :
    ∃ p ∈ parameters, ∃ i, o.value p i = .error f := by
  induction parameters generalizing index with
  | nil => cases h
  | cons p rest ih =>
    rw [values_cons] at h
    cases hv : o.value p index with
    | error g =>
      rw [hv] at h
      cases h
      exact ⟨p, List.mem_cons_self, index, hv⟩
    | ok v =>
      rw [hv] at h
      cases hr : o.values (next p index) rest with
      | error g =>
        rw [hr] at h
        cases h
        obtain ⟨q, hq, hi⟩ := ih hr
        exact ⟨q, List.mem_cons_of_mem _ hq, hi⟩
      | ok others =>
        rw [hr] at h
        cases h

theorem length_values {parameters : List Parameter} {vs : List Value}
    (h : o.values index parameters = .ok vs) : vs.length = parameters.length := by
  induction parameters generalizing index vs with
  | nil =>
    cases h
    rfl
  | cons p rest ih =>
    obtain ⟨v, others, _, hr, rfl⟩ := values_cons_eq_ok h
    rw [List.length_cons, List.length_cons, ih hr]

theorem value_eq_error {f : Failure} (bounded : ∀ type, p.type = some type → type.IsBounded)
    (h : o.value p index = .error f) :
    f = .missing index p.name ∨
      ∃ token type reason, f = .refused (.uncastable token type reason) := by
  have hresolve : o.resolve p index = .error f → f = .missing index p.name ∨
      ∃ token type reason, f = .refused (.uncastable token type reason) := by
    intro h
    unfold resolve at h
    split at h
    · rename_i token _
      have hbounded : (p.type.getD .text).IsBounded := by
        cases ht : p.type with
        | none => trivial
        | some type => exact bounded type ht
      cases hr : Conversion.read (p.type.getD .text)
          { nullable := p.nullable, lenient := o.lenient } token with
      | ok v =>
        rw [hr] at h
        cases h
      | error r =>
        rw [hr] at h
        cases h
        obtain ⟨reason, rfl⟩ := Conversion.read_eq_error hbounded hr
        exact Or.inr ⟨token, _, reason, rfl⟩
    · split at h
      · cases h
      · cases h
        exact Or.inl rfl
  unfold value at h
  split at h
  · cases h
  · cases h
  · cases h
  · exact hresolve h
  · exact hresolve h

end Offer

/-- A line that cannot be bound ends with a fault that the read loop survives and can show. -/
theorem exists_fault_of_bind {parameters : List Parameter} {positionals flags : List String}
    {caller : Value} {lenient : Bool} {f : Failure}
    (bounded : ∀ p ∈ parameters, ∀ type, p.type = some type → type.IsBounded)
    (h : bind parameters positionals flags caller lenient = .error f) :
    ∃ fault, f.failure = .fault fault ∧ fault.kind.isRecoverable = true ∧
      fault.hint.hasPlain = true := by
  obtain ⟨p, hp, index, hv⟩ := Offer.exists_of_values_eq_error h
  rcases Offer.value_eq_error (bounded p hp) hv with rfl | ⟨token, type, reason, rfl⟩
  · exact ⟨_, rfl, rfl, rfl⟩
  · exact ⟨_, rfl, rfl, rfl⟩

/-- A handler is given one value for each parameter of its command. -/
theorem length_bind {parameters : List Parameter} {positionals flags : List String}
    {caller : Value} {lenient : Bool} {vs : List Value}
    (h : bind parameters positionals flags caller lenient = .ok vs) :
    vs.length = parameters.length :=
  Offer.length_values h

theorem takeLed_eq_none {lead : List Char} {tokens : List String}
    (h : ∀ token ∈ tokens, ¬ lead <+: token.toList) : takeLed lead tokens = none := by
  induction tokens with
  | nil => rfl
  | cons token rest ih =>
    have hrest := ih fun t ht => h t (List.mem_cons_of_mem token ht)
    unfold takeLed
    cases hp : lead.isPrefixOf? token.toList with
    | none => rw [hrest]; rfl
    | some text =>
      exact absurd ⟨text, List.isPrefixOf?_eq_some_iff_append_eq.mp hp⟩ (h token List.mem_cons_self)

theorem claims_of_unclaimed {parameters : List Parameter} {tokens : List String}
    (h : ∀ p ∈ parameters, p.isValued = true → ∀ token ∈ tokens, ¬ lead p.name <+: token.toList) :
    Claims.ofParameters parameters tokens = { remaining := tokens } := by
  unfold Claims.ofParameters
  induction parameters with
  | nil => rfl
  | cons p rest ih =>
    have hadd : Claims.add { remaining := tokens } p = { remaining := tokens } := by
      unfold Claims.add
      split
      · rename_i hv
        rw [takeLed_eq_none (h p List.mem_cons_self hv)]
      · rfl
    rw [List.foldl_cons, hadd]
    exact ih fun q hq => h q (List.mem_cons_of_mem p hq)

theorem Offer.values_texts {o : Offer} {parameters : List Parameter} {flagged : Parameter}
    (positional : ∀ p ∈ parameters, p.role = .positional ∧ p.type = some .text)
    (special : flagged.role = .flags) (unnamed : o.claims.named = []) {index : Nat}
    (count : (o.claims.remaining.drop index).length = parameters.length) :
    o.values index (parameters ++ [flagged]) =
      .ok ((o.claims.remaining.drop index).map .text ++ [.tuple (o.flags.map .text)]) := by
  induction parameters generalizing index with
  | nil =>
    have hdrop : o.claims.remaining.drop index = [] := List.length_eq_zero_iff.mp count
    have hvalue : o.value flagged index = .ok (.tuple (o.flags.map .text)) := by
      unfold value
      rw [special]
    rw [List.nil_append, values_cons, hvalue, hdrop]
    rfl
  | cons p rest ih =>
    obtain ⟨hrole, htype⟩ := positional p List.mem_cons_self
    obtain ⟨text, more, hdrop⟩ : ∃ text more, o.claims.remaining.drop index = text :: more := by
      cases hd : o.claims.remaining.drop index with
      | nil => simp [hd] at count
      | cons text more => exact ⟨text, more, rfl⟩
    have hmore : o.claims.remaining.drop (index + 1) = more := by
      rw [← List.drop_drop, hdrop]
      rfl
    have htext : o.claims.remaining[index]? = some text := by
      have h : (o.claims.remaining.drop index)[0]? = o.claims.remaining[index + 0]? :=
        List.getElem?_drop
      rw [hdrop] at h
      exact h.symm
    have hvalue : o.value p index = .ok (.text text) := by
      unfold value resolve token? Claims.text?
      rw [hrole, unnamed, htext, htype]
      rfl
    have hnext : next p index = index + 1 := by
      unfold next
      rw [hrole]
      rfl
    have hcount : (o.claims.remaining.drop (index + 1)).length = rest.length := by
      rw [hmore]
      rw [hdrop] at count
      simpa using count
    have hrest := ih (fun q hq => positional q (List.mem_cons_of_mem p hq)) hcount
    rw [List.cons_append, values_cons, hvalue, hnext]
    simp only [hrest, hmore, hdrop]
    rfl

/-- Texts by position are bound as they are, and the flags after them as one value. -/
theorem bind_texts {parameters : List Parameter} {flagged : Parameter} {texts flags : List String}
    {caller : Value} {lenient : Bool}
    (positional : ∀ p ∈ parameters, p.role = .positional ∧ p.type = some .text)
    (special : flagged.role = .flags) (count : texts.length = parameters.length)
    (unclaimed : ∀ p ∈ parameters, ∀ text ∈ texts, ¬ lead p.name <+: text.toList) :
    bind (parameters ++ [flagged]) texts flags caller lenient =
      .ok (texts.map .text ++ [.tuple (flags.map .text)]) := by
  have hclaims : Claims.ofParameters (parameters ++ [flagged]) texts = { remaining := texts } := by
    refine claims_of_unclaimed ?_
    intro p hp hvalued
    rcases List.mem_append.mp hp with hp | hp
    · exact unclaimed p hp
    · rw [List.mem_singleton.mp hp] at hvalued
      unfold Parameter.isValued at hvalued
      rw [special] at hvalued
      cases hvalued
  unfold bind
  rw [hclaims]
  exact Offer.values_texts (o := ⟨{ remaining := texts }, flags, caller, lenient⟩) positional
    special
    rfl count

end LineShell.Binding
