import Mathlib.Data.List.Pairwise
import Mathlib.Data.List.Perm.Basic
import LineShell.Proofs.Arguments.Legality
import LineShell.Proofs.Arguments.Outcome

/-! # Where the tokens go

A signature that ends with a variadic parameter delivers its tokens to the parameters, and none of
them twice. A token is lost all the same where a parameter has claimed another one: a claim leaves
the position of its parameter as it is, and nobody takes the unclaimed token there.
-/
namespace LineShell.Binding

/-- The tokens that the parameter at a place receives. -/
def received (parameters : List Parameter) (tokens : List String) (place : Nat) (p : Parameter) :
    List Placed :=
  match p.role with
  | .flags | .caller => []
  | .variadic => rest parameters tokens place
  | .positional | .named => (source? parameters tokens place p).toList

def delivered (parameters : List Parameter) (tokens : List String) : List Placed :=
  (parameters.mapIdx (received parameters tokens)).flatten

inductive MadeOf (tokens : List String) (lenient : Bool) (p : Parameter) :
    List Placed → Value → Prop
  | token {t : Placed} {v : Value} (valued : p.isValued = true)
      (read : readFor p lenient (textOf tokens p t) = .ok v) : MadeOf tokens lenient p [t] v
  | default {v : Value} (valued : p.isValued = true) (default : p.default = some v) :
      MadeOf tokens lenient p [] v
  | variadic {ts : List Placed} (variadic : p.role = .variadic) :
      MadeOf tokens lenient p ts (.tuple (ts.map fun t => Conversion.infer t.1))
  | apart {v : Value} (apart : p.role.isIndexed = false) : MadeOf tokens lenient p [] v

/-- The token stands at the position of a parameter that has claimed another one. -/
def IsLost (parameters : List Parameter) (tokens : List String) (t : Placed) : Prop :=
  ∃ place p, parameters[place]? = some p ∧ (claim? tokens p).isSome = true ∧
    (unclaimed parameters tokens)[position parameters place]? = some t

section
variable {parameters : List Parameter} {tokens flags : List String} {caller : Value}
  {lenient : Bool} {p q : Parameter} {t : Placed} {i j place n : Nat}

theorem isIndexed_of_isValued (valued : p.isValued = true) : p.role.isIndexed = true := by
  rcases isValued_iff.mp valued with hrole | hrole <;> rw [hrole] <;> rfl

theorem role_ne_of_isValued (valued : p.isValued = true) : p.role ≠ .variadic := by
  rcases isValued_iff.mp valued with hrole | hrole <;> simp [hrole]

theorem role_cases (p : Parameter) :
    p.isValued = true ∨ p.role = .variadic ∨ p.role.isIndexed = false := by
  rw [isValued_iff]
  cases p.role <;> simp [Role.isIndexed]

theorem received_of_valued (valued : p.isValued = true) :
    received parameters tokens place p = (source? parameters tokens place p).toList := by
  rcases isValued_iff.mp valued with hrole | hrole <;> simp [received, hrole]

theorem received_of_variadic (variadic : p.role = .variadic) :
    received parameters tokens place p = rest parameters tokens place := by
  simp [received, variadic]

theorem received_of_apart (apart : p.role.isIndexed = false) :
    received parameters tokens place p = [] := by
  cases h : p.role <;> simp [h, Role.isIndexed] at apart <;> simp [received, h]

theorem madeOf_of_outcome {v : Value}
    (h : outcome parameters tokens flags caller lenient place p = .ok v) :
    MadeOf tokens lenient p (received parameters tokens place p) v := by
  rcases role_cases p with hvalued | hvariadic | hapart
  · rw [received_of_valued hvalued]
    rw [outcome_of_valued hvalued] at h
    cases hs : source? parameters tokens place p with
    | some t =>
      cases hr : readFor p lenient (textOf tokens p t) with
      | error r => simp [hs, hr, Except.mapError] at h
      | ok w =>
        obtain rfl : w = v := by simpa [hs, hr, Except.mapError] using h
        exact .token hvalued hr
    | none =>
      cases hd : p.default with
      | none => simp [hs, hd] at h
      | some w =>
        obtain rfl : w = v := by simpa [hs, hd] using h
        exact .default hvalued hd
  · rw [received_of_variadic hvariadic]
    unfold outcome at h
    rw [hvariadic] at h
    cases h
    exact .variadic hvariadic
  · rw [received_of_apart hapart]
    exact .apart hapart

theorem position_succ (hp : parameters[j]? = some p) :
    position parameters (j + 1) =
      position parameters j + if p.role.isIndexed then 1 else 0 := by
  simp [position, List.take_add_one, hp, List.countP_singleton]

theorem position_mono (hij : i ≤ j) : position parameters i ≤ position parameters j :=
  (List.take_sublist_take_left hij).countP_le

theorem position_lt (hij : i < j) (hp : parameters[i]? = some p)
    (indexed : p.role.isIndexed = true) : position parameters i < position parameters j := by
  have hmono : position parameters (i + 1) ≤ position parameters j := position_mono hij
  rw [position_succ hp, if_pos indexed] at hmono
  omega

theorem exists_position (h : n < position parameters j) :
    ∃ i < j, ∃ p, parameters[i]? = some p ∧ p.role.isIndexed = true ∧
      position parameters i = n := by
  induction j with
  | zero => simp at h
  | succ j ih =>
    by_cases hn : n < position parameters j
    · obtain ⟨i, hi, hrest⟩ := ih hn
      exact ⟨i, by omega, hrest⟩
    · cases hp : parameters[j]? with
      | none =>
        have hlength : parameters.length ≤ j := List.getElem?_eq_none_iff.mp hp
        simp only [position, List.take_of_length_le hlength,
          List.take_of_length_le (hlength.trans (Nat.le_succ j))] at h hn
        exact absurd h hn
      | some p =>
        rw [position_succ hp] at h
        by_cases hindexed : p.role.isIndexed = true
        · rw [if_pos hindexed] at h
          exact ⟨j, Nat.lt_succ_self j, p, hp, hindexed, by omega⟩
        · rw [if_neg hindexed] at h
          omega

/-- A token that a parameter receives is its claim, or else an unclaimed one: at its position, or,
for a variadic parameter, from there on. -/
theorem mem_received (h : t ∈ received parameters tokens place p) : claim? tokens p = some t ∨
    p.role.isIndexed = true ∧ ∃ n, position parameters place ≤ n ∧
      (unclaimed parameters tokens)[n]? = some t ∧
      (p.role ≠ .variadic → claim? tokens p = none ∧ n = position parameters place) := by
  rcases role_cases p with hvalued | hvariadic | hapart
  · rw [received_of_valued hvalued, Option.mem_toList] at h
    unfold source? at h
    cases hc : claim? tokens p with
    | some u =>
      rw [hc] at h
      exact Or.inl h
    | none =>
      rw [hc] at h
      exact Or.inr ⟨isIndexed_of_isValued hvalued, _, le_rfl, h, fun _ => ⟨rfl, rfl⟩⟩
  · rw [received_of_variadic hvariadic, rest] at h
    obtain ⟨n, hn⟩ := List.mem_iff_getElem?.mp h
    rw [List.getElem?_drop] at hn
    refine Or.inr ⟨by rw [hvariadic]; rfl, _, Nat.le_add_right _ n, hn, ?_⟩
    exact fun hne => absurd hvariadic hne
  · rw [received_of_apart hapart] at h
    cases h

theorem mem_delivered : t ∈ delivered parameters tokens ↔
    ∃ place p, parameters[place]? = some p ∧ t ∈ received parameters tokens place p := by
  simp only [delivered, List.mem_flatten, List.mem_mapIdx]
  constructor
  · rintro ⟨_, ⟨place, hlt, rfl⟩, ht⟩
    exact ⟨place, _, List.getElem?_eq_getElem hlt, ht⟩
  · rintro ⟨place, p, hp, ht⟩
    obtain ⟨hlt, rfl⟩ := List.getElem?_eq_some_iff.mp hp
    exact ⟨_, ⟨place, hlt, rfl⟩, ht⟩

theorem mem_zipIdx_of_mem_delivered (h : t ∈ delivered parameters tokens) : t ∈ tokens.zipIdx := by
  obtain ⟨place, p, _, hreceived⟩ := mem_delivered.mp h
  rcases mem_received hreceived with hclaim | ⟨_, n, _, hn, _⟩
  · exact mem_of_claim hclaim
  · exact (mem_unclaimed.mp (List.mem_of_getElem? hn)).1

theorem index_unique {k l : Nat} (hk : (unclaimed parameters tokens)[k]? = some t)
    (hl : (unclaimed parameters tokens)[l]? = some t) : k = l :=
  (List.getElem?_inj (List.getElem?_eq_some_iff.mp hk).1 nodup_unclaimed).mp (hk.trans hl.symm)

theorem claim?_ne_of_unclaimed {k : Nat} (hp : parameters[place]? = some p)
    (hk : (unclaimed parameters tokens)[k]? = some t) : claim? tokens p ≠ some t := fun hclaim =>
  (mem_unclaimed.mp (List.mem_of_getElem? hk)).2 ⟨p, List.mem_of_getElem? hp, hclaim⟩

end

/-! ### Signatures -/

section
variable (s : Signature) {tokens : List String} {p q : Parameter} {t : Placed} {i j : Nat}

theorem disjoint_received (hij : i < j) (hp : s.parameters[i]? = some p)
    (hq : s.parameters[j]? = some q) :
    (received s.parameters tokens i p).Disjoint (received s.parameters tokens j q) := by
  intro t ht hu
  rcases mem_received ht with hclaim | ⟨hindexed, n, _, hn, hplain⟩
  · rcases mem_received hu with hclaim' | ⟨_, m, _, hm, _⟩
    · have hname := name_eq_of_claim hclaim hclaim'
      have hdistinct := List.pairwise_iff_getElem.mp (List.pairwise_map.mp s.nodup_names)
      obtain ⟨hi, rfl⟩ := List.getElem?_eq_some_iff.mp hp
      obtain ⟨hj, rfl⟩ := List.getElem?_eq_some_iff.mp hq
      exact hdistinct i j hi hj hij hname
    · exact claim?_ne_of_unclaimed hp hm hclaim
  · rcases mem_received hu with hclaim' | ⟨_, m, hposition, hm, _⟩
    · exact claim?_ne_of_unclaimed hq hn hclaim'
    · obtain ⟨_, rfl⟩ := hplain (s.role_ne_of_lt hij hp hq)
      have hlt := position_lt hij hp hindexed
      have hsame := index_unique hn hm
      omega

theorem nodup_received (place : Nat) (p : Parameter) :
    (received s.parameters tokens place p).Nodup := by
  rcases role_cases p with hvalued | hvariadic | hapart
  · rw [received_of_valued hvalued]
    cases source? s.parameters tokens place p <;> simp
  · rw [received_of_variadic hvariadic, rest]
    exact nodup_unclaimed.sublist (List.drop_sublist _ _)
  · rw [received_of_apart hapart]
    exact List.nodup_nil

theorem nodup_delivered : (delivered s.parameters tokens).Nodup := by
  rw [delivered, List.nodup_flatten]
  constructor
  · intro ts hts
    obtain ⟨place, hlt, rfl⟩ := List.mem_mapIdx.mp hts
    exact nodup_received s place _
  · rw [List.pairwise_iff_getElem]
    intro i j hi hj hij
    rw [List.getElem_mapIdx, List.getElem_mapIdx]
    exact disjoint_received s hij (List.getElem?_eq_getElem _) (List.getElem?_eq_getElem _)

theorem length_delivered_le : (delivered s.parameters tokens).length ≤ tokens.length := by
  have hnodup : (delivered s.parameters tokens).Nodup := nodup_delivered s
  have hsubperm := List.subperm_of_subset hnodup fun _ => mem_zipIdx_of_mem_delivered
  simpa using hsubperm.length_le

theorem not_mem_delivered_of_isLost (h : IsLost s.parameters tokens t) :
    t ∉ delivered s.parameters tokens := by
  obtain ⟨k, p, hp, hclaim, hposition⟩ := h
  intro hmem
  obtain ⟨j, q, hq, hreceived⟩ := mem_delivered.mp hmem
  rcases mem_received hreceived with hclaim' | ⟨hindexed, n, hle, hn, hplain⟩
  · exact claim?_ne_of_unclaimed hq hposition hclaim'
  · obtain rfl := index_unique hn hposition
    obtain ⟨u, hu⟩ := Option.isSome_iff_exists.mp hclaim
    have hvalued := isValued_of_claim hu
    rcases lt_trichotomy j k with hlt | rfl | hgt
    · obtain ⟨_, hsame⟩ := hplain (s.role_ne_of_lt hlt hq hp)
      have := position_lt hlt hq hindexed
      omega
    · obtain rfl : p = q := Option.some.inj (hp.symm.trans hq)
      obtain ⟨hnone, _⟩ := hplain (role_ne_of_isValued hvalued)
      rw [hu] at hnone
      cases hnone
    · have := position_lt hgt hp (isIndexed_of_isValued hvalued)
      omega

theorem isLost_of_not_mem_delivered {last : Parameter}
    (ends : s.parameters[i]? = some last) (variadic : last.role = .variadic)
    (mem : t ∈ tokens.zipIdx) (h : t ∉ delivered s.parameters tokens) :
    IsLost s.parameters tokens t := by
  have hmissed : ∀ place p, s.parameters[place]? = some p →
      t ∉ received s.parameters tokens place p := fun place p hp hreceived =>
    h (mem_delivered.mpr ⟨place, p, hp, hreceived⟩)
  have hfree : ¬ IsClaimed s.parameters tokens t := by
    rintro ⟨p, hp, hclaim⟩
    obtain ⟨place, hplace⟩ := List.mem_iff_getElem?.mp hp
    refine hmissed place p hplace ?_
    rw [received_of_valued (isValued_of_claim hclaim), source?, hclaim]
    simp
  obtain ⟨n, hn⟩ := List.mem_iff_getElem?.mp (mem_unclaimed.mpr ⟨mem, hfree⟩)
  have hbefore : n < position s.parameters i := by
    by_contra hle
    refine hmissed i last ends ?_
    rw [received_of_variadic variadic, rest, List.mem_iff_getElem?]
    refine ⟨n - position s.parameters i, ?_⟩
    rw [List.getElem?_drop, Nat.add_sub_cancel' (by omega)]
    exact hn
  -- The token stands at the position of a parameter before the last, which can only have missed
  -- it for a claim.
  obtain ⟨k, hk, p, hp, hindexed, rfl⟩ := exists_position hbefore
  refine ⟨k, p, hp, ?_, hn⟩
  by_contra hclaim
  rcases role_cases p with hvalued | hvariadic | hapart
  · refine hmissed k p hp ?_
    rw [received_of_valued hvalued, source?, Option.not_isSome_iff_eq_none.mp hclaim]
    simpa using hn
  · exact s.role_ne_of_lt hk hp ends hvariadic
  · rw [hapart] at hindexed
    cases hindexed

theorem mem_delivered_iff {last : Parameter} (ends : s.parameters[i]? = some last)
    (variadic : last.role = .variadic) : t ∈ delivered s.parameters tokens ↔
      t ∈ tokens.zipIdx ∧ ¬ IsLost s.parameters tokens t := by
  constructor
  · intro h
    exact ⟨mem_zipIdx_of_mem_delivered h, fun hlost => not_mem_delivered_of_isLost s hlost h⟩
  · rintro ⟨hmem, hkept⟩
    by_contra h
    exact hkept (isLost_of_not_mem_delivered s ends variadic hmem h)

/-- Nothing is lost where no unclaimed token stands at the position of a claim. -/
theorem forall_not_isLost_iff : (∀ t ∈ tokens.zipIdx, ¬ IsLost s.parameters tokens t) ↔
    ∀ place p, s.parameters[place]? = some p → (claim? tokens p).isSome = true →
      (unclaimed s.parameters tokens).length ≤ position s.parameters place := by
  constructor
  · intro h place p hp hclaim
    by_contra hlt
    have hposition := List.getElem?_eq_getElem (Nat.lt_of_not_le hlt)
    exact h _ (mem_unclaimed.mp (List.mem_of_getElem? hposition)).1
      ⟨place, p, hp, hclaim, hposition⟩
  · rintro h t - ⟨place, p, hp, hclaim, hposition⟩
    have hlt := (List.getElem?_eq_some_iff.mp hposition).1
    have hle := h place p hp hclaim
    omega

end

/-- A signature that ends with a variadic parameter delivers the tokens. Each value that is bound is
made of what its parameter receives, and no token is received twice. What is not received at all
is just what is lost, so that each token is received once exactly if no unclaimed token stands at
the position of a parameter that has claimed another one. -/
theorem bind_delivers {s : Signature} {tokens flags : List String} {caller : Value} {lenient : Bool}
    {values : List Value} {last : Parameter}
    (ends : s.parameters.getLast? = some last) (variadic : last.role = .variadic)
    (bound : bind s.parameters tokens flags caller lenient = .ok values) :
    (∀ place p v, s.parameters[place]? = some p → values[place]? = some v →
      MadeOf tokens lenient p (received s.parameters tokens place p) v) ∧
    (delivered s.parameters tokens).Nodup ∧
    (∀ t, t ∈ delivered s.parameters tokens ↔
      t ∈ tokens.zipIdx ∧ ¬ IsLost s.parameters tokens t) ∧
    ((delivered s.parameters tokens).Perm tokens.zipIdx ↔
      ∀ place p, s.parameters[place]? = some p → (claim? tokens p).isSome = true →
        (unclaimed s.parameters tokens).length ≤ position s.parameters place) := by
  rw [List.getLast?_eq_getElem?] at ends
  have hdelivered : ∀ t, t ∈ delivered s.parameters tokens ↔
      t ∈ tokens.zipIdx ∧ ¬ IsLost s.parameters tokens t := fun t =>
    mem_delivered_iff s ends variadic
  refine ⟨?_, nodup_delivered s, hdelivered, ?_⟩
  · intro place p v hp hv
    rw [bind_eq_mapM s.nodup_names, mapM_id_eq_ok_iff] at bound
    have hplace := congrArg (·[place]?) bound
    simp only [List.getElem?_mapIdx, List.getElem?_map, hp, hv, Option.map_some,
      Option.some.injEq] at hplace
    exact madeOf_of_outcome hplace
  · rw [List.perm_ext_iff_of_nodup (nodup_delivered s) nodup_zipIdx, ← forall_not_isLost_iff]
    constructor
    · intro h t ht
      exact ((hdelivered t).mp ((h t).mpr ht)).2
    · intro h t
      rw [hdelivered t]
      exact ⟨And.left, fun ht => ⟨ht, h t ht⟩⟩

def numbered : Signature where
  parameters := [simple "x" (by decide) .int none, simple "y" (by decide) .int (some (.int 0)),
    leftover]
  legal := by decide

/-- No token names a parameter, and the last one is left for the variadic parameter: each token is
received. -/
theorem bind_delivers_numbered :
    numbered.parameters.getLast? = some leftover ∧ leftover.role = .variadic ∧
    bind numbered.parameters ["3", "4", "8"] [] .none false =
      .ok [.int 3, .int 4, .tuple [.int 8]] ∧
    (delivered numbered.parameters ["3", "4", "8"]).Perm (["3", "4", "8"].zipIdx) := by
  have ends : numbered.parameters.getLast? = some leftover := rfl
  have bound : bind numbered.parameters ["3", "4", "8"] [] .none false =
      .ok [.int 3, .int 4, .tuple [.int 8]] := rfl
  have unnamed : ∀ place : Fin 3,
      (claim? ["3", "4", "8"] numbered.parameters[place]).isSome = false := by decide
  refine ⟨ends, rfl, bound, (bind_delivers ends rfl bound).2.2.2.mpr ?_⟩
  intro place p hp hclaim
  obtain ⟨hplace, rfl⟩ := List.getElem?_eq_some_iff.mp hp
  exact absurd hclaim (Bool.eq_false_iff.mp (unnamed ⟨place, hplace⟩))

/-- The second number is given by name and another token stands at its position: it is bound to
nothing, and no failure tells so. -/
theorem exists_token_lost :
    numbered.parameters.getLast? = some leftover ∧ leftover.role = .variadic ∧
    bind numbered.parameters ["y=4", "3", "8"] [] .none false =
      .ok [.int 3, .int 4, .tuple []] ∧
    ("8", 2) ∈ ["y=4", "3", "8"].zipIdx ∧
    ("8", 2) ∉ delivered numbered.parameters ["y=4", "3", "8"] := by
  refine ⟨rfl, rfl, rfl, ?_, ?_⟩
  · decide
  · decide

end LineShell.Binding
