import LineShell.Proofs.Arguments.Delivery

/-! # The first breach of a list

Which lists are signatures can be told without an order in which they are checked: names are
distinct, a special role occurs once at most and has a default, and a variadic parameter comes last.
Which error a list is refused with needs the order. Each place breaks rules by what stands there and
around it; the error is that of the first place that breaks one, and there of the rule that is tried
first.
-/
namespace LineShell.Signature
variable {items kept : List Item} {parameters before others : List Parameter} {p q : Parameter}
  {rest : List Item} {place i j : ℕ} {e e' : Error}

/-! ### Legal lists -/

/-- The parameters can make up a signature. -/
structure IsLegal (parameters : List Parameter) : Prop where
  nodup_names : (parameters.map (·.name)).Nodup
  role_once : ∀ r : Role, r.isSpecial = true → (parameters.map (·.role)).count r ≤ 1
  default_isSome : ∀ p ∈ parameters, p.role.isSpecial = true → p.default.isSome = true
  variadic_last : ∀ p ∈ parameters.dropLast, p.role ≠ .variadic

theorem role_once_iff_pairwise :
    (∀ r : Role, r.isSpecial = true → (parameters.map (·.role)).count r ≤ 1) ↔
      parameters.Pairwise fun q p => p.role.isSpecial = true → q.role ≠ p.role := by
  have hnodup : (∀ r : Role, r.isSpecial = true → (parameters.map (·.role)).count r ≤ 1) ↔
      ((parameters.map (·.role)).filter (·.isSpecial)).Nodup := by
    rw [List.nodup_iff_count_le_one]
    constructor
    · intro h r
      cases hr : r.isSpecial with
      | true =>
        rw [List.count_filter hr]
        exact h r hr
      | false =>
        have hnone : r ∉ (parameters.map (·.role)).filter (·.isSpecial) := by simp [hr]
        rw [List.count_eq_zero.mpr hnone]
        exact Nat.zero_le 1
    · intro h r hr
      rw [← List.count_filter hr]
      exact h r
  rw [hnodup, List.Nodup, List.pairwise_filter, List.pairwise_map]
  refine List.Pairwise.iff ?_
  intro q p
  constructor
  · intro h hp hqp
    exact h (hqp ▸ hp) hp hqp
  · intro h _ hp
    exact h hp

theorem variadic_last_iff :
    (∀ p ∈ parameters.dropLast, p.role ≠ .variadic) ↔
      ∀ place p, parameters[place]? = some p → p.role = .variadic →
        place + 1 = parameters.length := by
  rw [List.dropLast_eq_take]
  constructor
  · intro h place p hp hrole
    obtain ⟨hplace, rfl⟩ := List.getElem?_eq_some_iff.mp hp
    by_contra hlast
    exact h _ (List.mem_take_iff_getElem.mpr ⟨place, by omega, rfl⟩) hrole
  · intro h p hp hrole
    obtain ⟨place, hplace, rfl⟩ := List.mem_take_iff_getElem.mp hp
    have hlast := h place _ (List.getElem?_eq_getElem (by omega)) hrole
    omega

theorem firstBreach?_eq_none_iff_isLegal :
    firstBreach? [] (parameters.map .parameter) = none ↔ IsLegal parameters := by
  rw [firstBreach?_eq_none_iff]
  simp only [List.nil_append, breach?_eq_none_iff, decide_eq_true_eq]
  constructor
  · intro h
    refine ⟨?_, ?_, ?_, ?_⟩
    · rw [List.Nodup, List.pairwise_map, pairwise_iff_take]
      exact fun place p hp => (h place p hp).1
    · rw [role_once_iff_pairwise, pairwise_iff_take]
      exact fun place p hp q hq special => ((h place p hp).2 special).1 q hq
    · intro p hp special
      obtain ⟨place, hplace⟩ := List.mem_iff_getElem?.mp hp
      exact ((h place p hplace).2 special).2.1
    · rw [variadic_last_iff]
      intro place p hp hrole
      exact ((h place p hp).2 (by rw [hrole]; rfl)).2.2 hrole
  · rintro ⟨hnames, hroles, hdefaults, hlast⟩ place p hp
    rw [List.Nodup, List.pairwise_map, pairwise_iff_take] at hnames
    rw [role_once_iff_pairwise, pairwise_iff_take] at hroles
    refine ⟨hnames place p hp, ?_⟩
    intro special
    exact ⟨fun q hq => hroles place p hp q hq special,
      hdefaults p (List.mem_of_getElem? hp) special, variadic_last_iff.mp hlast place p hp⟩

theorem IsLegal.sublist (h : IsLegal parameters) (sub : others.Sublist parameters) :
    IsLegal others where
  nodup_names := h.nodup_names.sublist (sub.map _)
  role_once r special := Nat.le_trans ((sub.map _).count_le r) (h.role_once r special)
  default_isSome p hp := h.default_isSome p (sub.subset hp)
  variadic_last p hp := by
    have hlast : others.dropLast.Sublist parameters.dropLast := by
      simpa [List.tail_reverse] using sub.reverse.tail
    exact h.variadic_last p (hlast.subset hp)

/-! ### The rule that is broken first -/

/-- The place of a rule in the order in which the rules are tried. -/
def Error.rule : Error → ℕ
  | .notParameter => 0
  | .duplicateName _ => 1
  | .duplicateRole .. => 2
  | .specialWithoutDefault .. => 3
  | .misplacedVariadic .. => 4

inductive Breaks (items : List Item) (place : ℕ) : Error → Prop
  | item (here : items[place]? = some .other) : Breaks items place .notParameter
  | name {p q : Parameter} (here : items[place]? = some (.parameter p))
    (earlier : .parameter q ∈ items.take place) (same : q.name = p.name) :
    Breaks items place (.duplicateName p.name)
  | role {p q : Parameter} (here : items[place]? = some (.parameter p))
    (special : p.role.isSpecial = true) (earlier : .parameter q ∈ items.take place)
    (same : q.role = p.role) : Breaks items place (.duplicateRole p.role p.name q.name)
  | default {p : Parameter} (here : items[place]? = some (.parameter p))
    (special : p.role.isSpecial = true) (lacking : p.default = none) :
    Breaks items place (.specialWithoutDefault p.role p.name)
  | last {p : Parameter} (here : items[place]? = some (.parameter p))
    (variadic : p.role = .variadic) (more : place + 1 < items.length) :
    Breaks items place (.misplacedVariadic p.name (place + 1))

/-- The place is the first of a list that breaks a rule, and the rule is the first one tried that it
breaks. -/
structure IsFirstBreach (items : List Item) (place : ℕ) (e : Error) : Prop where
  breaks : Breaks items place e
  unbroken : ∀ i < place, ∀ e', ¬ Breaks items i e'
  tried : ∀ e', Breaks items place e' → e.rule ≤ e'.rule

theorem Breaks.lt_length (h : Breaks items place e) : place < items.length := by
  cases h with
  | item here | name here | role here | default here | last here =>
    exact (List.getElem?_eq_some_iff.mp here).1

theorem eq_of_role_eq (unbroken : ∀ i < place, ∀ e, ¬ Breaks items i e)
    (hp : .parameter p ∈ items.take place) (hq : .parameter q ∈ items.take place)
    (special : p.role.isSpecial = true) (same : q.role = p.role) : q = p := by
  obtain ⟨i, hi, hip⟩ := List.mem_take_iff_getElem.mp hp
  obtain ⟨j, hj, hjq⟩ := List.mem_take_iff_getElem.mp hq
  have here : ∀ {k : ℕ} {r : Parameter} (hk : k < items.length), items[k] = .parameter r →
      items[k]? = some (.parameter r) := fun hk hr => by rw [List.getElem?_eq_getElem hk, hr]
  rcases Nat.lt_trichotomy i j with hij | rfl | hij
  · exact absurd (.role (here (by omega) hjq) (same ▸ special)
      (List.mem_take_iff_getElem.mpr ⟨i, by omega, hip⟩) same.symm) (unbroken j (by omega) _)
  · exact Item.parameter.inj (hjq.symm.trans hip)
  · exact absurd (.role (here (by omega) hip) special
      (List.mem_take_iff_getElem.mpr ⟨j, by omega, hjq⟩) same) (unbroken i (by omega) _)

/-- At a place before which no rule is broken, each rule is broken with one error at most. -/
theorem Breaks.eq_of_rule_eq (unbroken : ∀ i < place, ∀ e, ¬ Breaks items i e)
    (h : Breaks items place e) (h' : Breaks items place e') (same : e.rule = e'.rule) : e = e' := by
  cases h with
  | item => cases h' with
    | item => rfl
    | name | role | default | last => simp [Error.rule] at same
  | name here => cases h' with
    | name here' =>
      obtain rfl := Item.parameter.inj (Option.some.inj (here.symm.trans here'))
      rfl
    | item | role | default | last => simp [Error.rule] at same
  | role here special earlier hrole => cases h' with
    | role here' _ earlier' hrole' =>
      obtain rfl := Item.parameter.inj (Option.some.inj (here.symm.trans here'))
      rw [eq_of_role_eq unbroken earlier earlier' (hrole ▸ special) (hrole'.trans hrole.symm)]
    | item | name | default | last => simp [Error.rule] at same
  | default here => cases h' with
    | default here' =>
      obtain rfl := Item.parameter.inj (Option.some.inj (here.symm.trans here'))
      rfl
    | item | name | role | last => simp [Error.rule] at same
  | last here => cases h' with
    | last here' =>
      obtain rfl := Item.parameter.inj (Option.some.inj (here.symm.trans here'))
      rfl
    | item | name | role | default => simp [Error.rule] at same

theorem IsFirstBreach.unique (h : IsFirstBreach items i e) (h' : IsFirstBreach items j e') :
    e = e' := by
  rcases Nat.lt_trichotomy i j with hij | rfl | hij
  · exact absurd h.breaks (h'.unbroken i hij e)
  · exact h.breaks.eq_of_rule_eq h.unbroken h'.breaks
      (Nat.le_antisymm (h.tried e' h'.breaks) (h'.tried e h.breaks))
  · exact absurd h'.breaks (h.unbroken j hij e')

theorem breaks_iff :
    Breaks (before.map .parameter ++ .parameter p :: rest) before.length e ↔
      (∃ q ∈ before, q.name = p.name) ∧ e = .duplicateName p.name ∨
      p.role.isSpecial = true ∧
        ((∃ q ∈ before, q.role = p.role ∧ e = .duplicateRole p.role p.name q.name) ∨
          p.default = none ∧ e = .specialWithoutDefault p.role p.name ∨
          p.role = .variadic ∧ rest ≠ [] ∧
            e = .misplacedVariadic p.name (before.length + 1)) := by
  have hhere : (before.map Item.parameter ++ .parameter p :: rest)[before.length]? =
      some (.parameter p) := by simp
  have htake : (before.map Item.parameter ++ .parameter p :: rest).take before.length =
      before.map .parameter := by simp
  have hmore : before.length + 1 < (before.map Item.parameter ++ .parameter p :: rest).length ↔
      rest ≠ [] := by simp [List.ne_nil_iff_length_pos]
  have heq : ∀ {r : Parameter},
      (before.map Item.parameter ++ .parameter p :: rest)[before.length]? = some (.parameter r) →
        p = r := fun h => by simpa using h
  have hmem : ∀ {q : Parameter},
      .parameter q ∈ (before.map Item.parameter ++ .parameter p :: rest).take before.length ↔
        q ∈ before := by simp
  constructor
  · intro h
    cases h with
    | item here => simp at here
    | name here earlier same =>
      obtain rfl := heq here
      exact Or.inl ⟨⟨_, hmem.mp earlier, same⟩, rfl⟩
    | role here special earlier same =>
      obtain rfl := heq here
      exact Or.inr ⟨special, Or.inl ⟨_, hmem.mp earlier, same, rfl⟩⟩
    | default here special lacking =>
      obtain rfl := heq here
      exact Or.inr ⟨special, Or.inr (Or.inl ⟨lacking, rfl⟩)⟩
    | last here variadic more =>
      obtain rfl := heq here
      exact Or.inr ⟨by rw [variadic]; rfl, Or.inr (Or.inr ⟨variadic, hmore.mp more, rfl⟩)⟩
  · rintro (⟨⟨q, hq, same⟩, rfl⟩ | ⟨special, ⟨q, hq, same, rfl⟩ | ⟨lacking, rfl⟩ |
      ⟨variadic, more, rfl⟩⟩)
    · exact .name hhere (hmem.mpr hq) same
    · exact .role hhere special (hmem.mpr hq) same
    · exact .default hhere special lacking
    · exact .last hhere variadic (hmore.mpr more)

theorem not_breaks_of_passed (passed : breach? before p rest.isEmpty = none) :
    ¬ Breaks (before.map .parameter ++ .parameter p :: rest) before.length e := by
  obtain ⟨hnames, hspecial⟩ := breach?_eq_none_iff.mp passed
  rw [breaks_iff]
  rintro (⟨⟨q, hq, same⟩, -⟩ | ⟨special, ⟨q, hq, same, -⟩ | ⟨lacking, -⟩ | ⟨variadic, more, -⟩⟩)
  · exact hnames q hq same
  · exact (hspecial special).1 q hq same
  · simpa [lacking] using (hspecial special).2.1
  · exact more (List.isEmpty_iff.mp ((hspecial special).2.2 variadic))

theorem breaks_of_broken (broken : breach? before p rest.isEmpty = some e) :
    Breaks (before.map .parameter ++ .parameter p :: rest) before.length e ∧
      ∀ e', Breaks (before.map .parameter ++ .parameter p :: rest) before.length e' →
        e.rule ≤ e'.rule := by
  simp only [breaks_iff]
  unfold breach? at broken
  by_cases hname : before.any (·.name = p.name) = true
  · have hearlier : ∃ q ∈ before, q.name = p.name := by simpa using hname
    rw [if_pos hname] at broken
    cases broken
    refine ⟨Or.inl ⟨hearlier, rfl⟩, ?_⟩
    rintro _ (⟨-, rfl⟩ | ⟨-, ⟨q, -, -, rfl⟩ | ⟨-, rfl⟩ | ⟨-, -, rfl⟩⟩) <;> simp [Error.rule]
  have hnames : ¬ ∃ q ∈ before, q.name = p.name := by simpa using hname
  rw [if_neg hname] at broken
  by_cases special : p.role.isSpecial = true
  swap
  · rw [if_neg special] at broken
    cases broken
  rw [if_pos special] at broken
  cases hfirst : before.find? (·.role = p.role) with
  | some first =>
    have hrole : first.role = p.role := by simpa using List.find?_some hfirst
    rw [hfirst] at broken
    cases broken
    refine ⟨Or.inr ⟨special, Or.inl ⟨first, List.mem_of_find?_eq_some hfirst, hrole, rfl⟩⟩, ?_⟩
    rintro _ (⟨h, -⟩ | ⟨-, ⟨q, -, -, rfl⟩ | ⟨-, rfl⟩ | ⟨-, -, rfl⟩⟩)
    · exact absurd h hnames
    all_goals simp [Error.rule]
  | none =>
    have hroles : ∀ q ∈ before, q.role ≠ p.role := by simpa using List.find?_eq_none.mp hfirst
    rw [hfirst] at broken
    cases hdefault : p.default with
    | none =>
      rw [hdefault] at broken
      cases broken
      refine ⟨Or.inr ⟨special, Or.inr (Or.inl ⟨rfl, rfl⟩)⟩, ?_⟩
      rintro _ (⟨h, -⟩ | ⟨-, ⟨q, hq, h, -⟩ | ⟨-, rfl⟩ | ⟨-, -, rfl⟩⟩)
      · exact absurd h hnames
      · exact absurd h (hroles q hq)
      all_goals simp [Error.rule]
    | some v =>
      have hmore : (p.role = .variadic ∧ rest ≠ []) ∧
          .misplacedVariadic p.name (before.length + 1) = e := by
        simpa [hdefault] using broken
      obtain ⟨⟨variadic, more⟩, rfl⟩ := hmore
      refine ⟨Or.inr ⟨special, Or.inr (Or.inr ⟨variadic, more, rfl⟩)⟩, ?_⟩
      rintro _ (⟨h, -⟩ | ⟨-, ⟨q, hq, h, -⟩ | ⟨h, -⟩ | ⟨-, -, rfl⟩⟩)
      · exact absurd h hnames
      · exact absurd h (hroles q hq)
      · cases h
      · exact Nat.le_refl _

/-- A list is passed if no place breaks a rule. Otherwise the error is that of the first breach. -/
theorem firstBreach?_cases (before : List Parameter) (items : List Item)
    (unbroken : ∀ i < before.length, ∀ e, ¬ Breaks (before.map .parameter ++ items) i e) :
    (firstBreach? before items = none ∧
      ∀ i e, ¬ Breaks (before.map .parameter ++ items) i e) ∨
    ∃ place e, firstBreach? before items = some e ∧
      IsFirstBreach (before.map .parameter ++ items) place e := by
  induction items generalizing before with
  | nil =>
    refine Or.inl ⟨rfl, ?_⟩
    intro i e h
    exact unbroken i (by simpa using h.lt_length) e h
  | cons item rest ih =>
    cases item with
    | other =>
      have here : (before.map Item.parameter ++ .other :: rest)[before.length]? = some .other := by
        simp
      exact Or.inr ⟨before.length, .notParameter, rfl, .item here, unbroken,
        fun e' _ => Nat.zero_le e'.rule⟩
    | parameter p =>
      cases hbreach : breach? before p rest.isEmpty with
      | none =>
        have hstep : firstBreach? before (.parameter p :: rest) =
            firstBreach? (before ++ [p]) rest := by rw [firstBreach?, hbreach]
        have happend : before.map Item.parameter ++ .parameter p :: rest =
            (before ++ [p]).map .parameter ++ rest := by simp
        rw [hstep, happend]
        refine ih (before ++ [p]) ?_
        intro i hi e
        rw [← happend]
        rcases Nat.lt_or_eq_of_le (Nat.le_of_lt_succ (by simpa using hi)) with hlt | rfl
        · exact unbroken i hlt e
        · exact not_breaks_of_passed hbreach
      | some e =>
        obtain ⟨hbreaks, htried⟩ := breaks_of_broken hbreach
        exact Or.inr ⟨before.length, e, by rw [firstBreach?, hbreach], hbreaks, unbroken, htried⟩

/-! ### What is accepted -/

theorem ofItems_of_passed (passed : firstBreach? [] items = none) :
    ∃ s, ofItems items = .ok s ∧ s.parameters.map .parameter = items := by
  unfold ofItems
  split
  · rename_i h
    rw [passed] at h
    cases h
  · exact ⟨_, rfl, map_parametersOf passed⟩

theorem ofItems_of_broken (broken : firstBreach? [] items = some e) : ofItems items = .error e := by
  unfold ofItems
  split
  · rename_i h
    rw [broken] at h
    cases h
    rfl
  · rename_i h
    rw [broken] at h
    cases h

theorem map_of_ofItems {s : Signature} (h : ofItems items = .ok s) :
    s.parameters.map .parameter = items := by
  cases hbreach : firstBreach? [] items with
  | none =>
    obtain ⟨t, ht, hitems⟩ := ofItems_of_passed hbreach
    obtain rfl : s = t := Except.ok.inj (h.symm.trans ht)
    exact hitems
  | some e =>
    rw [ofItems_of_broken hbreach] at h
    cases h

theorem exists_ofItems_iff :
    (∃ s, ofItems items = .ok s) ↔
      ∃ parameters, items = parameters.map .parameter ∧ IsLegal parameters := by
  constructor
  · rintro ⟨s, h⟩
    exact ⟨s.parameters, (map_of_ofItems h).symm, firstBreach?_eq_none_iff_isLegal.mp s.legal⟩
  · rintro ⟨parameters, rfl, legal⟩
    obtain ⟨s, hs, -⟩ := ofItems_of_passed (firstBreach?_eq_none_iff_isLegal.mpr legal)
    exact ⟨s, hs⟩

theorem ofItems_eq_error_iff : ofItems items = .error e ↔ ∃ place, IsFirstBreach items place e := by
  rcases firstBreach?_cases [] items (by simp) with
    ⟨hpassed, hbreaks⟩ | ⟨place, e', hbroken, hfirst⟩
  · obtain ⟨s, hs, -⟩ := ofItems_of_passed hpassed
    rw [hs]
    simp only [reduceCtorEq, false_iff]
    rintro ⟨place, h⟩
    exact hbreaks place e h.breaks
  · rw [ofItems_of_broken hbroken]
    constructor
    · rintro h
      cases h
      exact ⟨place, hfirst⟩
    · rintro ⟨i, h⟩
      rw [hfirst.unique h]

variable (s : Signature)

theorem isLegal : IsLegal s.parameters := firstBreach?_eq_none_iff_isLegal.mp s.legal

/-- Only a positional parameter of a signature has no default. -/
theorem default_eq_none_iff (hp : p ∈ s.parameters) : p.default = none ↔ p.role = .positional := by
  refine ⟨?_, p.default_of_positional⟩
  intro hdefault
  cases hrole : p.role with
  | positional => rfl
  | named => simpa [hdefault] using p.default_of_named hrole
  | flags | caller | variadic =>
    simpa [hdefault] using s.isLegal.default_isSome p hp (by rw [hrole]; rfl)

theorem required_eq_countP : s.required = s.parameters.countP (·.default.isNone) := by
  refine List.countP_congr ?_
  intro p hp
  rw [Option.isNone_iff_eq_none, s.default_eq_none_iff hp]
  exact decide_eq_true_iff

/-- A list is accepted as a signature exactly if it is a legal list of parameters, and otherwise it
is refused with the error of its first breach. A signature has its items as its parameters; those
without a default are the positional ones, and as many tokens must be given on the line. What is
left of an accepted list when some of it is taken away is accepted too. -/
theorem ofItems_decides (items : List Item) :
    ((∃ s, ofItems items = .ok s) ↔
      ∃ parameters, items = parameters.map .parameter ∧ IsLegal parameters) ∧
    (∀ e, ofItems items = .error e ↔ ∃ place, IsFirstBreach items place e) ∧
    (∀ e, ofItems items = .error e → e.fault.kind = .signature ∧ e.fault.code = e.code) ∧
    ∀ s, ofItems items = .ok s →
      s.parameters.map .parameter = items ∧
      (∀ p ∈ s.parameters, p.default = none ↔ p.role = .positional) ∧
      s.required = s.parameters.countP (·.default.isNone) ∧
      ∀ kept, kept.Sublist items →
        ∃ t, ofItems kept = .ok t ∧ t.parameters.map .parameter = kept := by
  refine ⟨exists_ofItems_iff, fun e => ofItems_eq_error_iff, fun e _ => ⟨rfl, rfl⟩, ?_⟩
  intro s hs
  refine ⟨map_of_ofItems hs, fun p => s.default_eq_none_iff, s.required_eq_countP, ?_⟩
  intro kept hkept
  rw [← map_of_ofItems hs] at hkept
  obtain ⟨others, sub, rfl⟩ := List.sublist_map_iff.mp hkept
  obtain ⟨t, ht⟩ := exists_ofItems_iff.mpr ⟨others, rfl, s.isLegal.sublist sub⟩
  exact ⟨t, ht, map_of_ofItems ht⟩

/-- A variadic parameter that is not the last is told, although a name is repeated after it and the
last item is no parameter. Three parameters are a signature that needs one token, and so is the
first of them alone. -/
theorem ofItems_decides_disordered :
    (∃ place, IsFirstBreach
      [.parameter (Binding.simple "x" (by decide) .int none), .parameter Binding.leftover,
        .parameter (Binding.simple "x" (by decide) .int none), .other]
      place (.misplacedVariadic "leftover" 2)) ∧
    IsLegal Binding.numbered.parameters ∧
    Binding.numbered.required = Binding.numbered.parameters.countP (·.default.isNone) ∧
    ∃ t, ofItems [.parameter (Binding.simple "x" (by decide) .int none)] = .ok t ∧
      t.parameters.map .parameter =
        [Item.parameter (Binding.simple "x" (by decide) .int none)] := by
  have accepted : ofItems (Binding.numbered.parameters.map .parameter) = .ok Binding.numbered := rfl
  obtain ⟨hlegal, -, -, haccepted⟩ := ofItems_decides (Binding.numbered.parameters.map .parameter)
  obtain ⟨-, -, hrequired, hkept⟩ := haccepted _ accepted
  obtain ⟨parameters, hparameters, legal⟩ := hlegal.mp ⟨_, accepted⟩
  obtain rfl : Binding.numbered.parameters = parameters :=
    List.map_injective_iff.mpr (fun _ _ => Item.parameter.inj) hparameters
  exact ⟨((ofItems_decides _).2.1 _).mp rfl, legal, hrequired,
    hkept _ (List.cons_sublist_cons.mpr (List.nil_sublist _))⟩

end LineShell.Signature
