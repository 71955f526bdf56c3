import LineShell.Proofs.Arguments.Outcome
import LineShell.Proofs.Session.RoundTrip

/-! # Calls by name

The values of a call can be given by name from some parameter on, in any order and anywhere on the
line. Each token of this kind is claimed by its parameter and the others keep their positions, so
the call means what the call by position does.
-/
namespace LineShell.Binding
open Session (Interleaves)

def byName (name text : String) : String := name ++ "=" ++ text

/-- The valued parameters, each with the text that a call by position gives it. -/
def pairs (parameters : List Parameter) (texts : List String) : List (Parameter × String) :=
  (parameters.filter (·.isValued)).zip texts

section
variable {parameters : List Parameter} {tokens flags texts named line : List String}
  {p q : Parameter}
  {caller : Value} {lenient : Bool} {place k : Nat} {text : String}

theorem toList_byName (name text : String) :
    (byName name text).toList = lead name ++ text.toList := by
  simp [byName, lead]

theorem names_byName (name text : String) : Names name (byName name text) :=
  ⟨text.toList, (toList_byName name text).symm⟩

theorem afterLead_byName (name text : String) : afterLead name (byName name text) = text := by
  simp [afterLead, toList_byName]

theorem claim_of_once (once : tokens.Pairwise fun a b => ¬ (Names p.name a ∧ Names p.name b))
    (valued : p.isValued = true) {t : Placed} (mem : t ∈ tokens.zipIdx)
    (names : Names p.name t.1) : claim? tokens p = some t := by
  rw [claim?, if_pos valued]
  cases hf : tokens.zipIdx.find? fun t => Names p.name t.1 with
  | none => exact absurd names (by simpa using List.find?_eq_none.mp hf t mem)
  | some u =>
    have hnames : Names p.name u.1 := by simpa using List.find?_some hf
    obtain ⟨hu, hu1⟩ := List.getElem?_eq_some_iff.mp
      (List.mem_zipIdx_iff_getElem?.mp (List.mem_of_find?_eq_some hf))
    obtain ⟨ht, ht1⟩ := List.getElem?_eq_some_iff.mp (List.mem_zipIdx_iff_getElem?.mp mem)
    rw [List.pairwise_iff_getElem] at once
    rw [← hu1] at hnames
    rw [← ht1] at names
    rcases lt_trichotomy u.2 t.2 with hlt | heq | hgt
    · exact absurd ⟨hnames, names⟩ (once u.2 t.2 hu ht hlt)
    · have hfst : u.1 = t.1 := by simp only [← hu1, ← ht1, heq]
      rw [Prod.ext hfst heq]
    · exact absurd ⟨names, hnames⟩ (once t.2 u.2 ht hu hgt)

theorem map_fst_unclaimed (once : ∀ p ∈ parameters, p.isValued = true →
      tokens.Pairwise fun a b => ¬ (Names p.name a ∧ Names p.name b)) :
    (unclaimed parameters tokens).map Prod.fst =
      tokens.filter fun token => ¬ ∃ p ∈ parameters, p.isValued = true ∧ Names p.name token := by
  have hclaimed : ∀ t ∈ tokens.zipIdx, IsClaimed parameters tokens t ↔
      ∃ p ∈ parameters, p.isValued = true ∧ Names p.name t.1 := by
    intro t ht
    constructor
    · rintro ⟨p, hp, hclaim⟩
      exact ⟨p, hp, isValued_of_claim hclaim, names_of_claim hclaim⟩
    · rintro ⟨p, hp, hvalued, hnames⟩
      exact ⟨p, hp, claim_of_once (once p hp hvalued) hvalued ht hnames⟩
  have hfilter : unclaimed parameters tokens = tokens.zipIdx.filter
      ((fun token => decide (¬ ∃ p ∈ parameters, p.isValued = true ∧ Names p.name token)) ∘
        Prod.fst) := by
    apply List.filter_congr
    intro t ht
    simp [hclaimed t ht]
  rw [hfilter, ← List.filter_map, List.zipIdx_map_fst]

/-- A parameter stands among those that satisfy a condition after as many of them as are before
it. -/
theorem getElem?_filter {α : Type} {l : List α} {i : Nat} {a : α} {c : α → Bool}
    (at_place : l[i]? = some a) (ha : c a = true) :
    (l.filter c)[(l.take i).countP c]? = some a := by
  obtain ⟨hi, rfl⟩ := List.getElem?_eq_some_iff.mp at_place
  have hsplit : l.filter c = (l.take i).filter c ++ (l.drop i).filter c := by
    rw [← List.filter_append, List.take_append_drop]
  rw [hsplit, List.countP_eq_length_filter, List.drop_eq_getElem_cons hi,
    List.filter_cons_of_pos ha]
  simp

theorem position_eq_countP (plain : ∀ p ∈ parameters, p.role ≠ .variadic) :
    position parameters place = (parameters.take place).countP (·.isValued) := by
  apply List.countP_congr
  intro p hp
  have hrole := plain p (List.mem_of_mem_take hp)
  unfold Parameter.isValued
  cases h : p.role <;> simp [h, Role.isIndexed, Role.isSpecial] at hrole ⊢

theorem pairwise_pairs (distinct : (parameters.map (·.name)).Nodup) :
    (pairs parameters texts).Pairwise fun a b => a.1.name ≠ b.1.name := by
  have hvalued : (parameters.filter (·.isValued)).Pairwise fun p q => p.name ≠ q.name :=
    (List.pairwise_map.mp distinct).filter _
  rw [List.pairwise_iff_getElem] at hvalued ⊢
  intro i j hi hj hij
  simp only [pairs, List.getElem_zip]
  exact hvalued i j _ _ hij

theorem mem_pairs_iff (distinct : (parameters.map (·.name)).Nodup)
    (plain : ∀ p ∈ parameters, p.role ≠ .variadic) (at_place : parameters[place]? = some p)
    (valued : p.isValued = true) :
    (p, text) ∈ (pairs parameters texts).drop k ↔
      k ≤ position parameters place ∧ texts[position parameters place]? = some text := by
  have hposition : (parameters.filter (·.isValued))[position parameters place]? = some p := by
    rw [position_eq_countP plain]
    exact getElem?_filter at_place valued
  have hnodup : (parameters.filter (·.isValued)).Nodup := distinct.of_map.filter _
  constructor
  · intro h
    obtain ⟨j, hj⟩ := List.mem_iff_getElem?.mp h
    rw [List.getElem?_drop] at hj
    obtain ⟨hp, htext⟩ := List.getElem?_zip_eq_some.mp hj
    have hplace : k + j = position parameters place :=
      (List.getElem?_inj (List.getElem?_eq_some_iff.mp hp).1 hnodup).mp (hp.trans hposition.symm)
    exact ⟨by omega, hplace ▸ htext⟩
  · rintro ⟨hk, htext⟩
    have hpair : (pairs parameters texts)[position parameters place]? = some (p, text) :=
      List.getElem?_zip_eq_some.mpr ⟨hposition, htext⟩
    rw [List.mem_iff_getElem?]
    refine ⟨position parameters place - k, ?_⟩
    rw [List.getElem?_drop, Nat.add_sub_cancel' hk]
    exact hpair

/-- What becomes of a valued parameter depends on the text that it reads, and not on where the text
stands. -/
theorem outcome_congr (valued : p.isValued = true)
    (same : read? parameters tokens place p = read? parameters line place p) :
    outcome parameters tokens flags caller lenient place p =
      outcome parameters line flags caller lenient place p := by
  rw [outcome_of_valued valued, outcome_of_valued valued]
  unfold read? at same
  cases hs : source? parameters tokens place p <;> cases hl : source? parameters line place p <;>
    simp [hs, hl] at same ⊢
  rw [same]

theorem outcome_of_plain (special : p.isValued = false) (plain : p.role ≠ .variadic) :
    outcome parameters tokens flags caller lenient place p =
      outcome parameters line flags caller lenient place p := by
  rcases isValued_eq_false_iff.mp special with hrole | hrole | hrole
  · simp [outcome, hrole]
  · simp [outcome, hrole]
  · exact absurd hrole plain

end

/-! ### A line that gives a text by name to every parameter from some position on -/

section
variable {parameters : List Parameter} {flags texts named line : List String} {p : Parameter}
  {caller : Value} {lenient : Bool} {place k : Nat}
  (distinct : (parameters.map (·.name)).Nodup)
  (plain : ∀ p ∈ parameters, p.role ≠ .variadic)
  (unnamed : ∀ text ∈ texts, ∀ p ∈ parameters, p.isValued = true → ¬ Names p.name text)
  (shuffled : named.Perm (((pairs parameters texts).drop k).map fun a => byName a.1.name a.2))
  (mixed : Interleaves (texts.take k) named line)

include shuffled in
theorem mem_named_iff {token : String} : token ∈ named ↔
    ∃ a ∈ (pairs parameters texts).drop k, byName a.1.name a.2 = token := by
  rw [shuffled.mem_iff, List.mem_map]

include mixed in
theorem mem_line_iff {token : String} : token ∈ line ↔ token ∈ texts.take k ∨ token ∈ named := by
  rw [mixed.perm.mem_iff, List.mem_append]

include unnamed shuffled mixed in
theorem exists_pair_of_names {token : String} (mem : token ∈ line) (hp : p ∈ parameters)
    (valued : p.isValued = true) (names : Names p.name token) :
    ∃ a ∈ (pairs parameters texts).drop k, a.1.name = p.name ∧ byName a.1.name a.2 = token := by
  rcases (mem_line_iff mixed).mp mem with htext | hnamed
  · exact absurd names (unnamed token (List.mem_of_mem_take htext) p hp valued)
  · obtain ⟨a, ha, rfl⟩ := (mem_named_iff shuffled).mp hnamed
    exact ⟨a, ha, name_eq_of_names (names_byName _ _) names, rfl⟩

include distinct unnamed shuffled mixed in
theorem once_on_line (hp : p ∈ parameters) (valued : p.isValued = true) :
    line.Pairwise fun a b => ¬ (Names p.name a ∧ Names p.name b) := by
  have hsymm : ∀ {a b : String}, ¬ (Names p.name a ∧ Names p.name b) →
      ¬ (Names p.name b ∧ Names p.name a) := fun h hba => h hba.symm
  have htexts : ∀ text ∈ texts.take k, ¬ Names p.name text := fun text htext =>
    unnamed text (List.mem_of_mem_take htext) p hp valued
  rw [mixed.perm.pairwise_iff hsymm, List.pairwise_append]
  refine ⟨?_, ?_, fun a ha b _ hab => htexts a ha hab.1⟩
  · exact List.pairwise_of_forall_mem_list fun a ha b _ hab => htexts a ha hab.1
  · rw [shuffled.pairwise_iff hsymm, List.pairwise_map]
    refine ((pairwise_pairs distinct).sublist (List.drop_sublist k _)).imp ?_
    rintro a b hname ⟨ha, hb⟩
    exact hname ((name_eq_of_names (names_byName _ _) ha).trans
      (name_eq_of_names hb (names_byName _ _)))

include distinct unnamed shuffled mixed in
theorem map_fst_unclaimed_line : (unclaimed parameters line).map Prod.fst = texts.take k := by
  rw [map_fst_unclaimed fun p => once_on_line distinct unnamed shuffled mixed]
  apply mixed.filter_eq_left
  · intro text htext
    have hfree : ¬ ∃ p ∈ parameters, p.isValued = true ∧ Names p.name text := by
      rintro ⟨p, hp, hvalued, hnames⟩
      exact unnamed text (List.mem_of_mem_take htext) p hp hvalued hnames
    simp [hfree]
  · intro token htoken
    obtain ⟨⟨q, text⟩, ha, rfl⟩ := (mem_named_iff shuffled).mp htoken
    obtain ⟨hq, hvalued⟩ := List.mem_filter.mp (List.of_mem_zip (List.mem_of_mem_drop ha)).1
    have hnames : ∃ p ∈ parameters, p.isValued = true ∧ Names p.name (byName q.name text) :=
      ⟨q, hq, hvalued, names_byName _ _⟩
    simp [hnames]

include distinct plain unnamed shuffled mixed in
/-- On the line, a parameter reads the text that the call by position gives it. -/
theorem read?_line (at_place : parameters[place]? = some p) (valued : p.isValued = true) :
    read? parameters line place p = texts[position parameters place]? := by
  have hp : p ∈ parameters := List.mem_of_getElem? at_place
  rw [read?_eq, map_fst_unclaimed_line distinct unnamed shuffled mixed, List.getElem?_take]
  cases hclaim : claim? line p with
  | some t =>
    obtain ⟨⟨q, text⟩, ha, hname, htoken⟩ := exists_pair_of_names unnamed shuffled mixed
      (List.fst_mem_of_mem_zipIdx (mem_of_claim hclaim)) hp valued (names_of_claim hclaim)
    have hq : q ∈ parameters :=
      (List.mem_filter.mp (List.of_mem_zip (List.mem_of_mem_drop ha)).1).1
    obtain rfl : q = p := List.inj_on_of_nodup_map distinct hq hp hname
    obtain ⟨_, htext⟩ := (mem_pairs_iff distinct plain at_place valued).mp ha
    simp only [htext, ← htoken, afterLead_byName]
  | none =>
    by_cases hk : position parameters place < k
    · simp only [if_pos hk]
    · simp only [if_neg hk]
      -- A text past the first `k` would stand on the line by name, and be claimed.
      cases htext : texts[position parameters place]? with
      | none => rfl
      | some text =>
        have hpair := (mem_pairs_iff (k := k) distinct plain at_place valued).mpr
          ⟨by omega, htext⟩
        have hmem : byName p.name text ∈ line :=
          (mem_line_iff mixed).mpr (Or.inr ((mem_named_iff shuffled).mpr ⟨_, hpair, rfl⟩))
        obtain ⟨i, hi⟩ := List.mem_iff_getElem?.mp hmem
        have hplaced : (byName p.name text, i) ∈ line.zipIdx :=
          List.mem_zipIdx_iff_getElem?.mpr hi
        have hsome := claim_of_once (once_on_line distinct unnamed shuffled mixed hp valued) valued
          hplaced (names_byName p.name text)
        rw [hclaim] at hsome
        cases hsome

end

/-- A call by name means what the call by position means. Of the texts that a call gives to the
parameters in their order, those from some point on are given by name, in any order and anywhere
among the others: the values are the same, and so is the failure. -/
theorem bind_byName {parameters : List Parameter} {flags texts named line : List String}
    {caller : Value} {lenient : Bool} {k : Nat}
    (distinct : (parameters.map (·.name)).Nodup)
    (plain : ∀ p ∈ parameters, p.role ≠ .variadic)
    (unnamed : ∀ text ∈ texts, ∀ p ∈ parameters, p.isValued = true → ¬ Names p.name text)
    (shuffled : named.Perm (((pairs parameters texts).drop k).map fun a => byName a.1.name a.2))
    (mixed : Interleaves (texts.take k) named line) :
    bind parameters line flags caller lenient = bind parameters texts flags caller lenient := by
  rw [bind_eq_mapM distinct, bind_eq_mapM distinct]
  congr 1
  rw [List.mapIdx_eq_mapIdx_iff]
  intro place hplace
  have hp : parameters[place]? = some parameters[place] := List.getElem?_eq_getElem hplace
  cases hvalued : parameters[place].isValued with
  | true =>
    apply outcome_congr hvalued
    rw [read?_line distinct plain unnamed shuffled mixed hp hvalued,
      read?_of_unnamed unnamed (List.getElem_mem hplace)]
  | false => exact outcome_of_plain hvalued (plain _ (List.getElem_mem hplace))

/-- Two of three texts are given by name, the later one first. -/
theorem bind_byName_mixed :
    Interleaves ["1"] ["z=c", "y=2"] ["z=c", "1", "y=2"] ∧
    bind [simple "x" (by decide) .int none, simple "y" (by decide) .int (some (.int 0)),
        simple "z" (by decide) .text (some .none)] ["z=c", "1", "y=2"] [] .none false =
      bind [simple "x" (by decide) .int none, simple "y" (by decide) .int (some (.int 0)),
        simple "z" (by decide) .text (some .none)] ["1", "2", "c"] [] .none false := by
  have mixed : Interleaves ["1"] ["z=c", "y=2"] ["z=c", "1", "y=2"] :=
    .right "z=c" (.left "1" (.right "y=2" .nil))
  exact ⟨mixed, bind_byName (k := 1) (by decide) (by decide) (by decide) (by decide) mixed⟩

end LineShell.Binding
