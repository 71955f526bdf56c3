import Mathlib.Data.List.Nodup
import Mathlib.Data.List.TakeWhile
import LineShell.Proofs.Arguments.Binding

/-! # Claims by name

Which token a parameter claims can be told from the line alone: the leftmost one that starts with
its name and an equals sign. An identifier has no equals sign, so a token names one parameter at
most, and no claim takes a token away from another parameter. What the claims made one after the
other record, and the tokens they leave, are therefore those told from the line.
-/
namespace LineShell

namespace Text

theorem continuesIdentifier_equals : continuesIdentifier '=' = false := by decide

theorem equals_notMem_of_isIdentifier {cs : List Char} (h : isIdentifier cs = true) : '=' ∉ cs := by
  cases cs with
  | nil => simp
  | cons c rest =>
    simp only [isIdentifier, Bool.and_eq_true, List.all_eq_true] at h
    intro hmem
    have hcontinues : continuesIdentifier '=' = true := by
      rcases List.mem_cons.mp hmem with rfl | hrest
      · simp [continuesIdentifier, h.1]
      · exact h.2 _ hrest
    simp [continuesIdentifier_equals] at hcontinues

end Text

namespace Binding
variable {parameters : List Parameter} {tokens : List String} {p q : Parameter}

theorem isValued_iff : p.isValued = true ↔ p.role = .positional ∨ p.role = .named := by
  unfold Parameter.isValued
  cases p.role <;> simp [Role.isSpecial]

theorem isValued_eq_false_iff :
    p.isValued = false ↔ p.role = .flags ∨ p.role = .caller ∨ p.role = .variadic := by
  unfold Parameter.isValued
  cases p.role <;> simp [Role.isSpecial]

/-- A positional token with its offset on the line. -/
abbrev Placed := String × Nat

def Names (name token : String) : Prop := lead name <+: token.toList

instance (name token : String) : Decidable (Names name token) :=
  inferInstanceAs (Decidable (_ <+: _))

/-- The leftmost token that gives a value to the parameter by name. -/
def claim? (tokens : List String) (p : Parameter) : Option Placed :=
  if p.isValued then tokens.zipIdx.find? fun t => Names p.name t.1 else none

def afterLead (name token : String) : String :=
  String.ofList (token.toList.drop (lead name).length)

def IsClaimed (parameters : List Parameter) (tokens : List String) (t : Placed) : Prop :=
  ∃ p ∈ parameters, claim? tokens p = some t

instance (parameters : List Parameter) (tokens : List String) (t : Placed) :
    Decidable (IsClaimed parameters tokens t) :=
  inferInstanceAs (Decidable (∃ p ∈ parameters, _))

/-- The tokens that are no parameter's claim, in their order. -/
def unclaimed (parameters : List Parameter) (tokens : List String) : List Placed :=
  tokens.zipIdx.filter fun t => ¬ IsClaimed parameters tokens t

theorem takeWhile_of_names {token : String} (h : Names p.name token) :
    token.toList.takeWhile (· ≠ '=') = p.name.toList := by
  obtain ⟨rest, hrest⟩ := h
  have hname : '=' ∉ p.name.toList := Text.equals_notMem_of_isIdentifier p.name_identifier
  rw [← hrest, lead, List.append_assoc, List.takeWhile_append_of_pos]
  · simp
  · intro c hc
    have hne : c ≠ '=' := fun h => hname (h ▸ hc)
    simpa using hne

theorem name_eq_of_names {token : String} (hp : Names p.name token) (hq : Names q.name token) :
    p.name = q.name := by
  apply String.toList_inj.mp
  rw [← takeWhile_of_names hp, ← takeWhile_of_names hq]

theorem isValued_of_claim {t : Placed} (h : claim? tokens p = some t) : p.isValued = true := by
  by_contra hv
  simp [claim?, hv] at h

theorem names_of_claim {t : Placed} (h : claim? tokens p = some t) : Names p.name t.1 := by
  rw [claim?, if_pos (isValued_of_claim h)] at h
  simpa using List.find?_some h

theorem mem_of_claim {t : Placed} (h : claim? tokens p = some t) : t ∈ tokens.zipIdx := by
  rw [claim?, if_pos (isValued_of_claim h)] at h
  exact List.mem_of_find?_eq_some h

theorem name_eq_of_claim {t : Placed} (hp : claim? tokens p = some t)
    (hq : claim? tokens q = some t) : p.name = q.name :=
  name_eq_of_names (names_of_claim hp) (names_of_claim hq)

theorem claim?_eq_none (h : ∀ token ∈ tokens, ¬ Names p.name token) : claim? tokens p = none := by
  unfold claim?
  split
  · rw [List.find?_eq_none]
    intro t ht
    simpa using h t.1 (List.fst_mem_of_mem_zipIdx ht)
  · rfl

theorem nodup_zipIdx : tokens.zipIdx.Nodup := by
  apply List.Nodup.of_map Prod.snd
  rw [List.zipIdx_map_snd]
  exact List.nodup_range'

theorem nodup_unclaimed : (unclaimed parameters tokens).Nodup :=
  nodup_zipIdx.filter _

theorem mem_unclaimed {t : Placed} : t ∈ unclaimed parameters tokens ↔
    t ∈ tokens.zipIdx ∧ ¬ IsClaimed parameters tokens t := by
  simp [unclaimed]

theorem claim?_of_unnamed
    (unnamed : ∀ text ∈ tokens, ∀ p ∈ parameters, p.isValued = true → ¬ Names p.name text)
    (mem : p ∈ parameters) : claim? tokens p = none := by
  by_cases hvalued : p.isValued = true
  · exact claim?_eq_none fun text htext => unnamed text htext p mem hvalued
  · simp [claim?, hvalued]

theorem unclaimed_of_unnamed
    (unnamed : ∀ text ∈ tokens, ∀ p ∈ parameters, p.isValued = true → ¬ Names p.name text) :
    unclaimed parameters tokens = tokens.zipIdx := by
  rw [unclaimed, List.filter_eq_self]
  rintro t -
  simp only [decide_eq_true_eq]
  rintro ⟨p, hp, hclaim⟩
  rw [claim?_of_unnamed unnamed hp] at hclaim
  cases hclaim

theorem isClaimed_append_singleton {t : Placed} : IsClaimed (parameters ++ [p]) tokens t ↔
    IsClaimed parameters tokens t ∨ claim? tokens p = some t := by
  simp [IsClaimed, or_and_right, exists_or]

/-- Taking the first token that gives a value by a name is finding and erasing it. -/
theorem takeLed_map_fst (name : String) (ts : List Placed) :
    takeLed (lead name) (ts.map Prod.fst) = (ts.find? fun t => Names name t.1).map fun t =>
      (afterLead name t.1, (ts.erase t).map Prod.fst) := by
  induction ts with
  | nil => rfl
  | cons t ts ih =>
    rw [List.map_cons, takeLed]
    by_cases h : Names name t.1
    · have hled : (lead name).isPrefixOf? t.1.toList =
          some (t.1.toList.drop (lead name).length) := by
        rw [List.isPrefixOf?_eq_some_iff_append_eq]
        exact List.prefix_iff_eq_append.mp h
      rw [hled, List.find?_cons_of_pos (by simpa using h)]
      simp [afterLead]
    · have hled : (lead name).isPrefixOf? t.1.toList = none := by
        cases hp : (lead name).isPrefixOf? t.1.toList with
        | none => rfl
        | some text => exact absurd ⟨text, List.isPrefixOf?_eq_some_iff_append_eq.mp hp⟩ h
      rw [hled, List.find?_cons_of_neg (by simpa using h), ih]
      cases hf : ts.find? fun t => Names name t.1 with
      | none => rfl
      | some u =>
        have hne : t ≠ u := by
          rintro rfl
          exact h (by simpa using List.find?_some hf)
        simp [hne]

/-- What a parameter of another name finds is not taken away by the claims already made. -/
theorem find?_unclaimed (apart : ∀ q ∈ parameters, q.name ≠ p.name) :
    (unclaimed parameters tokens).find? (fun t => Names p.name t.1) =
      tokens.zipIdx.find? fun t => Names p.name t.1 := by
  rw [unclaimed, List.find?_filter]
  congr 1
  funext t
  by_cases h : Names p.name t.1
  · have hfree : ¬ IsClaimed parameters tokens t := by
      rintro ⟨q, hq, hclaim⟩
      exact apart q hq (name_eq_of_names (names_of_claim hclaim) h)
    simp [h, hfree]
  · simp [h]

theorem unclaimed_append_singleton : unclaimed (parameters ++ [p]) tokens =
    match claim? tokens p with
    | some t => (unclaimed parameters tokens).erase t
    | none => unclaimed parameters tokens := by
  cases h : claim? tokens p with
  | none => simp [unclaimed, isClaimed_append_singleton, h]
  | some t =>
    dsimp only
    rw [nodup_unclaimed.erase_eq_filter, unclaimed, unclaimed, List.filter_filter]
    apply List.filter_congr
    intro u _
    by_cases hut : u = t
    · simp [isClaimed_append_singleton, h, hut]
    · simp [isClaimed_append_singleton, h, hut, Ne.symm hut]

def record? (tokens : List String) (p : Parameter) : Option (String × String) :=
  (claim? tokens p).map fun t => (p.name, afterLead p.name t.1)

theorem add_eq (named : List (String × String)) (apart : ∀ q ∈ parameters, q.name ≠ p.name) :
    Claims.add ⟨named, (unclaimed parameters tokens).map Prod.fst⟩ p =
      ⟨(record? tokens p).toList ++ named,
        (unclaimed (parameters ++ [p]) tokens).map Prod.fst⟩ := by
  rw [Claims.add, unclaimed_append_singleton, record?]
  by_cases hv : p.isValued
  · simp only [if_pos hv, takeLed_map_fst, find?_unclaimed apart, claim?]
    cases tokens.zipIdx.find? fun t => Names p.name t.1 <;> rfl
  · simp [claim?, hv]

/-- The claims made one after the other are those told from the line. -/
theorem ofParameters_eq (distinct : (parameters.map (·.name)).Nodup) :
    Claims.ofParameters parameters tokens =
      ⟨parameters.reverse.filterMap (record? tokens),
        (unclaimed parameters tokens).map Prod.fst⟩ := by
  -- From the end of the list: the last parameter claims from what the others have left.
  induction parameters using List.reverseRecOn with
  | nil =>
    have hall : unclaimed [] tokens = tokens.zipIdx := by simp [unclaimed, IsClaimed]
    rw [hall, List.zipIdx_map_fst]
    rfl
  | append_singleton parameters p ih =>
    rw [List.map_append, List.nodup_append] at distinct
    obtain ⟨hparameters, _, hapart⟩ := distinct
    have hnames : ∀ q ∈ parameters, q.name ≠ p.name := fun q hq =>
      hapart q.name (List.mem_map_of_mem hq) p.name (by simp)
    have hfold : Claims.ofParameters (parameters ++ [p]) tokens =
        (Claims.ofParameters parameters tokens).add p := by
      simp [Claims.ofParameters, List.foldl_append]
    rw [hfold, ih hparameters, add_eq _ hnames]
    cases h : record? tokens p <;> simp [h]

theorem remaining_ofParameters (distinct : (parameters.map (·.name)).Nodup) :
    (Claims.ofParameters parameters tokens).remaining =
      (unclaimed parameters tokens).map Prod.fst := by
  rw [ofParameters_eq distinct]

theorem find?_filterMap_record {ps : List Parameter} (distinct : (ps.map (·.name)).Nodup)
    (mem : p ∈ ps) :
    (ps.filterMap (record? tokens)).find? (·.1 = p.name) = record? tokens p := by
  have hname : ∀ (q : Parameter) (r : String × String), record? tokens q = some r →
      r.1 = q.name := by
    intro q r hr
    obtain ⟨t, _, rfl⟩ := Option.map_eq_some_iff.mp hr
    rfl
  induction ps with
  | nil => cases mem
  | cons q ps ih =>
    rw [List.map_cons, List.nodup_cons] at distinct
    obtain ⟨hnotMem, hdistinct⟩ := distinct
    rcases List.mem_cons.mp mem with rfl | hmem
    · cases hr : record? tokens p with
      | some r => simp [hr, hname p r hr]
      | none =>
        rw [List.filterMap_cons_none hr, List.find?_eq_none]
        intro r hmemr hrname
        obtain ⟨s, hs, hsr⟩ := List.mem_filterMap.mp hmemr
        have hsname : s.name = p.name := by
          rw [← hname s r hsr]
          simpa using hrname
        exact hnotMem (hsname ▸ List.mem_map_of_mem hs)
    · have hne : q.name ≠ p.name := fun h => hnotMem (h ▸ List.mem_map_of_mem hmem)
      cases hr : record? tokens q with
      | some r =>
        have hrname : r.1 ≠ p.name := by
          rw [hname q r hr]
          exact hne
        rw [List.filterMap_cons_some hr, List.find?_cons_of_neg (by simpa using hrname)]
        exact ih hdistinct hmem
      | none =>
        rw [List.filterMap_cons_none hr]
        exact ih hdistinct hmem

theorem text?_ofParameters (distinct : (parameters.map (·.name)).Nodup) (mem : p ∈ parameters) :
    (Claims.ofParameters parameters tokens).text? p.name =
      (claim? tokens p).map fun t => afterLead p.name t.1 := by
  have hreverse : (parameters.reverse.map (·.name)).Nodup := by
    rw [List.map_reverse, List.nodup_reverse]
    exact distinct
  rw [ofParameters_eq distinct, Claims.text?,
    find?_filterMap_record hreverse (List.mem_reverse.mpr mem), record?, Option.map_map]
  rfl

end Binding
end LineShell
