import Mathlib.Data.List.Basic
import LineShell.Registry

/-! # Warnings of shadowed commands

A registry warns of a command, once, if an earlier one has its name or has it in another case. The
words of the warning go by the first command that the name finds where case is ignored: if that one
has the very name, the command is shadowed, and otherwise it may be shadowed where case is ignored.
The words say too little if an earlier command has the very name and a still earlier one has it in
another case.
-/
namespace LineShell.Registry

def warningsAt (r : Registry) (place : Nat) : List Shadowing :=
  r.shadowings.filter (·.position = place + 1)

namespace Shadowing

/-- What is told of a command that is never found. -/
def isShadowed (name : String) (position : Nat) : String :=
  "command " ++ Text.quoted name ++ " at " ++ Ordinal.label position
    ++ " position is shadowed by an earlier one"

/-- What is told of a command that is not found where case is ignored. -/
def mayBeShadowed (name first : String) (position : Nat) : String :=
  "command " ++ Text.quoted name ++ " at " ++ Ordinal.label position
    ++ " position may be shadowed by " ++ Text.quoted first ++ " when ignore_case is enabled"

theorem isShadowed_ne_mayBeShadowed (name first : String) (position : Nat) :
    isShadowed name position ≠ mayBeShadowed name first position := by
  intro h
  unfold isShadowed mayBeShadowed at h
  simp only [String.append_assoc, String.append_right_inj] at h
  have hverb := congrArg (fun s => s.toList[10]?) h
  rw [String.toList_append] at hverb
  have hleft : " position is shadowed by an earlier one".toList[10]? = some 'i' := rfl
  have hright : ∀ cs, (" position may be shadowed by ".toList ++ cs)[10]? = some 'm' :=
    fun _ => rfl
  rw [hleft, hright] at hverb
  cases hverb

end Shadowing

variable {before commands : List Command} {c : Command} {place : Nat} {s : Shadowing}

theorem shadowing?_eq_none_iff :
    shadowing? before c = none ↔ ∀ d ∈ before, key d.name true ≠ key c.name true := by
  simp [shadowing?, findIn]

theorem shadowing?_eq_some (h : shadowing? before c = some s) :
    s.name = c.name ∧ s.position = before.length + 1 ∧
      ∃ first, findIn before c.name true = some first ∧ s.first = first.name := by
  obtain ⟨first, hfirst, rfl⟩ := Option.map_eq_some_iff.mp h
  exact ⟨rfl, rfl, first, hfirst, rfl⟩

theorem position_of_mem (h : s ∈ shadowingsFrom before commands) :
    before.length < s.position ∧ s.position ≤ before.length + commands.length := by
  induction commands generalizing before with
  | nil => cases h
  | cons d rest ih =>
    rw [shadowingsFrom, List.mem_append] at h
    rcases h with h | h
    · have hposition := (shadowing?_eq_some (Option.mem_toList.mp h)).2.1
      simp only [List.length_cons]
      omega
    · have hrest := ih h
      simp only [List.length_append, List.length_singleton] at hrest
      simp only [List.length_cons]
      omega

theorem filter_shadowingsFrom (at_place : commands[place]? = some c) :
    (shadowingsFrom before commands).filter (·.position = before.length + place + 1) =
      (shadowing? (before ++ commands.take place) c).toList := by
  induction commands generalizing before place with
  | nil => simp at at_place
  | cons d rest ih =>
    rw [shadowingsFrom, List.filter_append]
    cases place with
    | zero =>
      obtain rfl : d = c := by simpa using at_place
      have hown : (shadowing? before d).toList.filter (·.position = before.length + 0 + 1) =
          (shadowing? before d).toList := by
        rw [List.filter_eq_self]
        intro s hs
        simpa using (shadowing?_eq_some (Option.mem_toList.mp hs)).2.1
      have hrest : (shadowingsFrom (before ++ [d]) rest).filter
          (·.position = before.length + 0 + 1) = [] := by
        rw [List.filter_eq_nil_iff]
        intro s hs
        have hlater := (position_of_mem hs).1
        simp only [List.length_append, List.length_singleton] at hlater
        simp only [decide_eq_true_eq]
        omega
      rw [hown, hrest, List.append_nil, List.take_zero, List.append_nil]
    | succ place =>
      have hown : (shadowing? before d).toList.filter
          (·.position = before.length + (place + 1) + 1) = [] := by
        rw [List.filter_eq_nil_iff]
        intro s hs
        have hposition := (shadowing?_eq_some (Option.mem_toList.mp hs)).2.1
        simp only [decide_eq_true_eq]
        omega
      have hrest : (shadowingsFrom (before ++ [d]) rest).filter
          (·.position = (before ++ [d]).length + place + 1) =
            (shadowing? (before ++ [d] ++ rest.take place) c).toList := ih (by simpa using at_place)
      have hlength : (before ++ [d]).length + place + 1 = before.length + (place + 1) + 1 := by
        simp only [List.length_append, List.length_singleton]
        omega
      rw [hlength] at hrest
      rw [hown, hrest, List.nil_append, List.take_succ_cons, List.append_assoc,
        List.singleton_append]

variable {r : Registry}

theorem warningsAt_eq (registered : r.commands[place]? = some c) :
    r.warningsAt place = (shadowing? (r.commands.take place) c).toList := by
  have h : (shadowingsFrom [] r.commands).filter
      (·.position = ([] : List Command).length + place + 1) =
        (shadowing? ([] ++ r.commands.take place) c).toList := filter_shadowingsFrom registered
  simpa [warningsAt, shadowings] using h

theorem warningsAt_eq_nil_iff (registered : r.commands[place]? = some c) :
    r.warningsAt place = [] ↔
      ∀ d ∈ r.commands.take place, key d.name true ≠ key c.name true := by
  rw [warningsAt_eq registered, Option.toList_eq_nil_iff, shadowing?_eq_none_iff]

theorem exists_find_of_earlier
    (earlier : ∃ d ∈ r.commands.take place, key d.name true = key c.name true) :
    ∃ first, findIn (r.commands.take place) c.name true = some first ∧
      r.find c.name true = some first := by
  obtain ⟨d, hd, hkey⟩ := earlier
  have hsome : (findIn (r.commands.take place) c.name true).isSome = true :=
    List.find?_isSome.mpr ⟨d, hd, by simpa using hkey⟩
  obtain ⟨first, hfirst⟩ := Option.isSome_iff_exists.mp hsome
  refine ⟨first, hfirst, ?_⟩
  unfold find findIn at *
  rw [← List.take_append_drop place r.commands, List.find?_append, hfirst, Option.some_or]

/-- One warning is given of the command at the place, which names it and tells its position. -/
def WarnsOnce (r : Registry) (place : Nat) (name message : String) : Prop :=
  ∃ w, r.warningsAt place = [w] ∧ w.fault.kind = .shadowedCommand ∧ w.fault.message = message ∧
    w.fault.option? "input" = some (.text name) ∧ w.fault.option? "index" = some (.int (place + 1))

theorem warnsOnce_iff {first : Command} {message : String}
    (registered : r.commands[place]? = some c)
    (found : findIn (r.commands.take place) c.name true = some first) :
    r.WarnsOnce place c.name message ↔
      message = if first.name = c.name then Shadowing.isShadowed c.name (place + 1)
        else Shadowing.mayBeShadowed c.name first.name (place + 1) := by
  have hlength : (r.commands.take place).length = place := by
    have hlt := (List.getElem?_eq_some_iff.mp registered).1
    rw [List.length_take]
    omega
  have hwarnings : r.warningsAt place = [⟨c.name, place + 1, first.name⟩] := by
    rw [warningsAt_eq registered, shadowing?, found, hlength]
    rfl
  constructor
  · rintro ⟨w, hw, -, hmessage, -⟩
    rw [hwarnings] at hw
    cases hw
    exact hmessage.symm
  · intro hmessage
    refine ⟨_, hwarnings, rfl, hmessage.symm, rfl, ?_⟩
    simp [Shadowing.fault, Fault.ofKind, Fault.option?]

theorem key_eq_of_name_eq {d : Command} (h : d.name = c.name) :
    key d.name true = key c.name true := by rw [h]

/-- A registry gives one warning of a command if an earlier one has its name, be it in another case,
and none otherwise. It tells that the command is shadowed if the first command that the name finds
where case is ignored has the very name, and otherwise that the command may be shadowed by that one.
So the words fit all commands but those whose very name an earlier one has, where the first one has
it in another case. -/
theorem warnings_tell (r : Registry) :
    (∀ w ∈ r.shadowings, ∃ place c, r.commands[place]? = some c ∧ w ∈ r.warningsAt place) ∧
    ∀ place c, r.commands[place]? = some c →
      ((∃ d ∈ r.commands.take place, d.name = c.name) →
        ∃ first, r.find c.name true = some first ∧
          (first.name = c.name →
            r.WarnsOnce place c.name (Shadowing.isShadowed c.name (place + 1))) ∧
          (first.name ≠ c.name →
            r.WarnsOnce place c.name (Shadowing.mayBeShadowed c.name first.name (place + 1)) ∧
            ¬ r.WarnsOnce place c.name (Shadowing.isShadowed c.name (place + 1)))) ∧
      ((∀ d ∈ r.commands.take place, d.name ≠ c.name) →
        (∃ d ∈ r.commands.take place, key d.name true = key c.name true) →
          ∃ first, r.find c.name true = some first ∧
            r.WarnsOnce place c.name (Shadowing.mayBeShadowed c.name first.name (place + 1))) ∧
      ((∀ d ∈ r.commands.take place, key d.name true ≠ key c.name true) →
        r.warningsAt place = []) := by
  refine ⟨?_, ?_⟩
  · intro w hw
    obtain ⟨hpositive, hbound⟩ := position_of_mem hw
    have hlt : w.position - 1 < r.commands.length := by
      simp only [List.length_nil] at hbound
      omega
    refine ⟨w.position - 1, _, List.getElem?_eq_getElem hlt, List.mem_filter.mpr ⟨hw, ?_⟩⟩
    simp only [decide_eq_true_eq]
    omega
  · intro place c registered
    refine ⟨?_, ?_, (warningsAt_eq_nil_iff registered).mpr⟩
    · rintro ⟨d, hd, hname⟩
      obtain ⟨first, hearlier, hfirst⟩ :=
        exists_find_of_earlier ⟨d, hd, key_eq_of_name_eq hname⟩
      refine ⟨first, hfirst, ?_, ?_⟩
      · intro hsame
        rw [warnsOnce_iff registered hearlier, if_pos hsame]
      · intro hother
        rw [warnsOnce_iff registered hearlier, warnsOnce_iff registered hearlier, if_neg hother]
        exact ⟨rfl, Shadowing.isShadowed_ne_mayBeShadowed _ _ _⟩
    · intro hnames hfolded
      obtain ⟨first, hearlier, hfirst⟩ := exists_find_of_earlier hfolded
      have hother : first.name ≠ c.name := hnames first (List.mem_of_find?_eq_some hearlier)
      refine ⟨first, hfirst, ?_⟩
      rw [warnsOnce_iff registered hearlier, if_neg hother]

def idler (name : String) (name_ne : name ≠ "") (name_single : Command.isSingleToken name = true) :
    Command where
  name := name
  handler := {
    label := some name, name := .text name, qualifiedName := some name, shows := name
    arity := { required := 0, optional := 0, rest := false }
    behaviour := fun _ => .finish .none }
  signature := .empty
  descr := none
  name_ne := name_ne
  name_single := name_single
  accepts_values := rfl

def mixed : Registry :=
  ⟨[idler "Go" (by decide) (by decide), idler "go" (by decide) (by decide),
    idler "go" (by decide) (by decide)]⟩

/-- The second command has the name of the first in another case. So has the third, and it is told
no more, although it has the very name of the second. -/
theorem warnings_tell_mixed :
    mixed.warningsAt 0 = [] ∧
    mixed.WarnsOnce 1 "go" ("command 'go' at second position may be shadowed by 'Go'" ++
      " when ignore_case is enabled") ∧
    (∃ d ∈ mixed.commands.take 2, d.name = "go") ∧
    mixed.WarnsOnce 2 "go" ("command 'go' at third position may be shadowed by 'Go'" ++
      " when ignore_case is enabled") := by
  have told := (warnings_tell mixed).2
  have found : mixed.find "go" true = some (idler "Go" (by decide) (by decide)) := rfl
  refine ⟨?_, ?_, by decide, ?_⟩
  · exact (told 0 (idler "Go" (by decide) (by decide)) rfl).2.2 (by simp)
  · obtain ⟨first, hfirst, hwarns⟩ :=
      (told 1 (idler "go" (by decide) (by decide)) rfl).2.1 (by decide) (by decide)
    obtain rfl := Option.some.inj (found.symm.trans hfirst)
    exact hwarns
  · obtain ⟨first, hfirst, -, hwarns⟩ :=
      (told 2 (idler "go" (by decide) (by decide)) rfl).1 (by decide)
    obtain rfl := Option.some.inj (found.symm.trans hfirst)
    exact (hwarns (by decide)).1

/-- A command whose very name an earlier one has is not told to be shadowed. -/
theorem exists_misworded : ∃ (r : Registry) (place : Nat) (c : Command),
    r.commands[place]? = some c ∧ (∃ d ∈ r.commands.take place, d.name = c.name) ∧
      ¬ r.WarnsOnce place c.name (Shadowing.isShadowed c.name (place + 1)) := by
  have found : findIn (mixed.commands.take 2) "go" true =
      some (idler "Go" (by decide) (by decide)) := rfl
  have registered : mixed.commands[2]? = some (idler "go" (by decide) (by decide)) := rfl
  have earlier : ∃ d ∈ mixed.commands.take 2, d.name = "go" := by decide
  refine ⟨mixed, 2, _, registered, earlier, ?_⟩
  intro hwarns
  have hwords := (warnsOnce_iff registered found).mp hwarns
  rw [if_neg (by decide)] at hwords
  exact Shadowing.isShadowed_ne_mayBeShadowed _ _ _ hwords

end LineShell.Registry
