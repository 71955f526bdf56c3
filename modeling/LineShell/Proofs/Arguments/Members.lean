import Mathlib.Data.List.Induction
import Mathlib.Data.List.Nodup
import LineShell.Conversion
import LineShell.Value.Declared

/-! # Names of members

Each name of a declared enumeration is a member or an alias of one. It is an alias if an earlier
name has the same datum, and then stands for what that name stands for.
-/
namespace LineShell

namespace Enumeration
variable {e : Enumeration} {entry : Entry}

/-- The names are distinct, and the canonical name of each is the name of a member. -/
structure IsSound (e : Enumeration) : Prop where
  distinct : e.names.Nodup
  canonical : ∀ entry ∈ e.entries, ∃ c ∈ e.members, c.name = entry.canonical

theorem mem_members_iff : entry ∈ e.members ↔ entry ∈ e.entries ∧ entry.name = entry.canonical := by
  simp [members, Entry.isAlias]

theorem find?_of_mem (distinct : e.names.Nodup) (mem : entry ∈ e.entries) :
    e.entries.find? (·.name = entry.name) = some entry := by
  obtain ⟨place, hlt, rfl⟩ := List.mem_iff_getElem.mp mem
  rw [List.find?_eq_some_iff_getElem]
  refine ⟨by simp, place, hlt, rfl, ?_⟩
  intro i hi
  have hlength : e.names.length = e.entries.length := List.length_map _
  have hplace : place < e.names.length := by omega
  have hbefore : i < e.names.length := by omega
  have hother : e.names[i] ≠ e.names[place] := by
    intro hsame
    have hindex := (List.Nodup.getElem_inj_iff distinct).mp hsame
    omega
  simpa [names] using hother

theorem member?_of_mem (distinct : e.names.Nodup) (mem : entry ∈ e.entries) :
    e.member? entry.name = (e.entries.find? (·.name = entry.canonical)).map (⟨e, ·⟩) := by
  unfold member?
  rw [find?_of_mem distinct mem]
  cases h : e.entries.find? (·.name = entry.canonical) <;> simp [h]

theorem member?_of_canonical (distinct : e.names.Nodup) (mem : entry ∈ e.entries) {c : Entry}
    (hc : c ∈ e.members) (canonical : c.name = entry.canonical) :
    e.member? entry.name = some ⟨e, c⟩ := by
  rw [member?_of_mem distinct mem, ← canonical, find?_of_mem distinct (mem_members_iff.mp hc).1]
  rfl

theorem member?_eq_none_iff (sound : e.IsSound) {name : String} :
    e.member? name = none ↔ name ∉ e.names := by
  constructor
  · intro hnone hname
    obtain ⟨entry, hentry, rfl⟩ := List.mem_map.mp hname
    obtain ⟨c, hc, hcanonical⟩ := sound.canonical entry hentry
    rw [member?_of_canonical sound.distinct hentry hc hcanonical] at hnone
    cases hnone
  · intro hname
    have hfind : e.entries.find? (·.name = name) = none := by
      rw [List.find?_eq_none]
      intro entry hentry hsame
      exact hname (of_decide_eq_true hsame ▸ List.mem_map_of_mem hentry)
    unfold member?
    rw [hfind]
    rfl

/-! ### Declarations -/

abbrev Declared := String × Value × Option String

def known (names : List Declared) : List (Value × Entry) := names.foldl addName []

/-- The canonical name of one more name: that of the first name with the same datum, or its own. -/
def canonicalOf (known : List (Value × Entry)) (d : Declared) : String :=
  match known.find? (·.1.equals d.2.1) with
  | some k => k.2.canonical
  | none => d.1

def entryOf (known : List (Value × Entry)) (d : Declared) : Entry :=
  ⟨d.1, canonicalOf known d, d.2.1.written "", d.2.1.amount?, d.2.2, d.2.1.isShowable⟩

variable {names : List Declared} {d : Declared}

theorem addName_eq (known : List (Value × Entry)) (d : Declared) :
    addName known d = known ++ [(d.2.1, entryOf known d)] := by
  obtain ⟨name, datum, descr⟩ := d
  unfold addName entryOf canonicalOf
  simp only
  cases known.find? (·.1.equals datum) <;> rfl

theorem known_snoc (names : List Declared) (d : Declared) :
    known (names ++ [d]) = known names ++ [(d.2.1, entryOf (known names) d)] := by
  unfold known
  rw [List.foldl_append]
  exact addName_eq _ d

theorem mem_known_append {k : Value × Entry} (h : k ∈ known names) (more : List Declared) :
    k ∈ known (names ++ more) := by
  induction more using List.reverseRecOn with
  | nil => rwa [List.append_nil]
  | append_singleton more d ih =>
    rw [← List.append_assoc, known_snoc]
    exact List.mem_append_left _ ih

theorem names_declare (name home : String) (names : List Declared) :
    (declare name home names).names = names.map (·.1) := by
  change ((known names).map (·.2)).map (·.name) = _
  induction names using List.reverseRecOn with
  | nil => rfl
  | append_singleton names d ih =>
    rw [known_snoc, List.map_append, List.map_append, ih, List.map_append]
    rfl

theorem find?_known (p : Value → Bool) (names : List Declared) :
    ((known names).find? (p ·.1)).map (·.2.name) = (names.find? (p ·.2.1)).map (·.1) := by
  induction names using List.reverseRecOn with
  | nil => rfl
  | append_singleton names d ih =>
    rw [known_snoc, List.find?_append, List.find?_append, Option.map_or, Option.map_or, ih]
    congr 1
    cases h : p d.2.1 <;> simp [h, entryOf]

theorem exists_canonical (names : List Declared) :
    ∀ k ∈ known names, ∃ c ∈ known names, c.2.name = k.2.canonical ∧
      c.2.name = c.2.canonical := by
  -- from the end of the names: what is canonical among the earlier ones stays so
  induction names using List.reverseRecOn with
  | nil => simp [known]
  | append_singleton names d ih =>
    rw [known_snoc]
    have hearlier : ∀ k ∈ known names, ∃ c ∈ known names ++ [(d.2.1, entryOf (known names) d)],
        c.2.name = k.2.canonical ∧ c.2.name = c.2.canonical := by
      intro k hk
      obtain ⟨c, hc, hcanonical⟩ := ih k hk
      exact ⟨c, List.mem_append_left _ hc, hcanonical⟩
    intro k hk
    rcases List.mem_append.mp hk with hk | hk
    · exact hearlier k hk
    · rw [List.mem_singleton.mp hk]
      cases hfind : (known names).find? (·.1.equals d.2.1) with
      | some first =>
        obtain ⟨c, hc, hname, hown⟩ := hearlier first (List.mem_of_find?_eq_some hfind)
        refine ⟨c, hc, ?_, hown⟩
        simp [hname, entryOf, canonicalOf, hfind]
      | none =>
        refine ⟨_, List.mem_append_right _ (List.mem_singleton_self _), ?_, ?_⟩ <;>
          simp [entryOf, canonicalOf, hfind]

theorem isSound_declare (name home : String) (distinct : (names.map (·.1)).Nodup) :
    (declare name home names).IsSound := by
  refine ⟨by rwa [names_declare], ?_⟩
  intro entry hentry
  obtain ⟨k, hk, rfl⟩ := List.mem_map.mp hentry
  obtain ⟨c, hc, hname, hown⟩ := exists_canonical names k hk
  exact ⟨c.2, mem_members_iff.mpr ⟨List.mem_map_of_mem hc, hown⟩, hname⟩

theorem length_known (names : List Declared) : (known names).length = names.length := by
  induction names using List.reverseRecOn with
  | nil => rfl
  | append_singleton names d ih => simp [known_snoc, ih]

theorem getElem?_known {place : Nat} (h : names[place]? = some d) :
    (known names)[place]? = some (d.2.1, entryOf (known (names.take place)) d) := by
  induction names using List.reverseRecOn with
  | nil => simp at h
  | append_singleton names last ih =>
    have hlength := length_known names
    rw [known_snoc]
    by_cases hearlier : place < names.length
    · rw [List.getElem?_append_left hearlier] at h
      rw [List.getElem?_append_left (by omega), ih h,
        List.take_append_of_le_length (Nat.le_of_lt hearlier)]
    · have hplace : place = names.length := by
        have hlt := (List.getElem?_eq_some_iff.mp h).1
        simp only [List.length_append, List.length_singleton] at hlt
        omega
      subst hplace
      rw [List.getElem?_concat_length] at h
      cases h
      rw [← hlength, List.getElem?_concat_length, hlength, List.take_left]

theorem canonicalOf_of_first {before : List Declared}
    (first : ∀ b ∈ before, b.2.1.equals d.2.1 = false) : canonicalOf (known before) d = d.1 := by
  have hnone : before.find? (·.2.1.equals d.2.1) = none := by
    rw [List.find?_eq_none]
    intro b hb
    simp [first b hb]
  have hknown := find?_known (·.equals d.2.1) before
  rw [hnone, Option.map_none, Option.map_eq_none_iff] at hknown
  unfold canonicalOf
  rw [hknown]

theorem canonicalOf_of_alias {before : List Declared} {b : Declared}
    (earlier : before.find? (·.2.1.equals d.2.1) = some b) :
    ∃ k ∈ known before, k.2.name = b.1 ∧ canonicalOf (known before) d = k.2.canonical := by
  have hknown := find?_known (·.equals d.2.1) before
  rw [earlier, Option.map_some, Option.map_eq_some_iff] at hknown
  obtain ⟨k, hk, hname⟩ := hknown
  refine ⟨k, List.mem_of_find?_eq_some hk, hname, ?_⟩
  unfold canonicalOf
  rw [hk]

end Enumeration

namespace Conversion
open Enumeration
variable {e : Enumeration} {entry c : Entry} {names : List Declared} {d : Declared} {place : Nat}

theorem read_of_member? {m : Member} {token : String} (leniency : Leniency)
    (h : e.member? token = some m) : read (.enumeration e) leniency token = .ok (.member m) := by
  unfold read readMember
  simp only [h]

theorem exists_read_entry (sound : e.IsSound) (leniency : Leniency) (mem : entry ∈ e.entries) :
    ∃ c ∈ e.members, c.name = entry.canonical ∧
      read (.enumeration e) leniency entry.name = .ok (.member ⟨e, c⟩) := by
  obtain ⟨c, hc, hname⟩ := sound.canonical entry mem
  exact ⟨c, hc, hname, read_of_member? leniency (member?_of_canonical sound.distinct mem hc hname)⟩

/-- A declared name is read as its own member, if no earlier name has its datum, and as the member
that is read from the first such name otherwise. -/
theorem exists_read_declared (name home : String) (distinct : (names.map (·.1)).Nodup)
    (declared : names[place]? = some d) (leniency : Leniency) :
    ∃ c ∈ (declare name home names).members,
      read (.enumeration (declare name home names)) leniency d.1 =
        .ok (.member ⟨declare name home names, c⟩) ∧
      ((∀ b ∈ names.take place, b.2.1.equals d.2.1 = false) →
        c.name = d.1 ∧ c.datum = d.2.1.written "") ∧
      ∀ b, (names.take place).find? (·.2.1.equals d.2.1) = some b →
        read (.enumeration (declare name home names)) leniency b.1 =
          .ok (.member ⟨declare name home names, c⟩) := by
  have hsound := isSound_declare name home distinct
  have hknown := List.mem_of_getElem? (getElem?_known declared)
  have hentry : entryOf (known (names.take place)) d ∈ (declare name home names).entries :=
    List.mem_map_of_mem hknown
  obtain ⟨c, hc, hname, hread⟩ := exists_read_entry hsound leniency hentry
  refine ⟨c, hc, hread, ?_, ?_⟩
  · intro hfirst
    have hown : c.name = d.1 := hname.trans (canonicalOf_of_first hfirst)
    have hfind := find?_of_mem hsound.distinct (mem_members_iff.mp hc).1
    have hfind' := find?_of_mem hsound.distinct hentry
    have hsame : (entryOf (known (names.take place)) d).name = c.name := hown.symm
    rw [hsame, hfind] at hfind'
    cases Option.some.inj hfind'
    exact ⟨hown, rfl⟩
  · intro b hb
    obtain ⟨k, hk, hkname, hcanonical⟩ := canonicalOf_of_alias hb
    have hk : k ∈ known (names.take place ++ names.drop place) := mem_known_append hk _
    rw [List.take_append_drop] at hk
    have hmem : k.2 ∈ (declare name home names).entries := List.mem_map_of_mem hk
    rw [← hkname]
    exact read_of_member? leniency
      (member?_of_canonical hsound.distinct hmem hc (hname.trans hcanonical))

end Conversion
end LineShell
