import LineShell.Proofs.Text.Unbroken
import LineShell.Value.Text

/-! # Texts that stand bare in written forms

A written form is put together from brackets, numbers and quoted texts, none of which holds a line
break, and from texts that stand in it as they were given: the names of types and members, and the
forms of objects. So it is one line exactly if each of these is.
-/
namespace LineShell
open Text

/-! ### Types -/

def ValueType.bare : ValueType → List String
  | fixed width => [width.name]
  | enumeration e => [e.name]
  | _ => []

def Atom.bare : Atom → List String
  | value t => t.bare
  | plain name => [name]
  | applied name argument => [name, argument]
  | other shows .. | undefined shows => [shows]
  | _ => []

def Atom.bareInUnion : Atom → List String
  | value (.enumeration e) => [e.home, e.name]
  | a => a.bare

def TypeExpr.bare : TypeExpr → List String
  | atom a => a.bare
  | union _ members => members.flatMap Atom.bareInUnion

theorem ValueType.isLine_label (t : ValueType) : IsLine t.label ↔ ∀ s ∈ t.bare, IsLine s := by
  cases t <;> simp +decide [label, bare]

theorem ValueType.isLine_written (t : ValueType) : IsLine t.written ↔ ∀ s ∈ t.bare, IsLine s := by
  cases t <;> simp +decide [written, bare, isLine_append]

theorem Atom.isLine_written (a : Atom) : IsLine a.written ↔ ∀ s ∈ a.bare, IsLine s := by
  cases a with
  | value t => exact t.isLine_written
  | forward name => simp +decide [written, label, bare, isLine_append, isLine_quoted]
  | _ => simp +decide [written, label, bare, isLine_append]

theorem Atom.isLine_fullName (a : Atom) : IsLine a.fullName ↔ ∀ s ∈ a.bareInUnion, IsLine s := by
  cases a with
  | value t => cases t <;> simp +decide [fullName, ValueType.fullName, ValueType.label,
      Enumeration.fullName, bareInUnion, bare, ValueType.bare, isLine_append]
  | forward name =>
    simp +decide [fullName, label, bareInUnion, bare, isLine_append, isLine_quoted]
  | _ => simp +decide [fullName, label, bareInUnion, bare, isLine_append]

theorem TypeExpr.isLine_written (t : TypeExpr) : IsLine t.written ↔ ∀ s ∈ t.bare, IsLine s := by
  cases t with
  | atom a => exact a.isLine_written
  | union ofClasses members => cases ofClasses with
    | true =>
      have hbetween : IsLine " | " := by decide
      have hwritten :
          (union true members).written = " | ".intercalate (members.map Atom.fullName) :=
        rfl
      rw [hwritten, isLine_intercalate hbetween, bare, List.forall_mem_flatMap]
      simp [Atom.isLine_fullName]
    | false =>
      have hbetween : IsLine ", " := by decide
      have hoptional : IsLine "typing.Optional[" := by decide
      have hunion : IsLine "typing.Union[" := by decide
      have hclose : IsLine "]" := by decide
      have habsent : Atom.absent.bareInUnion = [] := rfl
      have hnone : IsLine "NoneType" := by decide
      have hmember : ∀ a : Atom, IsLine (if a = .absent then "NoneType" else a.fullName) ↔
          ∀ s ∈ a.bareInUnion, IsLine s := by
        intro a
        by_cases h : a = .absent
        · rw [if_pos h, h, habsent]
          simp [hnone]
        · rw [if_neg h]
          exact a.isLine_fullName
      unfold written
      simp only
      split
      · simp [bare, isLine_append, Atom.isLine_fullName, habsent, hoptional, hclose]
      · simp [bare, isLine_append, Atom.isLine_fullName, habsent, hoptional, hclose]
      · rw [bare, List.forall_mem_flatMap]
        simp [isLine_append, isLine_intercalate hbetween, hmember, hunion, hclose]

/-! ### Codes -/

theorem Fault.Code.isLine_name (c : Code) : IsLine c.name := by
  cases c <;> decide

theorem Fault.Code.isLine_written (c : Code) : IsLine c.written := by
  have hopen : IsLine "<FaultCode." := by decide
  have hbetween : IsLine ": " := by decide
  have hclose : IsLine ">" := by decide
  have hnumber : IsLine (toString c.number) := Number.isLine_toString c.number
  unfold written
  simp only [isLine_append, hopen, hbetween, hclose, c.isLine_name, hnumber, and_self]

/-! ### Values -/

namespace Value

mutual

/-- The texts that stand bare in the written form of a value. -/
def bare (session : String) : Value → List String
  | list items | tuple items | set items | frozenSet items => bareItems session items
  | dict entries | frozenDict entries => bareEntries session entries
  | member m => [m.enumeration.name, m.name, m.entry.datum]
  | type t => t.bare
  | .session => [session]
  | stream _ _ shows | object _ shows => [shows]
  | _ => []

def bareItems (session : String) : List Value → List String
  | [] => []
  | v :: rest => v.bare session ++ bareItems session rest

def bareEntries (session : String) : List (Value × Value) → List String
  | [] => []
  | (key, v) :: rest => key.bare session ++ v.bare session ++ bareEntries session rest

end

variable {session : String} {parts : List String}

theorem isLine_commaed : IsLine (commaed parts) ↔ ∀ s ∈ parts, IsLine s :=
  isLine_intercalate (by decide)

theorem isLine_inTuple : IsLine (inTuple parts) ↔ ∀ s ∈ parts, IsLine s := by
  unfold inTuple
  split
  · simp +decide [isLine_append]
  · simp +decide [isLine_append, isLine_commaed]

theorem isLine_inBraces : IsLine (inBraces parts) ↔ ∀ s ∈ parts, IsLine s := by
  simp +decide [inBraces, isLine_append, isLine_commaed]

theorem isLine_inSet : IsLine (inSet parts) ↔ ∀ s ∈ parts, IsLine s := by
  cases parts with
  | nil => decide
  | cons s rest => exact isLine_inBraces

theorem isLine_inFrozenSet : IsLine (inFrozenSet parts) ↔ ∀ s ∈ parts, IsLine s := by
  cases parts with
  | nil => decide
  | cons s rest => simp +decide [inFrozenSet, isLine_append, isLine_inBraces]

mutual

/-- The written form of a value is one line exactly if each text that stands bare in it is. -/
theorem isLine_written (v : Value) :
    IsLine (v.written session) ↔ ∀ s ∈ v.bare session, IsLine s := by
  cases v with
  | none => simp +decide [written, bare]
  | bool b => cases b <;> simp +decide [written, bare]
  | int n => simpa [written, bare] using Number.isLine_toString n
  | real x => simp [written, bare, Number.isLine_realText]
  | decimal d => simp +decide [written, bare, isLine_append, Number.isLine_text]
  | text s => simp [written, bare, isLine_quoted]
  | bytes bs => simp [written, bare, isLine_quotedBytes]
  | list items =>
    simp +decide [written, bare, isLine_append, isLine_commaed, isLine_writtenItems items]
  | tuple items => simp [written, bare, isLine_inTuple, isLine_writtenItems items]
  | dict entries => simp [written, bare, isLine_inBraces, isLine_writtenEntries entries]
  | set items => simp [written, bare, isLine_inSet, isLine_writtenItems items]
  | frozenDict entries =>
    simp +decide [written, bare, isLine_append, isLine_inBraces, isLine_writtenEntries entries]
  | frozenSet items => simp [written, bare, isLine_inFrozenSet, isLine_writtenItems items]
  | member m =>
    simp +decide [written, bare, Member.written, Member.plain, isLine_append, and_assoc]
  | unset => simp +decide [written, bare]
  | type t => simp [written, bare, t.isLine_written]
  | code c => simp [written, bare, c.isLine_written]
  | styled plain style => simp +decide [written, bare, isLine_append, isLine_quoted]
  | session => simp [written, bare]
  | stream readable writable shows => simp [written, bare]
  | object kind shows => simp [written, bare]

theorem isLine_writtenItems (items : List Value) :
    (∀ s ∈ writtenItems session items, IsLine s) ↔ ∀ s ∈ bareItems session items, IsLine s := by
  cases items with
  | nil => simp [writtenItems, bareItems]
  | cons v rest =>
    simp [writtenItems, bareItems, or_imp, forall_and, isLine_written v, isLine_writtenItems rest]

theorem isLine_writtenEntries (entries : List (Value × Value)) :
    (∀ s ∈ writtenEntries session entries, IsLine s) ↔
      ∀ s ∈ bareEntries session entries, IsLine s := by
  cases entries with
  | nil => simp [writtenEntries, bareEntries]
  | cons entry rest =>
    obtain ⟨key, v⟩ := entry
    simp +decide [writtenEntries, bareEntries, or_imp, forall_and, isLine_append,
      isLine_written key, isLine_written v, isLine_writtenEntries rest, and_assoc]

end

end Value
end LineShell
