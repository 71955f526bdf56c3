import LineShell.Proofs.Arguments.Members
import LineShell.Proofs.Arguments.Typing
import LineShell.Proofs.Literals.Layout

/-! # Values read back from their texts

What is written for a value is read as this value: a whole number in any of its spellings, by any
type whose bits hold it, a decimal with all its digits and its very exponent, and a member by its
name or by an alias.
-/
namespace LineShell.Conversion
open Number (digitsOf)
variable {n : Int} {token : String} {w : FixedWidth}

theorem read_int_of_spells (leniency : Leniency) (spells : Literal.Spells n token.toList) :
    read .int leniency token = .ok (.int n) := by
  unfold read
  rw [Literal.int?_of_spells spells]
  rfl

theorem read_fixed_of_spells (leniency : Leniency) (some_bits : 1 ≤ w.bits) (few_bits : w.bits ≤ 64)
    (spells : Literal.Spells n token.toList) :
    read (.fixed w) leniency token = if w.lower ≤ n ∧ n ≤ w.upper then .ok (.int n)
      else .error (.uncastable token (.fixed w) (.range w.lower w.upper)) := by
  have hmax : (64 : Int) ≤ Number.maxBits := by decide
  have hbounds := FixedWidth.bounds_eq_ok (by omega : 0 < w.bits) (Int.le_trans few_bits hmax)
  obtain ⟨hlower, hupper⟩ := FixedWidth.hasText_bounds some_bits few_bits
  unfold read readFixed
  simp only [Literal.int?_of_spells spells, hbounds, outOfRange, hlower, hupper, Bool.and_self,
    if_true]

theorem read_decimal_text {negative : Bool} {coefficient : Nat} {exponent : Int}
    (leniency : Leniency) (fits : Number.Decimal.fits coefficient exponent = true) :
    read .decimal leniency (Number.Decimal.finite negative coefficient exponent).text =
      .ok (.decimal (.finite negative coefficient exponent)) := by
  unfold read Number.Decimal.text
  rw [String.toList_ofList, Literal.decimal?_text fits]
  rfl

/-- Each spelling of a whole number is read as the number, and by a width of one to sixty-four bits
exactly if its bits hold the number. The text of a finite decimal is read with the same sign, the
same coefficient and the same exponent, nought and its sign included. Each name of an enumeration is
read as the member that it stands for, which is the one that the first name with the same datum is
read as. -/
theorem printed_reads_back (leniency : Leniency) :
    (∀ (n : Int) (token : String), Literal.Spells n token.toList →
      read .int leniency token = .ok (.int n) ∧
      ∀ w : FixedWidth, 1 ≤ w.bits → w.bits ≤ 64 →
        (w.Holds n → read (.fixed w) leniency token = .ok (.int n)) ∧
        (¬ w.Holds n → ∃ r, read (.fixed w) leniency token = .error r ∧
          (Binding.Failure.refused r).TellsConversion token (.fixed w))) ∧
    (∀ (negative : Bool) (coefficient : Nat) (exponent : Int),
      Number.Decimal.minExponent ≤ exponent →
      exponent + (digitsOf coefficient).length - 1 ≤ Number.Decimal.maxLead →
        read .decimal leniency (Number.Decimal.finite negative coefficient exponent).text =
          .ok (.decimal (.finite negative coefficient exponent))) ∧
    (∀ e : Enumeration, e.IsSound → ∀ entry ∈ e.entries, ∃ c ∈ e.members,
      c.name = entry.canonical ∧
        read (.enumeration e) leniency entry.name = .ok (.member ⟨e, c⟩)) ∧
    ∀ (name home : String) (names : List Enumeration.Declared), (names.map (·.1)).Nodup →
      (Enumeration.declare name home names).IsSound ∧
      ∀ (place : Nat) (d : Enumeration.Declared), names[place]? = some d →
        ∃ c ∈ (Enumeration.declare name home names).members,
          read (.enumeration (.declare name home names)) leniency d.1 =
            .ok (.member ⟨.declare name home names, c⟩) ∧
          ((∀ b ∈ names.take place, b.2.1.equals d.2.1 = false) →
            c.name = d.1 ∧ c.datum = d.2.1.written "") ∧
          ∀ b, (names.take place).find? (·.2.1.equals d.2.1) = some b →
            read (.enumeration (.declare name home names)) leniency b.1 =
              .ok (.member ⟨.declare name home names, c⟩) := by
  refine ⟨?_, ?_, ?_, ?_⟩
  · intro n token spells
    refine ⟨read_int_of_spells leniency spells, ?_⟩
    intro w some_bits few_bits
    rw [read_fixed_of_spells leniency some_bits few_bits spells, FixedWidth.holds_iff]
    refine ⟨fun holds => if_pos holds, ?_⟩
    intro holds
    exact ⟨_, if_neg holds, Binding.Failure.tellsConversion_uncastable _ _ _⟩
  · intro negative coefficient exponent least most
    have fits : Number.Decimal.fits coefficient exponent = true := by
      unfold Number.Decimal.fits
      rw [Bool.and_eq_true]
      exact ⟨decide_eq_true least, decide_eq_true most⟩
    exact read_decimal_text leniency fits
  · intro e sound entry mem
    exact exists_read_entry sound leniency mem
  · intro name home names distinct
    refine ⟨Enumeration.isSound_declare name home distinct, ?_⟩
    intro place d declared
    exact exists_read_declared name home distinct declared leniency

def seas : List Enumeration.Declared :=
  [("Calm", .text "calm", none), ("Still", .text "calm", none)]

/-- A number with everything around it that there may be, at the edge of a width that holds it and
beyond the edge of one that does not; a nought with a sign and an exponent; and an alias. -/
theorem printed_reads_back_edges :
    Literal.Spells 128 " +00128 ".toList ∧
    read .int {} " +00128 " = .ok (.int 128) ∧
    read (.fixed .uint8) {} " +00128 " = .ok (.int 128) ∧
    (∃ r, read (.fixed .int8) {} " +00128 " = .error r ∧
      (Binding.Failure.refused r).TellsConversion " +00128 " (.fixed .int8)) ∧
    (Number.Decimal.finite true 0 (-7)).text = "-0E-7" ∧
    read .decimal {} "-0E-7" = .ok (.decimal (.finite true 0 (-7))) ∧
    ∃ c ∈ (Enumeration.declare "Mood" "demo" seas).members, c.name = "Calm" ∧
      read (.enumeration (.declare "Mood" "demo" seas)) {} "Still" =
        .ok (.member ⟨.declare "Mood" "demo" seas, c⟩) := by
  obtain ⟨whole, decimals, -, members⟩ := printed_reads_back {}
  have blank : ∀ c ∈ [' '] ++ [' '], Text.isBlank c = true ∧
      Literal.isSeparatorControl c = false := by
    intro c hc
    have hc : c = ' ' := by simpa using hc
    rw [hc]
    decide
  have spells : Literal.Spells 128 " +00128 ".toList :=
    .written [' '] [' '] ['+'] 2 blank (by decide) (by decide)
  obtain ⟨hint, hfixed⟩ := whole 128 " +00128 " spells
  have held : FixedWidth.uint8.Holds 128 := by
    rw [FixedWidth.holds_iff]
    decide
  have beyond : ¬ FixedWidth.int8.Holds 128 := by
    rw [FixedWidth.holds_iff]
    decide
  have hdecimal := decimals true 0 (-7) (by decide) (by decide)
  have written : (Number.Decimal.finite true 0 (-7)).text = "-0E-7" := by decide
  rw [written] at hdecimal
  obtain ⟨-, hmembers⟩ := members "Mood" "demo" seas (by decide)
  obtain ⟨calm, -, hcalm, hfirst, -⟩ := hmembers 0 _ rfl
  obtain ⟨still, hstill, hread, -, halias⟩ := hmembers 1 _ rfl
  have earlier : (seas.take 1).find? (·.2.1.equals (.text "calm")) =
      some ("Calm", .text "calm", none) := by
    simp [seas, Value.equals]
  cases hcalm.symm.trans (halias _ earlier)
  have hname := (hfirst (by simp)).1
  exact ⟨spells, hint, (hfixed .uint8 (by decide) (by decide)).1 held,
    (hfixed .int8 (by decide) (by decide)).2 beyond, written, hdecimal, calm, hstill, hname, hread⟩

end LineShell.Conversion
