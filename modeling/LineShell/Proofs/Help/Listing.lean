import LineShell.Proofs.Commands.Declaring
import LineShell.Proofs.Help.Bare
import LineShell.Proofs.Values.Telling

/-! # Help, read line by line

A listing has one line for each command, and the lines are the descriptions of the commands in their
order, if and only if no line break stands in a text that is shown as it was given: the description
of a command, the name of a type, of a member that is a default, or the form of an object. The
longer description of a command begins with the line that the listing has for it; the lines after it
are indented if and only if each break in the description of a parameter, or in the name or the
description of a member, has an indent behind it. There is no listing, and no description, if a
default in it cannot be told.
-/
namespace LineShell

/-! ### What stands bare in a description -/

def Value.bareAsDefault (session : String) : Value → List String
  | member m => [m.name]
  | code _ => []
  | v => v.bare session

def Parameter.bare (session : String) (p : Parameter) : List String :=
  let label := (p.type.map ValueType.bare).getD []
  match p.role with
  | .flags | .caller | .variadic => []
  | .named => label ++ p.defaultValue.bareAsDefault session
  | .positional => label

/-- The texts that stand bare in the line that describes a command. -/
def Command.bare (session : String) (c : Command) : List String :=
  c.signature.parameters.flatMap (·.bare session) ++ c.descr.toList

namespace Help

def memberTexts (entry : Enumeration.Entry) : List String :=
  entry.name :: (nonEmpty? entry.descr).toList

end Help

def Parameter.members? (p : Parameter) : Option (List Enumeration.Entry) :=
  match p.type with
  | some (.enumeration e) => some e.members
  | _ => none

def Parameter.details (p : Parameter) : List String :=
  p.descr.toList ++ (p.members?.getD []).flatMap Help.memberTexts

/-- The texts that the longer description of a command adds to its line. -/
def Command.details (c : Command) : List String := c.signature.parameters.flatMap (·.details)

namespace Help
open Text

variable {session : String} {c : Command} {commands : List Command}

theorem tells_defaultText (v : Value) :
    Tells (v.hasPlain = true) (fun s => IsLine s ↔ ∀ t ∈ v.bareAsDefault session, IsLine t)
      (defaultText session v) := by
  have hspelled : Tells (v.isShowable = true) (fun s => IsLine s ↔ ∀ t ∈ v.bare session, IsLine t)
      (v.spelled session) := by
    refine (v.tells_spelled session).mono ?_
    rintro _ rfl
    exact v.isLine_written
  cases v with
  | member m => exact ⟨rfl, by simp [Value.bareAsDefault]⟩
  | code c => exact ⟨rfl, by simp [Value.bareAsDefault, c.isLine_name]⟩
  | _ => exact hspelled

theorem isLine_label (p : Parameter) :
    IsLine ((p.type.map (·.label)).getD "" ++ (if p.nullable then "?" else "")) ↔
      ∀ s ∈ (p.type.map ValueType.bare).getD [], IsLine s := by
  have hmark : IsLine (if p.nullable then "?" else "") := by split <;> decide
  cases p.type with
  | none => simp +decide [hmark]
  | some t => simp [isLine_append, hmark, t.isLine_label]

theorem tells_parameterText (p : Parameter) :
    Tells (p.isTold = true) (fun s => IsLine s ↔ ∀ t ∈ p.bare session, IsLine t)
      (parameterText session p) := by
  have hname : IsLine p.name := isLine_of_isIdentifier p.name_identifier
  have hlabel := isLine_label p
  unfold parameterText Parameter.bare Parameter.isTold
  simp only
  generalize (p.type.map (·.label)).getD "" ++ (if p.nullable then "?" else "") = label at hlabel ⊢
  cases p.role with
  | named =>
    refine Tells.map ((tells_defaultText p.defaultValue).mono ?_)
    intro s hs
    simp +decide [isLine_append, hname, hlabel, hs, or_imp, forall_and]
  | positional => exact ⟨rfl, by simp +decide [isLine_append, hname, hlabel]⟩
  | _ => exact ⟨rfl, by simp +decide [isLine_append, hname]⟩

theorem tells_brief (session : String) (c : Command) :
    Tells (c.isTold = true) (fun line => IsLine line ↔ ∀ s ∈ c.bare session, IsLine s)
      (brief session c) := by
  have hname : IsLine c.name := by
    have hsingle := c.name_single
    simp only [Command.isSingleToken, Bool.and_eq_true, Bool.not_eq_true'] at hsingle
    intro hbreak
    have hblank := List.any_eq_false.mp hsingle.1 _ hbreak
    exact hblank isBlank_break
  have hbetween : IsLine ", " := by decide
  refine ((Tells.mapM fun p _ => tells_parameterText p).bindPure ?_).congr
    List.all_eq_true.symm
  rintro parts - hparts
  have hparameters : IsLine (", ".intercalate parts) ↔
      ∀ s ∈ c.signature.parameters.flatMap (·.bare session), IsLine s := by
    rw [isLine_intercalate hbetween, List.forall_mem_flatMap, Tells.forall_mem_iff hparts]
  unfold Command.bare
  cases c.descr with
  | none => simp +decide [isLine_append, hname, hparameters]
  | some descr => simp +decide [isLine_append, hname, hparameters, or_imp, forall_and]

theorem tells_full (session : String) (c : Command) :
    Tells (c.isTold = true)
      (fun text => ∃ line, brief session c = .ok line ∧
        text = "\n".intercalate (line :: c.signature.parameters.flatMap detailLines))
      (full session c) :=
  (tells_brief session c).bindPure fun line hline _ => ⟨line, hline, rfl⟩

theorem tells_listing (session : String) (commands : List Command) :
    Tells (∀ c ∈ commands, c.isTold = true)
      (fun text => ∃ briefs, commands.mapM (brief session) = .ok briefs ∧
        text = "\n".intercalate briefs ∧
        List.Forall₂ (fun c line => IsLine line ↔ ∀ s ∈ c.bare session, IsLine s) commands briefs)
      (listing session commands) :=
  (Tells.mapM fun c _ => tells_brief session c).bindPure fun briefs hbriefs hlines =>
    ⟨briefs, hbriefs, rfl, hlines⟩

/-! ### Indented lines -/

theorem isLine_indent : IsLine indent := by decide

theorem indented_iff (s : String) :
    (∀ l ∈ lines (indent ++ s), indent.toList <+: l.toList) ↔ Hangs indent s := by
  rw [forall_mem_lines_iff isLine_indent, hangs_append_of_isLine isLine_indent]
  simp

theorem indented_memberLine_iff (entry : Enumeration.Entry) :
    (∀ l ∈ lines (memberLine entry), indent.toList <+: l.toList) ↔
      ∀ s ∈ memberTexts entry, Hangs indent s := by
  unfold memberLine memberTexts
  rw [String.append_assoc, String.append_assoc, indented_iff,
    hangs_append_of_isLine isLine_indent]
  cases nonEmpty? entry.descr with
  | none => simp
  | some descr =>
    have hmark : IsLine ": " := by decide
    rw [hangs_append isLine_indent (by simp +decide), hangs_append_of_isLine hmark]
    simp

def heading (p : Parameter) : String :=
  indent ++ p.name ++ ":" ++ match p.descr with
    | some descr => " " ++ descr
    | none => ""

theorem detailLines_eq (p : Parameter) :
    detailLines p = if p.descr.isNone && p.members?.isNone then []
      else heading p :: (p.members?.getD []).map memberLine := rfl

theorem indented_heading_iff (p : Parameter) :
    (∀ l ∈ lines (heading p), indent.toList <+: l.toList) ↔
      ∀ s ∈ p.descr.toList, Hangs indent s := by
  have hname : IsLine p.name := isLine_of_isIdentifier p.name_identifier
  have hcolon : IsLine ":" := by decide
  have hspace : IsLine " " := by decide
  rw [heading, String.append_assoc, String.append_assoc, indented_iff,
    hangs_append_of_isLine hname, hangs_append_of_isLine hcolon]
  cases p.descr with
  | none => simpa using hangs_of_isLine (by decide)
  | some descr => simp [hangs_append_of_isLine hspace]

theorem indented_detailLines_iff (p : Parameter) :
    (∀ d ∈ detailLines p, ∀ l ∈ lines d, indent.toList <+: l.toList) ↔
      ∀ s ∈ p.details, Hangs indent s := by
  have hheading := indented_heading_iff p
  rw [detailLines_eq, Parameter.details, List.forall_mem_append, List.forall_mem_flatMap]
  by_cases hsilent : (p.descr.isNone && p.members?.isNone) = true
  · have hnone := hsilent
    simp only [Bool.and_eq_true, Option.isNone_iff_eq_none] at hnone
    rw [if_pos hsilent, hnone.1, hnone.2]
    simp
  · rw [if_neg hsilent, List.forall_mem_cons, hheading, List.forall_mem_map]
    simp only [indented_memberLine_iff]

/-- The lines behind the first one of the longer description are indented if all texts hang. -/
theorem lines_full_iff {line : String} (hbrief : brief session c = .ok line) :
    (∃ details, lines ("\n".intercalate (line :: c.signature.parameters.flatMap detailLines)) =
        line :: details ∧ ∀ l ∈ details, indent.toList <+: l.toList) ↔
      (∀ s ∈ c.bare session, IsLine s) ∧ ∀ s ∈ c.details, Hangs indent s := by
  have hlines : lines ("\n".intercalate (line :: c.signature.parameters.flatMap detailLines)) =
      lines line ++ (c.signature.parameters.flatMap detailLines).flatMap lines := by
    rw [lines_intercalate (by simp), List.flatMap_cons]
  have hdetails : (∀ l ∈ (c.signature.parameters.flatMap detailLines).flatMap lines,
      indent.toList <+: l.toList) ↔ ∀ s ∈ c.details, Hangs indent s := by
    rw [List.forall_mem_flatMap, List.forall_mem_flatMap, Command.details, List.forall_mem_flatMap]
    simp [indented_detailLines_iff]
  have hbare : IsLine line ↔ ∀ s ∈ c.bare session, IsLine s := by
    have htells := tells_brief session c
    rw [hbrief] at htells
    exact htells.2
  rw [← hbare, ← hdetails]
  constructor
  · rintro ⟨details, hfull, hindented⟩
    have hline : IsLine line := by
      apply isLine_of_mem_lines
      rw [hfull]
      exact List.mem_cons_self
    rw [hlines, lines_of_isLine hline, List.singleton_append] at hfull
    obtain rfl := (List.cons.inj hfull).2
    exact ⟨hline, hindented⟩
  · rintro ⟨hline, hindented⟩
    exact ⟨_, by rw [hlines, lines_of_isLine hline, List.singleton_append], hindented⟩

/-- The lines of a listing are the descriptions of the commands, each on one line and in their
order, if and only if all defaults in them can be told and each text that stands bare in one of them
is a line itself. The longer description of a command begins with the same line, and indented lines
follow, if and only if moreover the texts that it adds hang from the indent. A default that cannot
be told leaves no listing and no description. -/
theorem listing_reads_back (session : String) {commands : List Command}
    (nonempty : commands ≠ []) :
    ((∃ text, listing session commands = .ok text ∧
        commands.mapM (brief session) = .ok (lines text)) ↔
      ∀ c ∈ commands, c.isTold = true ∧ ∀ s ∈ c.bare session, IsLine s) ∧
    ((∃ c ∈ commands, c.isTold = false) → listing session commands = .error .tooManyDigits) ∧
    ∀ c ∈ commands,
      ((∃ text line details, full session c = .ok text ∧ brief session c = .ok line ∧
          lines text = line :: details ∧ ∀ l ∈ details, indent.toList <+: l.toList) ↔
        c.isTold = true ∧ (∀ s ∈ c.bare session, IsLine s) ∧ ∀ s ∈ c.details, Hangs indent s) ∧
      (c.isTold = false →
        brief session c = .error .tooManyDigits ∧ full session c = .error .tooManyDigits) := by
  have hlisting := tells_listing session commands
  refine ⟨?_, ?_, fun c _ => ⟨?_, ?_⟩⟩
  · rw [forall₂_and]
    rcases hlisting.cases with ⟨told, text, hlines, briefs, hbriefs, rfl, hshows⟩ | ⟨untold, hnone⟩
    · have hsome : briefs ≠ [] := by
        rintro rfl
        exact nonempty (List.forall₂_nil_right_iff.mp hshows)
      rw [hlines, hbriefs, ← Tells.forall_mem_iff hshows, ← lines_intercalate_eq_iff hsome]
      simpa using ⟨fun h => ⟨told, h.symm⟩, fun h => h.2.symm⟩
    · rw [hnone]
      simp [untold]
  · rintro ⟨c, hc, huntold⟩
    refine hlisting.eq_error fun told => ?_
    rw [told c hc] at huntold
    cases huntold
  · rcases (tells_full session c).cases with
      ⟨told, text, hfull, line, hbrief, rfl⟩ | ⟨untold, hnone⟩
    · rw [← lines_full_iff hbrief, hfull, hbrief]
      simp [told]
    · rw [hnone]
      simp [untold]
  · intro huntold
    have huntold : ¬ c.isTold = true := by simp [huntold]
    exact ⟨(tells_brief session c).eq_error huntold, (tells_full session c).eq_error huntold⟩

def idle : Handler where
  label := none
  name := .unset
  qualifiedName := none
  shows := "idle"
  arity := .any
  behaviour := fun _ => .finish .none

def colors : Enumeration where
  name := "Color"
  home := "host"
  entries := [{ name := "Red", canonical := "Red", datum := "1", descr := "warm" },
    { name := "Blue", canonical := "Blue", datum := "2" }]

def color : Parameter where
  name := "color"
  role := .named
  type := some (.enumeration colors)
  nullable := false
  default := some (.member ⟨colors, { name := "Blue", canonical := "Blue", datum := "2" }⟩)
  descr := some "base coat,\n    then another"
  name_identifier := by decide
  type_isSome := by decide
  default_of_positional := fun h => nomatch h
  default_of_named := fun _ => rfl

def note : Parameter where
  name := "note"
  role := .named
  type := some .text
  nullable := true
  default := some (.text "one\ntwo")
  descr := none
  name_identifier := by decide
  type_isSome := by decide
  default_of_positional := fun h => nomatch h
  default_of_named := fun _ => rfl

def paint : Command where
  name := "paint"
  handler := idle
  signature := ⟨[color, note], rfl⟩
  descr := some "paints the wall"
  name_ne := by decide
  name_single := by decide
  accepts_values := rfl

def rest : Command where
  name := "rest"
  handler := idle
  signature := .empty
  descr := none
  name_ne := by decide
  name_single := by decide
  accepts_values := rfl

/-- A break in a default is escaped and makes no line. One in the description of a parameter makes a
line of the longer description, which is indented here. -/
theorem listing_reads_back_paint :
    [paint, rest] ≠ [] ∧
    (∃ text, listing "" [paint, rest] = .ok text ∧ lines text =
      ["paint(Color color=Blue, str? note='one\\ntwo'):paints the wall", "rest()"]) ∧
    ∃ text details, full "" paint = .ok text ∧ lines text =
        "paint(Color color=Blue, str? note='one\\ntwo'):paints the wall" :: details ∧
      ∀ l ∈ details, indent.toList <+: l.toList := by
  have nonempty : [paint, rest] ≠ [] := by simp
  obtain ⟨hlisting, -, hfull⟩ := listing_reads_back "" nonempty
  have hbriefs : [paint, rest].mapM (brief "") =
      .ok ["paint(Color color=Blue, str? note='one\\ntwo'):paints the wall", "rest()"] := rfl
  refine ⟨nonempty, ?_, ?_⟩
  · obtain ⟨text, htext, hlines⟩ := hlisting.mpr (by decide)
    rw [hbriefs] at hlines
    exact ⟨text, htext, (Except.ok.inj hlines).symm⟩
  · obtain ⟨text, line, details, htext, hline, hlines, hindented⟩ :=
      (hfull paint (by simp)).1.mpr ⟨by decide, by decide, by decide⟩
    have hpaint : brief "" paint =
        .ok "paint(Color color=Blue, str? note='one\\ntwo'):paints the wall" := rfl
    rw [hpaint] at hline
    obtain rfl := Except.ok.inj hline
    exact ⟨text, details, htext, hlines, hindented⟩

/-- A break in the description of a command makes a line that belongs to no command. -/
theorem exists_listing_misread : ∃ c text briefs,
    Command.declare idle .empty (.text "wait") (.text "one\ntwo") = .ok c ∧
    listing "" [c, rest] = .ok text ∧ [c, rest].mapM (brief "") = .ok briefs ∧
    lines text ≠ briefs := by
  have hdeclare : Command.declare idle .empty (.text "wait") (.text "one\ntwo") =
      .ok ⟨"wait", idle, .empty, some "one\ntwo", by decide, by decide, rfl⟩ :=
    Command.declare_of_mayAccept (n := ⟨"wait", by decide, by decide⟩) rfl rfl rfl
  exact ⟨_, _, _, hdeclare, rfl, rfl, by decide⟩

end Help
end LineShell
