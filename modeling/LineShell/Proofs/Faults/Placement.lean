import LineShell.Proofs.Values.Telling

/-! # Where the pieces of a fault stand

Pieces that are put side by side keep their order: each starts where those before it end, and one
that is not empty and has a style leaves a span over just its own text. So the header of a fault
shows the label of the program, the label of the code and the title between fixed marks, and cutting
it at its spans gives back those of the three that are not empty and have a style. Which label and
which style a piece gets goes by a chain of overrides, and styles never change a text. A fault is
shown unless a number that has too many digits stands in a label or in the hint.
-/
namespace LineShell

structure Fragment where
  text : String
  style : String
deriving DecidableEq

namespace Fragment

def isMarked (p : Fragment) : Bool := p.text != "" && p.style != ""

/-- The span of a fragment that starts at a place, if it leaves one. -/
def spanAt (start : Nat) (p : Fragment) : List Styled.Span :=
  if p.isMarked then [⟨start, start + p.text.length, p.style⟩] else []

def spansFrom (start : Nat) : List Fragment → List Styled.Span
  | [] => []
  | p :: rest => p.spanAt start ++ spansFrom (start + p.text.length) rest

def textOf (ps : List Fragment) : String := String.join (ps.map (·.text))

end Fragment

namespace Styled
open Fragment

def fragment (t : Styled) : Fragment := ⟨t.plain, t.style⟩

def cut (plain : String) (s : Span) : String :=
  String.ofList ((plain.toList.drop s.start).take (s.stop - s.start))

variable {t piece : Styled} {pieces : List Styled} {p : Fragment} {ps : List Fragment}
  {start : Nat} {s : Span}

theorem plain_append : (t.append piece).plain = t.plain ++ piece.plain := by
  unfold append
  split
  · rename_i h
    simp [h]
  · split <;> rfl

theorem spans_append :
    (t.append piece).spans = t.spans ++ piece.fragment.spanAt t.plain.length := by
  unfold append
  split
  · rename_i h
    simp [spanAt, isMarked, fragment, h]
  · rename_i hplain
    split
    · rename_i hstyle
      simp [spanAt, isMarked, fragment, hstyle]
    · rename_i hstyle
      simp [spanAt, isMarked, fragment, hplain, hstyle]

theorem foldl_append (pieces : List Styled) (t : Styled) :
    (pieces.foldl append t).plain = t.plain ++ textOf (pieces.map fragment) ∧
    (pieces.foldl append t).spans =
      t.spans ++ spansFrom t.plain.length (pieces.map fragment) := by
  induction pieces generalizing t with
  | nil => simp [textOf, spansFrom]
  | cons piece rest ih =>
    obtain ⟨hplain, hspans⟩ := ih (t.append piece)
    rw [List.foldl_cons, hplain, hspans, plain_append, spans_append]
    simp [textOf, spansFrom, fragment, String.append_assoc]

theorem plain_assemble (pieces : List Styled) :
    (assemble pieces).plain = textOf (pieces.map fragment) := by
  simp [assemble, foldl_append, empty]

theorem spans_assemble (pieces : List Styled) :
    (assemble pieces).spans = spansFrom 0 (pieces.map fragment) := by
  simp [assemble, foldl_append, empty]

end Styled

namespace Fragment
open Styled

variable {p : Fragment} {ps : List Fragment} {start : Nat} {s : Span}

theorem mem_spanAt :
    s ∈ p.spanAt start ↔ p.isMarked = true ∧ s = ⟨start, start + p.text.length, p.style⟩ := by
  unfold spanAt
  split <;> simp [*]

theorem textOf_cons (p : Fragment) (ps : List Fragment) :
    textOf (p :: ps) = p.text ++ textOf ps := by
  simp [textOf]

theorem length_pos_of_isMarked (h : p.isMarked = true) : 0 < p.text.length := by
  have htext : p.text ≠ "" := by
    intro hempty
    simp [isMarked, hempty] at h
  rw [← String.length_toList]
  exact List.length_pos_iff.mpr (by simpa using htext)

theorem bounds_of_mem (h : s ∈ spansFrom start ps) :
    start ≤ s.start ∧ s.start < s.stop ∧ s.stop ≤ start + (textOf ps).length := by
  induction ps generalizing start with
  | nil => simp [spansFrom] at h
  | cons p rest ih =>
    rw [textOf_cons, String.length_append]
    rw [spansFrom, List.mem_append] at h
    rcases h with h | h
    · obtain ⟨hmarked, rfl⟩ := mem_spanAt.mp h
      have hpos := length_pos_of_isMarked hmarked
      simp only
      omega
    · have hrest := ih h
      omega

theorem pairwise_spansFrom (start : Nat) (ps : List Fragment) :
    (spansFrom start ps).Pairwise fun s u => s.stop ≤ u.start := by
  induction ps generalizing start with
  | nil => simp [spansFrom]
  | cons p rest ih =>
    rw [spansFrom, List.pairwise_append]
    refine ⟨?_, ih _, ?_⟩
    · unfold spanAt
      split <;> simp
    · intro s hs u hu
      obtain ⟨-, rfl⟩ := mem_spanAt.mp hs
      exact (bounds_of_mem hu).1

theorem cut_append (before text after style : String) :
    cut (before ++ (text ++ after)) ⟨before.length, before.length + text.length, style⟩ = text := by
  simp [cut, ← String.length_toList]

/-- Cutting a text at the spans of its fragments gives back those that leave a span. -/
theorem map_cut_spansFrom (before : String) (ps : List Fragment) :
    (spansFrom before.length ps).map
        (fun s => (⟨cut (before ++ textOf ps) s, s.style⟩ : Fragment)) =
      ps.filter isMarked := by
  induction ps generalizing before with
  | nil => rfl
  | cons p rest ih =>
    have hrest := ih (before ++ p.text)
    rw [String.length_append, String.append_assoc] at hrest
    rw [spansFrom, List.map_append, textOf_cons, hrest]
    unfold spanAt
    split
    · rename_i h
      rw [List.filter_cons_of_pos h]
      simp [cut_append]
    · rename_i h
      rw [List.filter_cons_of_neg h]
      rfl

end Fragment

/-! ### Pieces -/

namespace Text

def IsClean (s : String) : Prop := ∀ c ∈ s.toList, isDropped c = false

-- decided along the text, not over all characters
instance (s : String) : Decidable (IsClean s) := List.decidableBAll _ _

theorem withoutControls_of_isClean {s : String} (h : IsClean s) : withoutControls s = s := by
  have hkept : s.toList.filter (fun c => !isDropped c) = s.toList := by
    rw [List.filter_eq_self]
    intro c hc
    simp [h c hc]
  rw [withoutControls, hkept, String.ofList_toList]

end Text

/-- A value as a fragment. A text that is styled already keeps its style, and what does not count as
true has no text. -/
def Fragment.ofValue (v : Value) (style : String) : Fragment :=
  match v with
  | .styled plain own => ⟨plain, own⟩
  | v => ⟨if v.isTrue then v.plain "" else "", style⟩

theorem Fragment.ofValue_text (s style : String) : ofValue (.text s) style = ⟨s, style⟩ := by
  by_cases h : s = "" <;> simp [ofValue, Value.isTrue, Value.plain, h]

namespace Fault
open Styled Text

variable {host : Host} {f : Fault} {prog v : Value} {s style : String}

def pieceText : Value → String
  | .styled plain _ => plain
  | v => if v.isTrue then withoutControls (v.plain "") else ""

/-- The piece has the text of the fragment and leaves the same span. -/
def ShowsFragment (t : Styled) (p : Fragment) : Prop :=
  t.plain = p.text ∧ ∀ start, t.fragment.spanAt start = p.spanAt start

theorem tells_piece (v : Value) (style : String) :
    Tells (v.hasPlain = true)
      (fun t => t.plain = pieceText v ∧
        (IsClean (Fragment.ofValue v style).text → ShowsFragment t (Fragment.ofValue v style)))
      (piece v style) := by
  unfold piece
  split
  · rename_i plain own
    refine ⟨rfl, ?_, fun _ => ?_⟩
    · by_cases h : plain = "" <;> simp [pieceText, h, Styled.empty]
    · by_cases h : plain = "" <;>
        simp [ShowsFragment, Fragment.ofValue, h, Styled.empty, fragment, Fragment.spanAt,
          Fragment.isMarked]
  · rename_i hstyled
    have hvalue : Fragment.ofValue v style = ⟨if v.isTrue then v.plain "" else "", style⟩ ∧
        pieceText v = if v.isTrue then withoutControls (v.plain "") else "" := by
      cases v with
      | styled plain own => exact absurd rfl (hstyled plain own)
      | _ => exact ⟨rfl, rfl⟩
    rw [hvalue.1, hvalue.2]
    cases htrue : v.isTrue with
    | true =>
      refine Tells.map ((v.tells_shown "").mono ?_)
      rintro _ rfl
      refine ⟨rfl, fun clean => ?_⟩
      have htext : withoutControls (v.plain "") = v.plain "" := withoutControls_of_isClean clean
      simp [ShowsFragment, Styled.ofText, htext, fragment]
    | false =>
      refine ⟨Value.hasPlain_of_isTrue_eq_false htrue, rfl, fun _ => ?_⟩
      simp [ShowsFragment, Styled.empty, fragment, Fragment.spanAt, Fragment.isMarked]

theorem plain_textPiece (s style : String) : (textPiece s style).plain = withoutControls s := by
  unfold textPiece
  split
  · rename_i h
    rw [h]
    rfl
  · rfl

theorem showsFragment_textPiece (clean : IsClean s) :
    ShowsFragment (textPiece s style) ⟨s, style⟩ := by
  refine ⟨(plain_textPiece s style).trans (withoutControls_of_isClean clean), fun start => ?_⟩
  unfold textPiece
  split
  · rename_i h
    simp [h, Styled.empty, fragment, Fragment.spanAt, Fragment.isMarked]
  · simp [Styled.ofText, fragment, withoutControls_of_isClean clean]

/-! ### Overrides -/

/-- The label of the program that is shown: the given one, else that of the host, else that of the
fault, else the shell's own name. -/
inductive Labels (host : Host) (f : Fault) (prog : Value) : Value → Prop
  | given (given : prog.isUnset = false) : Labels host f prog prog
  | ofHost {v : Value} (unset : prog.isUnset = true) (named : host.prog = some v) :
    Labels host f prog v
  | ofFault {v : Value} (unset : prog.isUnset = true) (unnamed : host.prog = none)
    (option : f.option? "prog" = some v) : Labels host f prog v
  | own (unset : prog.isUnset = true) (unnamed : host.prog = none)
    (unoptioned : f.option? "prog" = none) : Labels host f prog (.text "helmsman")

theorem labels_progLabel (host : Host) (f : Fault) (prog : Value) :
    Labels host f prog (f.progLabel host prog) := by
  unfold progLabel Value.orElse
  cases hprog : prog.isUnset with
  | false => exact .given hprog
  | true => cases hhost : host.prog with
    | some v => exact .ofHost hprog hhost
    | none => cases hoption : f.option? "prog" with
      | some v => exact .ofFault hprog hhost hoption
      | none => exact .own hprog hhost hoption

inductive Relabels (host : Host) (c : Code) : Value → Prop
  | ofHost {n : Int} {v : Value}
    (relabelled : host.codes.find? (·.1 = (c.number : Int)) = some (n, v)) : Relabels host c v
  | own (unlabelled : host.codes.find? (·.1 = (c.number : Int)) = none) :
    Relabels host c (.int c.number)

theorem relabels_labelValue (host : Host) (c : Code) : Relabels host c (c.labelValue host) := by
  unfold Code.labelValue
  split
  · exact .ofHost (by assumption)
  · exact .own (by assumption)

def ownStyles (f : Fault) : List (String × String) :=
  if f.kind.isWarning then warningStyles else errorStyles

inductive Restyles (host : Host) (f : Fault) (name : String) : String → Prop
  | ofHost {key style : String} (restyled : host.styles.find? (·.1 = name) = some (key, style)) :
    Restyles host f name style
  | ofFamily {key style : String} (unstyled : host.styles.find? (·.1 = name) = none)
    (styled : f.ownStyles.find? (·.1 = name) = some (key, style)) : Restyles host f name style
  | plain (unstyled : host.styles.find? (·.1 = name) = none)
    (plain : f.ownStyles.find? (·.1 = name) = none) : Restyles host f name ""

theorem restyles_styleOf (host : Host) (f : Fault) (name : String) :
    Restyles host f name (f.styleOf host name) := by
  unfold styleOf
  simp only
  split
  · rename_i h
    rw [List.find?_append, Option.or_eq_some_iff] at h
    rcases h with hhost | ⟨hhost, hfamily⟩
    · exact .ofHost hhost
    · exact .ofFamily hhost hfamily
  · rename_i h
    rw [List.find?_append, Option.or_eq_none_iff] at h
    exact .plain h.1 h.2

/-! ### The lines of a fault -/

def progFragment (host : Host) (f : Fault) (prog : Value) : Fragment :=
  .ofValue (f.progLabel host prog) (f.styleOf host "prog-name")

def codeFragment (host : Host) (f : Fault) : Fragment :=
  ⟨(f.code.labelValue host).plain "", f.styleOf host "code"⟩

def titleFragment (host : Host) (f : Fault) : Fragment :=
  ⟨headline f.title, f.styleOf host (f.family ++ "-title")⟩

/-- A text shows three fragments between fixed marks: each has its place, the spans are in order and
apart and lie within the text, and cut out just the fragments that are not empty and have a
style. -/
structure ShowsBetweenMarks (t : Styled) (p c h : Fragment) : Prop where
  plain : t.plain = "[ " ++ p.text ++ " — " ++ c.text ++ " | " ++ h.text ++ " ]"
  spans : t.spans = p.spanAt 2 ++ c.spanAt (p.text.length + 5) ++
    h.spanAt (p.text.length + c.text.length + 8)
  apart : t.spans.Pairwise fun s u => s.stop ≤ u.start
  within : ∀ s ∈ t.spans, s.start < s.stop ∧ s.stop ≤ t.plain.length
  cuts : t.spans.map (fun s => (⟨cut t.plain s, s.style⟩ : Fragment)) =
    [p, c, h].filter Fragment.isMarked

def betweenMarks (p c h : Fragment) : List Fragment :=
  [⟨"[ ", ""⟩, p, ⟨" — ", ""⟩, c, ⟨" | ", ""⟩, h, ⟨" ]", ""⟩]

theorem showsBetweenMarks {t : Styled} {p c h : Fragment}
    (plain : t.plain = Fragment.textOf (betweenMarks p c h))
    (spans : t.spans = Fragment.spansFrom 0 (betweenMarks p c h)) :
    ShowsBetweenMarks t p c h where
  plain := by
    rw [plain]
    simp [betweenMarks, Fragment.textOf, String.append_assoc]
  spans := by
    have hmark : ∀ mark start, (⟨mark, ""⟩ : Fragment).spanAt start = [] := by
      simp [Fragment.spanAt, Fragment.isMarked]
    have hopening : "[ ".length = 2 := rfl
    have hdash : " — ".length = 3 := rfl
    have hbar : " | ".length = 3 := rfl
    have hcode : 2 + p.text.length + 3 = p.text.length + 5 := by omega
    have htitle : p.text.length + 5 + c.text.length + 3 = p.text.length + c.text.length + 8 := by
      omega
    rw [spans]
    simp [betweenMarks, Fragment.spansFrom, hmark, hopening, hdash, hbar, hcode, htitle]
  apart := by
    rw [spans]
    exact Fragment.pairwise_spansFrom 0 _
  within := by
    intro s hs
    rw [spans] at hs
    have hbounds := Fragment.bounds_of_mem hs
    rw [plain]
    omega
  cuts := by
    have hcuts := Fragment.map_cut_spansFrom "" (betweenMarks p c h)
    have hmark : ∀ mark, ¬ (⟨mark, ""⟩ : Fragment).isMarked = true := by
      simp [Fragment.isMarked]
    rw [String.empty_append] at hcuts
    rw [spans, plain]
    refine hcuts.trans ?_
    simp [betweenMarks, List.filter_cons, hmark]

def assembled (p c h : Styled) : Styled :=
  .assemble [.ofText "[ " "", p, .ofText " — " "", c, .ofText " | " "", h, .ofText " ]" ""]

theorem plain_assembled (p c h : Styled) :
    (assembled p c h).plain = "[ " ++ p.plain ++ " — " ++ c.plain ++ " | " ++ h.plain ++ " ]" := by
  have hmark : ∀ s ∈ ["[ ", " — ", " | ", " ]"], withoutControls s = s := by decide
  simp only [List.forall_mem_cons] at hmark
  simp [assembled, plain_assemble, Fragment.textOf, Styled.ofText, fragment, hmark,
    String.append_assoc]

/-- Pieces are assembled as if they were their fragments. -/
theorem showsBetweenMarks_assembled {t u w : Styled} {p c h : Fragment} (ht : ShowsFragment t p)
    (hu : ShowsFragment u c) (hw : ShowsFragment w h) :
    ShowsBetweenMarks (assembled t u w) p c h := by
  have hmark : ∀ s ∈ ["[ ", " — ", " | ", " ]"], (Styled.ofText s "").fragment = ⟨s, ""⟩ := by
    decide
  simp only [List.forall_mem_cons] at hmark
  have htext : t.fragment.text = p.text ∧ u.fragment.text = c.text ∧ w.fragment.text = h.text :=
    ⟨ht.1, hu.1, hw.1⟩
  apply showsBetweenMarks
  · simp only [assembled, plain_assemble, betweenMarks, List.map_cons, List.map_nil, hmark,
      Fragment.textOf_cons, htext]
  · simp only [assembled, spans_assemble, betweenMarks, List.map_cons, List.map_nil, hmark,
      Fragment.spansFrom, htext, ht.2, hu.2, hw.2]

def headerText (host : Host) (f : Fault) (prog : Value) : String :=
  "[ " ++ pieceText (f.progLabel host prog) ++ " — "
    ++ withoutControls ((f.code.labelValue host).plain "") ++ " | "
    ++ withoutControls (headline f.title) ++ " ]"

theorem tells_header (host : Host) (f : Fault) (prog : Value) :
    Tells ((f.progLabel host prog).hasPlain = true ∧ (f.code.labelValue host).hasPlain = true)
      (fun t => t.plain = f.headerText host prog ∧
        ((∀ p ∈ [f.progFragment host prog, f.codeFragment host, f.titleFragment host],
            IsClean p.text) →
          ShowsBetweenMarks t (f.progFragment host prog) (f.codeFragment host)
            (f.titleFragment host)))
      (f.header host prog) := by
  have hcode := (f.code.labelValue host).tells_shown ""
  refine (tells_piece (f.progLabel host prog) (f.styleOf host "prog-name")).bind ?_
  rintro label - ⟨hplain, hlabel⟩
  refine hcode.bindPure ?_
  rintro code - rfl
  refine ⟨?_, ?_⟩
  · refine (plain_assembled label (textPiece _ _) (textPiece _ _)).trans ?_
    rw [hplain, plain_textPiece, plain_textPiece, headerText]
  · intro clean
    simp only [List.forall_mem_cons] at clean
    exact showsBetweenMarks_assembled (hlabel clean.1) (showsFragment_textPiece clean.2.1)
      (showsFragment_textPiece clean.2.2.1)

theorem tells_hintLine (host : Host) (f : Fault) :
    Tells (f.hint.hasPlain = true) (fun t => t.plain = " → " ++ pieceText f.hint)
      (f.hintLine host) := by
  have harrow : withoutControls " → " = " → " := by decide
  refine (tells_piece f.hint (f.styleOf host "hint")).bindPure ?_
  rintro hint - ⟨hplain, -⟩
  simp [plain_assemble, Fragment.textOf, fragment, plain_textPiece, harrow, hplain]

def texts (host : Host) (f : Fault) (prog : Value) : List String :=
  f.headerText host prog :: withoutControls f.message
    :: (if f.hint.isTrue then [" → " ++ pieceText f.hint] else [])

theorem tells_hintLines (host : Host) (f : Fault) :
    Tells (f.hint.hasPlain = true)
      (fun hints => hints.map (·.plain) =
          (if f.hint.isTrue then [" → " ++ pieceText f.hint] else []) ∧
        (hints = [] ∨ ∃ line, f.hintLine host = .ok line ∧ hints = [line]))
      (f.hintLines host) := by
  unfold hintLines
  cases htrue : f.hint.isTrue with
  | true =>
    rcases (tells_hintLine host f).cases with ⟨ht, line, hline, hplain⟩ | ⟨ht, hline⟩
    · rw [hline]
      exact ⟨ht, by simp [hplain], Or.inr ⟨line, rfl, rfl⟩⟩
    · rw [hline]
      exact ⟨ht, rfl⟩
  | false => exact ⟨Value.hasPlain_of_isTrue_eq_false htrue, rfl, Or.inl rfl⟩

theorem tells_render (host : Host) (f : Fault) (prog : Value) :
    Tells (f.isTold host prog = true)
      (fun lines => lines.map (·.plain) = f.texts host prog ∧
        ∃ header hints, f.header host prog = .ok header ∧
          lines = header :: f.messageLine host :: hints ∧
          (hints = [] ∨ ∃ line, f.hintLine host = .ok line ∧ hints = [line]))
      (f.render host prog) := by
  refine ((tells_header host f prog).bind fun header hheader hshown =>
    (tells_hintLines host f).bindPure fun hints _ hhinted => ?_).congr (by simp [isTold])
  obtain ⟨hplain, -⟩ := hshown
  obtain ⟨htexts, hhints⟩ := hhinted
  refine ⟨?_, header, hints, hheader, rfl, hhints⟩
  simp [texts, hplain, messageLine, plain_textPiece, htexts]

theorem tells_printed (host : Host) (f : Fault) (prog : Value) :
    Tells (f.isTold host prog = true) (fun _ => True) (f.printed host prog) :=
  (tells_render host f prog).bindPure fun _ _ _ => trivial

/-- The lines of a fault are its header, its message and, exactly if it has a hint that counts as
true, its hint. The header shows the label of the program, the label of the code and the title, each
in its place and its style. No choice of styles changes the text of a line. All this holds if the
two labels and the hint can be told; if one of them cannot, the fault is not shown at all. -/
theorem render_places (host : Host) (f : Fault) (prog : Value)
    (clean : ∀ p ∈ [f.progFragment host prog, f.codeFragment host, f.titleFragment host],
      IsClean p.text) :
    (Labels host f prog (f.progLabel host prog) ∧
      (∀ s, f.progLabel host prog = .text s →
        f.progFragment host prog = ⟨s, f.styleOf host "prog-name"⟩) ∧
      Relabels host f.code (f.code.labelValue host) ∧
      ∀ name, Restyles host f name (f.styleOf host name)) ∧
    (f.isTold host prog = true → ∃ header hints,
      f.render host prog = .ok (header :: f.messageLine host :: hints) ∧
      ShowsBetweenMarks header (f.progFragment host prog) (f.codeFragment host)
        (f.titleFragment host) ∧
      (hints = [] ∨ ∃ line, f.hintLine host = .ok line ∧ hints = [line]) ∧
      (hints ≠ [] ↔ ∃ v, f.option? "hint" = some v ∧ v.isTrue = true)) ∧
    (f.isTold host prog = false → f.render host prog = .error .tooManyDigits) ∧
    ∀ styles other : List (String × String),
      (f.render { host with styles } prog).map (·.map (·.plain)) =
        (f.render { host with styles := other } prog).map (·.map (·.plain)) := by
  have htext : ∀ s, f.progLabel host prog = .text s →
      f.progFragment host prog = ⟨s, f.styleOf host "prog-name"⟩ := by
    intro s hs
    rw [progFragment, hs, Fragment.ofValue_text]
  refine ⟨⟨labels_progLabel host f prog, htext, relabels_labelValue host f.code,
    restyles_styleOf host f⟩, ?_, ?_, ?_⟩
  · intro told
    obtain ⟨_, hrender, htexts, header, hints, hheader, rfl, hhints⟩ :=
      (tells_render host f prog).exists_ok told
    have hshows := tells_header host f prog
    rw [hheader] at hshows
    refine ⟨header, hints, hrender, hshows.2.2 clean, hhints, ?_⟩
    have hlength : hints.length = if f.hint.isTrue then 1 else 0 := by
      have hlengths := congrArg List.length htexts
      cases htrue : f.hint.isTrue <;> simpa [texts, htrue] using hlengths
    have htrue : f.hint.isTrue = true ↔ ∃ v, f.option? "hint" = some v ∧ v.isTrue = true := by
      unfold hint
      cases f.option? "hint" with
      | none => simp [Value.isTrue]
      | some v => simp
    rw [← List.length_pos_iff, hlength, ← htrue]
    split <;> simp [*]
  · intro untold
    exact (tells_render host f prog).eq_error (by simp [untold])
  · intro styles other
    have htells := fun styles => (tells_render { host with styles } f prog).mono fun _ h => h.1
    exact (htells styles).map_eq_map (htells other)

def busy : Fault :=
  ⟨.operation, "try again", [("prog", .text "demo"), ("hint", .text "wait")], .delegatedOperation,
    "it's busy"⟩

def plainCodes : Host := { styles := [("code", "")] }

/-- The given label goes before that of the error, and a code without a style leaves no span. -/
theorem render_places_busy :
    (∀ p ∈ [busy.progFragment plainCodes (.text "app"), busy.codeFragment plainCodes,
      busy.titleFragment plainCodes], IsClean p.text) ∧
    ∃ header hints, busy.render plainCodes (.text "app") =
        .ok (header :: busy.messageLine plainCodes :: hints) ∧
      header.plain = "[ app — 11301 | It'S Busy ]" ∧
      header.spans = [⟨2, 5, "bold #E6E6F0"⟩, ⟨16, 25, "bold #FF4DA6"⟩] ∧ hints ≠ [] := by
  have clean : ∀ p ∈ [busy.progFragment plainCodes (.text "app"), busy.codeFragment plainCodes,
      busy.titleFragment plainCodes], IsClean p.text := by decide
  have told : busy.isTold plainCodes (.text "app") = true := by
    rw [isTold, Code.hasPlain_labelValue rfl]
    rfl
  obtain ⟨-, hrender, -, -⟩ := render_places plainCodes busy (.text "app") clean
  obtain ⟨header, hints, hlines, hheader, -, hhint⟩ := hrender told
  refine ⟨clean, header, hints, hlines, ?_, ?_, ?_⟩
  · rw [hheader.plain]
    decide
  · rw [hheader.spans]
    decide
  · exact hhint.mpr ⟨.text "wait", rfl, rfl⟩

/-- A hint that counts as true and has a digit too many keeps its fault from being shown. -/
theorem exists_render_untold : ∃ f,
    make .operation (.text "x") [("hint", .int (Number.power 10 Number.maxDigits))] = .ok f ∧
    f.hint.isTrue = true ∧ f.render {} (.text "app") = .error .tooManyDigits := by
  let raised (v : Value) : Fault := .ofKind .operation "x" [("hint", v)]
  have hmake : ∀ v, make .operation (.text "x") [("hint", v)] = .ok (raised v) := fun _ => rfl
  have hhint : ∀ v, (raised v).hint = v := fun _ => rfl
  have hpos : 0 < Number.power 10 Number.maxDigits := Number.power_pos (by decide)
  have huntold := Number.hasText_power_maxDigits
  refine ⟨_, hmake _, ?_, (tells_render _ _ _).eq_error ?_⟩
  · rw [hhint]
    exact bne_iff_ne.mpr (by omega)
  · rw [isTold, hhint, Value.hasPlain_int, huntold, Bool.and_false]
    decide

end Fault
end LineShell
