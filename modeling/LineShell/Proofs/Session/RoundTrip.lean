import LineShell.Proofs.Arguments.Binding
import LineShell.Proofs.Arguments.Quoting
import LineShell.Proofs.Session.Invocation

/-! # From a line to the handler

A command that takes texts and flags is given them on a line, each in quotes and in any mixture that
keeps the order of the texts and that of the flags. What its handler is called with are these texts
and flags as they are.
-/
namespace LineShell.Session

/-- The third list is a mixture of the first two that keeps the order of each. -/
inductive Interleaves {α : Type} : List α → List α → List α → Prop
  | nil : Interleaves [] [] []
  | left (a : α) {as bs cs : List α} : Interleaves as bs cs → Interleaves (a :: as) bs (a :: cs)
  | right (b : α) {as bs cs : List α} : Interleaves as bs cs → Interleaves as (b :: bs) (b :: cs)

namespace Interleaves
variable {α : Type} {as bs cs : List α}

theorem symm (h : Interleaves as bs cs) : Interleaves bs as cs := by
  induction h with
  | nil => exact .nil
  | left a _ ih => exact .right a ih
  | right b _ ih => exact .left b ih

theorem perm (h : Interleaves as bs cs) : cs.Perm (as ++ bs) := by
  induction h with
  | nil => exact .nil
  | left a _ ih => exact ih.cons a
  | right b _ ih => exact (ih.cons b).trans List.perm_middle.symm

theorem filter_eq_left {p : α → Bool} (h : Interleaves as bs cs) (hp : ∀ a ∈ as, p a = true)
    (hn : ∀ b ∈ bs, p b = false) : cs.filter p = as := by
  induction h with
  | nil => rfl
  | left a _ ih =>
    have hrest := ih (fun x hx => hp x (List.mem_cons_of_mem a hx)) hn
    rw [List.filter_cons_of_pos (hp a List.mem_cons_self), hrest]
  | right b _ ih =>
    have hrest := ih hp fun y hy => hn y (List.mem_cons_of_mem b hy)
    rw [List.filter_cons_of_neg (by simp [hn b List.mem_cons_self]), hrest]

end Interleaves

theorem call_of_accepts (e : Engine) {h : Handler} {values : List Value} {s : Session}
    (accepts : h.arity.accepts values.length = true)
    (inside : values.map (·.outside s.written) = values) :
    call e h values s = perform e (h.behaviour values) (s.calledWith h values) := by
  have hcall := call_eq_perform e (s := s) (Arity.misuse?_eq_none_iff.mpr accepts)
  rwa [handed_eq_self inside] at hcall

theorem required_eq {c : Command} {parameters : List Parameter} {flagged : Parameter}
    (signature : c.signature.parameters = parameters ++ [flagged])
    (positional : ∀ p ∈ parameters, p.role = .positional ∧ p.type = some .text)
    (special : flagged.role = .flags) : c.required = parameters.length := by
  have hall : parameters.countP (·.isRequired) = parameters.length := by
    rw [List.countP_eq_length]
    intro p hp
    unfold Parameter.isRequired
    rw [(positional p hp).1]
    rfl
  have hnone : flagged.isRequired = false := by
    unfold Parameter.isRequired
    rw [special]
    rfl
  unfold Command.required Signature.required
  rw [signature, List.countP_append, hall, List.countP_singleton, hnone]
  simp

section
variable {e : Engine} {s t : Session} {c : Command} {parameters : List Parameter}
variable {flagged : Parameter} {texts flags items : List String}

/-- A line whose first token names a command and whose others are texts and flags is carried out by
one call of its handler. -/
theorem carryOut_of_texts {line : String}
    (signature : c.signature.parameters = parameters ++ [flagged])
    (positional : ∀ p ∈ parameters, p.role = .positional ∧ p.type = some .text)
    (special : flagged.role = .flags) (count : texts.length = parameters.length)
    (mixed : Interleaves texts flags items)
    (plain : ∀ text ∈ texts, isFlag s.settings.flagMarker text = false ∧
      ∀ p ∈ parameters, ¬ Binding.lead p.name <+: text.toList)
    (marked : ∀ flag ∈ flags, isFlag s.settings.flagMarker flag = true)
    (fired : fire e .invoking c.name
      (s.invokingWith c ⟨line, c.name :: items, flags, some c.name⟩) = (.ok (), t)) :
    carryOut e c line (c.name :: items) items s =
      (ensure (call e c.handler (texts.map .text ++ [.tuple (flags.map .text)]))
        (fun u => { u with executing := none, context := none }) >>= conclude e c) t := by
  have hflags : items.filter (isFlag s.settings.flagMarker ·) = flags :=
    mixed.symm.filter_eq_left marked fun text ht => (plain text ht).1
  have htexts : items.filter (!isFlag s.settings.flagMarker ·) = texts := by
    refine mixed.filter_eq_left ?_ ?_
    · intro text ht
      simp [(plain text ht).1]
    · intro flag hf
      simp [marked flag hf]
  have hbound : Binding.bind c.signature.parameters texts flags .session
      t.settings.lenientEnums = .ok (texts.map .text ++ [.tuple (flags.map .text)]) := by
    rw [signature]
    exact Binding.bind_texts positional special count fun p hp text ht => (plain text ht).2 p hp
  have hinvoke := invoke_of_bound fired hbound
  unfold carryOut
  rw [get_bind]
  simp only [htexts, hflags]
  rw [if_neg (by rw [required_eq signature positional special]; omega), bind_apply, hinvoke,
    ← bind_apply]

/-- Texts and flags arrive as they are. A line that names a command, and gives texts and flags in
quotes and in any mixture, is executed by one call of the handler of the command, with these texts
in their order and the tuple of these flags: after the callbacks before it, the execution is that
call and what concludes it. A handler that takes so many values does with them what it does. -/
theorem execute_quotedLine
    (found : s.registry.find c.name s.settings.ignoreCase = some c)
    (signature : c.signature.parameters = parameters ++ [flagged])
    (positional : ∀ p ∈ parameters, p.role = .positional ∧ p.type = some .text)
    (special : flagged.role = .flags) (count : texts.length = parameters.length)
    (mixed : Interleaves texts flags items) (unquoted : ∀ item ∈ items, '"' ∉ item.toList)
    (plain : ∀ text ∈ texts, isFlag s.settings.flagMarker text = false ∧
      ∀ p ∈ parameters, ¬ Binding.lead p.name <+: text.toList)
    (marked : ∀ flag ∈ flags, isFlag s.settings.flagMarker flag = true)
    (fired : fire e .invoking c.name (s.invokingWith c
      ⟨Token.quotedLine c.name items, c.name :: items, flags, some c.name⟩) = (.ok (), t)) :
    execute e (.text (Token.quotedLine c.name items)) s =
      ensure (ensure (call e c.handler (texts.map .text ++ [.tuple (flags.map .text)]))
          (fun u => { u with executing := none, context := none }) >>= conclude e c)
        (fun u => { u with phase := u.restingPhase }) t ∧
    (c.handler.arity.accepts (texts.length + 1) = true →
      call e c.handler (texts.map .text ++ [.tuple (flags.map .text)]) t =
        perform e (c.handler.behaviour (texts.map .text ++ [.tuple (flags.map .text)]))
          (t.calledWith c.handler (texts.map .text ++ [.tuple (flags.map .text)]))) := by
  have hsplit := Token.split_quotedLine c.name_ne c.name_single unquoted
  have hnonempty : Text.trimmed (Token.quotedLine c.name items) ≠ "" := by
    unfold Text.trimmed
    rw [Token.trim_quotedLine c.name_ne c.name_single, String.ofList_toList]
    intro hempty
    have hchars := Token.toList_quotedLine c.name items
    rw [hempty] at hchars
    have hname : c.name.toList = [] := (List.append_eq_nil_iff.mp hchars.symm).1
    exact c.name_ne (String.toList_eq_nil_iff.mp hname)
  refine ⟨?_, ?_⟩
  · let u : Session := { s with phase := .dispatching }
    have hcarry : carryOut e c (Token.quotedLine c.name items) (c.name :: items) items u = _ :=
      carryOut_of_texts signature positional special count mixed plain marked fired
    have hdispatch : dispatch e (Token.quotedLine c.name items) u =
        carryOut e c (Token.quotedLine c.name items) (c.name :: items) items u := by
      unfold dispatch
      rw [hsplit]
      simp only
      rw [get_bind]
      have hfound : u.registry.find c.name u.settings.ignoreCase = some c := found
      rw [hfound]
    unfold execute
    simp only
    rw [if_neg hnonempty, modify_bind]
    exact ensure_congr (hdispatch.trans hcarry) _
  · intro haccepts
    refine call_of_accepts e (by simpa using haccepts) ?_
    simp [Value.outside]

end

def spoken (name : String) (identifier : Text.isIdentifier name.toList = true) : Parameter where
  name := name
  role := .positional
  type := some .text
  nullable := false
  default := none
  descr := none
  name_identifier := identifier
  type_isSome := rfl
  default_of_positional := fun _ => rfl
  default_of_named := fun h => nomatch h

def manners : Parameter where
  name := "manners"
  role := .flags
  type := none
  nullable := false
  default := some (.tuple [])
  descr := none
  name_identifier := by decide
  type_isSome := rfl
  default_of_positional := fun h => nomatch h
  default_of_named := fun _ => rfl

def say : Command where
  name := "say"
  handler := {
    label := some "say", name := .text "say", qualifiedName := some "say", shows := "say"
    arity := { required := 3, optional := 0, rest := false }
    behaviour := fun _ => .finish .none }
  signature := {
    parameters := [spoken "first" (by decide), spoken "second" (by decide), manners]
    legal := by decide }
  descr := none
  name_ne := by decide
  name_single := by decide
  accepts_values := by decide

/-- A flag before an empty text and a text with an equals sign and a blank at its end. -/
theorem execute_quotedLine_say :
    ∃ s t, start "" {} [.command say] [] = .ok s ∧
      Token.quotedLine "say" ["--loud", "", "a = b "] = "say \"--loud\" \"\" \"a = b \"" ∧
      (execute fullEngine (.text "say \"--loud\" \"\" \"a = b \"") s).2.journal =
        [.called "say" [.text "", .text "a = b ", .tuple [.text "--loud"]]] ∧
      call fullEngine say.handler [.text "", .text "a = b ", .tuple [.text "--loud"]] t =
        perform fullEngine (.finish .none)
          (t.calledWith say.handler [.text "", .text "a = b ", .tuple [.text "--loud"]]) := by
  let s : Session := { ofProcess "" {} with registry := ⟨[say]⟩ }
  let texts : List String := ["", "a = b "]
  let items : List String := ["--loud", "", "a = b "]
  let context : Context :=
    ⟨Token.quotedLine "say" items, "say" :: items, ["--loud"], some "say"⟩
  have started : start "" {} [.command say] [] = .ok s := rfl
  have written : Token.quotedLine "say" items = "say \"--loud\" \"\" \"a = b \"" := by decide
  have mixed : Interleaves texts ["--loud"] items :=
    .right "--loud" (.left "" (.left "a = b " .nil))
  have signature : say.signature.parameters =
      [spoken "first" (by decide), spoken "second" (by decide)] ++ [manners] := rfl
  have fired : fire fullEngine .invoking "say" (s.invokingWith say context) =
      (.ok (), s.invokingWith say context) := rfl
  have h := execute_quotedLine (s := s) rfl signature (by decide) rfl rfl mixed (by decide)
    (by decide) (by decide) fired
  have executed := congrArg (fun r => r.2.journal) h.1
  rw [← written]
  exact ⟨s, s.invokingWith say context, started, rfl, executed, h.2 rfl⟩

end LineShell.Session
