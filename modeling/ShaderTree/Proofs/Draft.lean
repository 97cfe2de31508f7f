import Mathlib.Data.List.TakeWhile
import ShaderTree.Glsl.Draft
import ShaderTree.Proofs.References

/-!
# What a draft holds

`Visit.offence?` says of one node what is wrong with it by itself, and
`Operand.text` and `Statement.text` write a tree without looking for faults.  The
draft of a tree is described by these two and the list of visits: its fault is
the first offence, its mentions are those made before it, and where nothing
offends its text is the text of the tree.

`Draft.Renders` is this description.  It is kept by putting drafts one after
another, so it holds of every tree by going through the ways to write a node.
-/

namespace ShaderTree

open Glsl

/-- The fault with which a check ends. -/
def Glsl.fault? {α : Type} : Except Fault α → Option Fault
  | .ok _ => none
  | .error fault => some fault

/-- What is wrong with a node by itself in a stage. -/
def Visit.offence? (stage : Stage) : Visit → Option Fault
  | .attribute a => if stage = .fragment then some (.attributeInFragment a.name) else none
  | .float x => if x.isNaN ∨ x.isInfinite then some (.nonFinite x) else none
  | .vector ty parts =>
    match ty.glslName? with
    | none => some (.undeclarable ty "vector constructor")
    | some _ => fault? (checkParts ty (parts.map Operand.valueTy))
  | .swizzle source mask => fault? (checkMask source.valueTy mask)
  | _ => none

/-- The text of a number, in parentheses if it begins with a sign. -/
def literalText (text : String) : String :=
  if text.toList.head? = some '-' then "(" ++ text ++ ")" else text

namespace Operand

mutual

/-- An operand as text, where the stage's output is called `output`. -/
def text (output : String) : Operand → String
  | .var v => v.spelling output
  | .int n => literalText (toString n.toInt)
  | .float x => literalText (x.literal?.getD "")
  | .bool b => toString b
  | .binop op left right => "(" ++ left.text output ++ op.symbol ++ right.text output ++ ")"
  | .vector ty parts => ty.glslName?.getD "" ++ "(" ++ textAll output "," parts ++ ")"
  | .swizzle source mask => source.text output ++ ("." ++ mask)
  | .call f args => f.name ++ "(" ++ textAll output ", " args ++ ")"

/-- Several operands as text, with a separator between them. -/
def textAll (output separator : String) : List Operand → String
  | [] => ""
  | [o] => o.text output
  | o :: p :: rest => o.text output ++ separator ++ textAll output separator (p :: rest)

end

end Operand

namespace Statement

mutual

/-- A statement as text, where the stage's output is called `output`. -/
def text (output : String) : Statement → String
  | .block body => "\x7b" ++ textAll output body ++ "\x7d"
  | .assign target source => target.text output ++ " = " ++ source.text output ++ ";"
  | .ifThen condition body => "if (" ++ condition.text output ++ ") " ++ body.text output
  | .ifThenElse condition body otherwise =>
    "if (" ++ condition.text output ++ ") " ++ body.text output ++ " else " ++
      otherwise.text output

/-- Several statements as text, one directly after another. -/
def textAll (output : String) : List Statement → String
  | [] => ""
  | s :: rest => s.text output ++ textAll output rest

end

end Statement

namespace Glsl

namespace Draft

variable {stage : Stage} {d e : Draft} {v : Visit} {vs ws : List Visit} {t u : String}

/-- A draft in a stage of something with the visits `vs` and the text `t`. -/
structure Renders (stage : Stage) (d : Draft) (vs : List Visit) (t : String) : Prop where
  fault : d.fault = vs.findSome? (Visit.offence? stage)
  mentions : d.mentions =
    (vs.takeWhile fun v => (v.offence? stage).isNone).filterMap Visit.mention?
  text : d.fault = none → d.text = t

theorem Renders.all_isNone (h : Renders stage d vs t) (hd : d.fault = none) :
    ∀ v ∈ vs, (v.offence? stage).isNone := by
  intro v hv
  rw [h.fault, List.findSome?_eq_none_iff] at hd
  simp [hd v hv]

theorem Renders.append (hd : Renders stage d vs t) (he : Renders stage e ws u) :
    Renders stage (d ++ e) (vs ++ ws) (t ++ u) := by
  cases hfault : d.fault with
  | some f =>
      rw [append_of_fault hfault]
      have hvs : vs.findSome? (Visit.offence? stage) = some f := hd.fault ▸ hfault
      -- an offence among `vs` hides all of `ws`
      have hshort : (vs.takeWhile fun v => (v.offence? stage).isNone).length ≠ vs.length := by
        intro hlength
        obtain ⟨v, hv, hoffence⟩ := List.exists_of_findSome?_eq_some hvs
        rw [← (List.takeWhile_prefix _).eq_of_length hlength] at hv
        have hnone := List.mem_takeWhile_imp hv
        simp [hoffence] at hnone
      refine ⟨?_, ?_, fun h => absurd h (by simp [hfault])⟩
      · rw [List.findSome?_append, hvs, hfault, Option.some_or]
      · rw [List.takeWhile_append, if_neg hshort, hd.mentions]
  | none =>
      rw [append_of_no_fault hfault]
      have hvs : vs.findSome? (Visit.offence? stage) = none := hd.fault ▸ hfault
      refine ⟨?_, ?_, fun h => ?_⟩
      · rw [List.findSome?_append, hvs, Option.none_or]
        exact he.fault
      · have hall := hd.all_isNone hfault
        have hmentions := hd.mentions
        rw [List.takeWhile_eq_self_iff.mpr hall] at hmentions
        rw [List.takeWhile_append_of_pos hall, List.filterMap_append, ← hmentions, ← he.mentions]
      · show d.text ++ e.text = t ++ u
        rw [hd.text hfault, he.text h]

/-- A visit with which nothing is wrong and at which no variable is met. -/
theorem Renders.silent (hoffence : v.offence? stage = none) (hmention : v.mention? = none)
    (h : Renders stage d vs t) : Renders stage d (v :: vs) t := by
  refine ⟨?_, ?_, h.text⟩
  · rw [List.findSome?_cons, hoffence]
    exact h.fault
  · simp [hoffence, hmention, h.mentions]

theorem renders_empty : Renders stage {} [] "" := ⟨rfl, rfl, fun _ => rfl⟩

theorem renders_write (stage : Stage) (t : String) : Renders stage (write t) [] t :=
  ⟨rfl, rfl, fun _ => rfl⟩

/-- Text in front belongs to no visit. -/
theorem Renders.write_append (t : String) (h : Renders stage d vs u) :
    Renders stage (write t ++ d) vs (t ++ u) := (renders_write stage t).append h

/-- Text at the end belongs to no visit. -/
theorem Renders.append_write (h : Renders stage d vs t) (u : String) :
    Renders stage (d ++ write u) vs (t ++ u) := by
  have happend := h.append (renders_write stage u)
  rwa [List.append_nil] at happend

theorem literal_eq_write (text : String) : literal text = write (literalText text) := by
  unfold literal literalText
  split <;> rfl

theorem renders_ofVariable : ∀ (stage : Stage) (v : Variable),
    Renders stage (ofVariable stage v) [.ofVariable v] (v.spelling stage.outputName)
  | .fragment, .attribute _ => ⟨rfl, rfl, fun h => nomatch h⟩
  | .fragment, .varying _ => ⟨rfl, rfl, fun _ => rfl⟩
  | .fragment, .uniform _ => ⟨rfl, rfl, fun _ => rfl⟩
  | .fragment, .temp _ => ⟨rfl, rfl, fun _ => rfl⟩
  | .fragment, .output => ⟨rfl, rfl, fun _ => rfl⟩
  | .vertex, v => by cases v <;> exact ⟨rfl, rfl, fun _ => rfl⟩

theorem renders_ofFloat (x : Binary32) :
    Renders stage (ofFloat x) [.float x] (literalText (x.literal?.getD "")) := by
  have hfinite := x.isFinite_iff
  by_cases hx : x.isFinite
  · have hnone : Visit.offence? stage (.float x) = none := by
      simp only [Visit.offence?]
      rw [if_neg]
      simpa using hfinite.mp hx
    have hdraft : ofFloat x = write (literalText (x.literal?.getD "")) := by
      simp [ofFloat, Binary32.literal?, hx, literal_eq_write]
    rw [hdraft]
    exact (renders_write stage _).silent hnone rfl
  · have hsome : Visit.offence? stage (.float x) = some (.nonFinite x) := by
      simp only [Visit.offence?]
      rw [if_pos]
      by_contra hneither
      exact hx (hfinite.mpr (by simpa using hneither))
    have hdraft : ofFloat x = refuse (.nonFinite x) := by
      simp [ofFloat, Binary32.literal?, hx]
    rw [hdraft]
    refine ⟨?_, ?_, fun h => by cases h⟩
    · simp [hsome, refuse]
    · simp [hsome, refuse]

/-- A check before a node is the offence of the node. -/
theorem renders_require (hmention : v.mention? = none) {check : Except Fault Unit}
    (hcheck : v.offence? stage = fault? check) : Renders stage (require check) [v] "" := by
  cases check with
  | ok _ => exact renders_empty.silent hcheck hmention
  | error f =>
      have hsome : v.offence? stage = some f := hcheck
      refine ⟨?_, ?_, fun h => by cases h⟩
      · simp [hsome, require, refuse]
      · simp [hsome, require, refuse]

theorem renders_constructor (stage : Stage) (ty : Ty) (parts : List Operand) :
    Renders stage
      (ofExcept (typeName ty "vector constructor") ++
        require (checkParts ty (Operand.valueTys parts)))
      [.vector ty parts] (ty.glslName?.getD "") := by
  cases hname : ty.glslName? with
  | none =>
      have hsome : Visit.offence? stage (.vector ty parts) =
          some (.undeclarable ty "vector constructor") := by
        simp only [Visit.offence?, hname]
      have hdraft : ofExcept (typeName ty "vector constructor") =
          refuse (.undeclarable ty "vector constructor") := by
        simp only [typeName, hname, ofExcept]
      rw [hdraft, append_of_fault rfl]
      refine ⟨?_, ?_, fun h => by cases h⟩
      · simp [hsome, refuse]
      · simp [hsome, refuse]
  | some word =>
      have hcheck : Visit.offence? stage (.vector ty parts) =
          fault? (checkParts ty (Operand.valueTys parts)) := by
        simp only [Visit.offence?, hname, Operand.valueTys_eq_map]
      have hdraft : ofExcept (typeName ty "vector constructor") = write word := by
        simp only [typeName, hname, ofExcept]
      rw [hdraft]
      have hrequire := (renders_require rfl hcheck).write_append word
      simpa using hrequire

end Draft

end Glsl

namespace Operand

mutual

theorem draft_renders (stage : Stage) : ∀ o : Operand,
    (o.draft stage).Renders stage o.visits (o.text stage.outputName)
  | .var v => by
      simp only [draft, visits, text]
      exact ((Draft.renders_ofVariable stage v).silent rfl rfl).silent rfl rfl
  | .int n => by
      simp only [draft, visits, text, Draft.literal_eq_write]
      exact ((Draft.renders_write stage _).silent rfl rfl).silent rfl rfl
  | .float x => by
      simp only [draft, visits, text]
      exact (Draft.renders_ofFloat x).silent rfl rfl
  | .bool b => by
      simp only [draft, visits, text]
      exact ((Draft.renders_write stage _).silent rfl rfl).silent rfl rfl
  | .binop op left right => by
      have hleft := draft_renders stage left
      have hright := draft_renders stage right
      simp only [draft, visits, text]
      exact (((((hleft.write_append "(").append_write op.symbol).append hright).append_write
        ")").silent rfl rfl).silent rfl rfl
  | .vector ty parts => by
      have hparts := draftAll_renders stage "," parts
      have hhead := (Draft.renders_constructor stage ty parts).append_write "("
      simp only [draft, visits, text]
      exact ((hhead.append hparts).append_write ")").silent rfl rfl
  | .swizzle source mask => by
      have hsource := draft_renders stage source
      have hmask : (Draft.require (checkMask source.valueTy mask)).Renders stage
          [.swizzle source mask] "" := Draft.renders_require rfl rfl
      simp only [draft, visits, text]
      have hdraft := ((hmask.append hsource).append_write ("." ++ mask)).silent
        (v := .operand (.swizzle source mask)) rfl rfl
      simpa using hdraft
  | .call f args => by
      have hargs := draftAll_renders stage ", " args
      simp only [draft, visits, text]
      exact (((hargs.write_append (f.name ++ "(")).append_write ")").silent rfl rfl).silent rfl rfl

theorem draftAll_renders (stage : Stage) (separator : String) : ∀ os : List Operand,
    (draftAll stage separator os).Renders stage (visitsAll os)
      (textAll stage.outputName separator os)
  | [] => Draft.renders_empty
  | [o] => by
      have ho := draft_renders stage o
      simpa [draftAll, visitsAll, textAll] using ho
  | o :: p :: rest => by
      have ho := draft_renders stage o
      have hrest := draftAll_renders stage separator (p :: rest)
      simp only [draftAll, visitsAll, textAll]
      exact (ho.append_write separator).append hrest

end

end Operand

namespace Statement

mutual

theorem draft_renders (stage : Stage) : ∀ s : Statement,
    (s.draft stage).Renders stage s.visits (s.text stage.outputName)
  | .block body => by
      have hbody := draftAll_renders stage body
      simp only [draft, visits, text]
      exact (((hbody.write_append "\x7b").append_write "\x7d").silent rfl rfl).silent rfl rfl
  | .assign target source => by
      have htarget := target.draft_renders stage
      have hsource := source.draft_renders stage
      simp only [draft, visits, text]
      exact ((((htarget.append_write " = ").append hsource).append_write ";").silent
        rfl rfl).silent rfl rfl
  | .ifThen condition body => by
      have hcondition := condition.draft_renders stage
      have hbody := draft_renders stage body
      simp only [draft, visits, text]
      exact ((((hcondition.write_append "if (").append_write ") ").append hbody).silent
        rfl rfl).silent rfl rfl
  | .ifThenElse condition body otherwise => by
      have hcondition := condition.draft_renders stage
      have hbody := draft_renders stage body
      have hotherwise := draft_renders stage otherwise
      simp only [draft, visits, text]
      exact ((((((hcondition.write_append "if (").append_write ") ").append hbody).append_write
        " else ").append hotherwise).silent rfl rfl).silent rfl rfl

theorem draftAll_renders (stage : Stage) : ∀ body : List Statement,
    (draftAll stage body).Renders stage (visitsAll body) (textAll stage.outputName body)
  | [] => Draft.renders_empty
  | s :: rest => by
      have hs := draft_renders stage s
      have hrest := draftAll_renders stage rest
      simp only [draftAll, visitsAll, textAll]
      exact hs.append hrest

end

end Statement

end ShaderTree
