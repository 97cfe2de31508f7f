import ShaderTree.Proofs.Generation
import ShaderTree.Proofs.LiteralReading
import ShaderTree.Proofs.OperandReader

/-!
# Reading declarations

The head of a source declares what the tree mentions, and `readHeader` reads it
back: the class of a variable from the word before its type, the number of a
temporary from its name.  The variables come out in the shader's view and in the
order of their declarations, followed by the text of the tree.

From the variables that a source declares a reader of its tree gets its
vocabulary.  The names are distinct, so each of them stands for one variable.
-/

namespace ShaderTree

open Glsl

open Text (isWordChar)

/-- The word before the type in the declaration of a variable. -/
def Variable.storage : Variable → String
  | .attribute _ => "attribute "
  | .uniform _ => "uniform "
  | .varying _ => "varying "
  | .temp _ => ""
  | .output => ""

/-- The text that declares a variable. -/
def Variable.declarationText (v : Variable) (ending : String) : String :=
  Glsl.declarationText v.storage v.ty v.name ending

/-- A type and a name, from which `make` gives a variable. -/
def readDeclared (make : Ty → String → Option Variable) (ending : String) (cs : List Char) :
    Option (Variable × List Char) := do
  let ty ← Ty.ofWord? (String.ofList (cs.takeWhile isWordChar))
  let rest ← expect " " (cs.dropWhile isWordChar)
  let v ← make ty (String.ofList (rest.takeWhile isWordChar))
  let rest ← expect ending (rest.dropWhile isWordChar)
  return (v, rest)

/-- A declaration outside of `main` that begins with the word `storage`. -/
def readClass (storage : String) (make : Ty → String → Variable) (cs : List Char) :
    Option (Variable × List Char) :=
  (expect storage cs).bind (readDeclared (fun ty name => some (make ty name)) ";\n")

/-- A declaration outside of `main`. -/
def readGlobal (cs : List Char) : Option (Variable × List Char) :=
  (readClass "attribute " (fun ty name => .attribute ⟨name, ty, false⟩) cs).or
    ((readClass "uniform " (fun ty name => .uniform ⟨name, ty⟩) cs).or
      (readClass "varying " (fun ty name => .varying ⟨name, ty⟩) cs))

/-- A declaration at the head of `main`. -/
def readLocal : List Char → Option (Variable × List Char) :=
  readDeclared
    (fun ty name => (expect "temp" name.toList).map fun digits =>
      .temp ⟨.ofNat (Nat.ofDigitChars 10 digits 0), ty⟩) ";"

/-- Declarations as long as there are some. -/
def readMany (read : List Char → Option (Variable × List Char)) :
    Nat → List Char → List Variable × List Char
  | 0, cs => ([], cs)
  | n + 1, cs =>
    match read cs with
    | none => ([], cs)
    | some (v, rest) => (v :: (readMany read n rest).1, (readMany read n rest).2)

/-- All variables that a source declares, and what follows the declarations. -/
def readHeader (options : Options) (n : Nat) (cs : List Char) :
    Option (List Variable × List Char) := do
  let rest ← expect options.preamble cs
  let (globals, rest) := readMany readGlobal n rest
  let rest ← expect "void main() \x7b" rest
  let (locals, rest) := readMany readLocal n rest
  return (globals ++ locals, rest)

section Declarations

variable {n : Nat} {read : List Char → Option (Variable × List Char)} {rest : List Char}

/-- Declarations that are each read back are read back one after another. -/
theorem readMany_flatMap {ending : String} {stop : List Char} (hstop : read stop = none) :
    ∀ (vs : List Variable) {n : Nat}, vs.length ≤ n →
      (∀ v ∈ vs, ∀ rest, read ((v.declarationText ending).toList ++ rest) =
        some (v.shaderView, rest)) →
      readMany read n ((vs.flatMap fun v => (v.declarationText ending).toList) ++ stop) =
        (vs.map Variable.shaderView, stop)
  | [], 0, _, _ => rfl
  | [], n + 1, _, _ => by
      simp [readMany, hstop]
  | v :: vs, n + 1, hn, hread => by
      have ih := readMany_flatMap hstop vs (n := n) (by simpa using hn)
        fun w hw => hread w (List.mem_cons_of_mem _ hw)
      simp only [List.flatMap_cons, List.append_assoc, readMany, hread v List.mem_cons_self, ih,
        List.map_cons]

/-- A variable is read back from its type and its name. -/
theorem readDeclared_text (make : Ty → String → Option Variable) (ending : String) {v : Variable}
    (hword : v.ty.glslName?.isSome) (hname : isWord v.name)
    (hending : ending.toList.head?.any fun c => !isWordChar c)
    (hmake : make v.ty.shaderView v.name = some v.shaderView) (rest : List Char) :
    readDeclared make ending ((Glsl.declarationText "" v.ty v.name ending).toList ++ rest) =
      some (v.shaderView, rest) := by
  obtain ⟨word, hword⟩ := Option.isSome_iff_exists.mp hword
  have hwordall := isWordChar_of_isWord (Ty.isWord_of_glslName? hword)
  have hnameall := isWordChar_of_isWord hname
  have hspace : ∀ c ∈ (" ".toList ++ (v.name.toList ++ (ending.toList ++ rest))).head?,
      isWordChar c = false := by
    rintro c ⟨⟩
    decide
  have hend : ∀ c ∈ (ending.toList ++ rest).head?, isWordChar c = false := by
    obtain ⟨c, hhead, hc⟩ := (Option.any_eq_true _ _).mp hending
    obtain ⟨cs, hcs⟩ := List.head?_eq_some_iff.mp hhead
    rw [hcs]
    rintro d ⟨⟩
    simpa using hc
  have htext : (Glsl.declarationText "" v.ty v.name ending).toList ++ rest =
      word.toList ++ (" ".toList ++ (v.name.toList ++ (ending.toList ++ rest))) := by
    simp only [Glsl.declarationText, hword, Option.getD_some, String.empty_append,
      String.toList_append, List.append_assoc]
  rw [htext, readDeclared, takeWhile_run hwordall hspace, dropWhile_run hwordall hspace,
    String.ofList_toList, Ty.ofWord?_of_glslName? hword]
  simp only [Option.bind_eq_bind, Option.bind_some, expect_append, takeWhile_run hnameall hend,
    dropWhile_run hnameall hend, String.ofList_toList, hmake]
  rfl

theorem toList_declarationText (v : Variable) (ending : String) (rest : List Char) :
    (v.declarationText ending).toList ++ rest =
      v.storage.toList ++ ((Glsl.declarationText "" v.ty v.name ending).toList ++ rest) := by
  simp only [Variable.declarationText, Glsl.declarationText, String.empty_append,
    String.toList_append, List.append_assoc]

theorem readClass_text (make : Ty → String → Variable) {v : Variable}
    (hword : v.ty.glslName?.isSome) (hname : isWord v.name)
    (hmake : make v.ty.shaderView v.name = v.shaderView) (rest : List Char) :
    readClass v.storage make ((v.declarationText ";\n").toList ++ rest) =
      some (v.shaderView, rest) := by
  rw [toList_declarationText, readClass, expect_append, Option.bind_some]
  exact readDeclared_text _ ";\n" hword hname (by decide) (congrArg some hmake) rest

theorem readClass_eq_none {storage : String} (make : Ty → String → Variable) {v : Variable}
    (h : expect storage (v.storage.toList ++ ((Glsl.declarationText "" v.ty v.name ";\n").toList ++
      rest)) = none) :
    readClass storage make ((v.declarationText ";\n").toList ++ rest) = none := by
  rw [toList_declarationText, readClass, h, Option.bind_none]

theorem readGlobal_text : ∀ {v : Variable}, v.storage ≠ "" → v.ty.glslName?.isSome →
    isWord v.name → ∀ rest,
      readGlobal ((v.declarationText ";\n").toList ++ rest) = some (v.shaderView, rest)
  | .attribute a, _, hword, hname, rest => by
      have hread : readClass "attribute " _ _ = _ :=
        readClass_text (fun ty name => .attribute ⟨name, ty, false⟩) hword hname rfl rest
      rw [readGlobal, hread, Option.some_or]
  | .uniform u, _, hword, hname, rest => by
      have hread : readClass "uniform " _ _ = _ :=
        readClass_text (fun ty name => .uniform ⟨name, ty⟩) hword hname rfl rest
      rw [readGlobal, readClass_eq_none, hread, Option.none_or, Option.some_or]
      simp [expect, List.dropPrefix?, Variable.storage]
  | .varying w, _, hword, hname, rest => by
      have hread : readClass "varying " _ _ = _ :=
        readClass_text (fun ty name => .varying ⟨name, ty⟩) hword hname rfl rest
      rw [readGlobal, readClass_eq_none, readClass_eq_none, hread, Option.none_or, Option.none_or]
      · simp [expect, List.dropPrefix?, Variable.storage]
      · simp [expect, List.dropPrefix?, Variable.storage]
  | .temp t, hstorage, _, _, _ => absurd rfl hstorage
  | .output, hstorage, _, _, _ => absurd rfl hstorage

theorem readLocal_temp {t : Temp} (hword : t.ty.glslName?.isSome) (hname : isWord t.name)
    (rest : List Char) :
    readLocal (((Variable.temp t).declarationText ";").toList ++ rest) =
      some ((Variable.temp t).shaderView, rest) := by
  have hdigits : expect "temp" t.name.toList = some (Nat.toDigits 10 t.id.toNat) := by
    rw [Temp.name, String.toList_append, expect_append]
    simp
  rw [toList_declarationText]
  refine readDeclared_text _ ";" (v := .temp t) hword hname (by decide) ?_ rest
  simp [Variable.name, Variable.spelling, hdigits, Nat.ofDigitChars_ten_toDigits,
    Variable.shaderView, Variable.ty]

end Declarations

/-- The variables of a tree that are declared outside of `main`. -/
def Statement.globals (s : Statement) : List Variable :=
  s.attributes.map .attribute ++ s.uniforms.map .uniform ++ s.varyings.map .varying

/-- The text of a source, declaration by declaration. -/
theorem toList_sourceText (options : Options) (root : Statement) (body : String) :
    (sourceText options root.attributes root.uniforms root.varyings root.temps body).toList =
      options.preamble.toList ++
        ((root.globals.flatMap fun v => (v.declarationText ";\n").toList) ++
          ("void main() \x7b".toList ++
            (((root.temps.map Variable.temp).flatMap fun v => (v.declarationText ";").toList) ++
              (body.toList ++ "\x7d\n".toList)))) := by
  simp only [sourceText, String.toList_append, String.toList_join, List.flatMap_map,
    Statement.globals, List.flatMap_append, List.append_assoc]
  rfl

theorem storage_ne_of_mem_globals {root : Statement} {v : Variable} (hv : v ∈ root.globals) :
    v.storage ≠ "" := by
  simp only [Statement.globals, List.mem_append, List.mem_map] at hv
  rcases hv with (⟨a, -, rfl⟩ | ⟨u, -, rfl⟩) | ⟨w, -, rfl⟩
  all_goals simp [Variable.storage]

/-- What opens `main` does not look like a declaration. -/
theorem readGlobal_main (rest : List Char) :
    readGlobal ("void main() \x7b".toList ++ rest) = none := by
  simp [readGlobal, readClass, expect, List.dropPrefix?]

/-- The declarations of a source are read back, if what follows them does not look
like one more. -/
theorem readHeader_sourceText (options : Options) {root : Statement} {body : String}
    (hword : ∀ v ∈ root.declared, v.ty.glslName?.isSome)
    (hname : ∀ v ∈ root.declared, isWord v.name)
    (hbody : readLocal (body.toList ++ "\x7d\n".toList) = none) {n : Nat}
    (hn : root.declared.length ≤ n) :
    readHeader options n
      (sourceText options root.attributes root.uniforms root.varyings root.temps body).toList =
        some (root.declared.map Variable.shaderView, body.toList ++ "\x7d\n".toList) := by
  have hdeclared : root.declared = root.globals ++ root.temps.map .temp := rfl
  rw [hdeclared] at hword hname hn ⊢
  rw [List.length_append] at hn
  have hglobals : ∀ v ∈ root.globals, ∀ rest,
      readGlobal ((v.declarationText ";\n").toList ++ rest) = some (v.shaderView, rest) := by
    intro v hv
    have hmem := List.mem_append_left (root.temps.map Variable.temp) hv
    exact readGlobal_text (storage_ne_of_mem_globals hv) (hword v hmem) (hname v hmem)
  have htemps : ∀ v ∈ root.temps.map Variable.temp, ∀ rest,
      readLocal ((v.declarationText ";").toList ++ rest) = some (v.shaderView, rest) := by
    intro v hv
    have hmem := List.mem_append_right root.globals hv
    obtain ⟨t, -, rfl⟩ := List.mem_map.mp hv
    exact readLocal_temp (hword _ hmem) (hname _ hmem)
  have hreadTemps := readMany_flatMap hbody _ (n := n) (by omega) htemps
  have hreadGlobals := fun rest =>
    readMany_flatMap (readGlobal_main rest) _ (n := n) (by omega) hglobals
  rw [toList_sourceText, readHeader, expect_append]
  simp only [Option.bind_eq_bind, Option.bind_some, hreadGlobals, expect_append, hreadTemps]
  rw [List.map_append]
  rfl

open Classical in
/-- The vocabulary of a reader for whom the variables `vs` are declared. -/
noncomputable def Vocabulary.ofDeclared (output : String) (vs : List Variable) : Vocabulary where
  named? word := (.output :: vs).find? (·.spelling output == word)
  float? text := if h : ∃ x : Binary32, x.literal? = some text then some h.choose else none
  float?_of_literal? x text hx := by
    have h : ∃ y : Binary32, y.literal? = some text := ⟨x, hx⟩
    rw [dif_pos h, Binary32.eq_of_literal? h.choose_spec hx]

theorem find?_spelling {output : String} {v : Variable} {vs : List Variable} (hv : v ∈ vs)
    (hdistinct : (vs.map (Variable.spelling output)).Nodup) :
    vs.find? (·.spelling output == v.spelling output) = some v := by
  induction vs with
  | nil => cases hv
  | cons w vs ih =>
      rw [List.map_cons, List.nodup_cons] at hdistinct
      rcases List.mem_cons.mp hv with rfl | hv
      · simp
      · have hne : w.spelling output ≠ v.spelling output := fun h =>
          hdistinct.1 (h ▸ List.mem_map_of_mem hv)
        rw [List.find?_cons_of_neg (by simpa using hne)]
        exact ih hv hdistinct.2

section Known

variable {root : Statement} {stage : Stage} {v : Variable}

/-- No declared variable is called like the output of a stage. -/
theorem outputName_notMem (stage : Stage) (hname : ∀ v ∈ root.mentions, isIdentifier v.name) :
    stage.outputName ∉ root.declared.map Variable.name := by
  intro hmem
  obtain ⟨w, hw, hwname⟩ := List.mem_map.mp hmem
  have hid := hname w (Statement.mem_declared.mp hw).1
  rw [hwname] at hid
  revert hid
  cases stage <;> decide

/-- What is written for a variable is a word and not a truth value. -/
theorem isWord_spelling (stage : Stage) (hv : isIdentifier v.name) :
    isWord (v.spelling stage.outputName) ∧ v.spelling stage.outputName ≠ "true" ∧
      v.spelling stage.outputName ≠ "false" := by
  by_cases houtput : v = .output
  · rw [houtput]
    cases stage <;> decide
  · rw [Variable.spelling_eq_name houtput]
    obtain ⟨hword, htrue, hfalse, -⟩ := isIdentifier_iff.mp hv
    exact ⟨hword, htrue, hfalse⟩

/-- The words of the output and of the declared variables. -/
theorem map_spelling_declared (root : Statement) (output : String) :
    (Variable.output :: root.declared.map Variable.shaderView).map (Variable.spelling output) =
      output :: root.declared.map Variable.name := by
  rw [List.map_cons, List.map_map]
  refine congrArg _ (List.map_congr_left fun w hw => ?_)
  rw [Function.comp_apply, Variable.spelling_shaderView,
    Variable.spelling_eq_name (Statement.mem_declared.mp hw).2]

/-- Under names that are identifiers and distinct, everything that a tree mentions
is known from its declarations. -/
theorem knows_of_mem_mentions (stage : Stage)
    (hname : ∀ v ∈ root.mentions, isIdentifier v.name)
    (hdistinct : (root.declared.map Variable.name).Nodup) (hv : v ∈ root.mentions) :
    (Vocabulary.ofDeclared stage.outputName (root.declared.map Variable.shaderView)).Knows
      stage.outputName v := by
  obtain ⟨hword, htrue, hfalse⟩ := isWord_spelling stage (hname v hv)
  have hmem : v.shaderView ∈ Variable.output :: root.declared.map Variable.shaderView := by
    by_cases houtput : v = .output
    · rw [houtput]
      exact List.mem_cons_self
    · exact List.mem_cons_of_mem _
        (List.mem_map_of_mem (Statement.mem_declared.mpr ⟨hv, houtput⟩))
  have hwords : ((Variable.output :: root.declared.map Variable.shaderView).map
      (Variable.spelling stage.outputName)).Nodup := by
    rw [map_spelling_declared]
    exact List.nodup_cons.mpr ⟨outputName_notMem stage hname, hdistinct⟩
  have hfind := find?_spelling hmem hwords
  rw [Variable.spelling_shaderView] at hfind
  refine ⟨hword, ?_⟩
  rw [Vocabulary.word?, if_neg htrue, if_neg hfalse]
  exact congrArg (Option.map Operand.var) hfind

end Known

end ShaderTree
